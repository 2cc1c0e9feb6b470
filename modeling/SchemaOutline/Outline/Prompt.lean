import SchemaOutline.Outline.Lookup

/-! Prompts: a block of lines for a node, and then for each child with its number. -/

set_option autoImplicit false

namespace SchemaOutline

variable {C : Type} [NodeContext C]

def Node.promptValues (node : Node C) : List (String × Option String) :=
  [("Entity", NodeContext.entity? node.context),
    ("Field", NodeContext.entityField? node.context),
    ("Parent", NodeContext.parentEntity? node.context),
    ("Path", some node.path.text),
    ("Title", NodeContext.title? node.context),
    ("Description", NodeContext.description? node.context),
    ("Type", NodeContext.semanticType? node.context),
    ("Role", NodeContext.role? node.context),
    ("Source", NodeContext.source? node.context),
    ("Comment", NodeContext.comment? node.context)]

def Node.promptLines (node : Node C) : List String :=
  node.promptValues.filterMap fun line => line.2.map fun value => line.1 ++ ": " ++ value

def Node.promptBlock (node : Node C) : String := "\n".intercalate node.promptLines

namespace Outline

def contextHeading : String := "=== SCHEMA CONTEXT ==="

def childrenHeading : String := "=== CHILD SCHEMAS ==="

def numberedBlocks (start : Nat) (children : List (Node C)) : String :=
  String.join ((children.zipIdx start).map fun (child, number) =>
    "\n\n[" ++ toString number ++ "] " ++ child.promptBlock)

def promptFor (outline : Outline C) (node : Node C) : String :=
  let own := contextHeading ++ "\n" ++ node.promptBlock
  if node.isLeaf then own
  else own ++ "\n\n" ++ childrenHeading ++ numberedBlocks 1 (outline.childrenOf node)

/-- The prompt for the node at a formatted path; for the root without a path or if no node has
it. -/
def prompt (outline : Outline C) (path : Option String) : String :=
  outline.promptFor ((path.bind outline.nodeAtPath?).getD outline.root)

end Outline

end SchemaOutline
