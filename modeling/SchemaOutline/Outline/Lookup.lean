import SchemaOutline.Context.Basic
import SchemaOutline.Outline.Walk

/-! Finding nodes by path, key or entity, in a walk or through an index. -/

set_option autoImplicit false

namespace SchemaOutline

variable {C : Type}

/-- The text that a node with the given formatted path is registered under. -/
def Node.keyWith [NodeContext C] (node : Node C) (path : String) : String :=
  (NodeContext.entity? node.context).getD path

def Node.key [NodeContext C] (node : Node C) : String := node.keyWith node.path.text

def OutlineIndex.firsts (entries : List (String × NodeId)) : Std.HashMap String NodeId :=
  entries.foldl (fun map entry => map.insertIfNew entry.1 entry.2) ∅

def OutlineIndex.ofNodes [NodeContext C] (nodes : List (Node C)) : OutlineIndex :=
  let located := nodes.map fun node => (node, node.path.text)
  { keys := firsts (located.map fun (node, path) => (node.keyWith path, node.id))
    paths := firsts (located.map fun (node, path) => (path, node.id)) }

namespace Outline

def indexed [NodeContext C] (outline : Outline C) : Outline C :=
  { outline with index := some (.ofNodes outline.nodes.toList) }

def nodeAtPath? (outline : Outline C) (text : String) : Option (Node C) :=
  match outline.index with
  | some index => index.paths[text]?.bind outline.node?
  | none => outline.walk.find? fun node => node.path.text == text

/-- The first node whose formatted path is that of a given path. -/
def nodeAt? (outline : Outline C) (path : Path) : Option (Node C) :=
  outline.nodeAtPath? path.text

def nodeByKey? [NodeContext C] (outline : Outline C) (key : String) : Option (Node C) :=
  match outline.index with
  | some index => index.keys[key]?.bind outline.node?
  | none => outline.walk.find? fun node => node.key == key

end Outline

end SchemaOutline
