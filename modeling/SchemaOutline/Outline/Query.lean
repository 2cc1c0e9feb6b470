import SchemaOutline.Outline.Lookup

/-! Questions about outlines, answered by nodes in pre-order. -/

set_option autoImplicit false

namespace SchemaOutline

variable {C : Type}

/-- The semantic type of a node: the one its annotations say, else the one its context says, else
that of its kind. -/
def Node.semanticType [NodeContext C] (node : Node C) : String :=
  match node.annotations.semanticType? with
  | some label => label
  | none => (NodeContext.semanticType? node.context).getD node.kind.label

namespace Outline

def leaves (outline : Outline C) : List (Node C) := outline.walk.filter Node.isLeaf

def contextAt? (outline : Outline C) (texts : List String) : Option C :=
  (outline.nodeAtPath? (Path.format texts)).map Node.context

def ofSemanticType [NodeContext C] (outline : Outline C) (label : String) : List (Node C) :=
  outline.walk.filter fun node => node.semanticType == label

def entities [NodeContext C] (outline : Outline C) : List (Node C) :=
  outline.walk.filter fun node => (NodeContext.entity? node.context).isSome

def entityFields [NodeContext C] (outline : Outline C) : List (Node C) :=
  outline.walk.filter fun node => (NodeContext.entityField? node.context).isSome

/-- The node registered under the name of an entity, if it is that entity. -/
def entity? [NodeContext C] (outline : Outline C) (entity : String) : Option (Node C) :=
  (outline.nodeByKey? entity).filter fun node =>
    NodeContext.entity? node.context == some entity

end Outline

end SchemaOutline
