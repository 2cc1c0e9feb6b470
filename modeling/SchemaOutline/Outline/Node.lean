import SchemaOutline.Path.Basic
import SchemaOutline.Schema.Basic

/-! Nodes of outlines, which refer to their parent and children by number. -/

set_option autoImplicit false

namespace SchemaOutline

/-- The number of a node. It stands for a word of 32 bits, so it is faithful for outlines of up to
2 ^ 32 nodes. -/
abbrev NodeId : Type := Nat

def NodeId.text (id : NodeId) : String := "#" ++ toString id

/-- A place in an outline. -/
structure Node (C : Type) where
  id : NodeId
  parent : Option NodeId
  path : Path
  schema : Schema
  /-- The annotations of the schema, overridden by those of the link that leads here. -/
  annotations : Annotations
  context : C
  children : List NodeId

variable {C : Type}

def Node.kind (node : Node C) : Kind := node.schema.kind

def Node.isLeaf (node : Node C) : Bool := node.children.isEmpty

/-- How the context of a node is computed from its schema, its annotations, its path and its
parent. The parent has its own context by then, but no children. -/
abbrev ContextRule (C : Type) : Type :=
  Schema → Annotations → Path → Option (Node C) → C

end SchemaOutline
