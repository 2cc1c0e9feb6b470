/-! The views that queries and prompts have of a context of any type. -/

set_option autoImplicit false

namespace SchemaOutline

/-- The views of a context that queries and prompts use. -/
class NodeContext (C : Type) where
  entity? : C → Option String := fun _ => none
  entityField? : C → Option String := fun _ => none
  parentEntity? : C → Option String := fun _ => none
  identifier? : C → Option String := fun _ => none
  title? : C → Option String := fun _ => none
  description? : C → Option String := fun _ => none
  semanticType? : C → Option String := fun _ => none
  role? : C → Option String := fun _ => none
  source? : C → Option String := fun _ => none
  comment? : C → Option String := fun _ => none

instance : NodeContext Unit where

end SchemaOutline
