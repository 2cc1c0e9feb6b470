/-! Keys of annotations: nine well-known ones, and custom keys for every other name. -/

set_option autoImplicit false

namespace SchemaOutline.Annotations

inductive Key where
  | title
  | description
  | identifier
  | semanticType
  | role
  | source
  | comment
  | entityType
  | entityField
  | custom (name : String)
deriving DecidableEq, Repr, Inhabited

namespace Key

def name : Key → String
  | title => "title"
  | description => "description"
  | identifier => "identifier"
  | semanticType => "semanticType"
  | role => "role"
  | source => "source"
  | comment => "comment"
  | entityType => "entityType"
  | entityField => "entityField"
  | custom name => name

def wellKnown : List Key :=
  [title, description, identifier, semanticType, role, source, comment, entityType, entityField]

/-- The key with a given name: a well-known one if there is one, a custom one otherwise. -/
def ofName (name : String) : Key :=
  (wellKnown.find? fun key => key.name == name).getD (custom name)

@[simp] theorem name_ofName (text : String) : (ofName text).name = text := by
  unfold ofName
  cases found : wellKnown.find? fun key => key.name == text with
  | none => rfl
  | some key => simpa using List.find?_some found

theorem ofName_injective {text other : String} (same : ofName text = ofName other) :
    text = other := by
  rw [← name_ofName text, same, name_ofName]

end Key

end SchemaOutline.Annotations
