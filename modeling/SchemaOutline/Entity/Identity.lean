/-! Identities of entities, and the markers of their fields. -/

set_option autoImplicit false

namespace SchemaOutline

@[ext]
structure EntityId where
  text : String
deriving DecidableEq, Repr, Inhabited

/-- What marks a field as belonging to an entity. -/
@[ext]
structure FieldMarker where
  text : String
deriving DecidableEq, Repr, Inhabited

def FieldMarker.lead : String := "field##"

def EntityId.marker (entity : EntityId) : FieldMarker := ⟨FieldMarker.lead ++ entity.text⟩

/-- The entity that a marker names, if it starts like a marker. -/
def FieldMarker.entity? (marker : FieldMarker) : Option EntityId :=
  (lead.toList.isPrefixOf? marker.text.toList).map fun chars => ⟨String.ofList chars⟩

private theorem isPrefixOf?_append (lead rest : List Char) :
    lead.isPrefixOf? (lead ++ rest) = some rest := by
  induction lead with
  | nil => rfl
  | cons c lead ih =>
    show (if c == c then lead.isPrefixOf? (lead ++ rest) else none) = some rest
    rw [if_pos (beq_self_eq_true c), ih]

@[simp] theorem EntityId.entity?_marker (entity : EntityId) :
    entity.marker.entity? = some entity := by
  simp [FieldMarker.entity?, EntityId.marker, isPrefixOf?_append]

end SchemaOutline
