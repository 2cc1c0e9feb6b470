import SchemaOutline.Proofs.Entity.Recursion
import SchemaOutline.Schema.Link

/-! Links and annotations of stamped schemas. -/

set_option autoImplicit false
set_option relaxedAutoImplicit false

namespace SchemaOutline

open Traversal

namespace Annotations

theorem text?_merged_of_some {annotations overrides : Annotations} {key : Key} {text : String}
    (present : overrides.get? key = some (.str text)) :
    (annotations.merged overrides).text? key = some text := by
  rw [text?, get?_merged, present, Option.some_or]
  rfl

theorem get?_stamped (annotations : Annotations) (entity : EntityId) :
    (annotations.stamped entity).get? .entityType = some (.str entity.text) ∧
      (annotations.stamped entity).get? .entityField = annotations.get? .entityField := by
  simp [stamped, get?_insert]

theorem get?_marked (annotations : Annotations) (marker : FieldMarker) :
    (annotations.marked marker).get? .entityField = some (.str marker.text) ∧
      (annotations.marked marker).get? .entityType = annotations.get? .entityType := by
  simp [marked, get?_insert]

end Annotations

namespace Schema

def fields (schema : Schema) : List (Field Schema) := schema.fields?.getD []

theorem fieldTypes_eq (schema : Schema) : schema.fieldTypes = schema.fields.map Field.type := by
  unfold fieldTypes fields fields?
  cases schema.shape <;> rfl

theorem fields_of_shape {schema : Schema} {fields : List (Field Schema)}
    {signatures : List (IndexSignature Schema)}
    (isShape : schema.shape = .struct fields signatures) : schema.fields = fields := by
  rw [Schema.fields, fields?, isShape]
  rfl

theorem fields_of_not_isStruct {schema : Schema} (other : schema.isStruct = false) :
    schema.fields = [] := by
  unfold isStruct at other
  rw [fields, Option.isNone_iff_eq_none.mp (Option.isSome_eq_false_iff.mp other)]
  rfl

theorem stamp_cases (schema : Schema) (entity : EntityId) :
    (schema.isStruct = false ∧ schema.stamp entity = schema) ∨
      (schema.isStruct = true ∧ ∃ fields signatures, schema.shape = .struct fields signatures ∧
        schema.stamp entity = mk (schema.annotations.stamped entity)
          (.struct (fields.map fun field => field.stamped entity (field.type.stamp entity))
            signatures)) := by
  cases isStruct : schema.isStruct with
  | false => exact .inl ⟨rfl, stamp_of_not_isStruct entity isStruct⟩
  | true =>
    obtain ⟨fields, signatures, isShape⟩ := exists_shape_of_isStruct isStruct
    exact .inr ⟨rfl, fields, signatures, isShape, stamp_of_shape entity isShape⟩

theorem isStruct_stamp (schema : Schema) (entity : EntityId) :
    (schema.stamp entity).isStruct = schema.isStruct := by
  rcases schema.stamp_cases entity with ⟨_, same⟩ | ⟨isStruct, _, _, _, stamped⟩
  · rw [same]
  · rw [stamped, isStruct]
    rfl

def otherLinks (schema : Schema) : List Link := schema.links.drop schema.fields.length

theorem links_eq (schema : Schema) :
    schema.links = schema.fields.map Link.ofField ++ schema.otherLinks := by
  unfold otherLinks links fields fields?
  cases schema.shape with
  | struct fields signatures => simp
  | _ => rfl

theorem fields_stamp (schema : Schema) (entity : EntityId) :
    (schema.stamp entity).fields =
      schema.fields.map fun field => field.stamped entity (field.type.stamp entity) := by
  rcases schema.stamp_cases entity with ⟨other, same⟩ | ⟨_, fields, signatures, isShape, stamped⟩
  · rw [same, fields_of_not_isStruct other, List.map_nil]
  · rw [stamped, fields_of_shape isShape]
    rfl

theorem otherLinks_stamp (schema : Schema) (entity : EntityId) :
    (schema.stamp entity).otherLinks = schema.otherLinks := by
  rcases schema.stamp_cases entity with ⟨_, same⟩ | ⟨_, fields, signatures, isShape, stamped⟩
  · rw [same]
  · rw [stamped, otherLinks, otherLinks, fields_of_shape isShape, fields_of_shape (shape_mk _ _)]
    simp [links, isShape]

/-! ### Schemas without a key -/

/-- A key is nowhere in the annotations of a schema, of its links, and of whatever these lead to. -/
inductive Free (key : Annotations.Key) : Schema → Prop
  | intro {schema : Schema} (own : schema.annotations.get? key = none)
      (links : ∀ link ∈ schema.links, link.annotations.get? key = none)
      (targets : ∀ link ∈ schema.links, Free key link.target) : Free key schema

namespace Free

variable {key : Annotations.Key} {schema : Schema}

theorem own (free : schema.Free key) : schema.annotations.get? key = none := by
  cases free with
  | intro own _ _ => exact own

theorem link {link : Link} (free : schema.Free key) (leads : link ∈ schema.links) :
    link.annotations.get? key = none ∧ link.target.Free key := by
  cases free with
  | intro _ links targets => exact ⟨links link leads, targets link leads⟩

theorem field {field : Field Schema} (free : schema.Free key) (inside : field ∈ schema.fields) :
    field.annotations.get? key = none ∧ field.type.Free key := by
  have leads : Link.ofField field ∈ schema.links := by
    rw [links_eq]
    exact List.mem_append_left _ (List.mem_map_of_mem inside)
  exact free.link leads

theorem other {link : Link} (free : schema.Free key) (leads : link ∈ schema.otherLinks) :
    link.annotations.get? key = none ∧ link.target.Free key :=
  free.link (List.mem_of_mem_drop leads)

end Free

theorem get?_entityType_stamp (schema : Schema) (entity : EntityId) :
    (schema.stamp entity).annotations.get? .entityType =
      if schema.isStruct then some (.str entity.text) else schema.annotations.get? .entityType := by
  rcases schema.stamp_cases entity with ⟨other, same⟩ | ⟨isStruct, _, _, _, stamped⟩
  · rw [same, other]
    rfl
  · rw [stamped, isStruct]
    exact (schema.annotations.get?_stamped entity).1

theorem get?_entityField_stamp (schema : Schema) (entity : EntityId) :
    (schema.stamp entity).annotations.get? .entityField = schema.annotations.get? .entityField := by
  rcases schema.stamp_cases entity with ⟨_, same⟩ | ⟨_, _, _, _, stamped⟩
  · rw [same]
  · rw [stamped]
    exact (schema.annotations.get?_stamped entity).2

/-- A schema that has been stamped and did not have a key before. -/
def Stamped (key : Annotations.Key) (entity : EntityId) (schema : Schema) : Prop :=
  ∃ plain : Schema, plain.Free key ∧ schema = plain.stamp entity

namespace Stamped

variable {key : Annotations.Key} {entity : EntityId} {schema : Schema}

theorem free (stamped : schema.Stamped key entity) (other : schema.isStruct = false) :
    schema.Free key := by
  obtain ⟨plain, free, rfl⟩ := stamped
  rcases plain.stamp_cases entity with ⟨_, same⟩ | ⟨isStruct, _⟩
  · rwa [same]
  · rw [isStruct_stamp, isStruct] at other
    cases other

theorem get?_entityType (stamped : schema.Stamped .entityType entity) :
    schema.annotations.get? .entityType =
      if schema.isStruct then some (.str entity.text) else none := by
  obtain ⟨plain, free, rfl⟩ := stamped
  rw [get?_entityType_stamp, isStruct_stamp, free.own]

end Stamped

end Schema

end SchemaOutline
