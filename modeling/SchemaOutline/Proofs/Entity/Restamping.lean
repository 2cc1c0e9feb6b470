import SchemaOutline.Entity.Signature
import SchemaOutline.Proofs.Entity.Recursion

/-! The last of several stamps overwrites all earlier ones in place. -/

set_option autoImplicit false
set_option relaxedAutoImplicit false

namespace SchemaOutline

theorem Annotations.stamped_stamped (annotations : Annotations) (earlier entity : EntityId) :
    (annotations.stamped earlier).stamped entity = annotations.stamped entity :=
  ((annotations.written_stamped earlier).again (written_stamped _ entity)).unique
    (annotations.written_stamped entity)

theorem Annotations.marked_marked (annotations : Annotations) (earlier marker : FieldMarker) :
    (annotations.marked earlier).marked marker = annotations.marked marker :=
  ((annotations.written_marked earlier).again (written_marked _ marker)).unique
    (annotations.written_marked marker)

theorem Field.stamped_stamped (earlier entity : EntityId) (field : Field Schema)
    (between type : Schema) :
    (field.stamped earlier between).stamped entity type = field.stamped entity type := by
  unfold stamped
  rw [Annotations.marked_marked]

namespace Schema

theorem stamp_stamp (schema : Schema) (earlier entity : EntityId) :
    (schema.stamp earlier).stamp entity = schema.stamp entity := by
  induction schema using induct with
  | step schema ih =>
    cases isStruct : schema.isStruct with
    | false => rw [stamp_of_not_isStruct earlier isStruct]
    | true =>
      obtain ⟨fields, signatures, isShape⟩ := exists_shape_of_isStruct isStruct
      have again (field : Field Schema) (inside : field ∈ fields) :
          (field.stamped earlier (field.type.stamp earlier)).stamped entity
            ((field.type.stamp earlier).stamp entity) =
              field.stamped entity (field.type.stamp entity) := by
        rw [Field.stamped_stamped, ih field.type (type_mem_parts isShape inside)]
      rw [stamp_of_shape earlier isShape, stamp_of_shape entity (shape_mk _ _),
        stamp_of_shape entity isShape, annotations_mk, Annotations.stamped_stamped, List.map_map]
      exact congrArg (fun stamped => mk _ (.struct stamped signatures)) (List.map_congr_left again)

theorem stamp_foldl_stamp (schema : Schema) (earlier : List EntityId) (entity : EntityId) :
    (earlier.foldl stamp schema).stamp entity = schema.stamp entity := by
  induction earlier generalizing schema with
  | nil => rfl
  | cons first earlier ih => rw [List.foldl_cons, ih, stamp_stamp]

/-- The last stamp counts, and nothing is left of earlier ones: neither in the schema, which is the
same down to the order of its annotations, nor in its signatures and its fingerprint. Stamping again
with one entity changes nothing. -/
theorem restamp_forgets (schema : Schema) (earlier entity : EntityId) :
    (schema.stamp earlier).stamp entity = schema.stamp entity ∧
    (schema.stamp entity).stamp entity = schema.stamp entity ∧
    (∀ others : List EntityId, (others.foldl stamp schema).stamp entity = schema.stamp entity) ∧
    ((schema.stamp earlier).stamp entity).signatureSet = (schema.stamp entity).signatureSet ∧
    ((schema.stamp earlier).stamp entity).fingerprint = (schema.stamp entity).fingerprint := by
  have last := schema.stamp_stamp earlier entity
  refine ⟨last, schema.stamp_stamp entity entity, ?several, ?signatures, ?fingerprint⟩
  case several => exact fun others => schema.stamp_foldl_stamp others entity
  case signatures => rw [last]
  case fingerprint => rw [last]

end Schema

end SchemaOutline
