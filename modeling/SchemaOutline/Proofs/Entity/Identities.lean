import SchemaOutline.Proofs.Entity.SignatureOrder
import Mathlib.Data.List.MinMax

/-! Signature sets of stamped schemas tell identities apart, by their longest signatures. -/

set_option autoImplicit false
set_option relaxedAutoImplicit false

namespace SchemaOutline

open Traversal

namespace Schema

/-- No schema on the spine is marked itself. -/
def Unmarked (schema : Schema) : Prop :=
  ∀ inner, schema.OnSpine inner → inner.annotations.entityField? = none

theorem Unmarked.field {schema : Schema} (unmarked : schema.Unmarked) {field : Field Schema}
    (inside : field ∈ schema.fields) : field.type.Unmarked :=
  fun inner onSpine => unmarked inner (.field inside onSpine)

def fieldPathsAt (path : String) (schema : Schema) : List String :=
  (schema.fields.map fun field => Signature.extend path field.key.text) ++
    schema.fields.attach.flatMap fun field =>
      fieldPathsAt (Signature.extend path field.1.key.text) field.1.type
termination_by schema.weight
decreasing_by exact weight_type_lt field.2

theorem fieldPathsAt_eq (path : String) (schema : Schema) :
    schema.fieldPathsAt path = (schema.fields.map fun field =>
      Signature.extend path field.key.text) ++ schema.fields.flatMap fun field =>
        field.type.fieldPathsAt (Signature.extend path field.key.text) := by
  rw [fieldPathsAt]
  exact congrArg _ (flatMap_attach schema.fields fun field =>
    field.type.fieldPathsAt (Signature.extend path field.key.text))

theorem fieldPathsAt_ne_nil {schema : Schema} (some : schema.fields ≠ []) (path : String) :
    schema.fieldPathsAt path ≠ [] := by
  rw [fieldPathsAt_eq]
  exact fun none => some (List.map_eq_nil_iff.mp (List.append_eq_nil_iff.mp none).1)

theorem signaturesAt_stamp (entity : EntityId) {schema : Schema} (unmarked : schema.Unmarked)
    (path : String) : (schema.stamp entity).signaturesAt path =
      (schema.fieldPathsAt path).map fun place =>
        Signature.text place Signature.fieldKind entity.marker.text := by
  induction schema using induct_fields generalizing path with
  | step schema ih =>
    have below (field : Field Schema) (inside : field ∈ schema.fields) :
        (field.type.stamp entity).signaturesAt (Signature.extend path field.key.text) =
          (field.type.fieldPathsAt (Signature.extend path field.key.text)).map fun place =>
            Signature.text place Signature.fieldKind entity.marker.text :=
      ih field inside (unmarked.field inside) _
    rw [signaturesAt_eq, here_stamp entity (unmarked schema (.refl schema)), fields_stamp,
      List.flatMap_map, fieldPathsAt_eq, List.map_append, List.map_map, List.map_flatMap]
    exact congrArg _ (List.flatMap_congr below)

end Schema

namespace Signature

/-- The marker of an identity, and what stands between it and the path. -/
def ending (entity : EntityId) : String := ":" ++ fieldKind ++ ":" ++ entity.marker.text

theorem text_eq_append (path : String) (entity : EntityId) :
    text path fieldKind entity.marker.text = path ++ ending entity := by
  simp only [text, ending, String.append_assoc]

theorem ending_injective {entity other : EntityId} (same : ending entity = ending other) :
    entity = other :=
  EntityId.ext ((String.append_right_inj _).mp ((String.append_right_inj _).mp same))

end Signature

private theorem exists_longest {texts : List String} (some : texts ≠ []) :
    ∃ longest ∈ texts, ∀ text ∈ texts, text.length ≤ longest.length := by
  cases found : texts.argmax String.length with
  | none => exact absurd (List.argmax_eq_none.mp found) some
  | some longest =>
    exact ⟨longest, List.argmax_mem found, fun text inside => List.le_of_mem_argmax inside found⟩

private theorem length_le_of_appended {texts : List String} (some : texts ≠ [])
    {ending other : String} (among : ∀ text ∈ texts, text ++ ending ∈ texts.map (· ++ other)) :
    ending.length ≤ other.length := by
  obtain ⟨longest, inside, bound⟩ := exists_longest some
  obtain ⟨source, isText, same⟩ := List.mem_map.mp (among longest inside)
  have lengths := congrArg String.length same
  rw [String.length_append, String.length_append] at lengths
  have shorter := bound source isText
  omega

private theorem eq_of_appended {texts : List String} (some : texts ≠ []) {ending other : String}
    (same : ∀ text, text ∈ texts.map (· ++ ending) ↔ text ∈ texts.map (· ++ other)) :
    ending = other := by
  have forth (text : String) (inside : text ∈ texts) : text ++ ending ∈ texts.map (· ++ other) :=
    (same _).mp (List.mem_map_of_mem inside)
  have back (text : String) (inside : text ∈ texts) : text ++ other ∈ texts.map (· ++ ending) :=
    (same _).mpr (List.mem_map_of_mem inside)
  have lengths : ending.length = other.length :=
    Nat.le_antisymm (length_le_of_appended some forth) (length_le_of_appended some back)
  obtain ⟨text, inside⟩ := List.exists_mem_of_ne_nil texts some
  obtain ⟨source, _, joined⟩ := List.mem_map.mp (forth text inside)
  have chars := congrArg String.toList joined
  rw [String.toList_append, String.toList_append] at chars
  have split := List.append_inj' chars (by rw [String.length_toList, String.length_toList, lengths])
  exact (String.toList_inj.mp split.2).symm

namespace Schema

theorem signatures_stamp (entity : EntityId) {schema : Schema} (unmarked : schema.Unmarked) :
    (schema.stamp entity).signatures =
      (schema.fieldPathsAt "").map (· ++ Signature.ending entity) := by
  rw [signatures_eq, signaturesAt_stamp entity unmarked]
  exact List.map_congr_left fun path _ => Signature.text_eq_append path entity

/-- Two identities that are stamped into a schema give it the same set of signatures only if they
are the same. The schema has fields, and nothing on its spine is marked before. -/
theorem signatureSet_stamp_eq_iff {schema : Schema} (fields : schema.fields ≠ [])
    (unmarked : ∀ inner, schema.OnSpine inner → inner.annotations.entityField? = none)
    (entity other : EntityId) :
    (schema.stamp entity).signatureSet = (schema.stamp other).signatureSet ↔ entity = other := by
  constructor
  · intro same
    have members (identity : EntityId) (text : String) :
        text ∈ (schema.stamp identity).signatureSet.signatures ↔
          text ∈ (schema.fieldPathsAt "").map (· ++ Signature.ending identity) := by
      rw [signatureSet, SignatureSet.mem_ofList, signatures_stamp identity unmarked]
    refine Signature.ending_injective
      (eq_of_appended (fieldPathsAt_ne_nil fields "") fun text => ?_)
    rw [← members, ← members, same]
  · rintro rfl
    rfl

namespace Overlapping

def text : Schema := .ofShape (.leaf (.keyword .string))

/-- Two fields; the key of the second continues the first one's like a signature. -/
def schema : Schema := .ofShape (.struct [⟨.name "p", text, false, false, .empty⟩,
  ⟨.name "p:PropertySignature:field##q", text, false, false, .empty⟩] [])

def long : EntityId := ⟨"q:PropertySignature:field##r"⟩

def short : EntityId := ⟨"r"⟩

def shared : String := "p:PropertySignature:field##q:PropertySignature:field##r"

private theorem unmarked (inner : Schema) (onSpine : schema.OnSpine inner) :
    inner.annotations.entityField? = none := by
  cases onSpine with
  | refl => rfl
  | field inside further =>
    obtain rfl | rfl := List.mem_pair.mp inside
    all_goals cases further with
      | refl => rfl
      | field inside _ => cases inside

/-- The sets have a signature in common, of the first field in one and of the second in the other;
still they differ. -/
theorem identities_with_shared_signature :
    schema.fields ≠ [] ∧
    (∀ inner, schema.OnSpine inner → inner.annotations.entityField? = none) ∧
    shared ∈ (schema.stamp long).signatureSet.signatures ∧
    shared ∈ (schema.stamp short).signatureSet.signatures ∧
    (schema.stamp long).signatureSet ≠ (schema.stamp short).signatureSet := by
  have some : schema.fields ≠ [] := List.cons_ne_nil _ _
  have different : long ≠ short := by decide
  have paths : schema.fieldPathsAt "" = ["p", "p:PropertySignature:field##q"] := by
    cbv
  refine ⟨some, unmarked, ?inLong, ?inShort, fun same => different
    ((signatureSet_stamp_eq_iff some unmarked long short).mp same)⟩
  case inLong =>
    rw [signatureSet, SignatureSet.mem_ofList, signatures_stamp long unmarked, paths]
    exact List.mem_cons_self
  case inShort =>
    rw [signatureSet, SignatureSet.mem_ofList, signatures_stamp short unmarked, paths]
    exact List.mem_cons_of_mem _ List.mem_cons_self

end Overlapping

end Schema

end SchemaOutline
