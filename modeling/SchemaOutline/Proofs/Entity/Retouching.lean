import Mathlib.Data.List.Sort
import Mathlib.Logic.Relation
import SchemaOutline.Proofs.Entity.Signatures

/-! Changes of a schema that its signature set does not show, whether it is stamped or not. -/

set_option autoImplicit false
set_option relaxedAutoImplicit false

namespace SchemaOutline

open Relation (ReflTransGen)

theorem SignatureSet.eq_of_mem_iff {set other : SignatureSet}
    (same : ∀ text, text ∈ set.signatures ↔ text ∈ other.signatures) : set = other := by
  have : Std.Antisymm (α := String) (· < ·) :=
    ⟨fun _ _ less greater => absurd greater (Std.not_gt_of_lt less)⟩
  exact SignatureSet.ext (set.ascending.eq_of_mem_iff other.ascending same)

structure Schema.Silent (schema : Schema) : Prop where
  notStruct : schema.isStruct = false
  unmarked : schema.annotations.entityField? = none

/-- One change of a field that no signature shows. The type is replaced only where neither the old
nor the new one has signatures. -/
inductive Field.Retouch (field : Field Schema) : Field Schema → Prop
  | optional (flag : Bool) : Retouch field { field with optional := flag }
  | readonly (flag : Bool) : Retouch field { field with readonly := flag }
  | key {key : PropertyKey} (same : key.text = field.key.text) : Retouch field { field with key }
  | annotations {annotations : Annotations}
      (same : annotations.entityField? = field.annotations.entityField?) :
      Retouch field { field with annotations }
  | type {type : Schema} (before : field.type.Silent) (after : type.Silent) :
      Retouch field (field.withType type)

/-- One change of a schema that a set of signatures does not show: of the annotations, of the order
of fields, of how often one is listed, of index signatures, of anything inside a schema that is no
struct, or of a field or its type. -/
inductive Schema.Retouch : Schema → Schema → Prop
  | annotations {annotations others : Annotations} {shape : Shape Schema}
      (same : others.entityField? = annotations.entityField?) :
      Retouch (mk annotations shape) (mk others shape)
  | reordered {annotations : Annotations} {fields others : List (Field Schema)}
      {signatures : List (IndexSignature Schema)} (perm : fields.Perm others) :
      Retouch (mk annotations (.struct fields signatures))
        (mk annotations (.struct others signatures))
  | repeated {annotations : Annotations} (before after : List (Field Schema)) {field : Field Schema}
      {signatures : List (IndexSignature Schema)} (listed : field ∈ before ++ after) :
      Retouch (mk annotations (.struct (before ++ after) signatures))
        (mk annotations (.struct (before ++ field :: after) signatures))
  | signatures {annotations : Annotations} {fields : List (Field Schema)}
      {signatures others : List (IndexSignature Schema)} :
      Retouch (mk annotations (.struct fields signatures)) (mk annotations (.struct fields others))
  | inside {annotations : Annotations} {shape other : Shape Schema}
      (notStruct : shape.kind ≠ .struct) (kind : other.kind = shape.kind) :
      Retouch (mk annotations shape) (mk annotations other)
  | field {annotations : Annotations} (before after : List (Field Schema))
      {field other : Field Schema} {signatures : List (IndexSignature Schema)}
      (retouch : field.Retouch other) :
      Retouch (mk annotations (.struct (before ++ field :: after) signatures))
        (mk annotations (.struct (before ++ other :: after) signatures))
  | type {annotations : Annotations} (before after : List (Field Schema)) {field : Field Schema}
      {type : Schema} {signatures : List (IndexSignature Schema)}
      (retouch : Retouch field.type type) :
      Retouch (mk annotations (.struct (before ++ field :: after) signatures))
        (mk annotations (.struct (before ++ field.withType type :: after) signatures))

/-! ### Signatures as a set -/

namespace Schema

theorem isStruct_eq_false_iff {schema : Schema} :
    schema.isStruct = false ↔ schema.shape.kind ≠ .struct := by
  unfold isStruct fields?
  cases schema.shape with
  | leaf content => cases content <;> simp [Shape.kind, Leaf.kind]
  | _ => simp [Shape.kind]

theorem signaturesAt_of_not_isStruct {schema : Schema} (other : schema.isStruct = false)
    (path : String) : schema.signaturesAt path = (Signature.own? path schema).toList := by
  rw [signaturesAt_eq, Signature.here, show schema.fields?.getD [] = [] from
    fields_of_not_isStruct other, fields_of_not_isStruct other]
  simp

theorem Silent.signaturesAt {schema : Schema} (silent : schema.Silent) (path : String) :
    schema.signaturesAt path = [] := by
  rw [signaturesAt_of_not_isStruct silent.notStruct, Signature.own?, silent.unmarked]
  rfl

theorem own?_congr (schema other : Schema)
    (marks : other.annotations.entityField? = schema.annotations.entityField?)
    (kind : other.kind = schema.kind) (path : String) :
    Signature.own? path other = Signature.own? path schema := by
  rw [Signature.own?, Signature.own?, marks, kind]

end Schema

namespace Field

def signaturesAt (path : String) (field : Field Schema) : List String :=
  (Signature.ofField? path field).toList ++
    field.type.signaturesAt (Signature.extend path field.key.text)

theorem Retouch.signaturesAt_eq {field other : Field Schema} (retouch : field.Retouch other)
    (path : String) : other.signaturesAt path = field.signaturesAt path := by
  cases retouch with
  | optional flag => rfl
  | readonly flag => rfl
  | key same => simp only [signaturesAt, Signature.ofField?, same]
  | annotations same => simp only [signaturesAt, Signature.ofField?, same]
  | type before after =>
    rw [signaturesAt, signaturesAt, before.signaturesAt]
    exact congrArg _ (after.signaturesAt _)

end Field

namespace Schema

theorem mem_signaturesAt_struct {annotations : Annotations} {fields : List (Field Schema)}
    {signatures : List (IndexSignature Schema)} {path text : String} :
    text ∈ (mk annotations (.struct fields signatures)).signaturesAt path ↔
      Signature.own? path (mk annotations (.struct [] [])) = some text ∨
        ∃ field ∈ fields, text ∈ field.signaturesAt path := by
  have own : Signature.own? path (mk annotations (.struct fields signatures)) =
      Signature.own? path (mk annotations (.struct [] [])) := own?_congr _ _ rfl rfl path
  rw [signaturesAt_eq, Signature.here, own]
  show text ∈ _ ++ fields.filterMap _ ++ fields.flatMap _ ↔ _
  simp only [Field.signaturesAt, List.mem_append, List.mem_filterMap, List.mem_flatMap,
    Option.mem_toList]
  grind

theorem Retouch.mem_signaturesAt_iff {schema other : Schema} (retouch : schema.Retouch other)
    (path text : String) : text ∈ other.signaturesAt path ↔ text ∈ schema.signaturesAt path := by
  induction retouch generalizing path with
  | @annotations annotations others shape same =>
    have own := own?_congr (mk annotations shape) (mk others shape) same rfl path
    rw [signaturesAt_eq, signaturesAt_eq, Signature.here, Signature.here, own]
    rfl
  | reordered perm =>
    simp only [mem_signaturesAt_struct, perm.mem_iff]
  | repeated before after listed =>
    simp only [mem_signaturesAt_struct, List.mem_append, List.mem_cons] at listed ⊢
    grind
  | signatures => simp only [mem_signaturesAt_struct]
  | @inside annotations shape other notStruct kind =>
    have before : (mk annotations shape).isStruct = false := isStruct_eq_false_iff.mpr notStruct
    have after : (mk annotations other).isStruct = false :=
      isStruct_eq_false_iff.mpr (kind ▸ notStruct)
    have own := own?_congr (mk annotations shape) (mk annotations other) rfl kind path
    rw [signaturesAt_of_not_isStruct before, signaturesAt_of_not_isStruct after, own]
  | field before after retouch =>
    simp only [mem_signaturesAt_struct, List.mem_append, List.mem_cons, or_and_right, exists_or,
      exists_eq_left, retouch.signaturesAt_eq]
  | type before after retouch ih =>
    simp only [mem_signaturesAt_struct, List.mem_append, List.mem_cons, or_and_right, exists_or,
      exists_eq_left, Field.signaturesAt, Field.withType, Signature.ofField?, ih]

end Schema

/-! ### Stamping -/

namespace Annotations

theorem entityField?_marked (annotations : Annotations) (marker : FieldMarker) :
    (annotations.marked marker).entityField? = some marker.text := by
  rw [entityField?, text?, (annotations.get?_marked marker).1]
  rfl

theorem entityField?_stamped (annotations : Annotations) (entity : EntityId) :
    (annotations.stamped entity).entityField? = annotations.entityField? := by
  rw [entityField?, text?, (annotations.get?_stamped entity).2]
  rfl

end Annotations

theorem Schema.Silent.stamp {schema : Schema} (silent : schema.Silent) (entity : EntityId) :
    (schema.stamp entity).Silent := by
  rwa [stamp_of_not_isStruct entity silent.notStruct]

namespace Field

def stamp (entity : EntityId) (field : Field Schema) : Field Schema :=
  field.stamped entity (field.type.stamp entity)

theorem Retouch.stamp {field other : Field Schema} (retouch : field.Retouch other)
    (entity : EntityId) : (field.stamp entity).Retouch (other.stamp entity) := by
  cases retouch with
  | optional flag => exact .optional flag
  | readonly flag => exact .readonly flag
  | key same => exact .key same
  | annotations same =>
    refine .annotations ?_
    rw [Annotations.entityField?_marked]
    exact (Annotations.entityField?_marked _ _).symm
  | type before after =>
    exact .type (before.stamp entity) (after.stamp entity)

end Field

namespace Schema

theorem stamp_struct (entity : EntityId) (annotations : Annotations) (fields : List (Field Schema))
    (signatures : List (IndexSignature Schema)) :
    (mk annotations (.struct fields signatures)).stamp entity =
      mk (annotations.stamped entity) (.struct (fields.map (Field.stamp entity)) signatures) :=
  stamp_of_shape entity rfl

theorem Retouch.stamp {schema other : Schema} (retouch : schema.Retouch other)
    (entity : EntityId) : (schema.stamp entity).Retouch (other.stamp entity) := by
  induction retouch with
  | @annotations annotations others shape same =>
    cases shape with
    | struct fields signatures =>
      rw [stamp_struct, stamp_struct]
      refine .annotations ?_
      rw [Annotations.entityField?_stamped, Annotations.entityField?_stamped, same]
    | _ =>
      rw [stamp_of_not_isStruct entity rfl, stamp_of_not_isStruct entity rfl]
      exact .annotations same
  | reordered perm =>
    simp only [stamp_struct]
    exact .reordered (perm.map _)
  | repeated before after listed =>
    simp only [stamp_struct, List.map_append, List.map_cons]
    refine .repeated _ _ ?_
    rw [← List.map_append]
    exact List.mem_map_of_mem listed
  | signatures =>
    simp only [stamp_struct]
    exact .signatures
  | @inside annotations shape other notStruct kind =>
    have before : (mk annotations shape).isStruct = false := isStruct_eq_false_iff.mpr notStruct
    have after : (mk annotations other).isStruct = false :=
      isStruct_eq_false_iff.mpr (kind ▸ notStruct)
    rw [stamp_of_not_isStruct entity before, stamp_of_not_isStruct entity after]
    exact .inside notStruct kind
  | field before after retouch =>
    simp only [stamp_struct, List.map_append, List.map_cons]
    exact .field _ _ (retouch.stamp entity)
  | type before after retouch ih =>
    simp only [stamp_struct, List.map_append, List.map_cons]
    exact .type _ _ ih

theorem signatureSet_eq_of_retouches {schema other : Schema}
    (retouches : ReflTransGen Retouch schema other) : other.signatureSet = schema.signatureSet := by
  induction retouches with
  | refl => rfl
  | tail _ retouch ih =>
    rw [← ih]
    apply SignatureSet.eq_of_mem_iff
    intro text
    rw [signatureSet, signatureSet, SignatureSet.mem_ofList, SignatureSet.mem_ofList, signatures_eq,
      signatures_eq]
    exact retouch.mem_signaturesAt_iff "" text

/-- Schemas that differ by retouches have one set of signatures and one fingerprint, and they still
do when both are stamped. -/
theorem fingerprint_of_retouches {schema other : Schema}
    (retouches : ReflTransGen Retouch schema other) :
    other.signatureSet = schema.signatureSet ∧ other.fingerprint = schema.fingerprint ∧
    ∀ entity, (other.stamp entity).signatureSet = (schema.stamp entity).signatureSet ∧
      (other.stamp entity).fingerprint = (schema.stamp entity).fingerprint := by
  have plain := signatureSet_eq_of_retouches retouches
  refine ⟨plain, congrArg Fingerprint.ofSet plain, fun entity => ?_⟩
  have stamped := signatureSet_eq_of_retouches
    (retouches.lift (stamp · entity) fun _ _ retouch => retouch.stamp entity)
  exact ⟨stamped, congrArg Fingerprint.ofSet stamped⟩

namespace Resident

def mark : Annotations := .ofList [(.entityField, .str "field##r")]

def text : Schema := .ofShape (.leaf (.keyword .string))

def year : Schema := .ofShape (.leaf (.keyword .number))

def home (annotations : Annotations) : Schema :=
  .mk annotations (.struct [⟨.name "street", text, false, false, mark⟩] [])

def homeField : Field Schema := ⟨.name "home", home .empty, false, false, mark⟩

def bornField : Field Schema := ⟨.name "born", year, false, false, mark⟩

def schema : Schema := .ofShape (.struct [homeField, bornField] [])

def otherHomeField : Field Schema :=
  ⟨.name "home", home (.ofList [(.title, .str "Home")]), false, false, mark⟩

def otherBornField : Field Schema := ⟨.symbol "born", text, true, false, mark⟩

def other : Schema :=
  .ofShape (.struct [otherBornField, otherHomeField, otherBornField] [⟨text, text⟩])

private theorem silent (word : Keyword) : (ofShape (.leaf (.keyword word))).Silent := ⟨rfl, rfl⟩

private theorem retouches : ReflTransGen Retouch schema other := by
  let symbolic : Field Schema := ⟨.symbol "born", year, false, false, mark⟩
  let retyped : Field Schema := ⟨.symbol "born", text, false, false, mark⟩
  have order : Retouch schema (.ofShape (.struct [bornField, homeField] [])) :=
    .reordered (.swap _ _ _)
  have key : Retouch (.ofShape (.struct [bornField, homeField] []))
      (.ofShape (.struct [symbolic, homeField] [])) := .field [] _ (.key rfl)
  have type : Retouch (.ofShape (.struct [symbolic, homeField] []))
      (.ofShape (.struct [retyped, homeField] [])) :=
    .field [] _ (.type (silent .number) (silent .string))
  have flag : Retouch (.ofShape (.struct [retyped, homeField] []))
      (.ofShape (.struct [otherBornField, homeField] [])) := .field [] _ (.optional true)
  have title : Retouch (.ofShape (.struct [otherBornField, homeField] []))
      (.ofShape (.struct [otherBornField, otherHomeField] [])) :=
    .type [otherBornField] [] (.annotations rfl)
  have again : Retouch (.ofShape (.struct [otherBornField, otherHomeField] []))
      (.ofShape (.struct [otherBornField, otherHomeField, otherBornField] [])) :=
    .repeated [otherBornField, otherHomeField] [] List.mem_cons_self
  have rule : Retouch (.ofShape (.struct [otherBornField, otherHomeField, otherBornField] []))
      other := .signatures
  exact .head order (.head key (.head type (.head flag (.head title (.head again (.single rule))))))

private theorem signatures_schema : schema.signatures = ["home:PropertySignature:field##r",
    "born:PropertySignature:field##r", "home.street:PropertySignature:field##r"] := by cbv

private theorem signatures_other : other.signatures = ["born:PropertySignature:field##r",
    "home:PropertySignature:field##r", "born:PropertySignature:field##r",
    "home.street:PropertySignature:field##r"] := by cbv

/-- The signatures are listed in another order, and one of them twice. -/
theorem same_fingerprint_of_other_signatures :
    ReflTransGen Retouch schema other ∧ other.signatures ≠ schema.signatures ∧
    other.signatureSet = schema.signatureSet ∧ other.fingerprint = schema.fingerprint ∧
    ∀ entity, (other.stamp entity).signatureSet = (schema.stamp entity).signatureSet ∧
      (other.stamp entity).fingerprint = (schema.stamp entity).fingerprint := by
  have listed : other.signatures ≠ schema.signatures := by
    rw [signatures_schema, signatures_other]
    decide
  exact ⟨retouches, listed, fingerprint_of_retouches retouches⟩

end Resident

end Schema

end SchemaOutline
