import SchemaOutline.Proofs.Description.Agreement
import SchemaOutline.Proofs.Schema.References

/-! The schema that a value means under a table, said of the value itself. -/

set_option autoImplicit false
set_option relaxedAutoImplicit false

namespace SchemaOutline

open List (Forall₂)
open Description

/-! ### Agreement the other way round -/

namespace Description

variable {α β : Type} {R : α → β → Prop}

private theorem rel_symm {value : Option α} {other : Option β}
    (related : Option.Rel R value other) : Option.Rel (flip R) other value := by
  cases related with
  | none => exact .none
  | some related => exact .some related

private theorem forall₂_symm {γ δ : Type} {S : γ → δ → Prop} {T : δ → γ → Prop}
    (each : ∀ item other, S item other → T other item) {items : List γ} {others : List δ}
    (related : Forall₂ S items others) : Forall₂ T others items :=
  (related.imp each).flip

theorem Field.Agrees.symm {field : Field α} {other : Field β}
    (agrees : Field.Agrees R field other) : Field.Agrees (flip R) other field where
  name := agrees.name.symm
  symbol := agrees.symbol.symm
  type := rel_symm agrees.type
  optional := agrees.optional.symm
  readonly := agrees.readonly.symm
  annotations := agrees.annotations.symm

theorem Signature.Agrees.symm {signature : Signature α} {other : Signature β}
    (agrees : Signature.Agrees R signature other) :
    Signature.Agrees (flip R) other signature where
  parameter := rel_symm agrees.parameter
  type := rel_symm agrees.type

theorem Element.Agrees.symm {element : Element α} {other : Element β}
    (agrees : Element.Agrees R element other) : Element.Agrees (flip R) other element where
  type := rel_symm agrees.type
  optional := agrees.optional.symm
  annotations := agrees.annotations.symm

theorem Body.Agrees.symm {body : Body α} {other : Body β} (agrees : Body.Agrees R body other) :
    Body.Agrees (flip R) other body where
  annotations := agrees.annotations.symm
  fields := forall₂_symm (fun _ _ => Field.Agrees.symm) agrees.fields
  signatures := forall₂_symm (fun _ _ => Signature.Agrees.symm) agrees.signatures
  types := agrees.types.flip
  elements := forall₂_symm (fun _ _ => Element.Agrees.symm) agrees.elements
  rest := forall₂_symm (fun _ _ => Element.Agrees.symm) agrees.rest
  source := rel_symm agrees.source
  target := rel_symm agrees.target
  typeParameters := agrees.typeParameters.flip
  name := agrees.name.symm
  literal := agrees.literal.symm
  pattern := agrees.pattern.symm
  enums := agrees.enums.symm
  description := agrees.description.symm
  reference := agrees.reference.symm

end Description

/-! ### Values -/

namespace Json

/-- A value means a schema under a table of definitions. -/
def Means (table : List (String × Json)) (value : Json) (schema : Schema) : Prop :=
  ∃ description, Description.read value = .ok description ∧
    description.convert table = .ok schema

/-- A node says, by itself, annotations and a shape with nodes in the places of schemas. -/
structure Says (table : List (String × Json)) (value : Json) (annotations : Annotations)
    (shape : Shape Json) : Prop where
  form : HasForm (.record .node) value
  shape : ∃ kind : Kind, kind.name = tagOf value ∧
    (Body.ofJson value).shape table kind = .ok shape
  annotations : annotationsOf (Body.ofJson value).annotations = annotations

variable {table : List (String × Json)} {value : Json} {schema : Schema}

theorem Says.means {annotations : Annotations} {shape : Shape Json}
    (said : value.Says table annotations shape) {schemas : List Schema}
    (mean : Forall₂ (Means table) shape.parts schemas) :
    Means table value (.mk annotations (shape.refill schemas mean.length_eq.symm)) := by
  obtain ⟨form, ⟨kind, isKind, isShape⟩, rfl⟩ := said
  obtain ⟨description, isRead⟩ := (read_ok_iff value).mpr form
  obtain ⟨tag, agrees⟩ := agrees_of_read isRead
  obtain ⟨inner, fits, ofDescription, related⟩ := Body.shape_congr agrees isShape
  have found : description.split table =
      .ok (annotationsOf description.body.annotations, shape.refill inner fits) :=
    split_eq_ok_iff.mpr ⟨kind, isKind.trans tag.symm, ofDescription, rfl⟩
  have converts : Forall₂ (fun inner part => inner.convert table = .ok part) inner schemas := by
    refine (exists_forall₂_iff.mp ⟨_, related.flip, mean⟩).imp ?_
    rintro inner part ⟨node, isRead, other, isOther, converted⟩
    obtain rfl := Except.ok.inj (isRead.symm.trans isOther)
    exact converted
  have solved : (shape.refill inner fits).parts.mapM (Description.convert table) =
      .ok schemas := by
    rw [Shape.parts_refill]
    exact mapM_eq_ok_iff.mpr converts
  refine ⟨description, isRead, ?_⟩
  rw [convert_of_ok found, Shape.traverse_eq_ok solved (Shape.length_of_mapM solved),
    Shape.refill_refill, agrees.annotations]
  rfl

theorem Means.exists_layer (means : Means table value schema) : ∃ annotations shape schemas,
    value.Says table annotations shape ∧ ∃ mean : Forall₂ (Means table) shape.parts schemas,
      schema = .mk annotations (shape.refill schemas mean.length_eq.symm) := by
  obtain ⟨description, isRead, converted⟩ := means
  obtain ⟨tag, agrees⟩ := agrees_of_read isRead
  obtain ⟨layer, schemas, found, solved, _, rfl⟩ := exists_layer_of_convert converted
  obtain ⟨kind, isKind, isShape, annotations⟩ := split_eq_ok_iff.mp found
  obtain ⟨nodes, fits, ofValue, related⟩ := Body.shape_congr agrees.symm isShape
  have form : HasForm (.record .node) value := (read_ok_iff value).mp ⟨description, isRead⟩
  have mean : Forall₂ (Means table) (layer.2.refill nodes fits).parts schemas := by
    rw [Shape.parts_refill]
    exact exists_forall₂_iff.mp ⟨_, related.flip, mapM_eq_ok_iff.mp solved⟩
  refine ⟨layer.1, layer.2.refill nodes fits, schemas, ⟨form, ⟨kind, isKind.trans tag, ofValue⟩,
    agrees.annotations ▸ annotations⟩, mean, ?_⟩
  rw [Shape.refill_refill]

theorem Means.induct {motive : Json → Schema → Prop}
    (step : ∀ value annotations shape schemas, value.Says table annotations shape →
      Forall₂ motive shape.parts schemas →
      ∀ fits, motive value (.mk annotations (shape.refill schemas fits)))
    (means : Means table value schema) : motive value schema := by
  induction schema using Schema.induct generalizing value with
  | step schema ih =>
    obtain ⟨annotations, shape, schemas, said, mean, rfl⟩ := means.exists_layer
    have each : ∀ part ∈ schemas, ∀ inner, Means table inner part → motive inner part := by
      intro part inside inner
      exact ih part (by rwa [Schema.parts, Schema.shape_mk, Shape.parts_refill])
    have both := (List.forall₂_and_left _ _).mpr ⟨each, mean.flip⟩
    have hold : Forall₂ motive shape.parts schemas :=
      (both.imp fun part inner holds => holds.1 inner holds.2).flip
    exact step value annotations shape schemas said hold _

theorem Means.grounded (means : Means table value schema) : Schema.Grounded table schema := by
  obtain ⟨description, _, converted⟩ := means
  exact Schema.grounded_of_convert converted

end Json

/-! ### Documents -/

namespace Schema

variable {table : List (String × Json)} {document value : Json} {schema : Schema}

theorem decodeUnder_eq_ok_iff : decodeUnder table value = .ok schema ↔
    value.depth ≤ nestingLimit ∧ value.Means table schema := by
  constructor
  · intro ok
    obtain ⟨description, isDescription, converted⟩ := bind_eq_ok.mp ok
    obtain ⟨shallow, isRead⟩ := ofJson_eq_ok_iff.mp isDescription
    rw [Conversion.toSchema_eq_convert] at converted
    exact ⟨shallow, description, isRead, converted⟩
  · rintro ⟨shallow, description, isRead, converted⟩
    refine bind_eq_ok.mpr ⟨description, ofJson_eq_ok_iff.mpr ⟨shallow, isRead⟩, ?_⟩
    rwa [Conversion.toSchema_eq_convert]

/-- A document is decoded into the schema that it means if it does not nest too deeply, its table of
definitions is an object, and all of these mean something. -/
theorem decode_eq_ok_iff : decode document = .ok schema ↔
    document.depth ≤ nestingLimit ∧ definitions document = .ok (tableOf document) ∧
    (∀ definition ∈ tableOf document, ∃ part, definition.2.Means (tableOf document) part) ∧
    document.Means (tableOf document) schema := by
  have decodes (shallow : document.depth ≤ nestingLimit) {definition : String × Json}
      (inside : definition ∈ tableOf document) (part : Schema) :
      decodeUnder (tableOf document) definition.2 = .ok part ↔
        definition.2.Means (tableOf document) part := by
    have below := depth_lt_of_mem_tableOf inside
    rw [decodeUnder_eq_ok_iff, and_iff_right (by omega)]
  constructor
  · intro ok
    obtain ⟨description, isDescription, ok⟩ := bind_eq_ok.mp ok
    obtain ⟨table, isTable, ok⟩ := bind_eq_ok.mp ok
    obtain rfl := definitions_eq_tableOf isTable
    obtain ⟨_, checked, converted⟩ := bind_eq_ok.mp ok
    obtain ⟨shallow, isRead⟩ := ofJson_eq_ok_iff.mp isDescription
    rw [Conversion.toSchema_eq_convert] at converted
    refine ⟨shallow, isTable, fun definition inside => ?_, description, isRead, converted⟩
    obtain ⟨part, decoded⟩ := checkDefinitions_eq_ok_iff.mp checked definition inside
    exact ⟨part, (decodes shallow inside part).mp decoded⟩
  · rintro ⟨shallow, isTable, defined, description, isRead, converted⟩
    refine bind_eq_ok.mpr ⟨description, ofJson_eq_ok_iff.mpr ⟨shallow, isRead⟩, ?_⟩
    refine bind_eq_ok.mpr ⟨_, isTable, bind_eq_ok.mpr ⟨(), ?_, ?_⟩⟩
    · refine checkDefinitions_eq_ok_iff.mpr fun definition inside => ?_
      obtain ⟨part, means⟩ := defined definition inside
      exact ⟨part, (decodes shallow inside part).mpr means⟩
    · rwa [Conversion.toSchema_eq_convert]

end Schema

end SchemaOutline
