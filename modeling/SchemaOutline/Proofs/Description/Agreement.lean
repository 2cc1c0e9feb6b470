import SchemaOutline.Proofs.Description.View
import SchemaOutline.Proofs.Schema.Refilling

/-! Bodies that agree up to their inner descriptions say shapes that agree up to their parts. -/

set_option autoImplicit false
set_option relaxedAutoImplicit false

namespace SchemaOutline.Description

open List (Forall₂)

variable {α β : Type} {R : α → β → Prop}

private theorem exists_required {kind : Kind} {member : String} {value : Option α}
    {other : Option β} {found : α} (agree : Option.Rel R value other)
    (ok : required kind member value = .ok found) :
    ∃ part, R found part ∧ required kind member other = .ok part := by
  obtain rfl := required_eq_ok.mp ok
  cases agree with
  | some related => exact ⟨_, related, rfl⟩

private theorem exists_field {field : Field α} {other : Field β}
    (agrees : Field.Agrees R field other) {found : SchemaOutline.Field α}
    (ok : field.content = .ok found) :
    ∃ type, R found.type type ∧ other.content = .ok (found.withType type) := by
  obtain ⟨key, isKey, ok⟩ := bind_eq_ok.mp ok
  obtain ⟨type, isType, ok⟩ := bind_eq_ok.mp ok
  obtain rfl := Except.ok.inj ok
  obtain ⟨part, related, isPart⟩ := exists_required agrees.type isType
  have sameKey : other.key = .ok key := by
    rw [← isKey, Field.key, Field.key, agrees.name, agrees.symbol]
  refine ⟨part, related, ?_⟩
  rw [Field.content, sameKey, isPart, ← agrees.optional, ← agrees.readonly, ← agrees.annotations]
  rfl

private theorem exists_element {element : Element α} {other : Element β}
    (agrees : Element.Agrees R element other) {found : SchemaOutline.Element α}
    (ok : element.content = .ok found) :
    ∃ type, R found.type type ∧ other.content = .ok (found.withType type) := by
  obtain ⟨type, isType, ok⟩ := bind_eq_ok.mp ok
  obtain rfl := Except.ok.inj ok
  obtain ⟨part, related, isPart⟩ := exists_required agrees.type isType
  refine ⟨part, related, ?_⟩
  rw [Element.content, isPart, ← agrees.optional, ← agrees.annotations]
  rfl

private theorem exists_contents {ι κ δ ε : Type} {S : ι → κ → Prop}
    {content : ι → Except DecodeError δ} {contentOf : κ → Except DecodeError ε} {view : δ → α}
    {put : δ → β → ε}
    (each : ∀ item other, S item other → ∀ found, content item = .ok found →
      ∃ part, R (view found) part ∧ contentOf other = .ok (put found part))
    {items : List ι} {others : List κ} (agree : Forall₂ S items others) {found : List δ}
    (ok : items.mapM content = .ok found) :
    ∃ parts, Forall₂ R (found.map view) parts ∧
      others.mapM contentOf = .ok (List.zipWith put found parts) := by
  induction agree generalizing found with
  | nil =>
    obtain rfl := Except.ok.inj ok
    exact ⟨[], .nil, rfl⟩
  | cons related _ ih =>
    rw [List.mapM_cons] at ok
    obtain ⟨first, isFirst, ok⟩ := bind_eq_ok.mp ok
    obtain ⟨more, areMore, ok⟩ := bind_eq_ok.mp ok
    obtain rfl := Except.ok.inj ok
    obtain ⟨part, relatedPart, isPart⟩ := each _ _ related first isFirst
    obtain ⟨parts, relatedParts, areParts⟩ := ih areMore
    refine ⟨part :: parts, .cons relatedPart relatedParts, ?_⟩
    rw [List.mapM_cons, isPart, areParts]
    rfl

private theorem exists_signatures {signatures : List (Signature α)} {others : List (Signature β)}
    (agree : Forall₂ (Signature.Agrees R) signatures others) {found : List (IndexSignature α)}
    (ok : signatures.mapM Signature.content = .ok found) :
    ∃ parts, Forall₂ R (found.flatMap IndexSignature.parts) parts ∧
      others.mapM Signature.content = .ok (IndexSignature.ofParts parts) := by
  induction agree generalizing found with
  | nil =>
    obtain rfl := Except.ok.inj ok
    exact ⟨[], .nil, rfl⟩
  | cons related _ ih =>
    rw [List.mapM_cons] at ok
    obtain ⟨first, isFirst, ok⟩ := bind_eq_ok.mp ok
    obtain ⟨more, areMore, ok⟩ := bind_eq_ok.mp ok
    obtain rfl := Except.ok.inj ok
    obtain ⟨parameter, isParameter, isFirst⟩ := bind_eq_ok.mp isFirst
    obtain ⟨type, isType, isFirst⟩ := bind_eq_ok.mp isFirst
    obtain rfl := Except.ok.inj isFirst
    obtain ⟨left, relatedLeft, isLeft⟩ := exists_required related.parameter isParameter
    obtain ⟨right, relatedRight, isRight⟩ := exists_required related.type isType
    obtain ⟨parts, relatedParts, areParts⟩ := ih areMore
    refine ⟨left :: right :: parts, .cons relatedLeft (.cons relatedRight relatedParts), ?_⟩
    rw [List.mapM_cons, Signature.content, isLeft, isRight, areParts]
    rfl

private theorem exists_elements {elements : List (Element α)} {others : List (Element β)}
    (agree : Forall₂ (Element.Agrees R) elements others) {found : List (SchemaOutline.Element α)}
    (ok : elements.mapM Element.content = .ok found) :
    ∃ parts, Forall₂ R (found.map SchemaOutline.Element.type) parts ∧
      others.mapM Element.content =
        .ok (List.zipWith SchemaOutline.Element.withType found parts) :=
  exists_contents (fun _ _ agrees _ ok => exists_element agrees ok) agree ok

/-- A body that agrees with another one says the same shape, with what is related to the parts in
their places. -/
theorem Body.shape_congr {definitions : List (String × Json)} {kind : Kind} {body : Body α}
    {other : Body β} (agrees : Body.Agrees R body other) {shape : Shape α}
    (ok : body.shape definitions kind = .ok shape) :
    ∃ parts fits, other.shape definitions kind = .ok (shape.refill parts fits) ∧
      Forall₂ R shape.parts parts := by
  cases kind with
  | struct =>
    obtain ⟨fields, areFields, ok⟩ := bind_eq_ok.mp ok
    obtain ⟨signatures, areSignatures, rfl⟩ := bind_pure_eq_ok.mp ok
    obtain ⟨types, relatedTypes, areTypes⟩ :=
      exists_contents (fun _ _ agrees _ ok => exists_field agrees ok) agrees.fields areFields
    obtain ⟨rules, relatedRules, areRules⟩ := exists_signatures agrees.signatures areSignatures
    have related : Forall₂ R (Shape.struct fields signatures).parts (types ++ rules) :=
      List.rel_append relatedTypes relatedRules
    have count : types.length = fields.length := by
      rw [← relatedTypes.length_eq, List.length_map]
    refine ⟨types ++ rules, related.length_eq.symm, ?_, related⟩
    rw [shape, areTypes, areRules, Shape.refill_struct count]
    rfl
  | tuple =>
    obtain ⟨elements, areElements, ok⟩ := bind_eq_ok.mp ok
    obtain ⟨rest, areRest, rfl⟩ := bind_pure_eq_ok.mp ok
    obtain ⟨types, relatedTypes, areTypes⟩ := exists_elements agrees.elements areElements
    obtain ⟨others, relatedOthers, areOthers⟩ := exists_elements agrees.rest areRest
    have related : Forall₂ R (Shape.tuple elements rest).parts (types ++ others) :=
      List.rel_append relatedTypes relatedOthers
    have count : types.length = elements.length := by
      rw [← relatedTypes.length_eq, List.length_map]
    refine ⟨types ++ others, related.length_eq.symm, ?_, related⟩
    rw [shape, areTypes, areOthers, Shape.refill_tuple count]
    rfl
  | union =>
    obtain rfl := Except.ok.inj ok
    exact ⟨other.types, agrees.types.length_eq.symm, rfl, agrees.types⟩
  | declaration =>
    obtain rfl := Except.ok.inj ok
    refine ⟨other.typeParameters, agrees.typeParameters.length_eq.symm, ?_, agrees.typeParameters⟩
    rw [shape, ← agrees.name]
    rfl
  | refinement =>
    obtain ⟨base, isBase, rfl⟩ := bind_pure_eq_ok.mp ok
    obtain ⟨part, related, isPart⟩ := exists_required agrees.source isBase
    refine ⟨[part], rfl, ?_, .cons related .nil⟩
    rw [shape, isPart, ← agrees.name]
    rfl
  | transformation =>
    obtain ⟨source, isSource, ok⟩ := bind_eq_ok.mp ok
    obtain ⟨target, isTarget, rfl⟩ := bind_pure_eq_ok.mp ok
    obtain ⟨left, relatedLeft, isLeft⟩ := exists_required agrees.source isSource
    obtain ⟨right, relatedRight, isRight⟩ := exists_required agrees.target isTarget
    refine ⟨[left, right], rfl, ?_, .cons relatedLeft (.cons relatedRight .nil)⟩
    rw [shape, isLeft, isRight]
    rfl
  | suspend =>
    obtain ⟨name, isName, ok⟩ := bind_eq_ok.mp ok
    rw [agrees.reference] at isName
    cases known : Json.lookup? definitions name with
    | none =>
      rw [known] at ok
      cases ok
    | some definition =>
      rw [known] at ok
      obtain rfl := Except.ok.inj ok
      refine ⟨[], rfl, bind_eq_ok.mpr ⟨name, isName, ?_⟩, .nil⟩
      rw [known]
      rfl
  | keyword word =>
    obtain rfl := Except.ok.inj ok
    exact ⟨[], rfl, rfl, .nil⟩
  | literal =>
    obtain ⟨value, isValue, rfl⟩ := bind_pure_eq_ok.mp ok
    refine ⟨[], rfl, ?_, .nil⟩
    rw [shape, ← agrees.literal, isValue]
    rfl
  | templateLiteral =>
    obtain ⟨pattern, isPattern, rfl⟩ := bind_pure_eq_ok.mp ok
    refine ⟨[], rfl, ?_, .nil⟩
    rw [shape, ← agrees.pattern, isPattern]
    rfl
  | enums =>
    obtain rfl := Except.ok.inj ok
    refine ⟨[], rfl, ?_, .nil⟩
    rw [shape, ← agrees.enums]
    rfl
  | uniqueSymbol =>
    obtain ⟨description, isDescription, rfl⟩ := bind_pure_eq_ok.mp ok
    refine ⟨[], rfl, ?_, .nil⟩
    rw [shape, ← agrees.description, isDescription]
    rfl

end SchemaOutline.Description
