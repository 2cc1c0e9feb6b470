import SchemaOutline.Proofs.Entity.Signatures
import SchemaOutline.Proofs.Schema.Sameness

/-! Links, signatures and stamps do not depend on what suspensions stand for. -/

set_option autoImplicit false
set_option relaxedAutoImplicit false

namespace SchemaOutline

open Traversal

variable {table : List (String × Json)}

/-! ### References, shape by shape -/

def Field.referring (table : List (String × Json)) (field : Field Schema) : Field Schema :=
  field.withType (field.type.referring table)

def Element.referring (table : List (String × Json)) (element : Element Schema) : Element Schema :=
  element.withType (element.type.referring table)

def IndexSignature.referring (table : List (String × Json)) (signature : IndexSignature Schema) :
    IndexSignature Schema :=
  ⟨signature.parameter.referring table, signature.type.referring table⟩

def Link.referring (table : List (String × Json)) (link : Link) : Link :=
  { link with target := link.target.referring table }

namespace Schema

private theorem zipWith_map_view {α β γ δ : Type} (put : α → γ → δ) (view : α → β) (change : β → γ)
    (items : List α) : List.zipWith put items ((items.map view).map change) =
      items.map fun item => put item (change (view item)) := by
  rw [List.map_map, List.zipWith_map_right, List.zipWith_self]
  rfl

private theorem ofParts_map_parts (signatures : List (IndexSignature Schema)) :
    IndexSignature.ofParts ((signatures.flatMap IndexSignature.parts).map (referring table)) =
      signatures.map (IndexSignature.referring table) := by
  induction signatures with
  | nil => rfl
  | cons signature signatures ih =>
    rw [List.map_cons, ← ih]
    rfl

theorem referring_struct (annotations : Annotations) (fields : List (Field Schema))
    (signatures : List (IndexSignature Schema)) :
    (mk annotations (.struct fields signatures)).referring table = mk annotations
      (.struct (fields.map (Field.referring table))
        (signatures.map (IndexSignature.referring table))) := by
  rw [referring_eq]
  simp only [shape_mk, Shape.referring, Shape.parts, List.map_append]
  rw [Shape.refill_struct (by simp), zipWith_map_view, ofParts_map_parts]
  rfl

theorem referring_tuple (annotations : Annotations) (elements rest : List (Element Schema)) :
    (mk annotations (.tuple elements rest)).referring table = mk annotations
      (.tuple (elements.map (Element.referring table)) (rest.map (Element.referring table))) := by
  rw [referring_eq]
  simp only [shape_mk, Shape.referring, Shape.parts, List.map_append]
  rw [Shape.refill_tuple (by simp), zipWith_map_view, zipWith_map_view]
  rfl

@[simp] theorem annotations_referring (schema : Schema) :
    (schema.referring table).annotations = schema.annotations := by
  rw [referring_eq]
  rfl

@[simp] theorem kind_referring (schema : Schema) :
    (schema.referring table).kind = schema.kind := by
  rw [referring_eq, kind, shape_mk, Shape.kind_refill, kind]
  cases schema.shape <;> rfl

/-! ### Links -/

private theorem numbered_map (segment : Nat → Segment) (targets : List Schema) :
    Link.numbered segment (targets.map (referring table)) =
      (Link.numbered segment targets).map (Link.referring table) := by
  apply List.ext_getElem? fun position => ?_
  simp [Link.numbered, Link.referring, Function.comp_def]

private theorem ofElements_map (segment : Nat → Segment) (elements : List (Element Schema)) :
    Link.ofElements segment (elements.map (Element.referring table)) =
      (Link.ofElements segment elements).map (Link.referring table) := by
  apply List.ext_getElem? fun position => ?_
  simp [Link.ofElements, Link.referring, Element.referring, Element.withType, Function.comp_def]

theorem links_referring (schema : Schema) :
    (schema.referring table).links = schema.links.map (Link.referring table) := by
  obtain ⟨annotations, shape⟩ := schema
  cases shape with
  | struct fields signatures =>
    have types : (signatures.map (IndexSignature.referring table)).map IndexSignature.type =
        (signatures.map IndexSignature.type).map (referring table) := by
      rw [List.map_map, List.map_map]
      rfl
    have first : (fields.map (Field.referring table)).map Link.ofField =
        (fields.map Link.ofField).map (Link.referring table) := by
      rw [List.map_map, List.map_map]
      rfl
    rw [referring_struct, links, links]
    simp only [shape_mk, first, types, numbered_map, List.map_append]
  | union members =>
    rw [referring_eq]
    exact numbered_map _ members
  | tuple elements rest =>
    rw [referring_tuple, links, links]
    simp only [shape_mk, ofElements_map, List.map_append]
  | declaration name parameters =>
    rw [referring_eq]
    exact numbered_map _ parameters
  | _ =>
    rw [referring_eq]
    rfl

theorem extent_referring (schema : Schema) : (schema.referring table).extent = schema.extent := by
  induction schema using induct_links with
  | step schema ih =>
    have same (links : List Link) (among : links ⊆ schema.links) :
        Link.extents (links.map (Link.referring table)) = Link.extents links := by
      induction links with
      | nil => rfl
      | cons link links others =>
        obtain ⟨inside, among⟩ := List.cons_subset.mp among
        rw [List.map_cons, Link.extents_cons, Link.extents_cons, others among]
        exact congrArg (· + _) (ih link inside)
    rw [extent_eq, extent_eq, links_referring, same _ (List.Subset.refl _)]

theorem starts_referring (first : NodeId) (links : List Link) :
    Link.starts first (links.map (Link.referring table)) = Link.starts first links := by
  induction links generalizing first with
  | nil => rfl
  | cons link links ih =>
    have extent : (link.referring table).target.extent = link.target.extent :=
      extent_referring link.target
    rw [List.map_cons, Link.starts, Link.starts, ih, extent]

/-! ### Signatures -/

theorem fields_referring (schema : Schema) :
    (schema.referring table).fields = schema.fields.map (Field.referring table) := by
  obtain ⟨annotations, shape⟩ := schema
  cases shape with
  | struct fields signatures =>
    rw [referring_struct]
    rfl
  | _ =>
    rw [referring_eq]
    rfl

theorem isStruct_referring (schema : Schema) :
    (schema.referring table).isStruct = schema.isStruct := by
  obtain ⟨annotations, shape⟩ := schema
  cases shape with
  | struct fields signatures =>
    rw [referring_struct]
    rfl
  | _ =>
    rw [referring_eq]
    rfl

theorem signaturesAt_referring (schema : Schema) (path : String) :
    (schema.referring table).signaturesAt path = schema.signaturesAt path := by
  induction schema using induct_fields generalizing path with
  | step schema ih =>
    have own : Signature.own? path (schema.referring table) = Signature.own? path schema := by
      rw [Signature.own?, Signature.own?, annotations_referring, kind_referring]
    have here : Signature.here path (schema.referring table) = Signature.here path schema := by
      show _ ++ (schema.referring table).fields.filterMap _ = _ ++ schema.fields.filterMap _
      rw [own, fields_referring, List.filterMap_map]
      rfl
    rw [signaturesAt_eq, signaturesAt_eq, here, fields_referring, List.flatMap_map]
    exact congrArg _ (List.flatMap_congr fun field inside => ih field inside _)

theorem signatures_referring (schema : Schema) :
    (schema.referring table).signatures = schema.signatures := by
  rw [signatures_eq, signatures_eq, signaturesAt_referring]

/-! ### Stamping -/

theorem stamp_referring (schema : Schema) (entity : EntityId) :
    (schema.referring table).stamp entity = (schema.stamp entity).referring table := by
  induction schema using induct_fields with
  | step schema ih =>
    obtain ⟨annotations, shape⟩ := schema
    cases isStruct : (mk annotations shape).isStruct with
    | false =>
      have other : ((mk annotations shape).referring table).isStruct = false := by
        rw [isStruct_referring, isStruct]
      rw [stamp_of_not_isStruct entity other, stamp_of_not_isStruct entity isStruct]
    | true =>
      obtain ⟨fields, signatures, rfl⟩ := exists_shape_of_isStruct isStruct
      rw [referring_struct, stamp_of_shape entity rfl, stamp_of_shape entity rfl, referring_struct,
        List.map_map, List.map_map]
      refine congrArg (fun filled => mk _ (.struct filled _)) (List.map_congr_left ?_)
      exact fun field inside => congrArg (field.stamped entity) (ih field inside)

/-- What is suspended in a schema, from left to right, without looking into it. -/
def suspensions (schema : Schema) : List Suspension :=
  match schema.suspension? with
  | some suspension => [suspension]
  | none => schema.parts.attach.flatMap fun part => suspensions part.1
termination_by sizeOf schema
decreasing_by exact sizeOf_lt_of_mem_parts part.2

theorem suspensions_struct (annotations : Annotations) (fields : List (Field Schema))
    (signatures : List (IndexSignature Schema)) :
    (mk annotations (.struct fields signatures)).suspensions =
      (fields.flatMap fun field => field.type.suspensions) ++
        (signatures.flatMap IndexSignature.parts).flatMap suspensions := by
  have noSuspension : (mk annotations (.struct fields signatures)).suspension? = none := rfl
  rw [suspensions, noSuspension]
  dsimp only
  rw [flatMap_attach, ← List.flatMap_map Field.type suspensions, ← List.flatMap_append]
  rfl

theorem suspensions_stamp (schema : Schema) (entity : EntityId) :
    (schema.stamp entity).suspensions = schema.suspensions := by
  induction schema using induct_fields with
  | step schema ih =>
    obtain ⟨annotations, shape⟩ := schema
    cases isStruct : (mk annotations shape).isStruct with
    | false => rw [stamp_of_not_isStruct entity isStruct]
    | true =>
      obtain ⟨fields, signatures, rfl⟩ := exists_shape_of_isStruct isStruct
      rw [stamp_of_shape entity rfl, suspensions_struct, suspensions_struct, List.flatMap_map]
      exact congrArg (· ++ _) (List.flatMap_congr ih)

end Schema

end SchemaOutline
