import SchemaOutline.Path.Basic
import SchemaOutline.Schema.Basic

/-! Links from a schema to the schemas below it. -/

set_option autoImplicit false

namespace SchemaOutline

def PropertyKey.segment : PropertyKey → Segment
  | .name text => .key text
  | .symbol description => .symbol description

/-- A step from a schema to one below it. -/
structure Link where
  segment : Option Segment
  /-- Annotations of the step; they override those of the target. -/
  annotations : Annotations
  target : Schema

namespace Link

def ofField (field : Field Schema) : Link :=
  ⟨some field.key.segment, field.annotations, field.type⟩

def numbered (segment : Nat → Segment) (targets : List Schema) : List Link :=
  targets.mapIdx fun position target => ⟨some (segment position), .empty, target⟩

def ofElements (segment : Nat → Segment) (elements : List (Element Schema)) : List Link :=
  elements.mapIdx fun position element =>
    ⟨some (segment position), element.annotations, element.type⟩

end Link

/-- The links of a schema, from left to right. -/
def Schema.links (schema : Schema) : List Link :=
  match schema.shape with
  | .struct fields signatures =>
    fields.map Link.ofField ++ Link.numbered .index (signatures.map IndexSignature.type)
  | .union members => Link.numbered .union members
  | .tuple elements rest => Link.ofElements .tuple elements ++ Link.ofElements .rest rest
  | .refinement _ base => [⟨none, .empty, base⟩]
  | .transformation source target =>
    [⟨some .source, .empty, source⟩, ⟨some .target, .empty, target⟩]
  | .declaration _ parameters => Link.numbered .typeParameter parameters
  | .suspend _ | .leaf _ => []

namespace Link

@[simp] theorem map_target_numbered (segment : Nat → Segment) (targets : List Schema) :
    (numbered segment targets).map target = targets := by
  apply List.ext_getElem? fun position => ?_
  simp [numbered, Function.comp_def]

@[simp] theorem map_target_ofElements (segment : Nat → Segment) (elements : List (Element Schema)) :
    (ofElements segment elements).map target = elements.map Element.type := by
  apply List.ext_getElem? fun position => ?_
  simp [ofElements, Function.comp_def]

end Link

private theorem map_type_sublist_flatMap_parts (signatures : List (IndexSignature Schema)) :
    (signatures.map IndexSignature.type).Sublist (signatures.flatMap IndexSignature.parts) := by
  induction signatures with
  | nil => exact List.Sublist.slnil
  | cons signature signatures ih =>
    rw [List.map_cons, List.flatMap_cons, IndexSignature.parts, List.cons_append]
    exact (ih.cons_cons _).cons _

theorem Schema.map_target_links_sublist_parts (schema : Schema) :
    (schema.links.map Link.target).Sublist schema.parts := by
  unfold links parts
  cases schema.shape with
  | struct fields signatures =>
    simp only [List.map_append, List.map_map, Link.map_target_numbered, Shape.parts]
    exact (List.Sublist.refl _).append (map_type_sublist_flatMap_parts signatures)
  | union members => simp [Shape.parts]
  | tuple elements rest => simp [Shape.parts]
  | refinement name base => simp [Shape.parts]
  | transformation source target => simp [Shape.parts]
  | declaration name parameters => simp [Shape.parts]
  | suspend suspension => simp
  | leaf content => simp

open Traversal in
theorem Schema.totalWeight_links_lt (schema : Schema) :
    totalWeight (fun link => weight link.target) schema.links < schema.weight := by
  have links : totalWeight (fun link => weight link.target) schema.links =
      totalWeight weight (schema.links.map Link.target) := by
    rw [totalWeight_map]
  have := @totalWeight_le_of_sublist _ weight _ _ schema.map_target_links_sublist_parts
  have := schema.totalWeight_parts_lt
  omega

end SchemaOutline
