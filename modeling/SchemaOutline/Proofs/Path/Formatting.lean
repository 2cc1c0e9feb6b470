import Mathlib.Data.List.Nodup
import Std.Data.String.ToNat
import SchemaOutline.Outline.Node
import SchemaOutline.Proofs.Entity.Stamping

/-! Formatted paths of legible segments can be taken apart again. -/

set_option autoImplicit false
set_option relaxedAutoImplicit false

namespace SchemaOutline

namespace Path

/-- A formatted path shows where such a text begins and where it ends. -/
def Plain (text : String) : Prop := text ≠ "" ∧ '.' ∉ text.toList

instance (text : String) : Decidable (Plain text) := inferInstanceAs (Decidable (_ ∧ _))

theorem format_ne_empty {first : String} (texts : List String) (there : first ≠ "") :
    format (first :: texts) ≠ "" := by
  rw [format]
  cases texts with
  | nil =>
    rw [String.intercalate_singleton]
    exact there
  | cons second texts =>
    rw [String.intercalate_cons_cons, String.append_assoc]
    exact fun same => there (String.append_eq_empty_iff.mp same).1

private theorem splitOn_format {texts : List String} (plain : ∀ text ∈ texts, Plain text)
    (some : texts ≠ []) : (format texts).toList.splitOn '.' = texts.map String.toList := by
  rw [format, String.toList_intercalate]
  refine List.splitOn_intercalate '.' ?_ (by simpa using some)
  intro chars inside
  obtain ⟨text, isText, rfl⟩ := List.mem_map.mp inside
  exact (plain text isText).2

/-- Plain texts can be read off the path that they form. -/
theorem eq_of_format_eq {texts others : List String} (plain : ∀ text ∈ texts, Plain text)
    (plainOthers : ∀ text ∈ others, Plain text) (same : format texts = format others) :
    texts = others := by
  cases texts with
  | nil =>
    cases others with
    | nil => rfl
    | cons other others =>
      exact absurd same.symm (format_ne_empty others (plainOthers other List.mem_cons_self).1)
  | cons text texts =>
    cases others with
    | nil => exact absurd same (format_ne_empty texts (plain text List.mem_cons_self).1)
    | cons other others =>
      apply List.map_injective_iff.mpr fun _ _ => String.toList_injective
      rw [← splitOn_format plain (List.cons_ne_nil _ _), same,
        splitOn_format plainOthers (List.cons_ne_nil _ _)]

theorem plain_append_toString {lead : String} (plain : Plain lead) (number : Nat) :
    Plain (lead ++ toString number) := by
  constructor
  · exact fun empty => plain.1 (String.append_eq_empty_iff.mp empty).1
  · rw [String.toList_append, List.mem_append]
    rintro (inLead | inNumber)
    · exact plain.2 inLead
    · have digit := Nat.isDigit_of_mem_toDigits (by decide) (by decide)
        (show '.' ∈ Nat.toDigits 10 number by simpa using inNumber)
      exact absurd digit (by decide)

end Path

theorem PropertyKey.text_segment (key : PropertyKey) : key.segment.text = key.text := by
  cases key <;> rfl

namespace Segment

theorem ofKey_or_plain (segment : Segment) :
    (∃ key : PropertyKey, segment = key.segment) ∨ Path.Plain segment.text := by
  cases segment with
  | key name => exact .inl ⟨.name name, rfl⟩
  | symbol description => exact .inl ⟨.symbol description, rfl⟩
  | index position => exact .inr (Path.plain_append_toString (by decide) position)
  | union position => exact .inr (Path.plain_append_toString (by decide) position)
  | tuple position => exact .inr (Path.plain_append_toString (by decide) position)
  | rest position => exact .inr (Path.plain_append_toString (by decide) position)
  | typeParameter position => exact .inr (Path.plain_append_toString (by decide) position)
  | source => exact .inr (by decide)
  | target => exact .inr (by decide)

end Segment

private theorem nodup_numbered (lead : String) (count : Nat) :
    ((List.range count).map fun position => some (lead ++ toString position)).Nodup := by
  apply List.nodup_range.map
  intro position other same
  exact Nat.repr_inj.mp ((String.append_right_inj lead).mp (Option.some.inj same))

def Node.pathTexts {C : Type} (node : Node C) : List String := node.path.segments.map Segment.text

theorem Node.pathTexts_of_path_child {C : Type} {node above : Node C} {segment : Segment}
    (longer : node.path = above.path.child segment) :
    node.pathTexts = above.pathTexts ++ [segment.text] := by
  rw [pathTexts, longer, Path.segments_child, List.map_append, List.map_singleton]
  rfl

namespace Link

theorem map_segment_numbered (segment : Nat → Segment) (targets : List Schema) :
    (numbered segment targets).map Link.segment =
      (List.range targets.length).map fun position => some (segment position) := by
  apply List.ext_getElem
  · simp [numbered]
  · intro position _ _
    simp [numbered]

theorem map_segment_ofElements (segment : Nat → Segment) (elements : List (Element Schema)) :
    (ofElements segment elements).map Link.segment =
      (List.range elements.length).map fun position => some (segment position) := by
  apply List.ext_getElem
  · simp [ofElements]
  · intro position _ _
    simp [ofElements]

end Link

namespace Schema

def segments (schema : Schema) : List (Option Segment) :=
  match schema.shape with
  | .struct fields signatures =>
    (fields.map fun field => some field.key.segment) ++
      (List.range signatures.length).map fun position => some (.index position)
  | .union members => (List.range members.length).map fun position => some (.union position)
  | .tuple elements rest =>
    ((List.range elements.length).map fun position => some (.tuple position)) ++
      (List.range rest.length).map fun position => some (.rest position)
  | .refinement _ _ => [none]
  | .transformation _ _ => [some .source, some .target]
  | .declaration _ parameters =>
    (List.range parameters.length).map fun position => some (.typeParameter position)
  | .suspend _ | .leaf _ => []

theorem map_segment_links (schema : Schema) : schema.links.map Link.segment = schema.segments := by
  unfold links segments
  cases schema.shape with
  | struct fields signatures =>
    rw [List.map_append, List.map_map, Link.map_segment_numbered, List.length_map]
    rfl
  | union members => exact Link.map_segment_numbered _ _
  | tuple elements rest =>
    rw [List.map_append, Link.map_segment_ofElements, Link.map_segment_ofElements]
  | declaration name parameters => exact Link.map_segment_numbered _ _
  | refinement name base => rfl
  | transformation source target => rfl
  | suspend suspension => rfl
  | leaf content => rfl

theorem segments_of_refinement {schema : Schema} (refines : schema.kind = .refinement) :
    schema.segments = [none] := by
  unfold kind at refines
  unfold segments
  cases isShape : schema.shape with
  | refinement name base => rfl
  | leaf content =>
    rw [isShape] at refines
    cases content <;> cases refines
  | _ =>
    rw [isShape] at refines
    cases refines

theorem exists_field_of_mem_segments {schema : Schema} {key : PropertyKey}
    (inside : some key.segment ∈ schema.segments) :
    ∃ field ∈ schema.fields, field.key.segment = key.segment := by
  unfold segments at inside
  cases isShape : schema.shape with
  | struct fields signatures =>
    rw [isShape, List.mem_append, List.mem_map] at inside
    rcases inside with ⟨field, isField, same⟩ | isIndex
    · exact ⟨field, fields_of_shape isShape ▸ isField, Option.some.inj same⟩
    · cases key <;> simp [PropertyKey.segment] at isIndex
  | _ => cases key <;> simp [isShape, PropertyKey.segment] at inside

theorem nodup_texts_of_not_isStruct {schema : Schema} (other : schema.isStruct = false) :
    (schema.segments.map (Option.map Segment.text)).Nodup := by
  unfold segments
  cases isShape : schema.shape with
  | struct fields signatures =>
    rw [isStruct_of_shape isShape] at other
    cases other
  | union members =>
    rw [List.map_map]
    exact nodup_numbered "union_" members.length
  | tuple elements rest =>
    rw [List.map_append, List.map_map, List.map_map]
    refine List.nodup_append.mpr ⟨nodup_numbered "tuple_" _, nodup_numbered "rest_" _, ?_⟩
    intro text inElements further inRest same
    obtain ⟨position, _, rfl⟩ := List.mem_map.mp inElements
    obtain ⟨place, _, rfl⟩ := List.mem_map.mp inRest
    have chars := congrArg String.toList (Option.some.inj same)
    simp [Segment.text] at chars
  | declaration name parameters =>
    rw [List.map_map]
    exact nodup_numbered "typeParameter_" parameters.length
  | refinement name base => exact List.nodup_singleton _
  | transformation source target => simp [Segment.text]
  | suspend suspension => exact List.nodup_nil
  | leaf content => exact List.nodup_nil

/-- Formatted paths can be read: every key of a field is written in a plain text, and below a struct
no two segments have one text. The same holds of whatever the links lead to. -/
inductive Legible : Schema → Prop
  | intro {schema : Schema} (keys : ∀ field ∈ schema.fields, Path.Plain field.key.text)
      (distinct : schema.isStruct = true →
        (schema.links.map fun link => link.segment.map Segment.text).Nodup)
      (targets : ∀ link ∈ schema.links, Legible link.target) : Legible schema

namespace Legible

variable {schema : Schema} {link other : Link}

theorem target (legible : schema.Legible) (leads : link ∈ schema.links) : link.target.Legible := by
  cases legible with
  | intro _ _ targets => exact targets link leads

theorem plain (legible : schema.Legible) (leads : link ∈ schema.links) {segment : Segment}
    (isSegment : link.segment = some segment) : Path.Plain segment.text := by
  have inside : some segment ∈ schema.segments := by
    rw [← isSegment, ← map_segment_links]
    exact List.mem_map_of_mem leads
  rcases segment.ofKey_or_plain with ⟨key, rfl⟩ | plain
  · obtain ⟨field, isField, same⟩ := exists_field_of_mem_segments inside
    cases legible with
    | intro keys _ _ =>
      rw [← same, PropertyKey.text_segment]
      exact keys field isField
  · exact plain

theorem nodup_texts (legible : schema.Legible) :
    (schema.links.map fun link => link.segment.map Segment.text).Nodup := by
  cases isStruct : schema.isStruct with
  | true =>
    cases legible with
    | intro _ distinct _ => exact distinct isStruct
  | false =>
    have distinct := nodup_texts_of_not_isStruct isStruct
    rw [← map_segment_links, List.map_map] at distinct
    exact distinct

end Legible

end Schema

end SchemaOutline
