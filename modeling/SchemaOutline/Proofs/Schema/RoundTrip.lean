import SchemaOutline.Proofs.Description.Agreement
import SchemaOutline.Proofs.Schema.Describing
import SchemaOutline.Proofs.Schema.References

/-! Decoding the description of a schema gives the schema back. -/

set_option autoImplicit false
set_option relaxedAutoImplicit false

namespace SchemaOutline

open List (Forall₂)
open Description

variable {table : List (String × Json)}

namespace Shape

variable {α β : Type}

theorem parts_referring_subset (table : List (String × Json)) (shape : Shape α) :
    (shape.referring table).parts ⊆ shape.parts := by
  cases shape with
  | suspend suspension => exact List.nil_subset _
  | _ => exact List.Subset.refl _

theorem referring_refill (table : List (String × Json)) (shape : Shape α) (put : α → β) :
    (shape.refill (shape.parts.map put) (List.length_map _)).referring table =
      (shape.referring table).refill ((shape.referring table).parts.map put)
        (List.length_map _) := by
  cases shape <;> rfl

private theorem of_mem_zipWith {γ δ : Type} {motive : δ → Prop} {put : γ → α → δ} {items : List γ}
    {filling : List α} (each : ∀ item ∈ items, ∀ part, motive (put item part)) :
    ∀ item ∈ List.zipWith put items filling, motive item := by
  induction items generalizing filling with
  | nil => simp
  | cons item items ih =>
    cases filling with
    | nil => simp
    | cons part filling =>
      rw [List.zipWith_cons_cons, List.forall_mem_cons]
      exact ⟨each item List.mem_cons_self part,
        ih fun other inside => each other (List.mem_cons_of_mem item inside)⟩

theorem Describable.refill {shape : Shape α} (describable : shape.Describable table)
    (filling : List β) (fits : filling.length = shape.parts.length) :
    (shape.refill filling fits).Describable table := by
  match shape, filling, fits with
  | struct fields _, filling, _ =>
    exact of_mem_zipWith fun field inside _ => describable field inside
  | union _, _, _ => trivial
  | tuple elements rest, filling, _ =>
    obtain ⟨first, others⟩ := List.forall_mem_append.mp describable
    refine List.forall_mem_append.mpr ⟨?_, ?_⟩
    · exact of_mem_zipWith fun element inside _ => first element inside
    · exact of_mem_zipWith fun element inside _ => others element inside
  | refinement _ _, [_], _ => trivial
  | transformation _ _, [_, _], _ => trivial
  | declaration _ _, _, _ => trivial
  | suspend _, _, _ => exact describable
  | .leaf _, _, _ => trivial

end Shape

namespace Schema

/-- The same schema, where everything that is suspended is referred to by its label in a table. -/
def referring (table : List (String × Json)) (schema : Schema) : Schema :=
  .mk schema.annotations ((schema.shape.referring table).refill
    ((schema.shape.referring table).parts.attach.map fun part => referring table part.1)
    (by rw [List.length_map, List.length_attach]))
termination_by sizeOf schema
decreasing_by exact sizeOf_lt_of_mem_parts (Shape.parts_referring_subset table _ part.2)

theorem referring_eq (table : List (String × Json)) (schema : Schema) :
    schema.referring table = .mk schema.annotations ((schema.shape.referring table).refill
      ((schema.shape.referring table).parts.map (referring table)) (List.length_map _)) := by
  rw [referring]
  exact congrArg _ (Shape.refill_congr _ (List.attach_map_val ..) _)

/-- Everything in a schema, apart from what is suspended, can be described under a table. -/
inductive Describable (table : List (String × Json)) : Schema → Prop
  | intro {schema : Schema} (own : schema.annotations.Plain)
      (shape : schema.shape.Describable table)
      (parts : ∀ part ∈ (schema.shape.referring table).parts, Describable table part) :
      Describable table schema

private theorem referring_describedShape (table : List (String × Json)) (schema : Schema) :
    schema.describedShape.referring table =
      (schema.shape.referring table).refill ((schema.shape.referring table).parts.map describe)
        (List.length_map _) :=
  Shape.referring_refill table schema.shape describe

private theorem shape_describe {schema : Schema} (own : schema.shape.Describable table) :
    (Body.ofJson schema.describe).shape table schema.kind =
      .ok (schema.describedShape.referring table) := by
  have objects : ∀ part ∈ schema.describedShape.parts, ∃ members, part = .obj members := by
    rw [parts_describedShape]
    intro part inside
    obtain ⟨inner, _, rfl⟩ := List.mem_map.mp inside
    exact ⟨_, inner.describe_eq⟩
  have describable : schema.describedShape.Describable table := own.refill _ (List.length_map _)
  rw [describe_eq, ← kind_describedShape]
  exact Shape.shape_members describable objects _ _

private theorem split_of_agrees {schema : Schema} (plain : schema.annotations.Plain)
    {description : Description} {shape : Shape Description}
    (tag : description.tag = tagOf schema.describe)
    (annotations : (Body.ofJson schema.describe).annotations = description.body.annotations)
    (isShape : description.body.shape table schema.kind = .ok shape) :
    description.split table = .ok (schema.annotations, shape) := by
  rw [describe_eq] at tag annotations
  rw [split, tag, Shape.tagOf_members, Kind.ofName?_name]
  change (description.body.shape table schema.kind >>= _) = _
  rw [isShape, ← annotations]
  change Except.ok (annotationsOf _, shape) = _
  rw [Shape.annotations_members _ _ plain]

theorem convert_of_agrees {schema : Schema} (describable : Describable table schema)
    {description : Description} (tag : description.tag = tagOf schema.describe)
    (agrees : Body.Agrees (fun inner found => read inner = .ok found)
      (Body.ofJson schema.describe) description.body) :
    description.convert table = .ok (schema.referring table) := by
  induction schema using Schema.induct generalizing description with
  | step schema ih =>
    obtain ⟨plain, own, inner⟩ := describable
    obtain ⟨found, fits, isShape, related⟩ := Body.shape_congr agrees (shape_describe own)
    have isSplit := split_of_agrees plain tag agrees.annotations isShape
    -- What is read in the places of the parts is converted into the parts.
    have each : ∀ part ∈ (schema.shape.referring table).parts, ∀ description,
        read part.describe = .ok description →
          description.convert table = .ok (part.referring table) := by
      intro part inside description isRead
      obtain ⟨tag, agrees⟩ := agrees_of_read isRead
      exact ih part (Shape.parts_referring_subset table _ inside) (inner part inside) tag agrees
    rw [referring_describedShape, Shape.parts_refill, List.forall₂_map_left_iff] at related
    have converted : found.mapM (Description.convert table) =
        .ok ((schema.shape.referring table).parts.map (referring table)) := by
      rw [mapM_eq_ok_iff, List.forall₂_map_right_iff]
      have both := (List.forall₂_and_left _ _).mpr ⟨each, related⟩
      exact (both.imp fun part description holds => holds.1 description holds.2).flip
    -- Of the descriptions that filled the shape, and of what was read from them, nothing is left.
    rw [convert_of_ok isSplit, Shape.traverse_eq_ok (by rwa [Shape.parts_refill])
      (by rw [Shape.parts_refill, List.length_map, ← related.length_eq]), referring_eq]
    simp only [referring_describedShape, Shape.refill_refill]
    rfl

theorem referring_of_grounded {schema : Schema} (grounded : Grounded table schema) :
    schema.referring table = schema := by
  induction schema using Schema.induct with
  | step schema ih =>
    have same : schema.shape.referring table = schema.shape := by
      cases isShape : schema.shape with
      | suspend suspension =>
        have suspends : schema.suspension? = some suspension := by
          rw [suspension?, isShape]
        obtain ⟨name, definition, _, rfl⟩ := grounded.own suspends
        rfl
      | _ => rfl
    have parts : (schema.shape.referring table).parts.map (referring table) =
        (schema.shape.referring table).parts := by
      refine (List.map_congr_left fun part inside => ?_).trans (List.map_id _)
      have isPart := Shape.parts_referring_subset table _ inside
      exact ih part isPart (grounded.part isPart)
    obtain ⟨annotations, shape⟩ := schema
    rw [referring_eq, Shape.refill_congr _ parts, Shape.refill_parts]
    exact congrArg (mk annotations) same

/-! ### Documents -/

private theorem definitions_describeUnder (table : List (String × Json)) (schema : Schema) :
    definitions (schema.describeUnder table) = .ok table := by
  have found : (schema.describeUnder table).get? "$defs" = some (.obj table) := by
    rw [describeUnder, describe_eq]
    exact schema.describedShape.lookup?_definitions _ _ _
  rw [definitions, found]

private theorem exists_read_describeUnder (table : List (String × Json)) (schema : Schema) :
    ∃ description, read (schema.describeUnder table) = .ok description ∧
      description.tag = tagOf schema.describe ∧
      Body.Agrees (fun inner found => read inner = .ok found) (Body.ofJson schema.describe)
        description.body := by
  have unknown : "$defs" ∉ Record.node.names := by decide
  have hasForm := schema.hasForm_describe
  rw [describeUnder]
  rw [describe_eq] at hasForm ⊢
  obtain ⟨description, isRead⟩ := (read_ok_iff _).mpr (hasForm.append_unknown unknown (.obj table))
  have agrees := agrees_of_read isRead
  rw [ofJson_append_unknown unknown, tagOf_append_unknown unknown] at agrees
  exact ⟨description, isRead, agrees⟩

/-- Decoding the description of a schema gives the schema, with references to the table for what is
suspended. -/
theorem decode_describeUnder {schema : Schema}
    (defined : ∀ definition ∈ table, ∃ target, decodeUnder table definition.2 = .ok target)
    (describable : Describable table schema)
    (shallow : (schema.describeUnder table).depth ≤ nestingLimit) :
    decode (schema.describeUnder table) = .ok (schema.referring table) ∧
      (Grounded table schema → decode (schema.describeUnder table) = .ok schema) := by
  obtain ⟨description, isRead, tag, agrees⟩ := exists_read_describeUnder table schema
  have decoded : decode (schema.describeUnder table) = .ok (schema.referring table) := by
    rw [decode, ofJson_eq_ok_iff.mpr ⟨shallow, isRead⟩, definitions_describeUnder]
    change (checkDefinitions table >>= fun _ => description.toSchema table) = _
    rw [checkDefinitions_eq_ok_iff.mpr defined, Conversion.toSchema_eq_convert]
    exact convert_of_agrees describable tag agrees
  refine ⟨decoded, fun grounded => ?_⟩
  rw [decoded, referring_of_grounded grounded]

namespace Friends

def people : List (String × Json) := [("Person", person)]

def circle : Schema :=
  .mk (Annotations.empty.insert .title (.str "Circle")) (.struct
    [⟨.name "founder", .ofShape (.suspend ⟨some "Person", .routine ⟨0⟩⟩), false, true, .empty⟩,
      ⟨.symbol "size", .ofShape (.leaf (.literal (.bigint "12"))), true, false,
        Annotations.empty.insert (.custom "unit") .null⟩] [])

private theorem decodes_people :
    ∀ definition ∈ people, ∃ target, decodeUnder people definition.2 = .ok target := by
  intro definition inside
  obtain rfl := List.mem_singleton.mp inside
  exact ⟨personSchema, by cbv⟩

private theorem describable_circle : Describable people circle := by
  have title : (Annotations.empty.insert .title (.str "Circle")).Plain := by
    apply Annotations.plain_empty.insert
    intro name same
    cases same
  have unit : (Annotations.empty.insert (.custom "unit") .null).Plain := by
    apply Annotations.plain_empty.insert
    intro name same
    cases same
    decide
  have founder : Describable people (.ofShape (.suspend ⟨some "Person", .routine ⟨0⟩⟩)) :=
    ⟨Annotations.plain_empty, ⟨"Person", rfl, rfl⟩, nofun⟩
  have size : Describable people (.ofShape (.leaf (.literal (.bigint "12")))) :=
    ⟨Annotations.plain_empty, trivial, nofun⟩
  refine ⟨title, ?fields, ?parts⟩
  case fields =>
    exact List.forall_mem_cons.mpr ⟨Annotations.plain_empty, List.forall_mem_singleton.mpr unit⟩
  case parts => exact List.forall_mem_cons.mpr ⟨founder, List.forall_mem_singleton.mpr size⟩

private theorem depth_circle : (circle.describeUnder people).depth ≤ nestingLimit := by
  cbv

/-- The circle comes back from its description, with a reference to the founder. -/
theorem circle_comes_back :
    (∀ definition ∈ people, ∃ target, decodeUnder people definition.2 = .ok target) ∧
    Describable people circle ∧ (circle.describeUnder people).depth ≤ nestingLimit ∧
    decode (circle.describeUnder people) = .ok (circle.referring people) :=
  ⟨decodes_people, describable_circle, depth_circle,
    (decode_describeUnder decodes_people describable_circle depth_circle).1⟩

end Friends

end Schema

end SchemaOutline
