import SchemaOutline.Schema.Shape
import SchemaOutline.Traversal.Descent

/-! Schemas: shapes with annotations, and schemas again in the places of the shape. -/

set_option autoImplicit false

namespace SchemaOutline

/-- The description of a type. -/
inductive Schema where
  | mk (annotations : Annotations) (shape : Shape Schema)

namespace Schema

def annotations : Schema → Annotations
  | mk annotations _ => annotations

def shape : Schema → Shape Schema
  | mk _ shape => shape

@[simp] theorem annotations_mk (annotations : Annotations) (shape : Shape Schema) :
    (mk annotations shape).annotations = annotations := rfl

@[simp] theorem shape_mk (annotations : Annotations) (shape : Shape Schema) :
    (mk annotations shape).shape = shape := rfl

def ofShape (shape : Shape Schema) : Schema := mk .empty shape

instance : Inhabited Schema := ⟨ofShape (.leaf (.keyword .never))⟩

def kind (schema : Schema) : Kind := schema.shape.kind

def parts (schema : Schema) : List Schema := schema.shape.parts

def annotate (schema : Schema) (key : Annotations.Key) (value : Json) : Schema :=
  mk (schema.annotations.insert key value) schema.shape

def fields? (schema : Schema) : Option (List (Field Schema)) :=
  match schema.shape with
  | .struct fields _ => some fields
  | _ => none

def isStruct (schema : Schema) : Bool := schema.fields?.isSome

theorem sizeOf_lt_of_mem_parts {schema part : Schema} (member : part ∈ schema.parts) :
    sizeOf part < sizeOf schema := by
  obtain ⟨annotations, shape⟩ := schema
  have inner : sizeOf part < sizeOf shape := Shape.sizeOf_lt_of_mem_parts member
  simp only [mk.sizeOf_spec]
  omega

theorem induct {motive : Schema → Prop}
    (step : ∀ schema, (∀ part ∈ schema.parts, motive part) → motive schema) (schema : Schema) :
    motive schema :=
  step schema fun part _ => induct step part
termination_by sizeOf schema
decreasing_by exact sizeOf_lt_of_mem_parts ‹_›

def weight (schema : Schema) : Nat :=
  1 + Traversal.totalWeight (fun part => weight part.1) schema.parts.attach
termination_by sizeOf schema
decreasing_by exact sizeOf_lt_of_mem_parts part.2

open Traversal in
theorem weight_eq (schema : Schema) : schema.weight = 1 + totalWeight weight schema.parts := by
  rw [weight, totalWeight_attach]

open Traversal in
theorem totalWeight_parts_lt (schema : Schema) :
    totalWeight weight schema.parts < schema.weight := by
  have := schema.weight_eq
  omega

end Schema

end SchemaOutline
