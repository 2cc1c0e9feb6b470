import SchemaOutline.Schema.Shape
import SchemaOutline.Traversal.Descent

/-! Descriptions of schemas, which have the same members for every kind. -/

set_option autoImplicit false

namespace SchemaOutline

namespace Description

structure Field (α : Type) where
  name : Option String
  symbol : Option String
  type : Option α
  optional : Bool
  readonly : Bool
  annotations : Option (List (String × Json))

structure Signature (α : Type) where
  parameter : Option α
  type : Option α

structure Element (α : Type) where
  type : Option α
  optional : Bool
  annotations : Option (List (String × Json))

/-- All members of a description but the name of its kind, with anything in the places of inner
descriptions. -/
structure Body (α : Type) where
  annotations : Option (List (String × Json))
  fields : List (Field α)
  signatures : List (Signature α)
  types : List α
  elements : List (Element α)
  rest : List (Element α)
  source : Option α
  target : Option α
  typeParameters : List α
  name : Option String
  literal : Option Literal
  pattern : Option String
  enums : List (String × Literal)
  description : Option String
  reference : Option String

variable {α : Type}

def Field.blank : Field α := ⟨none, none, none, false, false, none⟩

def Signature.blank : Signature α := ⟨none, none⟩

def Element.blank : Element α := ⟨none, false, none⟩

def Body.blank : Body α :=
  ⟨none, [], [], [], [], [], none, none, [], none, none, none, [], none, none⟩

def Signature.inner (signature : Signature α) : List α :=
  signature.parameter.toList ++ signature.type.toList

def Body.inner (body : Body α) : List α :=
  body.fields.filterMap Field.type ++ body.signatures.flatMap Signature.inner ++ body.types ++
    body.elements.filterMap Element.type ++ body.rest.filterMap Element.type ++
    body.source.toList ++ body.target.toList ++ body.typeParameters

private theorem sizeOf_lt_of_mem_filterMap {γ : Type} [SizeOf α] [SizeOf γ] {part : α}
    {items : List γ} {view : γ → Option α}
    (smaller : ∀ item part, view item = some part → sizeOf part < sizeOf item)
    (member : part ∈ items.filterMap view) : sizeOf part < sizeOf items := by
  obtain ⟨item, inside, found⟩ := List.mem_filterMap.mp member
  exact Nat.lt_trans (smaller item part found) (List.sizeOf_lt_of_mem inside)

private theorem sizeOf_lt_of_mem_toList [SizeOf α] {part : α} {item : Option α}
    (member : part ∈ item.toList) : sizeOf part < sizeOf item := by
  cases item with
  | none => cases member
  | some item =>
    rw [Option.toList_some, List.mem_singleton] at member
    subst member
    simp +arith

private theorem sizeOf_lt_of_mem_inner_signature [SizeOf α] {part : α} {signature : Signature α}
    (member : part ∈ signature.inner) : sizeOf part < sizeOf signature := by
  obtain ⟨parameter, type⟩ := signature
  simp only [Signature.mk.sizeOf_spec]
  rcases List.mem_append.mp member with left | right
  · have : sizeOf part < sizeOf parameter := sizeOf_lt_of_mem_toList left
    omega
  · have : sizeOf part < sizeOf type := sizeOf_lt_of_mem_toList right
    omega

private theorem sizeOf_type_lt_field [SizeOf α] (field : Field α) (part : α)
    (found : field.type = some part) : sizeOf part < sizeOf field := by
  cases field
  simp only at found
  subst found
  simp +arith

private theorem sizeOf_type_lt_element [SizeOf α] (element : Element α) (part : α)
    (found : element.type = some part) : sizeOf part < sizeOf element := by
  cases element
  simp only at found
  subst found
  simp +arith

theorem Body.sizeOf_lt_of_mem_inner [SizeOf α] {body : Body α} {part : α}
    (member : part ∈ body.inner) : sizeOf part < sizeOf body := by
  obtain ⟨annotations, fields, signatures, types, elements, rest, source, target, typeParameters,
    name, literal, pattern, enums, description, reference⟩ := body
  simp only [Body.inner, List.mem_append] at member
  simp only [Body.mk.sizeOf_spec]
  rcases member with ((((((inField | inSignature) | inType) | inElement) | inRest) | inSource) |
    inTarget) | inParameter
  · have := sizeOf_lt_of_mem_filterMap sizeOf_type_lt_field inField
    omega
  · obtain ⟨signature, inside, half⟩ := List.mem_flatMap.mp inSignature
    have := List.sizeOf_lt_of_mem inside
    have := sizeOf_lt_of_mem_inner_signature half
    omega
  · have := List.sizeOf_lt_of_mem inType
    omega
  · have := sizeOf_lt_of_mem_filterMap sizeOf_type_lt_element inElement
    omega
  · have := sizeOf_lt_of_mem_filterMap sizeOf_type_lt_element inRest
    omega
  · have : sizeOf part < sizeOf source := sizeOf_lt_of_mem_toList inSource
    omega
  · have : sizeOf part < sizeOf target := sizeOf_lt_of_mem_toList inTarget
    omega
  · have := List.sizeOf_lt_of_mem inParameter
    omega

end Description

/-- What a JSON document says about a schema. -/
inductive Description where
  | mk (tag : String) (body : Description.Body Description)

namespace Description

def tag : Description → String
  | mk tag _ => tag

def body : Description → Body Description
  | mk _ body => body

def inner (description : Description) : List Description := description.body.inner

theorem sizeOf_lt_of_mem_inner {description part : Description}
    (member : part ∈ description.inner) : sizeOf part < sizeOf description := by
  obtain ⟨tag, body⟩ := description
  have : sizeOf part < sizeOf body := Body.sizeOf_lt_of_mem_inner member
  simp only [mk.sizeOf_spec]
  omega

theorem induct {motive : Description → Prop}
    (step : ∀ description, (∀ part ∈ description.inner, motive part) → motive description)
    (description : Description) : motive description :=
  step description fun part _ => induct step part
termination_by sizeOf description
decreasing_by exact sizeOf_lt_of_mem_inner ‹_›

def weight (description : Description) : Nat :=
  1 + Traversal.totalWeight (fun part => weight part.1) description.inner.attach
termination_by sizeOf description
decreasing_by exact sizeOf_lt_of_mem_inner part.2

open Traversal in
theorem weight_eq (description : Description) :
    description.weight = 1 + totalWeight weight description.inner := by
  rw [weight, totalWeight_attach]

end Description

end SchemaOutline
