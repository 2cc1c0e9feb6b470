import SchemaOutline.Annotations.Basic
import SchemaOutline.Schema.Kind

/-! Shapes of schemas, with anything in the places of inner schemas. -/

set_option autoImplicit false

namespace SchemaOutline

inductive Literal where
  | string (text : String)
  | number (value : Binary64)
  | boolean (value : Bool)
  | bigint (digits : String)
  | null
deriving DecidableEq, Repr, Inhabited

inductive PropertyKey where
  | name (text : String)
  | symbol (description : String)
deriving DecidableEq, Repr, Inhabited

def PropertyKey.text : PropertyKey → String
  | .name text => text
  | .symbol description => description

/-- A field of a struct. Its annotations are about the field, not about its type. -/
structure Field (α : Type) where
  key : PropertyKey
  type : α
  optional : Bool
  readonly : Bool
  annotations : Annotations

structure IndexSignature (α : Type) where
  parameter : α
  type : α

structure Element (α : Type) where
  type : α
  optional : Bool
  annotations : Annotations

/-- Code of a caller that finds a schema. A schema only names it and does not hold what it finds,
so a routine may find a schema in which it is suspended itself. -/
structure Routine where
  id : Nat
deriving DecidableEq, Repr, Inhabited

/-- How a suspended schema is found. -/
inductive Resolution where
  | routine (routine : Routine)
  | definition (table : List (String × Json)) (name : String)

/-- A schema that is looked up only on demand, with the name it goes by. -/
structure Suspension where
  label : Option String
  resolution : Resolution

inductive Leaf where
  | keyword (word : Keyword)
  | literal (value : Literal)
  | templateLiteral (pattern : String)
  | enums (members : List (String × Literal))
  | uniqueSymbol (description : String)
deriving DecidableEq, Repr, Inhabited

/-- What a schema is, apart from its annotations. -/
inductive Shape (α : Type) where
  | struct (fields : List (Field α)) (signatures : List (IndexSignature α))
  | union (members : List α)
  | tuple (elements rest : List (Element α))
  | refinement (name : Option String) (base : α)
  | transformation (source target : α)
  | declaration (name : Option String) (parameters : List α)
  | suspend (suspension : Suspension)
  | leaf (content : Leaf)

variable {α β : Type}

def Field.withType (field : Field α) (type : β) : Field β := { field with type }

def Element.withType (element : Element α) (type : β) : Element β := { element with type }

def IndexSignature.parts (signature : IndexSignature α) : List α :=
  [signature.parameter, signature.type]

def IndexSignature.ofParts : List β → List (IndexSignature β)
  | parameter :: type :: rest => ⟨parameter, type⟩ :: ofParts rest
  | _ => []

def Leaf.kind : Leaf → Kind
  | keyword word => .keyword word
  | literal _ => .literal
  | templateLiteral _ => .templateLiteral
  | enums _ => .enums
  | uniqueSymbol _ => .uniqueSymbol

namespace Shape

def kind : Shape α → Kind
  | struct _ _ => .struct
  | union _ => .union
  | tuple _ _ => .tuple
  | refinement _ _ => .refinement
  | transformation _ _ => .transformation
  | declaration _ _ => .declaration
  | suspend _ => .suspend
  | .leaf content => content.kind

def parts : Shape α → List α
  | struct fields signatures =>
    fields.map Field.type ++ signatures.flatMap IndexSignature.parts
  | union members => members
  | tuple elements rest => elements.map Element.type ++ rest.map Element.type
  | refinement _ base => [base]
  | transformation source target => [source, target]
  | declaration _ parameters => parameters
  | suspend _ | leaf _ => []

def arity : Shape α → Nat
  | struct fields signatures => fields.length + 2 * signatures.length
  | union members => members.length
  | tuple elements rest => elements.length + rest.length
  | refinement _ _ => 1
  | transformation _ _ => 2
  | declaration _ parameters => parameters.length
  | suspend _ | leaf _ => 0

/-- The same shape with other things in the places of inner schemas. -/
def refill (shape : Shape α) (filling : List β) (fits : filling.length = shape.parts.length) :
    Shape β :=
  match shape, filling, fits with
  | struct fields _, filling, _ =>
    struct (List.zipWith Field.withType fields filling)
      (IndexSignature.ofParts (filling.drop fields.length))
  | union _, filling, _ => union filling
  | tuple elements rest, filling, _ =>
    tuple (List.zipWith Element.withType elements filling)
      (List.zipWith Element.withType rest (filling.drop elements.length))
  | refinement name _, [base], _ => refinement name base
  | transformation _ _, [source, target], _ => transformation source target
  | declaration name _, filling, _ => declaration name filling
  | suspend suspension, _, _ => suspend suspension
  | .leaf content, _, _ => .leaf content

private theorem map_type_zipWith_field (fields : List (Field α)) (filling : List β)
    (fits : fields.length ≤ filling.length) :
    (List.zipWith Field.withType fields filling).map Field.type =
      filling.take fields.length := by
  induction fields generalizing filling with
  | nil => simp
  | cons field fields ih =>
    cases filling with
    | nil => simp at fits
    | cons type filling =>
      simp only [List.length_cons, Nat.add_le_add_iff_right] at fits
      simp [Field.withType, ih filling fits]

private theorem map_type_zipWith_element (elements : List (Element α)) (filling : List β)
    (fits : elements.length ≤ filling.length) :
    (List.zipWith Element.withType elements filling).map Element.type =
      filling.take elements.length := by
  induction elements generalizing filling with
  | nil => simp
  | cons element elements ih =>
    cases filling with
    | nil => simp at fits
    | cons type filling =>
      simp only [List.length_cons, Nat.add_le_add_iff_right] at fits
      simp [Element.withType, ih filling fits]

private theorem flatMap_parts_ofParts (count : Nat) (filling : List β)
    (fits : filling.length = 2 * count) :
    (IndexSignature.ofParts filling).flatMap IndexSignature.parts = filling := by
  induction count generalizing filling with
  | zero =>
    have empty : filling = [] := List.eq_nil_of_length_eq_zero (by omega)
    subst empty
    rfl
  | succ count ih =>
    match filling, fits with
    | parameter :: type :: rest, fits =>
      simp only [List.length_cons] at fits
      simp [IndexSignature.ofParts, IndexSignature.parts, ih rest (by omega)]

private theorem length_flatMap_parts (signatures : List (IndexSignature α)) :
    (signatures.flatMap IndexSignature.parts).length = 2 * signatures.length := by
  induction signatures with
  | nil => rfl
  | cons signature signatures ih =>
    simp only [List.flatMap_cons, List.length_append, ih, List.length_cons, IndexSignature.parts,
      List.length_nil]
    omega

theorem length_parts (shape : Shape α) : shape.parts.length = shape.arity := by
  cases shape with
  | struct fields signatures =>
    rw [parts, List.length_append, List.length_map, length_flatMap_parts]
    rfl
  | tuple elements rest =>
    rw [parts, List.length_append, List.length_map, List.length_map]
    rfl
  | _ => rfl

@[simp] theorem parts_refill (shape : Shape α) (filling : List β)
    (fits : filling.length = shape.parts.length) : (shape.refill filling fits).parts = filling := by
  match shape, filling, fits with
  | struct fields signatures, filling, fits =>
    simp only [parts, List.length_append, List.length_map, length_flatMap_parts] at fits
    simp only [refill, parts]
    rw [map_type_zipWith_field _ _ (by omega),
      flatMap_parts_ofParts signatures.length _ (by rw [List.length_drop]; omega),
      List.take_append_drop]
  | union _, filling, _ => rfl
  | tuple elements rest, filling, fits =>
    simp only [parts, List.length_append, List.length_map] at fits
    simp only [refill, parts]
    rw [map_type_zipWith_element _ _ (by omega),
      map_type_zipWith_element _ _ (by rw [List.length_drop]; omega),
      List.take_of_length_le (l := filling.drop elements.length)
        (by rw [List.length_drop]; omega), List.take_append_drop]
  | refinement name _, [base], _ => rfl
  | transformation _ _, [source, target], _ => rfl
  | declaration name _, filling, _ => rfl
  | suspend suspension, [], _ => rfl
  | .leaf content, [], _ => rfl

theorem kind_refill (shape : Shape α) (filling : List β)
    (fits : filling.length = shape.parts.length) :
    (shape.refill filling fits).kind = shape.kind := by
  match shape, filling, fits with
  | struct _ _, filling, _ => rfl
  | union _, filling, _ => rfl
  | tuple _ _, filling, _ => rfl
  | refinement _ _, [_], _ => rfl
  | transformation _ _, [_, _], _ => rfl
  | declaration _ _, filling, _ => rfl
  | suspend _, filling, _ => rfl
  | leaf _, filling, _ => rfl

private theorem sizeOf_lt_of_mem_map {γ : Type} [SizeOf α] [SizeOf γ] {part : α} {items : List γ}
    {view : γ → α} (smaller : ∀ item, sizeOf (view item) < sizeOf item)
    (member : part ∈ items.map view) : sizeOf part < sizeOf items := by
  obtain ⟨item, inside, rfl⟩ := List.mem_map.mp member
  exact Nat.lt_trans (smaller item) (List.sizeOf_lt_of_mem inside)

private theorem sizeOf_type_lt_field [SizeOf α] (field : Field α) :
    sizeOf field.type < sizeOf field := by
  cases field; simp +arith

private theorem sizeOf_type_lt_element [SizeOf α] (element : Element α) :
    sizeOf element.type < sizeOf element := by
  cases element; simp +arith

theorem sizeOf_lt_of_mem_parts [SizeOf α] {shape : Shape α} {part : α}
    (member : part ∈ shape.parts) : sizeOf part < sizeOf shape := by
  cases shape with
  | struct fields signatures =>
    rw [parts, List.mem_append] at member
    rcases member with inField | inSignature
    · have := sizeOf_lt_of_mem_map sizeOf_type_lt_field inField
      simp only [struct.sizeOf_spec]
      omega
    · obtain ⟨signature, inside, half⟩ := List.mem_flatMap.mp inSignature
      have outer := List.sizeOf_lt_of_mem inside
      have inner : sizeOf part < sizeOf signature := by
        cases signature
        simp only [IndexSignature.parts, List.mem_cons, List.not_mem_nil, or_false] at half
        rcases half with rfl | rfl <;> simp +arith
      simp only [struct.sizeOf_spec]
      omega
  | union members =>
    have : sizeOf part < sizeOf members := List.sizeOf_lt_of_mem member
    simp only [union.sizeOf_spec]
    omega
  | tuple elements rest =>
    rw [parts, List.mem_append] at member
    rcases member with inElement | inRest
    · have := sizeOf_lt_of_mem_map sizeOf_type_lt_element inElement
      simp only [tuple.sizeOf_spec]
      omega
    · have := sizeOf_lt_of_mem_map sizeOf_type_lt_element inRest
      simp only [tuple.sizeOf_spec]
      omega
  | refinement name base =>
    rw [parts, List.mem_singleton] at member
    subst member
    simp +arith
  | transformation source target =>
    simp only [parts, List.mem_cons, List.not_mem_nil, or_false] at member
    rcases member with rfl | rfl <;> simp +arith
  | declaration name parameters =>
    have : sizeOf part < sizeOf parameters := List.sizeOf_lt_of_mem member
    simp only [declaration.sizeOf_spec]
    omega
  | suspend suspension => simp [parts] at member
  | leaf content => simp [parts] at member

end Shape

end SchemaOutline
