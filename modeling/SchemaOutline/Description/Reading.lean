import SchemaOutline.Description.Basic
import SchemaOutline.Schema.Mismatch

/-! Reading descriptions from JSON, with records as objects or as arrays of their members. -/

set_option autoImplicit false

namespace SchemaOutline.Description

/-- A procedure for JSON values smaller than a bound. -/
abbrev Below (bound : Nat) (α : Type) : Type :=
  (value : Json) → value.size < bound → Except Mismatch α

variable {α ρ : Type} {bound : Nat}

def readText : Json → Except Mismatch String
  | .str text => .ok text
  | value => .error (.wrongSort value.brief .string)

def readFlag : Json → Except Mismatch Bool
  | .bool flag => .ok flag
  | value => .error (.wrongSort value.brief .boolean)

def readOptionalText : Json → Except Mismatch (Option String)
  | .null => .ok none
  | value => some <$> readText value

def readAnnotations : Json → Except Mismatch (Option (List (String × Json)))
  | .null => .ok none
  | .obj members => .ok (some members)
  | value => .error (.wrongSort value.brief .map)

/-- Reads a literal. Any number stands for the nearest double, and a big integer is an object that
holds its digits. -/
def readLiteral : Json → Except Mismatch Literal
  | .null => .ok .null
  | .bool value => .ok (.boolean value)
  | .num (.int value) => .ok (.number (Binary64.ofInt value))
  | .num (.float value) => .ok (.number value)
  | .str text => .ok (.string text)
  | .obj members =>
    match Json.lookup? members "bigint" with
    | some (.str digits) => .ok (.bigint digits)
    | _ => .error .notLiteral
  | .arr _ => .error .notLiteral

def readPair : Json → Except Mismatch (String × Literal)
  | .arr [] => .error (.shortPair 0)
  | .arr (first :: others) => do
    let name ← readText first
    match others with
    | [] => .error (.shortPair 1)
    | second :: more =>
      let literal ← readLiteral second
      if more.isEmpty then pure (name, literal) else .error (.excess (more.length + 2))
  | value => .error (.wrongSort value.brief .pair)

def readOptional (read : Below bound α) : Below bound (Option α)
  | .null, _ => .ok none
  | value, small => some <$> read value small

open Traversal in
theorem size_lt_of_mem_items {value : Json} {items : List Json} (member : value ∈ items) :
    value.size < (Json.arr items).size := by
  have : value.size ≤ totalWeight Json.size items := weight_le_totalWeight_of_mem member
  rw [Json.size, Json.sizeItems_eq_totalWeight]
  exact Nat.lt_succ_of_le this

open Traversal in
theorem size_lt_of_mem_members {member : String × Json} {members : List (String × Json)}
    (inside : member ∈ members) : member.2.size < (Json.obj members).size := by
  have : member.2.size ≤ totalWeight Json.size (members.map Prod.snd) :=
    weight_le_totalWeight_of_mem (List.mem_map_of_mem inside)
  rw [Json.size, Json.sizeMembers_eq_totalWeight]
  exact Nat.lt_succ_of_le this

def readList (read : Below bound α) : Below bound (List α)
  | .arr items, small =>
    items.attach.mapM fun item =>
      read item.1 (Nat.lt_trans (size_lt_of_mem_items item.2) small)
  | value, _ => .error (.wrongSort value.brief .sequence)

/-- The members of a record by name, from an object or from an array that lists them in the given
order. -/
def slots? (names : List String) : Json → Option (List (String × Json))
  | .obj members => some members
  | .arr items => some (names.zip items)
  | _ => none

theorem size_lt_of_mem_slots? {names : List String} {value : Json} {slots : List (String × Json)}
    {slot : String × Json} (found : slots? names value = some slots) (member : slot ∈ slots) :
    slot.2.size < value.size := by
  cases value with
  | obj members =>
    obtain rfl : members = slots := Option.some.inj found
    exact size_lt_of_mem_members member
  | arr items =>
    obtain rfl : names.zip items = slots := Option.some.inj found
    exact size_lt_of_mem_items (List.of_mem_zip member).2
  | _ => cases found

def excess? (names : List String) : Json → Option Nat
  | .arr items => if names.length < items.length then some items.length else none
  | _ => none

/-- Reads a record by writing its members one after the other into a blank one. -/
def readRecord (names : List String) (expected : Expected) (blank : ρ) (value : Json)
    (write : ρ → String → Below value.size ρ) : Except Mismatch ρ :=
  match found : slots? names value with
  | none => .error (.wrongSort value.brief expected)
  | some slots => do
    let record ← slots.attach.foldlM
      (fun record slot => write record slot.1.1 slot.1.2 (size_lt_of_mem_slots? found slot.2)) blank
    match excess? names value with
    | some length => .error (.excess length)
    | none => pure record

def Field.names : List String := ["name", "symbol", "type", "optional", "readonly", "annotations"]

def Field.write (read : Below bound α) (field : Field α) (name : String) : Below bound (Field α) :=
  fun value small =>
    match name with
    | "name" => do return { field with name := ← readOptionalText value }
    | "symbol" => do return { field with symbol := ← readOptionalText value }
    | "type" => do return { field with type := ← readOptional read value small }
    | "optional" => do return { field with optional := ← readFlag value }
    | "readonly" => do return { field with readonly := ← readFlag value }
    | "annotations" => do return { field with annotations := ← readAnnotations value }
    | _ => .ok field

def Field.read (read : Below bound α) : Below bound (Field α) := fun value small =>
  readRecord names .field blank value fun field name member smaller =>
    field.write read name member (Nat.lt_trans smaller small)

def Signature.names : List String := ["parameter", "type"]

def Signature.write (read : Below bound α) (signature : Signature α) (name : String) :
    Below bound (Signature α) := fun value small =>
  match name with
  | "parameter" => do return { signature with parameter := ← readOptional read value small }
  | "type" => do return { signature with type := ← readOptional read value small }
  | _ => .ok signature

def Signature.read (read : Below bound α) : Below bound (Signature α) := fun value small =>
  readRecord names .signature blank value fun signature name member smaller =>
    signature.write read name member (Nat.lt_trans smaller small)

def Element.names : List String := ["type", "optional", "annotations"]

def Element.write (read : Below bound α) (element : Element α) (name : String) :
    Below bound (Element α) := fun value small =>
  match name with
  | "type" => do return { element with type := ← readOptional read value small }
  | "optional" => do return { element with optional := ← readFlag value }
  | "annotations" => do return { element with annotations := ← readAnnotations value }
  | _ => .ok element

def Element.read (read : Below bound α) : Below bound (Element α) := fun value small =>
  readRecord names .element blank value fun element name member smaller =>
    element.write read name member (Nat.lt_trans smaller small)

def Body.write (read : Below bound α) (body : Body α) (name : String) : Below bound (Body α) :=
  fun value small =>
    match name with
    | "annotations" => do return { body with annotations := ← readAnnotations value }
    | "fields" => do return { body with fields := ← readList (Field.read read) value small }
    | "indexSignatures" => do
      return { body with signatures := ← readList (Signature.read read) value small }
    | "types" => do return { body with types := ← readList read value small }
    | "elements" => do return { body with elements := ← readList (Element.read read) value small }
    | "rest" => do return { body with rest := ← readList (Element.read read) value small }
    | "from" => do return { body with source := ← readOptional read value small }
    | "to" => do return { body with target := ← readOptional read value small }
    | "typeParameters" => do return { body with typeParameters := ← readList read value small }
    | "name" => do return { body with name := ← readOptionalText value }
    | "literal" => do return { body with literal := some (← readLiteral value) }
    | "pattern" => do return { body with pattern := ← readOptionalText value }
    | "enums" => do
      return { body with enums := ← readList (fun pair _ => readPair pair) value small }
    | "description" => do return { body with description := ← readOptionalText value }
    | "ref" => do return { body with reference := ← readOptionalText value }
    | _ => .ok body

/-- A description that is being read. -/
structure Draft (α : Type) where
  tag : Option String
  body : Body α

def Draft.blank : Draft α := ⟨none, .blank⟩

def Draft.names : List String :=
  ["_tag", "annotations", "fields", "indexSignatures", "types", "elements", "rest", "from", "to",
    "typeParameters", "name", "literal", "pattern", "enums", "description", "ref"]

def Draft.write (read : Below bound α) (draft : Draft α) (name : String) :
    Below bound (Draft α) := fun value small =>
  match name with
  | "_tag" => do return { draft with tag := some (← readText value) }
  | name => do return { draft with body := ← draft.body.write read name value small }

def withoutTag : Json → Mismatch
  | .arr _ => .emptyNode
  | _ => .missingTag

def read (value : Json) : Except Mismatch Description := do
  let draft ← readRecord Draft.names .node Draft.blank value
    (Draft.write fun inner (_ : inner.size < value.size) => read inner)
  match draft.tag with
  | some tag => pure (mk tag draft.body)
  | none => .error (withoutTag value)
termination_by value.size

end SchemaOutline.Description
