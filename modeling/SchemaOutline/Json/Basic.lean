import SchemaOutline.Numeric.Binary64
import SchemaOutline.Traversal.Descent

/-! JSON values with ordered members, and the well-formed ones, whose member names are distinct. -/

set_option autoImplicit false

namespace SchemaOutline

inductive Json.Number where
  | int (value : Int)
  | float (value : Binary64)
deriving DecidableEq, Repr, Inhabited

inductive Json where
  | null
  | bool (value : Bool)
  | num (value : Json.Number)
  | str (value : String)
  | arr (items : List Json)
  | obj (members : List (String × Json))
deriving Inhabited, Repr

namespace Json

/-- The value of the first member with the given name. -/
def lookup? (members : List (String × Json)) (name : String) : Option Json :=
  members.lookup name

def get? : Json → String → Option Json
  | .obj members, name => lookup? members name
  | _, _ => none

def str? : Json → Option String
  | .str text => some text
  | _ => none

def children : Json → List Json
  | .arr items => items
  | .obj members => members.map Prod.snd
  | _ => []

mutual

def size : Json → Nat
  | .arr items => sizeItems items + 1
  | .obj members => sizeMembers members + 1
  | _ => 1

def sizeItems : List Json → Nat
  | [] => 0
  | item :: items => size item + sizeItems items

def sizeMembers : List (String × Json) → Nat
  | [] => 0
  | (_, value) :: members => size value + sizeMembers members

end

mutual

/-- The number of levels of a value: one, and one more than the deepest value inside it. -/
def depth : Json → Nat
  | .arr items => depthItems items + 1
  | .obj members => depthMembers members + 1
  | _ => 1

def depthItems : List Json → Nat
  | [] => 0
  | item :: items => max (depth item) (depthItems items)

def depthMembers : List (String × Json) → Nat
  | [] => 0
  | (_, value) :: members => max (depth value) (depthMembers members)

end

mutual

/-- Member names are distinct in every object. -/
def WellFormed : Json → Prop
  | .arr items => WellFormedItems items
  | .obj members => (members.map Prod.fst).Nodup ∧ WellFormedMembers members
  | _ => True

def WellFormedItems : List Json → Prop
  | [] => True
  | item :: items => WellFormed item ∧ WellFormedItems items

def WellFormedMembers : List (String × Json) → Prop
  | [] => True
  | (_, value) :: members => WellFormed value ∧ WellFormedMembers members

end

mutual

/-- Whether two values are equal when the order of object members does not count. Integers and
doubles are never equal; doubles compare as numbers. -/
def equivalent : Json → Json → Bool
  | .null, .null => true
  | .bool a, .bool b => a == b
  | .num (.int a), .num (.int b) => a == b
  | .num (.float a), .num (.float b) => a.agrees b
  | .str a, .str b => a == b
  | .arr items, .arr others => equivalentItems items others
  | .obj members, .obj others =>
    members.length == others.length && equivalentMembers members others
  | _, _ => false

def equivalentItems : List Json → List Json → Bool
  | [], [] => true
  | item :: items, other :: others => equivalent item other && equivalentItems items others
  | _, _ => false

def equivalentMembers : List (String × Json) → List (String × Json) → Bool
  | [], _ => true
  | (name, value) :: members, others =>
    match lookup? others name with
    | some other => equivalent value other && equivalentMembers members others
    | none => false

end

open Traversal in
theorem sizeItems_eq_totalWeight (items : List Json) :
    sizeItems items = totalWeight size items := by
  induction items with
  | nil => rfl
  | cons item items ih => rw [sizeItems, ih, totalWeight_cons]

open Traversal in
theorem sizeMembers_eq_totalWeight (members : List (String × Json)) :
    sizeMembers members = totalWeight size (members.map Prod.snd) := by
  induction members with
  | nil => rfl
  | cons member members ih => rw [sizeMembers, ih, List.map_cons, totalWeight_cons]

open Traversal in
theorem size_eq_totalWeight_children (v : Json) : v.size = totalWeight size v.children + 1 := by
  cases v with
  | arr items => rw [size, children, sizeItems_eq_totalWeight]
  | obj members => rw [size, children, sizeMembers_eq_totalWeight]
  | null => rfl
  | bool value => rfl
  | num value => rfl
  | str value => rfl

end Json

end SchemaOutline
