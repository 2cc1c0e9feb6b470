import SchemaOutline.Json.Basic
import SchemaOutline.Traversal.Descent

/-! A check of how deeply a JSON value nests, without a call stack. -/

set_option autoImplicit false

namespace SchemaOutline.Json

open Traversal

/-- A value with the level it is on. -/
structure Placed where
  value : Json
  level : Nat

namespace Placed

def inside (placed : Placed) : List Placed :=
  placed.value.children.map fun value => ⟨value, placed.level + 1⟩

def totalSize (pending : List Placed) : Nat :=
  totalWeight (fun placed => placed.value.size) pending

theorem totalSize_lt_of_perm {placed : Placed} {rest pending next : List Placed}
    (taken : pending.Perm (placed :: rest)) (goesOn : next.Perm (placed.inside ++ rest)) :
    totalSize next < totalSize pending := by
  have children : totalWeight (fun inner => inner.value.size) placed.inside =
      totalWeight size placed.value.children := by
    rw [inside, totalWeight_map]
  have whole := size_eq_totalWeight_children placed.value
  rw [totalSize, totalSize, totalWeight_perm taken, totalWeight_perm goesOn, totalWeight_append,
    totalWeight_cons, children]
  omega

def allWithin (limit : Nat) (pending : List Placed) : Bool :=
  match pending with
  | [] => true
  | placed :: rest =>
    if limit < placed.level then false else allWithin limit (placed.inside.reverse ++ rest)
termination_by totalSize pending
decreasing_by
  exact totalSize_lt_of_perm (.refl _) ((List.reverse_perm _).append_right rest)

end Placed

/-- Whether a value has no more levels than the given number. -/
def nestsWithin (value : Json) (limit : Nat) : Bool := Placed.allWithin limit [⟨value, 1⟩]

end SchemaOutline.Json
