import Mathlib.Logic.Relation
import SchemaOutline.Json.Nesting

/-! The walk that checks nesting answers whether a value stays within the limit. -/

set_option autoImplicit false
set_option relaxedAutoImplicit false

namespace SchemaOutline.Json

open Traversal

theorem size_lt_of_mem_children {value child : Json} (inside : child ∈ value.children) :
    child.size < value.size := by
  have single : child.size ≤ totalWeight size value.children := weight_le_totalWeight_of_mem inside
  have whole := value.size_eq_totalWeight_children
  omega

private theorem depthMembers_eq (members : List (String × Json)) :
    depthMembers members = depthItems (members.map Prod.snd) := by
  induction members with
  | nil => rfl
  | cons member members ih => rw [depthMembers, ih, List.map_cons, depthItems]

theorem depth_eq (value : Json) : value.depth = depthItems value.children + 1 := by
  cases value with
  | arr items => rw [depth, children]
  | obj members => rw [depth, children, depthMembers_eq]
  | null => rfl
  | bool value => rfl
  | num value => rfl
  | str text => rfl

private theorem depth_le_depthItems {child : Json} {values : List Json} (inside : child ∈ values) :
    child.depth ≤ depthItems values := by
  induction values with
  | nil => cases inside
  | cons value values ih =>
    rw [depthItems]
    rcases List.mem_cons.mp inside with rfl | later
    · exact Nat.le_max_left _ _
    · have bounded := ih later
      exact Nat.le_trans bounded (Nat.le_max_right _ _)

theorem depthItems_replaced (before after : List Json) {value other : Json}
    (same : other.depth = value.depth) :
    depthItems (before ++ other :: after) = depthItems (before ++ value :: after) := by
  induction before with
  | nil => rw [List.nil_append, List.nil_append, depthItems, depthItems, same]
  | cons first before ih => rw [List.cons_append, List.cons_append, depthItems, depthItems, ih]

theorem depth_lt_of_mem_children {value child : Json} (inside : child ∈ value.children) :
    child.depth < value.depth := by
  have bounded := depth_le_depthItems inside
  have whole := value.depth_eq
  omega

theorem depth_le_of_children {value : Json} {bound : Nat}
    (each : ∀ child ∈ value.children, child.depth ≤ bound) : value.depth ≤ bound + 1 := by
  have deepest (values : List Json) (each : ∀ value ∈ values, value.depth ≤ bound) :
      depthItems values ≤ bound := by
    induction values with
    | nil => exact Nat.zero_le bound
    | cons first values ih =>
      rw [depthItems]
      have here := each first List.mem_cons_self
      have later := ih fun other inside => each other (List.mem_cons_of_mem first inside)
      omega
  have inner := deepest value.children each
  rw [depth_eq]
  omega

def Inside : Json → Json → Prop := Relation.TransGen fun inner value => inner ∈ value.children

theorem Inside.size_lt {inner value : Json} (inside : Inside inner value) :
    inner.size < value.size := by
  induction inside with
  | single directly => exact size_lt_of_mem_children directly
  | tail _ directly ih => exact Nat.lt_trans ih (size_lt_of_mem_children directly)

theorem Inside.depth_lt {inner value : Json} (inside : Inside inner value) :
    inner.depth < value.depth := by
  induction inside with
  | single directly => exact depth_lt_of_mem_children directly
  | tail _ directly ih => exact Nat.lt_trans ih (depth_lt_of_mem_children directly)

/-! ### Walks -/

namespace Placed

/-- No value of a walk, and nothing inside one of them, is on a level below the given one. -/
def Fits (limit : Nat) (pending : List Placed) : Prop :=
  ∀ placed ∈ pending, placed.level + placed.value.depth ≤ limit + 1

/-- A walk takes one of its values, whichever, and goes on with what is inside it among the
others. -/
def Visits (limit : Nat) (pending next : List Placed) : Prop :=
  ∃ placed rest, pending.Perm (placed :: rest) ∧ placed.level ≤ limit ∧
    next.Perm (placed.inside ++ rest)

private theorem fits_perm {limit : Nat} {pending others : List Placed}
    (same : pending.Perm others) : Fits limit pending ↔ Fits limit others :=
  forall_congr' fun _ => imp_congr_left same.mem_iff

theorem fits_inside_iff {limit : Nat} (placed : Placed) :
    placed.level + placed.value.depth ≤ limit + 1 ↔
      placed.level ≤ limit ∧ Fits limit placed.inside := by
  have whole := placed.value.depth_eq
  constructor
  · intro fits
    refine ⟨by omega, fun inner inside => ?_⟩
    obtain ⟨child, isChild, rfl⟩ := List.mem_map.mp inside
    have below := depth_lt_of_mem_children isChild
    show placed.level + 1 + child.depth ≤ limit + 1
    omega
  · rintro ⟨reached, fits⟩
    have each : ∀ child ∈ placed.value.children, child.depth ≤ limit - placed.level := by
      intro child isChild
      have bound := fits ⟨child, placed.level + 1⟩ (List.mem_map_of_mem isChild)
      dsimp only at bound
      omega
    have bound := depth_le_of_children each
    omega

theorem Visits.fits_iff {limit : Nat} {pending next : List Placed}
    (visits : Visits limit pending next) : Fits limit next ↔ Fits limit pending := by
  obtain ⟨placed, rest, taken, shallow, goesOn⟩ := visits
  have own : placed.level + placed.value.depth ≤ limit + 1 ↔ Fits limit placed.inside :=
    (fits_inside_iff placed).trans (and_iff_right shallow)
  rw [fits_perm taken, fits_perm goesOn, Fits, List.forall_mem_append, Fits, List.forall_mem_cons,
    own]
  rfl

theorem wellFounded_visits (limit : Nat) :
    WellFounded fun next pending => Visits limit pending next := by
  refine Subrelation.wf ?_ (measure totalSize).wf
  rintro next pending ⟨placed, rest, taken, _, goesOn⟩
  exact totalSize_lt_of_perm taken goesOn

/-- What a walk finds out that takes its values in some order, and stops at the first one that is on
too deep a level. -/
inductive Walks (limit : Nat) : List Placed → Bool → Prop
  | ended : Walks limit [] true
  | tooDeep {pending rest : List Placed} {placed : Placed} (taken : pending.Perm (placed :: rest))
      (deep : limit < placed.level) : Walks limit pending false
  | goesOn {pending next : List Placed} {outcome : Bool} (visits : Visits limit pending next)
      (walks : Walks limit next outcome) : Walks limit pending outcome

/-- Whatever the order, a walk that comes to an end tells whether all keep to the limit. -/
theorem Walks.outcome_iff {limit : Nat} {pending : List Placed} {outcome : Bool}
    (walks : Walks limit pending outcome) : outcome = true ↔ Fits limit pending := by
  induction walks with
  | ended => exact iff_of_true rfl nofun
  | @tooDeep _ _ placed taken deep =>
    refine iff_of_false nofun fun fits => ?_
    have bound := fits placed (taken.mem_iff.mpr List.mem_cons_self)
    have positive := placed.value.depth_eq
    omega
  | goesOn visits _ ih => exact ih.trans visits.fits_iff

theorem walks_allWithin (limit : Nat) (pending : List Placed) :
    Walks limit pending (allWithin limit pending) := by
  fun_induction allWithin limit pending with
  | case1 => exact .ended
  | case2 placed rest deep => exact .tooDeep (.refl _) deep
  | case3 placed rest shallow ih =>
    exact .goesOn ⟨placed, rest, .refl _, Nat.not_lt.mp shallow,
      (List.reverse_perm _).append_right rest⟩ ih

theorem walks_iff {limit : Nat} {value : Json} {outcome : Bool} :
    Walks limit [⟨value, 1⟩] outcome ↔ (outcome = true ↔ value.depth ≤ limit) := by
  have fits : Fits limit [⟨value, 1⟩] ↔ value.depth ≤ limit := by
    rw [Fits, List.forall_mem_singleton]
    dsimp only
    omega
  constructor
  · intro walks
    exact walks.outcome_iff.trans fits
  · intro tells
    have walks := walks_allWithin limit [⟨value, 1⟩]
    have same : outcome = allWithin limit [⟨value, 1⟩] :=
      Bool.eq_iff_iff.mpr (tells.trans (walks.outcome_iff.trans fits).symm)
    exact same ▸ walks

end Placed

theorem nestsWithin_iff {value : Json} {limit : Nat} :
    value.nestsWithin limit = true ↔ value.depth ≤ limit := by
  exact Placed.walks_iff.mp (Placed.walks_allWithin limit [⟨value, 1⟩])

end SchemaOutline.Json
