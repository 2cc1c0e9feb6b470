import Mathlib.Data.List.Forall2

/-! Results whose error is the first entry of a list of faults. -/

set_option autoImplicit false
set_option relaxedAutoImplicit false

namespace SchemaOutline

variable {α β ε : Type}

/-- Whether a result tells of a list of faults: the first is its error, and it has none exactly if
there is a value. -/
def Reports (result : Except ε α) (faults : List ε) : Prop :=
  match result with
  | .ok _ => faults = []
  | .error cause => faults.head? = some cause

namespace Reports

theorem error_iff {result : Except ε α} {faults : List ε} (reports : Reports result faults)
    (cause : ε) : result = .error cause ↔ faults.head? = some cause := by
  cases result with
  | ok value =>
    obtain rfl : faults = [] := reports
    simp
  | error found =>
    have first : faults.head? = some found := reports
    rw [first]
    simp

theorem ok_iff {result : Except ε α} {faults : List ε} (reports : Reports result faults) :
    (∃ value, result = .ok value) ↔ faults = [] := by
  cases result with
  | ok value =>
    obtain rfl : faults = [] := reports
    simp
  | error found =>
    have first : faults.head? = some found := reports
    constructor
    · rintro ⟨value, same⟩
      cases same
    · rintro rfl
      cases first

theorem append_error {faults others : List ε} {cause : ε}
    (reports : Reports (.error cause : Except ε α) faults) :
    Reports (.error cause : Except ε β) (faults ++ others) := by
  have first : faults.head? = some cause := reports
  show (faults ++ others).head? = some cause
  rw [List.head?_append, first]
  rfl

theorem bind {result : Except ε α} {next : α → Except ε β} {first others : List ε}
    (reports : Reports result first)
    (follow : ∀ value, result = .ok value → Reports (next value) others) :
    Reports (result >>= next) (first ++ others) := by
  cases result with
  | ok value =>
    obtain rfl : first = [] := reports
    exact follow value rfl
  | error cause => exact reports.append_error

theorem bind_pure {result : Except ε α} {next : α → Except ε β} {faults : List ε}
    (reports : Reports result faults)
    (follow : ∀ value, result = .ok value → Reports (next value) []) :
    Reports (result >>= next) faults := by
  have both := reports.bind follow
  rwa [List.append_nil] at both

theorem mapM {items : List α} {solve : α → Except ε β} {faults : α → List ε}
    (each : ∀ item ∈ items, Reports (solve item) (faults item)) :
    Reports (items.mapM solve) (items.flatMap faults) := by
  induction items with
  | nil => rfl
  | cons item items ih =>
    rw [List.mapM_cons, List.flatMap_cons]
    apply Reports.bind (each item List.mem_cons_self)
    intro result _
    apply Reports.bind_pure (ih fun other inside => each other (List.mem_cons_of_mem item inside))
    intro results _
    rfl

theorem map {result : Except ε α} {faults : List ε} (reports : Reports result faults)
    (f : α → β) : Reports (f <$> result) faults := by
  cases result with
  | ok value => exact reports
  | error cause => exact reports

theorem mapError {γ : Type} {result : Except ε α} {faults : List ε}
    (reports : Reports result faults) (f : ε → γ) : Reports (result.mapError f) (faults.map f) := by
  cases result with
  | ok value =>
    obtain rfl : faults = [] := reports
    rfl
  | error cause =>
    have first : faults.head? = some cause := reports
    show (faults.map f).head? = some (f cause)
    rw [List.head?_map, first]
    rfl

theorem forM {check : α → Except ε PUnit} {items : List α} {faults : α → List ε}
    (each : ∀ item ∈ items, Reports (check item) (faults item)) :
    Reports (items.forM check) (items.flatMap faults) := by
  induction items with
  | nil => rfl
  | cons item items ih =>
    rw [List.flatMap_cons]
    show Reports (check item >>= fun _ => items.forM check) _
    apply Reports.bind (each item List.mem_cons_self)
    intro _ _
    exact ih fun other inside => each other (List.mem_cons_of_mem item inside)

theorem foldlM {step : β → α → Except ε β} {items : List α} {faults : α → List ε}
    (each : ∀ item ∈ items, ∀ state, Reports (step state item) (faults item)) (state : β) :
    Reports (items.foldlM step state) (items.flatMap faults) := by
  induction items generalizing state with
  | nil => rfl
  | cons item items ih =>
    rw [List.foldlM_cons, List.flatMap_cons]
    apply Reports.bind (each item List.mem_cons_self state)
    intro next _
    exact ih (fun other inside => each other (List.mem_cons_of_mem item inside)) next

end Reports

theorem foldlM_preserves {motive : List α → β → Prop} {step : β → α → Except ε β}
    (preserved : ∀ done item state next, motive done state → step state item = .ok next →
      motive (item :: done) next)
    {items done : List α} {state last : β} (holds : motive done state)
    (folded : items.foldlM step state = .ok last) : motive (items.reverse ++ done) last := by
  induction items generalizing done state with
  | nil =>
    obtain rfl := Except.ok.inj folded
    exact holds
  | cons item items ih =>
    rw [List.foldlM_cons] at folded
    cases stepped : step state item with
    | error cause =>
      rw [stepped] at folded
      cases folded
    | ok next =>
      rw [stepped] at folded
      rw [List.reverse_cons, List.append_assoc, List.singleton_append]
      exact ih (preserved done item state next holds stepped) folded

open List (Forall₂)

theorem mapM_eq_of_forall₂ {γ : Type} {m : Type → Type} [Monad m] [LawfulMonad m]
    {solve : α → m γ} {other : β → m γ} {items : List α} {others : List β}
    (same : Forall₂ (fun item part => solve item = other part) items others) :
    items.mapM solve = others.mapM other := by
  induction same with
  | nil => simp
  | cons first _ ih => rw [List.mapM_cons, List.mapM_cons, first, ih]

theorem foldlM_eq_of_forall₂ {γ : Type} {step : γ → α → Except ε γ} {other : γ → β → Except ε γ}
    {items : List α} {others : List β}
    (same : Forall₂ (fun item part => ∀ state, step state item = other state part) items others)
    (state : γ) : items.foldlM step state = others.foldlM other state := by
  induction same generalizing state with
  | nil => rfl
  | cons first _ ih =>
    rw [List.foldlM_cons, List.foldlM_cons, first]
    exact bind_congr ih

end SchemaOutline
