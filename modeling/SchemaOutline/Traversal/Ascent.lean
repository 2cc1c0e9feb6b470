import SchemaOutline.Traversal.Descent

/-! Post-order traversal without a call stack, equal to the plain recursion. -/

set_option autoImplicit false

namespace SchemaOutline.Traversal

variable {α β γ : Type} {m : Type → Type}

/-- A way to work out items of type `α` through heads of type `β`, with results of type `γ`. -/
structure Ascent (m : Type → Type) (α β γ : Type) where
  weight : α → Nat
  parts : β → List α
  /-- Takes an item apart. The parts together weigh less than the item. -/
  expand : (a : α) → m { head : β // totalWeight weight (parts head) < weight a }
  combine : (head : β) → (results : List γ) → results.length = (parts head).length → m γ

structure Waiting (parts : β → List α) (γ : Type) where
  head : β
  done : List γ
  todo : List α
  /-- Exactly one part is neither done nor to do. -/
  balanced : done.length + 1 + todo.length = (parts head).length

def waitingWeight (weight : α → Nat) {parts : β → List α} (stack : List (Waiting parts γ)) : Nat :=
  totalWeight (fun waiting => 2 * totalWeight weight waiting.todo + 1) stack

@[simp] theorem waitingWeight_cons (weight : α → Nat) {parts : β → List α}
    (waiting : Waiting parts γ) (stack : List (Waiting parts γ)) :
    waitingWeight weight (waiting :: stack) =
      2 * totalWeight weight waiting.todo + 1 + waitingWeight weight stack := rfl

/-- Goes on with a head of which the parts `done` are worked out and the parts `todo` are not,
below the waiting heads of `stack`. -/
@[specialize]
def ascendFrom [Monad m] (ascent : Ascent m α β γ) (stack : List (Waiting ascent.parts γ))
    (head : β) (done : List γ) (todo : List α)
    (balanced : done.length + todo.length = (ascent.parts head).length) : m γ :=
  match todo with
  | part :: rest => do
    let inner ← ascent.expand part
    ascendFrom ascent
      (⟨head, done, rest, by simp only [List.length_cons] at balanced; omega⟩ :: stack)
      inner.1 [] (ascent.parts inner.1) (by simp)
  | [] => do
    let result ← ascent.combine head done.reverse (by simpa using balanced)
    match stack with
    | [] => pure result
    | waiting :: others =>
      ascendFrom ascent others waiting.head (result :: waiting.done)
        waiting.todo (by have := waiting.balanced; simp only [List.length_cons]; omega)
termination_by waitingWeight ascent.weight stack + 2 * totalWeight ascent.weight todo
decreasing_by
  · have := inner.2
    simp only [waitingWeight_cons, totalWeight_cons]
    omega
  · simp only [waitingWeight_cons, totalWeight_nil]
    omega

@[specialize]
def ascend [Monad m] (ascent : Ascent m α β γ) (item : α) : m γ := do
  let head ← ascent.expand item
  ascendFrom ascent [] head.1 [] (ascent.parts head.1) (by simp)

def ascendList [Monad m] (items : List α) (solve : (a : α) → a ∈ items → m γ) :
    m { results : List γ // results.length = items.length } :=
  match items with
  | [] => pure ⟨[], rfl⟩
  | a :: rest => do
    let result ← solve a (by simp)
    let others ← ascendList rest fun b member => solve b (by simp [member])
    pure ⟨result :: others.1, by simp [others.2]⟩

/-- The result of an item, by recursion on its parts. -/
def ascendInto [Monad m] (ascent : Ascent m α β γ) (item : α) : m γ := do
  let head ← ascent.expand item
  let results ← ascendList (ascent.parts head.1) fun part _ => ascendInto ascent part
  ascent.combine head.1 results.1 results.2
termination_by ascent.weight item
decreasing_by
  have := @weight_le_totalWeight_of_mem _ ascent.weight _ _ ‹_ ∈ ascent.parts head.1›
  have := head.2
  omega

theorem ascendList_eq_map (items : List α) (solve : α → Id γ) :
    (ascendList items fun item _ => solve item).run.1 = items.map fun item => (solve item).run := by
  induction items with
  | nil => rfl
  | cons item items ih => exact congrArg ((solve item).run :: ·) ih

private theorem combine_congr (ascent : Ascent m α β γ) (head : β) {results others : List γ}
    (same : results = others) (length : results.length = (ascent.parts head).length) :
    ascent.combine head results length = ascent.combine head others (same ▸ length) := by
  subst same
  rfl

private def resumeWaiting [Monad m] (ascent : Ascent m α β γ)
    (stack : List (Waiting ascent.parts γ)) (result : γ) : m γ :=
  match stack with
  | [] => pure result
  | waiting :: others =>
    ascendFrom ascent others waiting.head (result :: waiting.done)
      waiting.todo (by have := waiting.balanced; simp only [List.length_cons]; omega)

private theorem ascendFrom_nil [Monad m] (ascent : Ascent m α β γ)
    (stack : List (Waiting ascent.parts γ)) (head : β) (done : List γ)
    (balanced : done.length + ([] : List α).length = (ascent.parts head).length) :
    ascendFrom ascent stack head done [] balanced =
      (do
        let result ← ascent.combine head done.reverse (by rw [List.length_reverse]; exact balanced)
        resumeWaiting ascent stack result) := by
  rw [ascendFrom]
  rfl

private theorem ascendFrom_eq_ascendList [Monad m] [LawfulMonad m] (ascent : Ascent m α β γ)
    (bound : Nat) (stack : List (Waiting ascent.parts γ)) (head : β) (done : List γ)
    (todo : List α) (balanced : done.length + todo.length = (ascent.parts head).length)
    (bounded : waitingWeight ascent.weight stack + 2 * totalWeight ascent.weight todo < bound) :
    ascendFrom ascent stack head done todo balanced =
      (do
        let results ← ascendList todo fun part _ => ascendInto ascent part
        let result ← ascent.combine head (done.reverse ++ results.1)
          (by simp [results.2, balanced])
        resumeWaiting ascent stack result) := by
  induction bound generalizing stack head done todo with
  | zero => omega
  | succ bound ih =>
    cases todo with
    | nil =>
      rw [ascendFrom_nil]
      simp only [ascendList, pure_bind]
      rw [combine_congr ascent head (List.append_nil done.reverse).symm]
    | cons part rest =>
      rw [ascendFrom, ascendList, ascendInto]
      simp only [bind_assoc, pure_bind]
      congr
      funext inner
      have lighter := inner.2
      simp only [totalWeight_cons] at bounded
      rw [ih _ _ _ _ _ (by simp only [waitingWeight_cons]; omega)]
      congr
      funext results
      change (do
        let result ← ascent.combine inner.1 results.1 _
        resumeWaiting ascent (_ :: stack) result) = _
      congr
      funext result
      rw [resumeWaiting, ih _ _ _ _ _ (by dsimp only; omega)]
      congr
      funext others
      rw [combine_congr ascent head (by simp : _ = done.reverse ++ result :: others.1)]

/-- The traversal computes what the recursion on parts computes, with the same effects. -/
theorem ascend_eq_ascendInto [Monad m] [LawfulMonad m] (ascent : Ascent m α β γ) (item : α) :
    ascend ascent item = ascendInto ascent item := by
  rw [ascend, ascendInto]
  congr
  funext head
  rw [ascendFrom_eq_ascendList ascent _ _ _ _ _ _ (Nat.lt_succ_self _)]
  congr
  funext results
  exact bind_pure _

end SchemaOutline.Traversal
