/-! Pre-order traversal without a call stack, equal to the plain recursion. -/

set_option autoImplicit false

namespace SchemaOutline.Traversal

variable {α σ : Type}

def totalWeight (weight : α → Nat) (items : List α) : Nat :=
  items.foldr (fun item total => weight item + total) 0

@[simp] theorem totalWeight_nil (weight : α → Nat) : totalWeight weight [] = 0 := rfl

@[simp] theorem totalWeight_cons (weight : α → Nat) (a : α) (items : List α) :
    totalWeight weight (a :: items) = weight a + totalWeight weight items := rfl

@[simp] theorem totalWeight_append (weight : α → Nat) (items others : List α) :
    totalWeight weight (items ++ others) =
      totalWeight weight items + totalWeight weight others := by
  induction items with
  | nil => rw [List.nil_append, totalWeight_nil, Nat.zero_add]
  | cons a items ih => rw [List.cons_append, totalWeight_cons, totalWeight_cons, ih, Nat.add_assoc]

@[simp] theorem totalWeight_map {β : Type} (weight : α → Nat) (view : β → α) (items : List β) :
    totalWeight weight (items.map view) = totalWeight (fun item => weight (view item)) items := by
  rw [totalWeight, List.foldr_map]
  rfl

theorem totalWeight_perm {weight : α → Nat} {items others : List α} (same : items.Perm others) :
    totalWeight weight items = totalWeight weight others := by
  induction same with
  | nil => rfl
  | cons a _ ih => rw [totalWeight_cons, totalWeight_cons, ih]
  | swap a b _ =>
    simp only [totalWeight_cons]
    omega
  | trans _ _ first second => exact first.trans second

theorem totalWeight_attach (weight : α → Nat) (items : List α) :
    totalWeight (fun item => weight item.1) items.attach = totalWeight weight items := by
  rw [← totalWeight_map, List.attach_map_subtype_val]

theorem flatMap_attach {β : Type} (items : List α) (view : α → List β) :
    (items.attach.flatMap fun item => view item.1) = items.flatMap view := by
  rw [List.flatMap_def, List.flatMap_def]
  exact congrArg List.flatten List.attach_map_val

theorem weight_le_totalWeight_of_mem {weight : α → Nat} {a : α} {items : List α}
    (member : a ∈ items) : weight a ≤ totalWeight weight items := by
  induction items with
  | nil => cases member
  | cons b items ih =>
    rw [totalWeight_cons]
    rcases List.mem_cons.mp member with rfl | tail
    · omega
    · have := ih tail
      omega

theorem totalWeight_le_of_sublist {weight : α → Nat} {items others : List α}
    (sub : List.Sublist items others) : totalWeight weight items ≤ totalWeight weight others := by
  induction sub with
  | slnil => simp
  | cons a _ ih => simp only [totalWeight_cons]; omega
  | cons_cons a _ ih => simp only [totalWeight_cons]; omega

structure Visit (weight : α → Nat) (σ : Type) (a : α) where
  state : σ
  /-- The successors of the item, in the order they are to be visited. -/
  next : List α
  lighter : totalWeight weight next < weight a

@[specialize]
def descend (weight : α → Nat) (visit : σ → (a : α) → Visit weight σ a) (state : σ)
    (pending : List α) : σ :=
  match pending with
  | [] => state
  | a :: rest =>
    match visit state a with
    | ⟨reached, next, _⟩ => descend weight visit reached (next ++ rest)
termination_by totalWeight weight pending
decreasing_by
  simp only [totalWeight_cons, totalWeight_append]
  omega

/-- Visits one item and then, by recursion, everything below it. -/
def descendInto (weight : α → Nat) (visit : σ → (a : α) → Visit weight σ a) (state : σ)
    (a : α) : σ :=
  match visit state a with
  | ⟨reached, next, _⟩ =>
    next.attach.foldl (fun state successor => descendInto weight visit state successor.1) reached
termination_by weight a
decreasing_by
  have := @weight_le_totalWeight_of_mem _ weight _ _ successor.2
  omega

theorem descendInto_eq (weight : α → Nat) (visit : σ → (a : α) → Visit weight σ a) (state : σ)
    (a : α) : descendInto weight visit state a =
      (visit state a).next.foldl (descendInto weight visit) (visit state a).state := by
  rw [descendInto]
  exact List.foldl_attach

/-- The traversal is the recursion on each pending item in turn. -/
theorem descend_eq_foldl (weight : α → Nat) (visit : σ → (a : α) → Visit weight σ a) (state : σ)
    (pending : List α) : descend weight visit state pending =
      pending.foldl (descendInto weight visit) state := by
  fun_induction descend weight visit state pending with
  | case1 state => rfl
  | case2 state a rest reached next lighter visited ih =>
    rw [ih, List.foldl_append, List.foldl_cons, descendInto_eq, visited]

end SchemaOutline.Traversal
