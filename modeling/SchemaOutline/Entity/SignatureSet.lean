/-! Sets of signatures as ascending lists without repetitions. -/

set_option autoImplicit false

namespace SchemaOutline

/-- A set of signatures. -/
@[ext]
structure SignatureSet where
  signatures : List String
  ascending : signatures.Pairwise (· < ·)

namespace SignatureSet

def dropRepeated : List String → List String
  | [] => []
  | [a] => [a]
  | a :: b :: rest => if a = b then dropRepeated (b :: rest) else a :: dropRepeated (b :: rest)

theorem mem_dropRepeated {a : String} {texts : List String} :
    a ∈ dropRepeated texts ↔ a ∈ texts := by
  fun_induction dropRepeated texts with
  | case1 => rfl
  | case2 => rfl
  | case3 b rest ih => simp [ih]
  | case4 b c rest _ ih => simp [ih]

theorem pairwise_dropRepeated {texts : List String} (sorted : texts.Pairwise (· ≤ ·)) :
    (dropRepeated texts).Pairwise (· < ·) := by
  fun_induction dropRepeated texts with
  | case1 => exact List.Pairwise.nil
  | case2 => exact List.pairwise_singleton ..
  | case3 b rest ih => exact ih sorted.of_cons
  | case4 b c rest different ih =>
    refine List.pairwise_cons.mpr ⟨?_, ih sorted.of_cons⟩
    intro d member
    rw [mem_dropRepeated] at member
    have first : b < c :=
      Std.lt_of_le_of_ne (List.rel_of_pairwise_cons sorted (by simp)) different
    rcases List.mem_cons.mp member with rfl | later
    · exact first
    · exact Std.lt_of_lt_of_le first (List.rel_of_pairwise_cons sorted.of_cons later)

def sort (texts : List String) : List String := texts.mergeSort fun a b => decide (a ≤ b)

theorem pairwise_sort (texts : List String) : (sort texts).Pairwise (· ≤ ·) := by
  have sorted : (sort texts).Pairwise fun a b => decide (a ≤ b) = true :=
    List.pairwise_mergeSort (fun a b c => by simpa using String.le_trans)
      (fun a b => by simpa using String.le_total a b) texts
  exact sorted.imp (by simp)

def ofList (texts : List String) : SignatureSet :=
  ⟨dropRepeated (sort texts), pairwise_dropRepeated (pairwise_sort texts)⟩

def size (set : SignatureSet) : Nat := set.signatures.length

@[simp] theorem mem_ofList {a : String} {texts : List String} :
    a ∈ (ofList texts).signatures ↔ a ∈ texts := by
  rw [ofList, mem_dropRepeated]
  exact List.mem_mergeSort

end SignatureSet

end SchemaOutline
