import SchemaOutline.Proofs.Annotations.Writing

/-! Keys and values of merged dictionaries, and the laws of merging that follow from them. -/

set_option autoImplicit false
set_option relaxedAutoImplicit false

namespace SchemaOutline.Annotations

theorem keys_insertAll (annotations : Annotations) {entries : List (Key × Json)}
    (distinct : (entries.map Prod.fst).Nodup) :
    (annotations.insertAll entries).keys =
      annotations.keys ++ (entries.map Prod.fst).filter (· ∉ annotations.keys) := by
  induction entries generalizing annotations with
  | nil => exact (List.append_nil _).symm
  | cons entry entries ih =>
    obtain ⟨absent, distinct⟩ := List.nodup_cons.mp distinct
    have later := ih (annotations.insert entry.1 entry.2) distinct
    -- The first key does not come again, so whether it is there by now makes no difference.
    have further : (entries.map Prod.fst).filter (· ∉ (annotations.insert entry.1 entry.2).keys) =
        (entries.map Prod.fst).filter (· ∉ annotations.keys) := by
      refine List.filter_congr fun key inside => decide_eq_decide.mpr (not_congr ?_)
      have differs : key ≠ entry.1 := fun same => absent (same ▸ inside)
      rw [keys_insert]
      split <;> simp [differs]
    rw [insertAll, List.foldl_cons]
    rw [insertAll, further, keys_insert] at later
    rw [later, List.map_cons, List.filter_cons]
    by_cases present : entry.1 ∈ annotations.keys <;> simp [present]

theorem keys_merged (annotations overrides : Annotations) :
    (annotations.merged overrides).keys =
      annotations.keys ++ overrides.keys.filter (· ∉ annotations.keys) :=
  annotations.keys_insertAll overrides.distinct

theorem mem_keys_merged {annotations overrides : Annotations} {key : Key} :
    key ∈ (annotations.merged overrides).keys ↔
      key ∈ annotations.keys ∨ key ∈ overrides.keys := by
  rw [keys_merged, List.mem_append, List.mem_filter, decide_eq_true_iff]
  tauto

theorem merged_assoc (first second third : Annotations) :
    (first.merged second).merged third = first.merged (second.merged third) := by
  refine eq_of_get? ?keys fun key => ?values
  case keys =>
    have last : third.keys.filter (· ∉ (first.merged second).keys) =
        (third.keys.filter (· ∉ second.keys)).filter (· ∉ first.keys) := by
      rw [List.filter_filter]
      refine List.filter_congr fun key _ => ?_
      rw [← Bool.decide_and, decide_eq_decide, mem_keys_merged, not_or]
    calc ((first.merged second).merged third).keys
      _ = first.keys ++ second.keys.filter (· ∉ first.keys) ++
            (third.keys.filter (· ∉ second.keys)).filter (· ∉ first.keys) := by
        rw [keys_merged, last, keys_merged]
      _ = first.keys ++ (second.merged third).keys.filter (· ∉ first.keys) := by
        rw [keys_merged, List.filter_append, List.append_assoc]
      _ = (first.merged (second.merged third)).keys := (keys_merged _ _).symm
  case values => simp only [get?_merged, Option.or_assoc]

@[simp] theorem empty_merged (annotations : Annotations) :
    empty.merged annotations = annotations := by
  refine eq_of_get? ?keys fun key => ?values
  case keys =>
    rw [keys_merged]
    exact List.filter_eq_self.mpr fun key _ => decide_eq_true List.not_mem_nil
  case values =>
    rw [get?_merged]
    exact Option.or_none

@[simp] theorem merged_self (annotations : Annotations) :
    annotations.merged annotations = annotations := by
  refine eq_of_get? ?keys fun key => ?values
  case keys =>
    have none : annotations.keys.filter (· ∉ annotations.keys) = [] :=
      List.filter_eq_nil_iff.mpr fun key inside absent => of_decide_eq_true absent inside
    rw [keys_merged, none, List.append_nil]
  case values => rw [get?_merged, Option.or_self]

theorem get?_merged_eq_ite (annotations overrides : Annotations) (key : Key) :
    (annotations.merged overrides).get? key =
      if overrides.contains key then overrides.get? key else annotations.get? key := by
  rw [get?_merged, contains]
  cases overrides.get? key <;> rfl

/-- Dictionaries with their entries in order form a monoid under merging, in which every dictionary
is idempotent. The keys of the overridden dictionary come first and keep their order, the keys that
only the overriding one has follow in theirs, and no key comes twice. The overriding dictionary
decides on every key that it has, with a value that is no text as well. -/
theorem merged_ordered_monoid (first second third : Annotations) :
    (first.merged second).merged third = first.merged (second.merged third) ∧
    first.merged empty = first ∧ empty.merged first = first ∧ first.merged first = first ∧
    (first.merged second).keys = first.keys ++ second.keys.filter (· ∉ first.keys) ∧
    (first.merged second).keys.Nodup ∧
    ∀ key,
      (first.merged second).get? key =
        (if second.contains key then second.get? key else first.get? key) ∧
      (first.merged second).text? key =
        if second.contains key then second.text? key else first.text? key := by
  refine ⟨merged_assoc first second third, merged_empty first, empty_merged first,
    merged_self first, keys_merged first second, (first.merged second).distinct, fun key => ?_⟩
  have value := get?_merged_eq_ite first second key
  refine ⟨value, ?_⟩
  rw [text?, value, text?, text?]
  split <;> rfl

end SchemaOutline.Annotations
