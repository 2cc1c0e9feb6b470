import SchemaOutline.Annotations.Basic
import SchemaOutline.Proofs.Members

/-! What writing one value to some keys of a dictionary changes and leaves alone. -/

set_option autoImplicit false
set_option relaxedAutoImplicit false

namespace SchemaOutline.Annotations

/-! ### Keys and values -/

theorem entries_eq (annotations : Annotations) :
    annotations.entries =
      annotations.keys.filterMap fun key => (annotations.get? key).map (key, ·) := by
  have each : ∀ entry ∈ annotations.entries,
      (annotations.get? entry.1).map (entry.1, ·) = some entry := by
    intro entry inside
    rw [get?, Members.lookup_of_mem annotations.distinct inside]
    rfl
  rw [keys, List.filterMap_map]
  exact ((List.filterMap_congr each).trans List.filterMap_some).symm

theorem eq_of_get? {annotations others : Annotations} (keys : annotations.keys = others.keys)
    (values : ∀ key, annotations.get? key = others.get? key) : annotations = others := by
  apply Annotations.ext
  rw [annotations.entries_eq, others.entries_eq, keys]
  exact List.filterMap_congr fun key _ => by rw [values key]

/-! ### Keys that are written -/

/-- A value has been written to some keys. Those that were there are in their places, the others
come last, and what all other keys hold is as it was. -/
structure Written (keys : List Key) (value : Json) (before after : Annotations) : Prop where
  order : after.keys = before.keys ++ keys.filter (· ∉ before.keys)
  get? : ∀ key, after.get? key = if key ∈ keys then some value else before.get? key

namespace Written

variable {keys : List Key} {value other : Json} {before between after : Annotations}

theorem insert (annotations : Annotations) (key : Key) (value : Json) :
    Written [key] value annotations (annotations.insert key value) where
  order := by
    rw [keys_insert]
    split <;> simp [*]
  get? := by simp [get?_insert]

theorem insert_last {key : Key} (new : key ∉ keys) (written : Written keys value before between) :
    Written (keys ++ [key]) value before (between.insert key value) where
  order := by
    have known : key ∈ between.keys ↔ key ∈ before.keys := by
      simp [written.order, new]
    rw [keys_insert, List.filter_append, ← List.append_assoc, ← written.order]
    by_cases present : key ∈ before.keys
    · simp [known.mpr present, present]
    · simp [mt known.mp present, present]
  get? := by
    intro asked
    rw [get?_insert, written.get?]
    by_cases same : asked = key
    · simp [same]
    · simp [same]

private theorem mem_keys (written : Written keys value before after) {key : Key}
    (inside : key ∈ keys) : key ∈ after.keys := by
  rw [written.order, List.mem_append, List.mem_filter]
  by_cases present : key ∈ before.keys
  · exact .inl present
  · exact .inr ⟨inside, decide_eq_true present⟩

/-- What is written to some keys last counts, and nothing is left of what was written before. -/
theorem again (first : Written keys value before between)
    (second : Written keys other between after) : Written keys other before after where
  order := by
    have none : keys.filter (· ∉ between.keys) = [] := by
      rw [List.filter_eq_nil_iff]
      intro key inside absent
      exact of_decide_eq_true absent (first.mem_keys inside)
    rw [second.order, none, List.append_nil, first.order]
  get? := by
    intro key
    rw [second.get?]
    split
    · rfl
    · next elsewhere => rw [first.get?, if_neg elsewhere]

theorem unique {after' : Annotations} (written : Written keys value before after)
    (same : Written keys value before after') : after = after' :=
  eq_of_get? (written.order.trans same.order.symm) fun key => by rw [written.get?, same.get?]

end Written

/-! ### Entries under other keys -/

/-- The entries of a dictionary apart from those of some keys. -/
def without (annotations : Annotations) (removed : List Key) : List (Key × Json) :=
  annotations.entries.filter fun entry => entry.1 ∉ removed

private theorem filter_place_of_mem {removed : List Key} {key : Key} (inside : key ∈ removed)
    (value : Json) (entries : List (Key × Json)) :
    (place key value entries).filter (fun entry => entry.1 ∉ removed) =
      entries.filter fun entry => entry.1 ∉ removed := by
  induction entries with
  | nil => simp [place, inside]
  | cons entry entries ih =>
    by_cases same : entry.1 = key
    · simp [place, same, inside]
    · rw [place, if_neg same, List.filter_cons, List.filter_cons, ih]

private theorem filter_place_of_not_mem {removed : List Key} {key : Key} (kept : key ∉ removed)
    (value : Json) (entries : List (Key × Json)) :
    (place key value entries).filter (fun entry => entry.1 ∉ removed) =
      place key value (entries.filter fun entry => entry.1 ∉ removed) := by
  induction entries with
  | nil => simp [place, kept]
  | cons entry entries ih =>
    by_cases same : entry.1 = key
    · simp [place, same, kept]
    · rw [place, if_neg same, List.filter_cons, List.filter_cons, ih]
      split
      · rw [place, if_neg same]
      · rfl

theorem without_insert {removed : List Key} {key : Key} (inside : key ∈ removed)
    (annotations : Annotations) (value : Json) :
    (annotations.insert key value).without removed = annotations.without removed :=
  filter_place_of_mem inside value annotations.entries

private theorem without_insertAll (annotations : Annotations) (entries : List (Key × Json))
    (removed : List Key) :
    (annotations.insertAll entries).without removed =
      (entries.filter fun entry => entry.1 ∉ removed).foldl
        (fun written entry => place entry.1 entry.2 written) (annotations.without removed) := by
  induction entries generalizing annotations with
  | nil => rfl
  | cons entry entries ih =>
    refine (ih (annotations.insert entry.1 entry.2)).trans ?_
    by_cases inside : entry.1 ∈ removed
    · rw [without_insert inside, List.filter_cons_of_neg (by simpa using inside)]
    · rw [List.filter_cons_of_pos (by simpa using inside), List.foldl_cons]
      congr 1
      exact filter_place_of_not_mem inside entry.2 annotations.entries

theorem without_merged {annotations others overrides overrides' : Annotations}
    {removed : List Key} (same : annotations.without removed = others.without removed)
    (sameOverrides : overrides.without removed = overrides'.without removed) :
    (annotations.merged overrides).without removed =
      (others.merged overrides').without removed := by
  rw [merged, merged, without_insertAll, without_insertAll, same]
  exact congrArg (List.foldl _ _) sameOverrides

end SchemaOutline.Annotations
