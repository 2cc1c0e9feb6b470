import Mathlib.Data.List.Nodup
import Mathlib.Data.List.Perm.Basic

/-! Looking up members by distinct names, in any order. -/

set_option autoImplicit false
set_option relaxedAutoImplicit false

namespace SchemaOutline.Members

variable {κ ν : Type} [BEq κ] [LawfulBEq κ]

theorem mem_of_lookup {members : List (κ × ν)} {name : κ} {value : ν}
    (found : members.lookup name = some value) : (name, value) ∈ members := by
  obtain ⟨before, after, split, _⟩ := List.lookup_eq_some_iff.mp found
  rw [split]
  exact List.mem_append_right before List.mem_cons_self

theorem lookup_of_mem {members : List (κ × ν)} (distinct : (members.map Prod.fst).Nodup)
    {member : κ × ν} (inside : member ∈ members) :
    members.lookup member.1 = some member.2 := by
  induction members with
  | nil => cases inside
  | cons first members ih =>
    obtain ⟨absent, distinct⟩ := List.nodup_cons.mp distinct
    rcases List.mem_cons.mp inside with rfl | later
    · rw [List.lookup_cons_self]
    · have differs : member.1 ≠ first.1 := by
        intro same
        exact absent (same ▸ List.mem_map_of_mem later)
      rw [List.lookup_cons, beq_eq_false_iff_ne.mpr differs]
      exact ih distinct later

theorem lookup_eq_some_iff {members : List (κ × ν)} (distinct : (members.map Prod.fst).Nodup)
    {name : κ} {value : ν} : members.lookup name = some value ↔ (name, value) ∈ members :=
  ⟨mem_of_lookup, lookup_of_mem distinct⟩

theorem lookup_perm {members others : List (κ × ν)} (distinct : (members.map Prod.fst).Nodup)
    (perm : members.Perm others) (name : κ) : others.lookup name = members.lookup name := by
  have distinctOthers : (others.map Prod.fst).Nodup := (perm.map Prod.fst).nodup_iff.mp distinct
  apply Option.ext
  intro value
  rw [lookup_eq_some_iff distinct, lookup_eq_some_iff distinctOthers, perm.mem_iff]

theorem lookup_append_of_absent {before others : List (κ × ν)} {name : κ}
    (absent : ∀ member ∈ others, member.1 ≠ name) (after : List (κ × ν)) :
    (before ++ others ++ after).lookup name = (before ++ after).lookup name := by
  have none : others.lookup name = none := by
    rw [List.lookup_eq_none_iff]
    intro member inside
    exact bne_iff_ne.mpr (absent member inside).symm
  rw [List.lookup_append, List.lookup_append, List.lookup_append, none, Option.or_none]

theorem lookup_filter (keep : κ → Bool) (members : List (κ × ν)) (name : κ) :
    (members.filter fun member => keep member.1).lookup name =
      if keep name then members.lookup name else none := by
  induction members with
  | nil => simp
  | cons first members ih =>
    obtain ⟨other, value⟩ := first
    by_cases same : name = other
    · subst same
      cases kept : keep name with
      | true => simp [kept]
      | false => simpa [kept] using ih
    · have differs : (name == other) = false := beq_eq_false_iff_ne.mpr same
      cases kept : keep other with
      | true => simpa [kept, List.lookup_cons, differs] using ih
      | false => simpa [kept, List.lookup_cons, differs] using ih

theorem isSome_lookup_iff {members : List (κ × ν)} {name : κ} :
    (members.lookup name).isSome ↔ name ∈ members.map Prod.fst := by
  rw [List.lookup_isSome_iff, List.mem_map]
  constructor
  · rintro ⟨member, inside, same⟩
    exact ⟨member, inside, (eq_of_beq same).symm⟩
  · rintro ⟨member, inside, rfl⟩
    exact ⟨member, inside, beq_self_eq_true _⟩

theorem lookup_append_cons_self {before : List (κ × ν)} {name : κ}
    (absent : ∀ member ∈ before, member.1 ≠ name) (value : ν) (after : List (κ × ν)) :
    (before ++ (name, value) :: after).lookup name = some value := by
  refine List.lookup_eq_some_iff.mpr ⟨before, after, rfl, fun member inside => ?_⟩
  exact bne_iff_ne.mpr (absent member inside).symm

omit [LawfulBEq κ] in
theorem exists_lookup_of_forall₂ {R : ν → ν → Prop} {members others : List (κ × ν)}
    (related : List.Forall₂ (fun member other => member.1 = other.1 ∧ R member.2 other.2)
      members others) {name : κ} {value : ν} (found : members.lookup name = some value) :
    ∃ other, others.lookup name = some other ∧ R value other := by
  induction related with
  | nil => cases found
  | @cons member other members others first _ ih =>
    obtain ⟨sameName, holds⟩ := first
    rw [List.lookup_cons] at found ⊢
    rw [← sameName]
    cases here : name == member.1 with
    | true =>
      rw [here] at found
      exact ⟨other.2, rfl, Option.some.inj found ▸ holds⟩
    | false =>
      rw [here] at found
      exact ih found

omit [BEq κ] [LawfulBEq κ] in
private theorem map_fst_zip_sublist (names : List κ) (values : List ν) :
    ((names.zip values).map Prod.fst).Sublist names := by
  induction names generalizing values with
  | nil => exact List.Sublist.slnil
  | cons name names ih =>
    cases values with
    | nil => exact List.nil_sublist _
    | cons value values => exact (ih values).cons_cons name

theorem lookup_reverse_zip {names : List κ} (distinct : names.Nodup) {position : Nat} {name : κ}
    (place : names[position]? = some name) (values : List ν) :
    (names.zip values).reverse.lookup name = values[position]? := by
  have distinctZip := distinct.sublist (map_fst_zip_sublist names values)
  rw [lookup_perm distinctZip (List.reverse_perm _).symm]
  apply Option.ext
  intro value
  rw [lookup_eq_some_iff distinctZip, List.mem_iff_getElem?]
  constructor
  · rintro ⟨other, found⟩
    obtain ⟨isName, isValue⟩ := List.getElem?_zip_eq_some.mp found
    obtain ⟨within, _⟩ := List.getElem?_eq_some_iff.mp isName
    have same : other = position := (List.getElem?_inj within distinct).mp (isName.trans place.symm)
    exact same ▸ isValue
  · exact fun isValue => ⟨position, List.getElem?_zip_eq_some.mpr ⟨place, isValue⟩⟩

end SchemaOutline.Members
