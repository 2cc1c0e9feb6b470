import SchemaOutline.Proofs.Description.Alike
import SchemaOutline.Proofs.Description.Edits

/-! A record spelled as an object and as an array is read alike. -/

set_option autoImplicit false
set_option relaxedAutoImplicit false

namespace SchemaOutline

open List (Forall₂)
open Description

/-- Of a value of a form, one record that is an object of its first members, in order, is given as
the array of their values instead. -/
inductive Json.Respelled : Form → Json → Json → Prop
  /-- A node needs some member: without one, an object and an array are mismatches of two kinds. -/
  | array {sort : Record} {members : List (String × Json)}
      (first : members.map Prod.fst <+: sort.names) (tagged : sort = .node → members ≠ []) :
      Respelled (.record sort) (.obj members) (.arr (members.map Prod.snd))
  | member {sort : Record} {form : Form} {name : String} {value other : Json}
      (known : sort.form? name = some form) (before after : List (String × Json))
      (inner : Respelled form value other) :
      Respelled (.record sort) (.obj (before ++ (name, value) :: after))
        (.obj (before ++ (name, other) :: after))
  | slot {sort : Record} {form : Form} {name : String} {before : List Json} {value other : Json}
      (known : sort.members[before.length]? = some (name, form)) (after : List Json)
      (inner : Respelled form value other) :
      Respelled (.record sort) (.arr (before ++ value :: after)) (.arr (before ++ other :: after))
  | item {form : Form} {value other : Json} (before after : List Json)
      (inner : Respelled form value other) :
      Respelled (.list form) (.arr (before ++ value :: after)) (.arr (before ++ other :: after))
  | present {form : Form} {value other : Json} (inner : Respelled form value other) :
      Respelled (.optional form) value other

def Json.spellings (members : List (String × Json)) : List Json :=
  [.obj members, .arr (members.map Prod.snd)]

namespace Json.Respelled

variable {form : Form} {value other : Json}

theorem ne_null (respelled : Respelled form value other) : value ≠ .null ∧ other ≠ .null := by
  induction respelled with
  | present _ ih => exact ih
  | _ => exact ⟨nofun, nofun⟩

private theorem zip_values {names : List String} {members : List (String × Json)}
    (first : members.map Prod.fst <+: names) : names.zip (members.map Prod.snd) = members := by
  obtain ⟨others, rfl⟩ := first
  induction members with
  | nil => simp
  | cons member members ih => simpa using ih

private theorem tag_mem_of_first {members : List (String × Json)}
    (first : members.map Prod.fst <+: Record.node.names) (some : members ≠ []) :
    "_tag" ∈ members.map Prod.fst := by
  cases members with
  | nil => exact absurd rfl some
  | cons member members =>
    have isTag : member.1 = "_tag" := (List.cons_prefix_cons.mp first).1
    exact isTag ▸ List.mem_cons_self

private theorem exists_names {sort : Record} {position : Nat} {name : String}
    (place : sort.members[position]? = some (name, form)) :
    ∃ first last, sort.names = first ++ name :: last ∧ first.length = position := by
  obtain ⟨within, isName⟩ := List.getElem?_eq_some_iff.mp (Record.names_of_getElem? place)
  refine ⟨sort.names.take position, sort.names.drop (position + 1), ?_, ?_⟩
  · rw [← isName, ← List.drop_eq_getElem_cons within, List.take_append_drop]
  · rw [List.length_take, Nat.min_eq_left (Nat.le_of_lt within)]

private theorem forall₂_slots_same {sort : Record} (slots : List (String × Json)) :
    Forall₂ (SlotAlike sort) slots slots :=
  List.forall₂_same.mpr fun slot _ => ⟨rfl, fun form _ => .refl form slot.2⟩

private theorem forall₂_slots {sort : Record} {name : String} (before after : List (String × Json))
    (known : sort.form? name = some form) (alike : ReadAlike form value other) :
    Forall₂ (SlotAlike sort) (before ++ (name, value) :: after)
      (before ++ (name, other) :: after) := by
  refine List.rel_append (forall₂_slots_same before)
    (.cons ⟨rfl, fun otherForm isForm => ?_⟩ (forall₂_slots_same after))
  obtain rfl := Option.some.inj (known.symm.trans isForm)
  exact alike

theorem readAlike (respelled : Respelled form value other) : ReadAlike form value other := by
  induction respelled with
  | @array sort members first tagged =>
    have fits : ¬ sort.names.length < (members.map Prod.snd).length := by
      have shorter := first.length_le
      rw [List.length_map] at shorter ⊢
      exact Nat.not_lt.mpr shorter
    have found : slots? sort.names (.arr (members.map Prod.snd)) = some members :=
      congrArg some (zip_values first)
    have excess : none = excess? sort.names (.arr (members.map Prod.snd)) := (if_neg fits).symm
    refine SlotsAlike.readAlike (.slots rfl found excess (forall₂_slots_same members)) ?_
    rintro rfl slots same untagged
    obtain rfl := Option.some.inj same
    exact absurd (tag_mem_of_first first (tagged rfl)) untagged
  | @member sort form name value other known before after inner ih =>
    exact SlotsAlike.readAlike (.slots rfl rfl rfl (forall₂_slots before after known ih))
      fun _ _ _ _ => rfl
  | @slot sort form name before value other known after inner ih =>
    obtain ⟨first, last, names, length⟩ := exists_names known
    have zip (inner : Json) : slots? sort.names (.arr (before ++ inner :: after)) =
        some (first.zip before ++ (name, inner) :: last.zip after) := by
      rw [names, slots?, List.zip_append length, List.zip_cons_cons]
    have excess : excess? sort.names (.arr (before ++ value :: after)) =
        excess? sort.names (.arr (before ++ other :: after)) := by
      simp [excess?]
    refine SlotsAlike.readAlike (.slots (zip value) (zip other) excess ?_) fun _ _ _ _ => rfl
    exact forall₂_slots _ _ (Record.form?_of_getElem? known) ih
  | @item form value other before after inner ih =>
    have same (items : List Json) : Forall₂ (ReadAlike form) items items :=
      List.forall₂_same.mpr fun item _ => .refl form item
    exact .inr ⟨_, _, rfl, rfl, List.rel_append (same before) (.cons ih (same after))⟩
  | @present form value other inner ih =>
    exact ⟨iff_of_false inner.ne_null.1 inner.ne_null.2, ih⟩

theorem depth_eq (respelled : Respelled form value other) : other.depth = value.depth := by
  induction respelled with
  | array => rw [Json.depth_eq, Json.depth_eq, children, children]
  | member known before after inner ih =>
    rw [Json.depth_eq, Json.depth_eq, children, children, List.map_append, List.map_append,
      List.map_cons, List.map_cons, depthItems_replaced _ _ ih]
  | slot known after inner ih =>
    rw [Json.depth_eq, Json.depth_eq, children, children, depthItems_replaced _ _ ih]
  | item before after inner ih =>
    rw [Json.depth_eq, Json.depth_eq, children, children, depthItems_replaced _ _ ih]
  | present _ ih => exact ih

theorem get?_eq_none {sort : Record} {name : String}
    (respelled : Respelled (.record sort) value other) (absent : value.get? name = none) :
    other.get? name = none := by
  cases respelled with
  | array => rfl
  | slot => rfl
  | member known before after inner =>
    rw [get?, lookup?, List.lookup_eq_none_iff, List.forall_mem_append, List.forall_mem_cons]
      at absent ⊢
    exact absent

end Json.Respelled

theorem Description.readAlike_spellings {sort : Record} {members : List (String × Json)}
    (first : members.map Prod.fst <+: sort.names) (tagged : sort = .node → members ≠ [])
    {spelled : Json} (isSpelling : spelled ∈ Json.spellings members) :
    ReadAlike (.record sort) (.obj members) spelled := by
  rcases List.mem_pair.mp isSpelling with rfl | rfl
  · exact .refl _ _
  · exact (Json.Respelled.array first tagged).readAlike

end SchemaOutline
