import Mathlib.Data.List.Nodup
import SchemaOutline.Proofs.Description.Nodes

/-! The nodes inside a node are together smaller than it and have fewer levels. -/

set_option autoImplicit false
set_option relaxedAutoImplicit false

namespace SchemaOutline

open Traversal
open Description

namespace Json

def found (slots : List (String × Json)) (names : List String) : List Json :=
  names.flatMap fun name => (lookup? slots name).toList

theorem found_append (slots : List (String × Json)) (names others : List String) :
    found slots (names ++ others) = found slots names ++ found slots others :=
  List.flatMap_append

private theorem found_cons_of_not_mem {name : String} {value : Json} {names : List String}
    (slots : List (String × Json)) (absent : name ∉ names) :
    found ((name, value) :: slots) names = found slots names := by
  apply List.flatMap_congr
  intro other among
  have differs : (other == name) = false := by
    rw [beq_eq_false_iff_ne]
    rintro rfl
    exact absent among
  rw [lookup?, List.lookup_cons, differs]
  rfl

private theorem found_cons_of_mem {name : String} {value : Json} {before after : List String}
    (slots : List (String × Json)) (absent : name ∉ before ++ after) :
    found ((name, value) :: slots) (before ++ name :: after) =
      found slots before ++ value :: found slots after := by
  obtain ⟨notBefore, notAfter⟩ := not_or.mp fun inside => absent (List.mem_append.mpr inside)
  have here : (lookup? ((name, value) :: slots) name).toList = [value] := by
    rw [lookup?, List.lookup_cons_self]
    rfl
  have rest : found ((name, value) :: slots) after = found slots after :=
    found_cons_of_not_mem slots notAfter
  rw [found_append, found_cons_of_not_mem slots notBefore, ← rest, found, found, List.flatMap_cons,
    here]
  rfl

theorem totalWeight_found_le {slots : List (String × Json)} {names : List String}
    (distinct : names.Nodup) :
    totalWeight size (found slots names) ≤ totalWeight size (slots.map Prod.snd) := by
  induction slots generalizing names with
  | nil =>
    have none : found [] names = [] := List.flatMap_eq_nil_iff.mpr fun _ _ => rfl
    rw [none]
    exact Nat.le_refl 0
  | cons slot slots ih =>
    obtain ⟨name, value⟩ := slot
    rw [List.map_cons, totalWeight_cons]
    by_cases among : name ∈ names
    · obtain ⟨before, after, rfl⟩ := List.append_of_mem among
      obtain ⟨absent, others⟩ := List.nodup_cons.mp (List.nodup_middle.mp distinct)
      have further := ih others
      rw [found_append, totalWeight_append] at further
      rw [found_cons_of_mem slots absent, totalWeight_append, totalWeight_cons]
      show _ + (value.size + _) ≤ value.size + _
      omega
    · rw [found_cons_of_not_mem slots among]
      exact Nat.le_add_left_of_le (ih distinct)

private theorem totalWeight_reverse {α : Type} (weight : α → Nat) (items : List α) :
    totalWeight weight items.reverse = totalWeight weight items := by
  induction items with
  | nil => rfl
  | cons item items ih =>
    rw [List.reverse_cons, totalWeight_append, ih, totalWeight_cons, totalWeight_nil,
      totalWeight_cons]
    omega

private theorem map_snd_zip_sublist {α β : Type} (names : List α) (items : List β) :
    ((names.zip items).map Prod.snd).Sublist items := by
  induction names generalizing items with
  | nil => exact List.nil_sublist items
  | cons name names ih =>
    cases items with
    | nil => exact List.Sublist.slnil
    | cons item items => exact (ih items).cons_cons item

theorem totalWeight_slots_lt (sort : Record) (value : Json) :
    totalWeight size ((value.slots sort).map Prod.snd) < value.size := by
  rw [slots, List.map_reverse, totalWeight_reverse]
  cases value with
  | obj members =>
    rw [size, sizeMembers_eq_totalWeight]
    exact Nat.lt_succ_self _
  | arr items =>
    rw [size, sizeItems_eq_totalWeight]
    exact Nat.lt_succ_of_le (totalWeight_le_of_sublist (map_snd_zip_sublist _ items))
  | null => exact Nat.zero_lt_one
  | bool value => exact Nat.zero_lt_one
  | num value => exact Nat.zero_lt_one
  | str text => exact Nat.zero_lt_one

/-! ### Nodes inside a node -/

private theorem totalWeight_flatMap_le {α β : Type} {weight : β → Nat} {bound : α → Nat}
    {view : α → List β} {items : List α}
    (each : ∀ item, totalWeight weight (view item) ≤ bound item) :
    totalWeight weight (items.flatMap view) ≤ totalWeight bound items := by
  induction items with
  | nil => exact Nat.le_refl 0
  | cons item items ih =>
    rw [List.flatMap_cons, totalWeight_append, totalWeight_cons]
    exact Nat.add_le_add (each item) ih

private theorem totalWeight_nodeOf_le (value : Option Json) :
    totalWeight size (nodeOf value).toList ≤ totalWeight size value.toList := by
  unfold nodeOf
  split
  · exact Nat.zero_le _
  · exact Nat.le_refl _

private theorem totalWeight_itemsOf_le (value : Option Json) :
    totalWeight size (itemsOf value) ≤ totalWeight size value.toList := by
  unfold itemsOf
  split
  · rename_i items
    show _ ≤ (Json.arr items).size + 0
    rw [size, sizeItems_eq_totalWeight]
    omega
  · exact Nat.zero_le _

private theorem totalWeight_found_lt (value : Json) (sort : Record) {names : List String}
    (distinct : names.Nodup) : totalWeight size (found (value.slots sort) names) < value.size :=
  Nat.lt_of_le_of_lt (totalWeight_found_le distinct) (value.totalWeight_slots_lt sort)

private theorem totalWeight_type_field_le (item : Json) :
    totalWeight size (Field.ofJson item).type.toList ≤ item.size := by
  have whole := item.totalWeight_found_lt .field (List.nodup_singleton "type")
  have type := totalWeight_nodeOf_le (lookup? (item.slots .field) "type")
  rw [found, List.flatMap_singleton] at whole
  exact Nat.le_of_lt (Nat.lt_of_le_of_lt type whole)

private theorem totalWeight_type_element_le (item : Json) :
    totalWeight size (Element.ofJson item).type.toList ≤ item.size := by
  have whole := item.totalWeight_found_lt .element (List.nodup_singleton "type")
  have type := totalWeight_nodeOf_le (lookup? (item.slots .element) "type")
  rw [found, List.flatMap_singleton] at whole
  exact Nat.le_of_lt (Nat.lt_of_le_of_lt type whole)

private theorem totalWeight_inner_signature_le (item : Json) :
    totalWeight size (Signature.ofJson item).inner ≤ item.size := by
  have distinct : ["parameter", "type"].Nodup := by decide
  have whole := item.totalWeight_found_lt .signature distinct
  have parameter := totalWeight_nodeOf_le (lookup? (item.slots .signature) "parameter")
  have type := totalWeight_nodeOf_le (lookup? (item.slots .signature) "type")
  simp only [found, List.flatMap_cons, List.flatMap_nil, totalWeight_append, totalWeight_nil]
    at whole
  rw [Signature.inner, totalWeight_append]
  show totalWeight size (nodeOf (lookup? (item.slots .signature) "parameter")).toList +
    totalWeight size (nodeOf (lookup? (item.slots .signature) "type")).toList ≤ _
  omega

private theorem totalWeight_filterMap_le {γ : Type} {ofJson : Json → γ} {type : γ → Option Json}
    (each : ∀ item, totalWeight size (type (ofJson item)).toList ≤ item.size)
    (value : Option Json) :
    totalWeight size (((itemsOf value).map ofJson).filterMap type) ≤
      totalWeight size value.toList := by
  rw [List.filterMap_eq_flatMap_toList, List.flatMap_map]
  exact Nat.le_trans (totalWeight_flatMap_le each) (totalWeight_itemsOf_le value)

def nodeMembers : List String :=
  ["fields", "indexSignatures", "types", "elements", "rest", "from", "to", "typeParameters"]

private theorem totalWeight_inner_ofSlots_le (slots : List (String × Json)) :
    totalWeight size (Body.ofSlots slots).inner ≤ totalWeight size (found slots nodeMembers) := by
  have fields := totalWeight_filterMap_le totalWeight_type_field_le (lookup? slots "fields")
  have signatures : totalWeight size (((itemsOf (lookup? slots "indexSignatures")).map
      Signature.ofJson).flatMap Signature.inner) ≤
      totalWeight size (lookup? slots "indexSignatures").toList := by
    rw [List.flatMap_map]
    exact Nat.le_trans (totalWeight_flatMap_le totalWeight_inner_signature_le)
      (totalWeight_itemsOf_le _)
  have types := totalWeight_itemsOf_le (lookup? slots "types")
  have elements := totalWeight_filterMap_le totalWeight_type_element_le (lookup? slots "elements")
  have rest := totalWeight_filterMap_le totalWeight_type_element_le (lookup? slots "rest")
  have source := totalWeight_nodeOf_le (lookup? slots "from")
  have target := totalWeight_nodeOf_le (lookup? slots "to")
  have parameters := totalWeight_itemsOf_le (lookup? slots "typeParameters")
  simp only [found, nodeMembers, List.flatMap_cons, List.flatMap_nil, Body.inner, Body.ofSlots,
    totalWeight_append, totalWeight_nil]
  omega

theorem totalWeight_inner_lt (value : Json) :
    totalWeight size (Body.ofJson value).inner < value.size := by
  have distinct : nodeMembers.Nodup := by decide
  have whole := value.totalWeight_found_lt .node distinct
  exact Nat.lt_of_le_of_lt (totalWeight_inner_ofSlots_le _) whole

/-- The nodes that a node uses are together smaller than the node. -/
theorem totalWeight_used_lt (node : Json) : totalWeight size node.used < node.size := by
  have uses := Body.usedAs_sublist_inner (tagOf node) (Body.ofJson node)
  exact Nat.lt_of_le_of_lt (totalWeight_le_of_sublist uses) node.totalWeight_inner_lt

end Json

end SchemaOutline
