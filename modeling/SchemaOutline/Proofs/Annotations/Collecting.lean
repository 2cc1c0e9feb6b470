import SchemaOutline.Description.Content
import SchemaOutline.Proofs.Annotations.Merging

/-! Reading a dictionary from the members of a JSON object, and describing it by them. -/

set_option autoImplicit false
set_option relaxedAutoImplicit false

namespace SchemaOutline.Annotations

/-- No key is a custom one that is spelled like a well-known one. -/
def Plain (annotations : Annotations) : Prop :=
  ∀ name, .custom name ∈ annotations.keys → name ∉ Key.wellKnown.map Key.name

/-! ### Names of keys -/

private theorem ofName_name {key : Key}
    (plain : ∀ name, key = .custom name → name ∉ Key.wellKnown.map Key.name) :
    Key.ofName key.name = key := by
  cases key with
  | custom name =>
    have other : Key.wellKnown.find? (fun key => key.name == name) = none := by
      rw [List.find?_eq_none]
      intro key known same
      exact plain name rfl (List.mem_map.mpr ⟨key, known, beq_iff_eq.mp same⟩)
    rw [Key.name, Key.ofName, other]
    rfl
  | _ => rfl

theorem Key.mem_wellKnown_iff {key : Key} : key ∈ wellKnown ↔ ∀ name, key ≠ .custom name := by
  cases key <;> simp [wellKnown]

theorem Key.ofName_of_wellKnown {key : Key} (known : key ∈ wellKnown) : ofName key.name = key :=
  ofName_name fun name custom => absurd custom (mem_wellKnown_iff.mp known name)

theorem Key.not_wellKnown_of_ofName {text name : String} (custom : ofName text = .custom name) :
    name ∉ wellKnown.map Key.name := by
  intro known
  obtain ⟨key, isKnown, rfl⟩ := List.mem_map.mp known
  have same : text = key.name := by rw [← name_ofName text, custom, Key.name]
  rw [same, ofName_of_wellKnown isKnown] at custom
  exact mem_wellKnown_iff.mp isKnown _ custom

/-! ### Collecting -/

theorem ofList_eq {entries : List (Key × Json)} (distinct : (entries.map Prod.fst).Nodup) :
    ofList entries = ⟨entries, distinct⟩ :=
  empty_merged ⟨entries, distinct⟩

theorem entries_ofMembers {members : List (String × Json)}
    (distinct : (members.map Prod.fst).Nodup) :
    (ofMembers members).entries = members.map fun member => (Key.ofName member.1, member.2) := by
  have keys : ((members.map fun member => (Key.ofName member.1, member.2)).map Prod.fst).Nodup := by
    have names := distinct.map fun _ _ => Key.ofName_injective
    rwa [List.map_map] at names ⊢
  rw [ofMembers, ofList_eq keys]

theorem plain_empty : empty.Plain := by
  intro name custom
  cases custom

theorem Plain.insert {annotations : Annotations} (plain : annotations.Plain) {key : Key}
    (new : ∀ name, key = .custom name → name ∉ Key.wellKnown.map Key.name) (value : Json) :
    (annotations.insert key value).Plain := by
  intro name custom
  rw [keys_insert] at custom
  split at custom
  · exact plain name custom
  · rcases List.mem_append.mp custom with old | same
    · exact plain name old
    · exact new name (List.mem_singleton.mp same).symm

theorem plain_ofMembers {members : List (String × Json)}
    (distinct : (members.map Prod.fst).Nodup) : (ofMembers members).Plain := by
  intro name custom
  rw [keys, entries_ofMembers distinct, List.map_map] at custom
  obtain ⟨member, _, read⟩ := List.mem_map.mp custom
  exact Key.not_wellKnown_of_ofName read

theorem ofMembers_describe {annotations : Annotations} (plain : annotations.Plain) :
    ofMembers (annotations.entries.map fun entry => (entry.1.name, entry.2)) = annotations := by
  have names (entry : Key × Json) (inside : entry ∈ annotations.entries) :
      (Key.ofName entry.1.name, entry.2) = entry := by
    rw [ofName_name fun name custom => plain name (custom ▸ List.mem_map_of_mem inside)]
  have same : (annotations.entries.map fun entry => (entry.1.name, entry.2)).map
      (fun member => (Key.ofName member.1, member.2)) = annotations.entries := by
    rw [List.map_map]
    exact (List.map_congr_left names).trans (List.map_id _)
  rw [ofMembers, same]
  exact ofList_eq annotations.distinct

/-- The annotations of an object with distinct names are its members, in their order: each has the
name and the value of the member in its place. Every name is the name of the key that it is read as,
so different names are read as different keys, and well-known names are read as well-known keys and
not as custom ones. -/
theorem members_read_one_by_one {members : List (String × Json)}
    (distinct : (members.map Prod.fst).Nodup) :
    (Description.annotationsOf (some members)).size = members.length ∧
    (∀ position : Nat,
      (Description.annotationsOf (some members)).entries[position]?.map
        (fun entry => (entry.1.name, entry.2)) = members[position]?) ∧
    (∀ text, (Key.ofName text).name = text) ∧
    (∀ text other, text ≠ other → Key.ofName text ≠ Key.ofName other) ∧
    ∀ key : Key, (∀ name, key ≠ .custom name) →
      Key.ofName key.name = key ∧
      .custom key.name ∉ (Description.annotationsOf (some members)).keys := by
  have entries : (Description.annotationsOf (some members)).entries =
      members.map fun member => (Key.ofName member.1, member.2) := entries_ofMembers distinct
  refine ⟨?size, fun position => ?member, Key.name_ofName,
    fun text other => mt Key.ofName_injective, fun key common => ?wellKnown⟩
  case size => rw [size, entries, List.length_map]
  case member =>
    have back : (fun entry : Key × Json => (entry.1.name, entry.2)) ∘
        (fun member : String × Json => (Key.ofName member.1, member.2)) = id :=
      funext fun member => by rw [Function.comp_apply, Key.name_ofName, id]
    rw [entries, List.getElem?_map, Option.map_map, back, Option.map_id, id]
  case wellKnown =>
    have known : key ∈ Key.wellKnown := Key.mem_wellKnown_iff.mpr common
    refine ⟨Key.ofName_of_wellKnown known, fun custom => ?_⟩
    exact plain_ofMembers distinct key.name custom (List.mem_map_of_mem known)

def unusualMembers : List (String × Json) :=
  [("title", .null), ("", .str "nothing"), ("Title", .bool true), ("entityField", .arr [])]

theorem unusual_members_read :
    (unusualMembers.map Prod.fst).Nodup ∧
      (Description.annotationsOf (some unusualMembers)).size = 4 ∧
      (Description.annotationsOf (some unusualMembers)).entries[2]?.map
        (fun entry => (entry.1.name, entry.2)) = some ("Title", .bool true) ∧
      .custom "title" ∉ (Description.annotationsOf (some unusualMembers)).keys := by
  have distinct : (unusualMembers.map Prod.fst).Nodup := by decide
  obtain ⟨size, kept, _, _, known⟩ := members_read_one_by_one distinct
  exact ⟨distinct, size, kept 2, (known .title nofun).2⟩

end SchemaOutline.Annotations
