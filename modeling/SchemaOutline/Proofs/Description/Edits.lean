import SchemaOutline.Proofs.Description.Agreement
import SchemaOutline.Proofs.Members

/-! Edits of a value that leave alone what its kind uses, and what counts of it afterwards. -/

set_option autoImplicit false
set_option relaxedAutoImplicit false

namespace SchemaOutline

open List (Forall₂)
open Description

def Kind.members : Kind → List String
  | struct => ["fields", "indexSignatures"]
  | union => ["types"]
  | tuple => ["elements", "rest"]
  | refinement => ["from", "name"]
  | transformation => ["from", "to"]
  | declaration => ["typeParameters", "name"]
  | suspend => ["ref"]
  | .keyword _ => []
  | literal => ["literal"]
  | templateLiteral => ["pattern"]
  | enums => ["enums"]
  | uniqueSymbol => ["description"]

def Kind.counted (kind : Kind) : List String := "_tag" :: "annotations" :: kind.members

/-- A member of nodes that does not count for a kind. -/
def Kind.Ignores (kind : Kind) (name : String) : Prop :=
  name ∈ Record.node.names ∧ name ∉ kind.counted

def Form.known? : Form → Option (List String)
  | .record sort => some sort.names
  | .literal => some ["bigint"]
  | _ => none

namespace Json

/-- A value of a form is edited in one place. -/
inductive Edit : Form → Json → Json → Prop
  | same (form : Form) (value : Json) : Edit form value value
  | reorder {form : Form} {names : List String} {members others : List (String × Json)}
      (known : form.known? = some names) (distinct : (members.map Prod.fst).Nodup)
      (perm : members.Perm others) : Edit form (.obj members) (.obj others)
  | unknown {form : Form} {names : List String} {removed added : List (String × Json)}
      (known : form.known? = some names) (before after : List (String × Json))
      (unknown : ∀ member ∈ removed ++ added, member.1 ∉ names) :
      Edit form (.obj (before ++ removed ++ after)) (.obj (before ++ added ++ after))
  /-- Members that do not count for the kind of a node are replaced by others that do not, and that
  are of their form. -/
  | ignored {kind : Kind} {removed added : List (String × Json)}
      (before after : List (String × Json))
      (named : kind.name = tagOf (.obj (before ++ removed ++ after)))
      (ignored : ∀ member ∈ removed ++ added, kind.Ignores member.1)
      (typed : ∀ member ∈ added, ∀ form, Record.node.form? member.1 = some form →
        HasForm form member.2) :
      Edit (.record .node) (.obj (before ++ removed ++ after)) (.obj (before ++ added ++ after))
  | ignoredItems {kind : Kind} {items others : List Json} (named : kind.name = tagOf (.arr items))
      (fits : others.length ≤ Record.node.names.length)
      (kept : ∀ (position : Nat) (name : String), Record.node.names[position]? = some name →
        ¬ kind.Ignores name → others[position]? = items[position]?)
      (typed : ∀ member ∈ Record.node.names.zip others, kind.Ignores member.1 →
        ∀ form, Record.node.form? member.1 = some form → HasForm form member.2) :
      Edit (.record .node) (.arr items) (.arr others)
  | member {sort : Record} {form : Form} {name : String} {value other : Json}
      (known : sort.form? name = some form) (before after : List (String × Json))
      (inner : Edit form value other) :
      Edit (.record sort) (.obj (before ++ (name, value) :: after))
        (.obj (before ++ (name, other) :: after))
  | slot {sort : Record} {form : Form} {name : String} {before : List Json} {value other : Json}
      (known : sort.members[before.length]? = some (name, form)) (after : List Json)
      (inner : Edit form value other) :
      Edit (.record sort) (.arr (before ++ value :: after)) (.arr (before ++ other :: after))
  | item {form : Form} {value other : Json} (before after : List Json)
      (inner : Edit form value other) :
      Edit (.list form) (.arr (before ++ value :: after)) (.arr (before ++ other :: after))
  | present {form : Form} {value other : Json} (inner : Edit form value other) :
      Edit (.optional form) value other
  | second (name : String) {value other : Json} (inner : Edit .literal value other) :
      Edit .pair (.arr [.str name, value]) (.arr [.str name, other])

end Json

/-! ### Forms are kept -/

namespace Record

theorem nodup_names (sort : Record) : sort.names.Nodup := by
  cases sort <;> decide

theorem form?_of_getElem? {sort : Record} {position : Nat} {name : String} {form : Form}
    (place : sort.members[position]? = some (name, form)) : sort.form? name = some form :=
  Members.lookup_of_mem sort.nodup_names (List.mem_of_getElem? place)

theorem names_of_getElem? {sort : Record} {position : Nat} {name : String} {form : Form}
    (place : sort.members[position]? = some (name, form)) :
    sort.names[position]? = some name := by
  rw [names, List.getElem?_map, place]
  rfl

theorem exists_place {sort : Record} {name : String} {form : Form}
    (known : sort.form? name = some form) :
    ∃ position : Nat, sort.members[position]? = some (name, form) :=
  List.getElem?_of_mem (Members.mem_of_lookup known)

theorem mem_names {sort : Record} {name : String} {form : Form}
    (known : sort.form? name = some form) : name ∈ sort.names :=
  List.mem_map_of_mem (Members.mem_of_lookup known)

end Record

namespace HasForm

variable {sort : Record}

theorem replace {before removed added after : List (String × Json)}
    (has : HasForm (.record sort) (.obj (before ++ removed ++ after)))
    (noTag : sort = .node → ∀ member ∈ removed, member.1 ≠ "_tag")
    (typed : ∀ member ∈ added, ∀ form, sort.form? member.1 = some form → HasForm form member.2) :
    HasForm (.record sort) (.obj (before ++ added ++ after)) := by
  cases has with
  | object each tagged =>
    refine .object (fun member inside => ?_) fun isNode => ?_
    · simp only [List.mem_append] at inside
      rcases inside with (inBefore | isAdded) | inAfter
      · exact each member (List.mem_append_left _ (List.mem_append_left _ inBefore))
      · exact typed member isAdded
      · exact each member (List.mem_append_right _ inAfter)
    · obtain ⟨member, inside, isTag⟩ := List.mem_map.mp (tagged isNode)
      rw [← isTag]
      apply List.mem_map_of_mem
      simp only [List.mem_append] at inside ⊢
      rcases inside with (inBefore | isRemoved) | inAfter
      · exact .inl (.inl inBefore)
      · exact absurd isTag (noTag isNode member isRemoved)
      · exact .inr inAfter

theorem items_iff {items : List Json} :
    HasForm (.record sort) (.arr items) ↔ items.length ≤ sort.names.length ∧
      (sort = .node → items ≠ []) ∧ ∀ (position : Nat) (name : String) (form : Form) (item : Json),
        sort.members[position]? = some (name, form) → items[position]? = some item →
          HasForm form item := by
  constructor
  · intro has
    cases has with
    | array each fits tagged =>
      refine ⟨fits, tagged, fun position name form item place isItem => ?_⟩
      exact each (name, item) (List.mem_iff_getElem?.mpr ⟨position, List.getElem?_zip_eq_some.mpr
        ⟨Record.names_of_getElem? place, isItem⟩⟩) form (Record.form?_of_getElem? place)
  · rintro ⟨fits, tagged, each⟩
    refine .array (fun member inside form isForm => ?_) fits tagged
    obtain ⟨position, found⟩ := List.mem_iff_getElem?.mp inside
    obtain ⟨isName, isItem⟩ := List.getElem?_zip_eq_some.mp found
    obtain ⟨place, isPlace⟩ := Record.exists_place isForm
    have within : position < sort.names.length := (List.getElem?_eq_some_iff.mp isName).1
    have same : position = place := (List.getElem?_inj within sort.nodup_names).mp
      (isName.trans (Record.names_of_getElem? isPlace).symm)
    exact each place member.1 form member.2 isPlace (same ▸ isItem)

end HasForm

namespace Json.Edit

variable {form : Form} {value other : Json}

theorem eq_null_iff (edit : Edit form value other) : value = .null ↔ other = .null := by
  induction edit with
  | same => exact Iff.rfl
  | present _ ih => exact ih
  | _ => exact iff_of_false nofun nofun

private theorem forall_replaced {α : Type} {motive : α → Prop} {before after : List α}
    {item other : α} (each : ∀ inside ∈ before ++ item :: after, motive inside)
    (new : motive other) : ∀ inside ∈ before ++ other :: after, motive inside := by
  rw [List.forall_mem_append, List.forall_mem_cons] at each ⊢
  exact ⟨each.1, new, each.2.2⟩

theorem getElem?_replaced (before after : List Json) (value other : Json) {position : Nat}
    (elsewhere : position ≠ before.length) :
    (before ++ other :: after)[position]? = (before ++ value :: after)[position]? := by
  grind

theorem hasForm (edit : Edit form value other) (has : HasForm form value) :
    HasForm form other := by
  induction edit with
  | same => exact has
  | @reorder form names members others known distinct perm =>
    cases has with
    | bigint found =>
      exact .bigint ((Members.lookup_perm distinct perm "bigint").trans found)
    | object each tagged =>
      exact .object (fun member inside => each member (perm.mem_iff.mpr inside)) fun isNode =>
        (perm.map Prod.fst).mem_iff.mp (tagged isNode)
    | map => cases known
    | present => cases known
  | @unknown form names removed added known before after unknown =>
    cases has with
    | bigint found =>
      obtain rfl := Option.some.inj known
      have absent (member : String × Json) (inside : member ∈ removed ++ added) :
          member.1 ≠ "bigint" := fun same => unknown member inside (same ▸ List.mem_cons_self)
      rw [lookup?, Members.lookup_append_of_absent fun member inside =>
        absent member (List.mem_append_left _ inside)] at found
      have kept : (before ++ added ++ after).lookup "bigint" = (before ++ after).lookup "bigint" :=
        Members.lookup_append_of_absent (fun member inside =>
          absent member (List.mem_append_right _ inside)) after
      exact .bigint (kept.trans found)
    | object each tagged =>
      obtain rfl := Option.some.inj known
      refine HasForm.replace (.object each tagged) ?noTag ?typed
      case noTag =>
        rintro rfl member inside same
        have known : member.1 ∈ Record.node.names := same ▸ List.mem_cons_self
        exact unknown member (List.mem_append_left _ inside) known
      case typed =>
        intro member inside form isForm
        exact absurd (Record.mem_names isForm) (unknown member (List.mem_append_right _ inside))
    | map => cases known
    | present => cases known
  | @ignored kind removed added before after named ignored typed =>
    refine has.replace (fun _ member inside same => ?_) typed
    exact (ignored member (List.mem_append_left _ inside)).2 (same ▸ List.mem_cons_self)
  | @ignoredItems kind items others named fits kept typed =>
    obtain ⟨_, tagged, each⟩ := HasForm.items_iff.mp has
    refine HasForm.items_iff.mpr ⟨fits, fun isNode empty => ?_, ?_⟩
    · have same := kept 0 "_tag" rfl fun ignored => ignored.2 List.mem_cons_self
      rw [empty, List.getElem?_nil, eq_comm, List.getElem?_eq_none_iff, Nat.le_zero,
        List.length_eq_zero_iff] at same
      exact tagged isNode same
    · intro position name form item place isItem
      have isName := Record.names_of_getElem? place
      by_cases ignored : kind.Ignores name
      · have inside := List.getElem?_zip_eq_some (z := (name, item)).mpr ⟨isName, isItem⟩
        exact typed (name, item) (List.mem_of_getElem? inside) ignored form
          (Record.form?_of_getElem? place)
      · exact each position name form item place (kept position name isName ignored ▸ isItem)
  | @member sort form name value other known before after inner ih =>
    cases has with
    | object each tagged =>
      have names : (before ++ (name, other) :: after).map Prod.fst =
          (before ++ (name, value) :: after).map Prod.fst := by simp
      refine .object (forall_replaced each fun otherForm isForm => ?_) fun isNode =>
        names ▸ tagged isNode
      obtain rfl := Option.some.inj (known.symm.trans isForm)
      exact ih (each (name, value) (List.mem_append_right _ List.mem_cons_self) form known)
  | @slot sort form name before value other known after inner ih =>
    obtain ⟨fits, _, each⟩ := HasForm.items_iff.mp has
    refine HasForm.items_iff.mpr ⟨by simpa using fits, fun _ => by simp, ?_⟩
    intro position otherName otherForm item place isItem
    by_cases here : position = before.length
    · subst here
      obtain ⟨rfl, rfl⟩ := Prod.mk.inj (Option.some.inj (known.symm.trans place))
      obtain rfl : other = item := by simpa using isItem
      exact ih (each before.length name form value known (by simp))
    · rw [getElem?_replaced before after value other here] at isItem
      exact each position otherName otherForm item place isItem
  | @item form value other before after inner ih =>
    cases has with
    | list each =>
      exact .list (forall_replaced each
        (ih (each value (List.mem_append_right _ List.mem_cons_self))))
  | @present form value other inner ih =>
    cases has with
    | absent => exact (inner.eq_null_iff.mp rfl) ▸ .absent form
    | present has => exact .present (ih has)
  | @second name value other inner ih =>
    cases has with
    | pair name literal => exact .pair name (ih literal)

end Json.Edit

end SchemaOutline
