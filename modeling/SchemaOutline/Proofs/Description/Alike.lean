import SchemaOutline.Proofs.Description.View
import SchemaOutline.Proofs.Members

/-! Values that are read alike, compared from the inside out. -/

set_option autoImplicit false
set_option relaxedAutoImplicit false

namespace SchemaOutline.Description

open List (Forall₂)

variable {α ρ : Type} {value other : Json}

def readBelow (bound : Nat) : Below bound Description := fun value _ => read value

/-- Two procedures, each below a bound of its own, do the same with two values. -/
def DoAlike {bound limit : Nat} (read : Below bound α) (readOther : Below limit α)
    (value other : Json) : Prop :=
  ∀ small smaller, read value small = readOther other smaller

/-- Two values of a form are read alike. -/
def ReadAlike : Form → Json → Json → Prop
  | .record .node, value, other => read value = read other
  | .record .field, value, other => ∀ bound limit,
      DoAlike (Field.read (readBelow bound)) (Field.read (readBelow limit)) value other
  | .record .signature, value, other => ∀ bound limit,
      DoAlike (Signature.read (readBelow bound)) (Signature.read (readBelow limit)) value other
  | .record .element, value, other => ∀ bound limit,
      DoAlike (Element.read (readBelow bound)) (Element.read (readBelow limit)) value other
  | .list form, value, other => value = other ∨ ∃ items others, value = .arr items ∧
      other = .arr others ∧ Forall₂ (ReadAlike form) items others
  | .optional form, value, other => (value = .null ↔ other = .null) ∧ ReadAlike form value other
  | _, value, other => value = other

/-! ### Reading what is inside -/

section

variable {bound limit : Nat} {read : Below bound α} {readOther : Below limit α}

theorem DoAlike.readOptional (alike : DoAlike read readOther value other)
    (nulls : value = .null ↔ other = .null) :
    DoAlike (readOptional read) (readOptional readOther) value other := by
  intro small smaller
  by_cases absent : value = .null
  · obtain rfl := nulls.mp absent
    obtain rfl := absent
    rfl
  · have present : other ≠ .null := fun null => absent (nulls.mpr null)
    rw [Description.readOptional, Description.readOptional, alike small smaller]
    · exact fun _ same _ => present same
    · exact fun _ same _ => absent same

private theorem forall₂_attach {β : Type} {R : β → β → Prop} {items others : List β}
    (related : Forall₂ R items others) :
    Forall₂ (fun item other => R item.1 other.1) items.attach others.attach := by
  have attached : Forall₂ R (items.attach.map Subtype.val) (others.attach.map Subtype.val) := by
    rwa [List.attach_map_subtype_val, List.attach_map_subtype_val]
  rwa [List.forall₂_map_left_iff, List.forall₂_map_right_iff] at attached

theorem DoAlike.readList {items others : List Json}
    (each : Forall₂ (DoAlike read readOther) items others) :
    DoAlike (readList read) (readList readOther) (.arr items) (.arr others) := by
  intro small smaller
  rw [Description.readList, Description.readList]
  exact mapM_eq_of_forall₂ ((forall₂_attach each).imp fun item other alike => alike _ _)

end

theorem readRecord_alike {names : List String} {expected : Expected} {blank : ρ}
    {write : ρ → String → Below value.size ρ} {writeOther : ρ → String → Below other.size ρ}
    {slots others : List (String × Json)} (found : slots? names value = some slots)
    (foundOther : slots? names other = some others)
    (excess : excess? names value = excess? names other)
    (each : Forall₂ (fun slot other => ∀ record,
      DoAlike (write record slot.1) (writeOther record other.1) slot.2 other.2) slots others) :
    readRecord names expected blank value write =
      readRecord names expected blank other writeOther := by
  have written := foldlM_eq_of_forall₂ ((forall₂_attach each).imp fun slot other alike record =>
    alike record (size_lt_of_mem_slots? found slot.2) (size_lt_of_mem_slots? foundOther other.2))
    blank
  rw [readRecord_of_some found, readRecord_of_some foundOther, written, excess]

theorem ReadAlike.readOptionalNode {bound limit : Nat}
    (alike : ReadAlike (.optional (.record .node)) value other) :
    DoAlike (readOptional (readBelow bound)) (readOptional (readBelow limit)) value other :=
  DoAlike.readOptional (fun _ _ => alike.2) alike.1

/-! ### Writing members -/

section

variable {bound limit : Nat} {name : String}

theorem Field.write_alike (field : Field Description)
    (alike : ∀ form, Record.field.form? name = some form → ReadAlike form value other) :
    DoAlike (field.write (readBelow bound) name) (field.write (readBelow limit) name)
      value other := by
  intro small smaller
  unfold Field.write
  split
  · obtain rfl : value = other := (alike _ rfl).2
    rfl
  · obtain rfl : value = other := (alike _ rfl).2
    rfl
  · rw [(alike _ rfl).readOptionalNode]
  · obtain rfl : value = other := alike _ rfl
    rfl
  · obtain rfl : value = other := alike _ rfl
    rfl
  · obtain rfl : value = other := (alike _ rfl).2
    rfl
  · rfl

theorem Signature.write_alike (signature : Signature Description)
    (alike : ∀ form, Record.signature.form? name = some form → ReadAlike form value other) :
    DoAlike (signature.write (readBelow bound) name) (signature.write (readBelow limit) name)
      value other := by
  intro small smaller
  unfold Signature.write
  split
  · rw [(alike _ rfl).readOptionalNode]
  · rw [(alike _ rfl).readOptionalNode]
  · rfl

theorem Element.write_alike (element : Element Description)
    (alike : ∀ form, Record.element.form? name = some form → ReadAlike form value other) :
    DoAlike (element.write (readBelow bound) name) (element.write (readBelow limit) name)
      value other := by
  intro small smaller
  unfold Element.write
  split
  · rw [(alike _ rfl).readOptionalNode]
  · obtain rfl : value = other := alike _ rfl
    rfl
  · obtain rfl : value = other := (alike _ rfl).2
    rfl
  · rfl

end

/-! ### Reading records -/

def SlotAlike (sort : Record) (slot other : String × Json) : Prop :=
  slot.1 = other.1 ∧ ∀ form, sort.form? slot.1 = some form → ReadAlike form slot.2 other.2

/-- Two values have the same slots, up to what is read alike. -/
inductive SlotsAlike (sort : Record) : Json → Json → Prop
  | slotless {value : Json} (none : slots? sort.names value = none) : SlotsAlike sort value value
  | slots {value other : Json} {slots others : List (String × Json)}
      (found : slots? sort.names value = some slots)
      (foundOther : slots? sort.names other = some others)
      (excess : excess? sort.names value = excess? sort.names other)
      (each : Forall₂ (SlotAlike sort) slots others) : SlotsAlike sort value other

namespace SlotsAlike

variable {sort : Record} {bound limit : Nat}

theorem readRecord {blank : ρ} {write : ρ → String → Below value.size ρ}
    {writeOther : ρ → String → Below other.size ρ} (alike : SlotsAlike sort value other)
    (each : ∀ record name {inner otherInner},
      (∀ form, sort.form? name = some form → ReadAlike form inner otherInner) →
        DoAlike (write record name) (writeOther record name) inner otherInner) :
    readRecord sort.names sort.expected blank value write =
      readRecord sort.names sort.expected blank other writeOther := by
  cases alike with
  | slotless none => rw [readRecord_of_none none, readRecord_of_none none]
  | slots found foundOther excess related =>
    apply readRecord_alike found foundOther excess
    apply related.imp
    rintro ⟨name, inner⟩ ⟨_, otherInner⟩ ⟨rfl, innerAlike⟩ record
    exact each record name innerAlike

theorem refl_of_members (each : ∀ member ∈ sort.members, ∀ inner, ReadAlike member.2 inner inner)
    (value : Json) : SlotsAlike sort value value := by
  cases found : slots? sort.names value with
  | none => exact .slotless found
  | some slots =>
    refine .slots found found rfl (List.forall₂_same.mpr fun slot _ => ⟨rfl, fun form known => ?_⟩)
    exact each (slot.1, form) (Members.mem_of_lookup known) slot.2

theorem readField (alike : SlotsAlike .field value other) :
    DoAlike (Field.read (readBelow bound)) (Field.read (readBelow limit)) value other :=
  fun _ _ => alike.readRecord fun field _ _ _ innerAlike _ _ =>
    Field.write_alike field innerAlike _ _

theorem readSignature (alike : SlotsAlike .signature value other) :
    DoAlike (Signature.read (readBelow bound)) (Signature.read (readBelow limit)) value other :=
  fun _ _ => alike.readRecord fun signature _ _ _ innerAlike _ _ =>
    Signature.write_alike signature innerAlike _ _

theorem readElement (alike : SlotsAlike .element value other) :
    DoAlike (Element.read (readBelow bound)) (Element.read (readBelow limit)) value other :=
  fun _ _ => alike.readRecord fun element _ _ _ innerAlike _ _ =>
    Element.write_alike element innerAlike _ _

end SlotsAlike

/-! ### Values that are read alike -/

namespace ReadAlike

theorem refl (form : Form) (value : Json) : ReadAlike form value value := by
  induction form with
  | record sort =>
    cases sort with
    | node => rfl
    | field =>
      intro bound limit
      exact (SlotsAlike.refl_of_members (by simp [Record.members, ReadAlike]) value).readField
    | signature =>
      intro bound limit
      exact (SlotsAlike.refl_of_members (by simp [Record.members, ReadAlike]) value).readSignature
    | element =>
      intro bound limit
      exact (SlotsAlike.refl_of_members (by simp [Record.members, ReadAlike]) value).readElement
  | list form => exact .inl rfl
  | optional form ih => exact ⟨Iff.rfl, ih⟩
  | _ => rfl

theorem readList (form : Form) {bound limit : Nat} {read : Below bound α}
    {readOther : Below limit α}
    (each : ∀ {inner otherInner}, ReadAlike form inner otherInner →
      DoAlike read readOther inner otherInner) (alike : ReadAlike (.list form) value other) :
    DoAlike (readList read) (readList readOther) value other := by
  rcases alike with rfl | ⟨items, others, rfl, rfl, related⟩
  · cases value with
    | arr items => exact .readList (List.forall₂_same.mpr fun item _ => each (refl form item))
    | _ => exact fun _ _ => rfl
  · exact .readList (related.imp fun _ _ => each)

variable {bound limit : Nat}

theorem readNodes (alike : ReadAlike (.list (.record .node)) value other) :
    DoAlike (Description.readList (readBelow bound)) (Description.readList (readBelow limit))
      value other :=
  readList (.record .node) (fun same _ _ => same) alike

theorem readFields (alike : ReadAlike (.list (.record .field)) value other) :
    DoAlike (Description.readList (Field.read (readBelow bound)))
      (Description.readList (Field.read (readBelow limit))) value other :=
  readList (.record .field) (fun same => same bound limit) alike

theorem readSignatures (alike : ReadAlike (.list (.record .signature)) value other) :
    DoAlike (Description.readList (Signature.read (readBelow bound)))
      (Description.readList (Signature.read (readBelow limit))) value other :=
  readList (.record .signature) (fun same => same bound limit) alike

theorem readElements (alike : ReadAlike (.list (.record .element)) value other) :
    DoAlike (Description.readList (Element.read (readBelow bound)))
      (Description.readList (Element.read (readBelow limit))) value other :=
  readList (.record .element) (fun same => same bound limit) alike

theorem readPairs (alike : ReadAlike (.list .pair) value other) :
    DoAlike (Description.readList fun pair (_ : pair.size < bound) => readPair pair)
      (Description.readList fun pair (_ : pair.size < limit) => readPair pair) value other :=
  readList .pair (fun same _ _ => congrArg readPair same) alike

end ReadAlike

section

variable {bound limit : Nat} {name : String}

theorem Body.write_alike (body : Body Description)
    (alike : ∀ form, Record.node.form? name = some form → ReadAlike form value other) :
    DoAlike (body.write (readBelow bound) name) (body.write (readBelow limit) name)
      value other := by
  intro small smaller
  unfold Body.write
  split
  · obtain rfl : value = other := (alike _ rfl).2
    rfl
  · rw [(alike _ rfl).readFields]
  · rw [(alike _ rfl).readSignatures]
  · rw [(alike _ rfl).readNodes]
  · rw [(alike _ rfl).readElements]
  · rw [(alike _ rfl).readElements]
  · rw [(alike _ rfl).readOptionalNode]
  · rw [(alike _ rfl).readOptionalNode]
  · rw [(alike _ rfl).readNodes]
  · obtain rfl : value = other := (alike _ rfl).2
    rfl
  · obtain rfl : value = other := alike _ rfl
    rfl
  · obtain rfl : value = other := (alike _ rfl).2
    rfl
  · rw [(alike _ rfl).readPairs]
  · obtain rfl : value = other := (alike _ rfl).2
    rfl
  · obtain rfl : value = other := (alike _ rfl).2
    rfl
  · rfl

theorem Draft.write_alike (draft : Draft Description)
    (alike : ∀ form, Record.node.form? name = some form → ReadAlike form value other) :
    DoAlike (draft.write (readBelow bound) name) (draft.write (readBelow limit) name)
      value other := by
  intro small smaller
  unfold Draft.write
  split
  · obtain rfl : value = other := alike _ rfl
    rfl
  · rw [draft.body.write_alike alike]

end

theorem read_eq (value : Json) : read value = (do
    let draft ← readRecord Record.node.names Record.node.expected Draft.blank value
      (Draft.write (readBelow value.size))
    match draft.tag with
    | some tag => pure (mk tag draft.body)
    | none => .error (withoutTag value)) := by
  rw [read]
  rfl

theorem SlotsAlike.readNode (alike : SlotsAlike .node value other)
    (tagged : ∀ slots, slots? Record.node.names value = some slots → "_tag" ∉ slots.map Prod.fst →
      withoutTag value = withoutTag other) : read value = read other := by
  have same : Description.readRecord Record.node.names Record.node.expected Draft.blank value
        (Draft.write (readBelow value.size)) =
      Description.readRecord Record.node.names Record.node.expected Draft.blank other
        (Draft.write (readBelow other.size)) :=
    alike.readRecord fun draft _ _ _ innerAlike => draft.write_alike innerAlike
  rw [read_eq, read_eq, ← same]
  cases isDraft : Description.readRecord Record.node.names Record.node.expected Draft.blank value
      (Draft.write (readBelow value.size)) with
  | error cause => rfl
  | ok draft =>
    obtain ⟨tag?, body⟩ := draft
    cases tag? with
    | some tag => rfl
    | none =>
      have both : withoutTag value = withoutTag other := by
        cases found : slots? Record.node.names value with
        | none => cases (readRecord_of_none found).symm.trans isDraft
        | some slots =>
          refine tagged slots found fun inside => ?_
          cases (isSome_tag_iff found isDraft).mpr inside
      exact congrArg Except.error both

/-- Records are read alike if their slots are, and nodes if they do not both lack the name of their
kind in ways that are told apart. -/
theorem SlotsAlike.readAlike {sort : Record} (alike : SlotsAlike sort value other)
    (tagged : sort = .node → ∀ slots, slots? sort.names value = some slots →
      "_tag" ∉ slots.map Prod.fst → withoutTag value = withoutTag other) :
    ReadAlike (.record sort) value other := by
  cases sort with
  | node => exact alike.readNode (tagged rfl)
  | field => exact fun _ _ => alike.readField
  | signature => exact fun _ _ => alike.readSignature
  | element => exact fun _ _ => alike.readElement

theorem ReadAlike.trans {sort : Record} {third : Json}
    (first : ReadAlike (.record sort) value other)
    (second : ReadAlike (.record sort) other third) : ReadAlike (.record sort) value third := by
  -- A bound between the two that is large enough for the value in the middle.
  have small := Nat.lt_succ_self other.size
  cases sort with
  | node => exact Eq.trans first second
  | field => exact fun bound limit before after =>
      (first bound _ before small).trans (second _ limit small after)
  | signature => exact fun bound limit before after =>
      (first bound _ before small).trans (second _ limit small after)
  | element => exact fun bound limit before after =>
      (first bound _ before small).trans (second _ limit small after)

end SchemaOutline.Description
