import SchemaOutline.Proofs.Description.Edits

/-! An edited value says the same shape and annotations, with edited values inside. -/

set_option autoImplicit false
set_option relaxedAutoImplicit false

namespace SchemaOutline

open List (Forall₂)
open Description Json

def Form.isRigid : Form → Bool
  | .text | .flag | .map => true
  | .optional form => form.isRigid
  | .literal | .pair | .record _ | .list _ => false

namespace Json.Edit

variable {form : Form} {value other : Json} {found others : Option Json}

theorem eq_of_isRigid (edit : Edit form value other) (rigid : form.isRigid = true) :
    value = other := by
  induction edit with
  | same => rfl
  | present _ ih => exact ih rigid
  | @reorder form _ _ _ known =>
    cases form with
    | record sort => cases rigid
    | literal => cases rigid
    | _ => cases known
  | @unknown form _ _ _ known =>
    cases form with
    | record sort => cases rigid
    | literal => cases rigid
    | _ => cases known
  | _ => cases rigid

theorem eq_of_rel (related : Option.Rel (Edit form) found others) (rigid : form.isRigid = true) :
    found = others := by
  cases related with
  | none => rfl
  | some edit => rw [edit.eq_of_isRigid rigid]

theorem rel_refl (form : Form) (found : Option Json) : Option.Rel (Edit form) found found := by
  cases found with
  | none => exact .none
  | some value => exact .some (.same form value)

theorem forall₂_refl (form : Form) (items : List Json) : Forall₂ (Edit form) items items :=
  List.forall₂_same.mpr fun item _ => .same form item

theorem of_optional (edit : Edit (.optional form) value other) : Edit form value other := by
  cases edit with
  | same => exact .same form value
  | present inner => exact inner
  | reorder known => cases known
  | unknown known => cases known

theorem rel_nodeOf (related : Option.Rel (Edit (.optional form)) found others) :
    Option.Rel (Edit form) (nodeOf found) (nodeOf others) := by
  cases related with
  | none => exact .none
  | @some value other edit =>
    by_cases absent : value = .null
    · obtain rfl := edit.eq_null_iff.mp absent
      obtain rfl := absent
      exact .none
    · have there (value : Json) (absent : value ≠ .null) : nodeOf (some value) = some value := by
        rw [nodeOf]
        exact fun same => absent (Option.some.inj same)
      rw [there value absent, there other fun null => absent (edit.eq_null_iff.mpr null)]
      exact .some edit.of_optional

theorem forall₂_itemsOf (related : Option.Rel (Edit (.list form)) found others) :
    Forall₂ (Edit form) (itemsOf found) (itemsOf others) := by
  cases related with
  | none => exact .nil
  | some edit =>
    cases edit with
    | same => exact forall₂_refl form _
    | item before after inner =>
      exact List.rel_append (forall₂_refl form before) (.cons inner (forall₂_refl form after))
    | reorder known => cases known
    | unknown known => cases known

theorem literalOf_eq (edit : Edit .literal value other) : literalOf value = literalOf other := by
  cases edit with
  | same => rfl
  | @reorder _ names members others known distinct perm =>
    rw [literalOf, literalOf, lookup?, lookup?, Members.lookup_perm distinct perm]
  | @unknown _ names removed added known before after unknown =>
    obtain rfl := Option.some.inj known
    have absent (member : String × Json) (inside : member ∈ removed ++ added) :
        member.1 ≠ "bigint" := fun same => unknown member inside (same ▸ List.mem_cons_self)
    rw [literalOf, literalOf, lookup?, lookup?,
      Members.lookup_append_of_absent fun member inside =>
        absent member (List.mem_append_left _ inside),
      Members.lookup_append_of_absent fun member inside =>
        absent member (List.mem_append_right _ inside)]

theorem map_literalOf_eq (related : Option.Rel (Edit .literal) found others) :
    found.map literalOf = others.map literalOf := by
  cases related with
  | none => rfl
  | some edit => exact congrArg some edit.literalOf_eq

theorem pairOf_eq (edit : Edit .pair value other) : pairOf value = pairOf other := by
  cases edit with
  | same => rfl
  | second name inner => rw [pairOf, pairOf, inner.literalOf_eq]
  | reorder known => cases known
  | unknown known => cases known

/-! ### Members that count -/

private theorem lookup?_reverse {name : String} {others : List (String × Json)}
    (absent : ∀ member ∈ others, member.1 ≠ name) (before after : List (String × Json)) :
    lookup? (before ++ others ++ after).reverse name = lookup? (before ++ after).reverse name := by
  rw [List.reverse_append, List.reverse_append, ← List.append_assoc, List.reverse_append]
  exact Members.lookup_append_of_absent
    (fun member inside => absent member (List.mem_reverse.mp inside)) _

private theorem rel_replaced {name : String} {removed added : List (String × Json)}
    (absent : ∀ member ∈ removed ++ added, member.1 ≠ name) (before after : List (String × Json)) :
    Option.Rel (Edit form) (lookup? (before ++ removed ++ after).reverse name)
      (lookup? (before ++ added ++ after).reverse name) := by
  rw [lookup?_reverse fun member inside => absent member (List.mem_append_left _ inside),
    lookup?_reverse fun member inside => absent member (List.mem_append_right _ inside)]
  exact rel_refl form _

private theorem lookup?_items {sort : Record} {position : Nat} {name : String} {form : Form}
    (place : sort.members[position]? = some (name, form)) (items : List Json) :
    lookup? ((Json.arr items).slots sort) name = items[position]? :=
  Members.lookup_reverse_zip sort.nodup_names (Record.names_of_getElem? place) items

theorem rel_lookup? {sort : Record} (edit : Edit (.record sort) value other) {name : String}
    (known : sort.form? name = some form)
    (counts : sort = .node → ∀ kind : Kind, kind.name = tagOf value → ¬ kind.Ignores name) :
    Option.Rel (Edit form) (lookup? (value.slots sort) name) (lookup? (other.slots sort) name) := by
  cases edit with
  | same => exact rel_refl form _
  | @reorder _ names members others _ distinct perm =>
    have perm : members.reverse.Perm others.reverse :=
      (List.reverse_perm members).trans (perm.trans (List.reverse_perm others).symm)
    have distinct : (members.reverse.map Prod.fst).Nodup := by
      rwa [List.map_reverse, List.nodup_reverse]
    have same : lookup? others.reverse name = lookup? members.reverse name :=
      Members.lookup_perm distinct perm name
    show Option.Rel _ (lookup? members.reverse name) (lookup? others.reverse name)
    rw [same]
    exact rel_refl form _
  | @unknown _ names removed added isKnown before after unknown =>
    obtain rfl := Option.some.inj isKnown
    have absent (member : String × Json) (inside : member ∈ removed ++ added) : member.1 ≠ name :=
      fun same => unknown member inside (same ▸ Record.mem_names known)
    exact rel_replaced absent before after
  | @ignored kind removed added before after named ignored _ =>
    have absent (member : String × Json) (inside : member ∈ removed ++ added) : member.1 ≠ name :=
      fun same => counts rfl kind named (same ▸ ignored member inside)
    exact rel_replaced absent before after
  | @ignoredItems kind items others named _ kept _ =>
    obtain ⟨position, place⟩ := Record.exists_place known
    have same := kept position name (Record.names_of_getElem? place) (counts rfl kind named)
    rw [lookup?_items place, lookup?_items place, same]
    exact rel_refl form _
  | @member _ otherForm otherName value other isMember before after inner =>
    have reversed (value : Json) : (before ++ (otherName, value) :: after).reverse =
        after.reverse ++ (otherName, value) :: before.reverse := by simp
    show Option.Rel _ (lookup? (before ++ (otherName, value) :: after).reverse name)
      (lookup? (before ++ (otherName, other) :: after).reverse name)
    rw [reversed, reversed, lookup?, lookup?, List.lookup_append, List.lookup_append]
    cases after.reverse.lookup name with
    | some last => exact rel_refl form _
    | none =>
      rw [Option.none_or, Option.none_or, List.lookup_cons, List.lookup_cons]
      by_cases here : name = otherName
      · obtain rfl := here
        obtain rfl := Option.some.inj (isMember.symm.trans known)
        rw [beq_self_eq_true]
        exact .some inner
      · rw [beq_eq_false_iff_ne.mpr here]
        exact rel_refl form _
  | @slot _ otherForm otherName before value other isSlot after inner =>
    obtain ⟨position, place⟩ := Record.exists_place known
    rw [lookup?_items place, lookup?_items place]
    by_cases here : position = before.length
    · subst here
      obtain ⟨rfl, rfl⟩ := Prod.mk.inj (Option.some.inj (isSlot.symm.trans place))
      simpa using Option.Rel.some inner
    · rw [getElem?_replaced before after value other here]
      exact rel_refl form _

end Json.Edit

namespace Description

variable {value other : Json}

theorem Field.agrees_of_edit (edit : Edit (.record .field) value other) :
    Field.Agrees (Edit (.record .node)) (.ofJson value) (.ofJson other) := by
  have member {name : String} {form : Form} (known : Record.field.form? name = some form) :=
    edit.rel_lookup? known nofun
  exact {
    name := congrArg textOf (Edit.eq_of_rel (member rfl) rfl)
    symbol := congrArg textOf (Edit.eq_of_rel (member rfl) rfl)
    type := Edit.rel_nodeOf (member rfl)
    optional := congrArg flagOf (Edit.eq_of_rel (member rfl) rfl)
    readonly := congrArg flagOf (Edit.eq_of_rel (member rfl) rfl)
    annotations := congrArg mapOf (Edit.eq_of_rel (member rfl) rfl) }

theorem Signature.agrees_of_edit (edit : Edit (.record .signature) value other) :
    Signature.Agrees (Edit (.record .node)) (.ofJson value) (.ofJson other) := by
  have member {name : String} {form : Form} (known : Record.signature.form? name = some form) :=
    edit.rel_lookup? known nofun
  exact ⟨Edit.rel_nodeOf (member rfl), Edit.rel_nodeOf (member rfl)⟩

theorem Element.agrees_of_edit (edit : Edit (.record .element) value other) :
    Element.Agrees (Edit (.record .node)) (.ofJson value) (.ofJson other) := by
  have member {name : String} {form : Form} (known : Record.element.form? name = some form) :=
    edit.rel_lookup? known nofun
  exact ⟨Edit.rel_nodeOf (member rfl), congrArg flagOf (Edit.eq_of_rel (member rfl) rfl),
    congrArg mapOf (Edit.eq_of_rel (member rfl) rfl)⟩

theorem Body.agrees_of_edits {slots others : List (String × Json)}
    (member : ∀ {name : String} {form : Form}, Record.node.form? name = some form →
      Option.Rel (Edit form) (lookup? slots name) (lookup? others name)) :
    Body.Agrees (Edit (.record .node)) (.ofSlots slots) (.ofSlots others) := by
  have fixed {α : Type} (view : Option Json → α) {name : String} {form : Form}
      (known : Record.node.form? name = some form) (rigid : form.isRigid = true) :
      view (lookup? slots name) = view (lookup? others name) :=
    congrArg view (Edit.eq_of_rel (member known) rigid)
  have lists {α : Type} {R : α → α → Prop} {ofJson : Json → α} {name : String} {form : Form}
      (known : Record.node.form? name = some (.list form))
      (each : ∀ value other, Edit form value other → R (ofJson value) (ofJson other)) :
      Forall₂ R ((itemsOf (lookup? slots name)).map ofJson)
        ((itemsOf (lookup? others name)).map ofJson) := by
    rw [List.forall₂_map_left_iff, List.forall₂_map_right_iff]
    exact (Edit.forall₂_itemsOf (member known)).imp each
  exact {
    annotations := fixed mapOf rfl rfl
    fields := lists rfl fun _ _ edit => Field.agrees_of_edit edit
    signatures := lists rfl fun _ _ edit => Signature.agrees_of_edit edit
    types := Edit.forall₂_itemsOf (member rfl)
    elements := lists rfl fun _ _ edit => Element.agrees_of_edit edit
    rest := lists rfl fun _ _ edit => Element.agrees_of_edit edit
    source := Edit.rel_nodeOf (member rfl)
    target := Edit.rel_nodeOf (member rfl)
    typeParameters := Edit.forall₂_itemsOf (member rfl)
    name := fixed textOf rfl rfl
    literal := Edit.map_literalOf_eq (member rfl)
    pattern := fixed textOf rfl rfl
    enums := by
      have pairs : Forall₂ Eq ((itemsOf (lookup? slots "enums")).map pairOf)
          ((itemsOf (lookup? others "enums")).map pairOf) :=
        lists rfl fun _ _ edit => edit.pairOf_eq
      rwa [List.forall₂_eq_eq_eq] at pairs
    description := fixed textOf rfl rfl
    reference := fixed textOf rfl rfl }

def countedSlots (kind : Kind) (slots : List (String × Json)) : List (String × Json) :=
  slots.filter fun slot => decide (slot.1 ∈ kind.counted)

theorem lookup?_countedSlots (kind : Kind) (slots : List (String × Json)) (name : String) :
    lookup? (countedSlots kind slots) name =
      if name ∈ kind.counted then lookup? slots name else none := by
  rw [lookup?, countedSlots, Members.lookup_filter fun name => decide (name ∈ kind.counted)]
  by_cases counted : name ∈ kind.counted
  · rw [if_pos counted, if_pos (decide_eq_true counted)]
    rfl
  · rw [if_neg counted, if_neg (by simpa using counted)]

theorem Body.shape_countedSlots (definitions : List (String × Json)) (kind : Kind)
    (slots : List (String × Json)) :
    (Body.ofSlots (countedSlots kind slots)).shape definitions kind =
      (Body.ofSlots slots).shape definitions kind := by
  have kept (name : String) (counted : name ∈ kind.counted) :
      lookup? (countedSlots kind slots) name = lookup? slots name :=
    (lookup?_countedSlots kind slots name).trans (if_pos counted)
  cases kind with
  | struct =>
    simp only [shape, ofSlots, kept "fields" (by decide), kept "indexSignatures" (by decide)]
  | union => simp only [shape, ofSlots, kept "types" (by decide)]
  | tuple => simp only [shape, ofSlots, kept "elements" (by decide), kept "rest" (by decide)]
  | refinement => simp only [shape, ofSlots, kept "from" (by decide), kept "name" (by decide)]
  | transformation => simp only [shape, ofSlots, kept "from" (by decide), kept "to" (by decide)]
  | declaration =>
    simp only [shape, ofSlots, kept "typeParameters" (by decide), kept "name" (by decide)]
  | suspend => simp only [shape, ofSlots, kept "ref" (by decide)]
  | keyword word => rfl
  | literal => simp only [shape, ofSlots, kept "literal" (by decide)]
  | templateLiteral => simp only [shape, ofSlots, kept "pattern" (by decide)]
  | enums => simp only [shape, ofSlots, kept "enums" (by decide)]
  | uniqueSymbol => simp only [shape, ofSlots, kept "description" (by decide)]

private theorem lookup?_of_edit (edit : Edit (.record .node) value other) {name : String}
    {form : Form} (known : Record.node.form? name = some form) (rigid : form.isRigid = true)
    (counted : ∀ kind : Kind, name ∈ kind.counted) :
    lookup? (value.slots .node) name = lookup? (other.slots .node) name :=
  Edit.eq_of_rel (edit.rel_lookup? known fun _ kind _ ignored => ignored.2 (counted kind)) rigid

theorem tagOf_of_edit (edit : Edit (.record .node) value other) : tagOf value = tagOf other := by
  have same : lookup? (value.slots .node) "_tag" = lookup? (other.slots .node) "_tag" :=
    lookup?_of_edit edit rfl rfl fun _ => List.mem_cons_self
  rw [tagOf, tagOf, same]

theorem Body.annotations_of_edit (edit : Edit (.record .node) value other) :
    (Body.ofJson value).annotations = (Body.ofJson other).annotations :=
  congrArg mapOf (lookup?_of_edit edit rfl rfl fun _ => List.mem_cons_of_mem _ List.mem_cons_self)

/-- An edited node says the shape that it said for its kind, with edited nodes in the places of
schemas. -/
theorem Body.shape_of_edit {definitions : List (String × Json)} {kind : Kind} {shape : Shape Json}
    (edit : Edit (.record .node) value other) (named : kind.name = tagOf value)
    (ok : (Body.ofJson value).shape definitions kind = .ok shape) :
    ∃ parts fits, (Body.ofJson other).shape definitions kind = .ok (shape.refill parts fits) ∧
      Forall₂ (Edit (.record .node)) shape.parts parts := by
  have agrees : Body.Agrees (Edit (.record .node))
      (.ofSlots (countedSlots kind (value.slots .node)))
      (.ofSlots (countedSlots kind (other.slots .node))) := by
    apply Body.agrees_of_edits
    intro name form known
    rw [lookup?_countedSlots, lookup?_countedSlots]
    by_cases counted : name ∈ kind.counted
    · rw [if_pos counted, if_pos counted]
      refine edit.rel_lookup? known fun _ other isKind ignored => ?_
      exact ignored.2 (Kind.name_injective (isKind.trans named.symm) ▸ counted)
    · rw [if_neg counted, if_neg counted]
      exact .none
  rw [Body.ofJson, ← shape_countedSlots] at ok
  rw [Body.ofJson, ← shape_countedSlots]
  exact Body.shape_congr agrees ok

end Description

end SchemaOutline
