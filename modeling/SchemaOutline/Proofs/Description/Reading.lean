import SchemaOutline.Description.Content
import SchemaOutline.Proofs.Description.Grammar
import SchemaOutline.Proofs.Reports

/-! Reading succeeds exactly on values of the form; its error is the first mismatch. -/

set_option autoImplicit false
set_option relaxedAutoImplicit false

namespace SchemaOutline.Description

open Form

variable {α ρ : Type} {bound : Nat}

private theorem reports_readText (value : Json) :
    Reports (readText value) (textMismatches value) := by
  cases value <;> rfl

private theorem reports_readFlag (value : Json) :
    Reports (readFlag value) (mismatches .flag value) := by
  rw [mismatches]
  cases value <;> rfl

private theorem reports_readLiteral (value : Json) :
    Reports (readLiteral value) (literalMismatches value) := by
  cases value with
  | obj members =>
    rw [literalMismatches, isLiteral, readLiteral]
    cases Json.lookup? members "bigint" with
    | none => rfl
    | some inner => cases inner <;> rfl
  | num value => cases value <;> rfl
  | null => rfl
  | bool value => rfl
  | str text => rfl
  | arr items => rfl

private theorem reports_readPair (value : Json) :
    Reports (readPair value) (pairMismatches value) := by
  match value with
  | .arr [] => rfl
  | .arr [first] =>
    apply (reports_readText first).bind
    intro name _
    rfl
  | .arr (first :: second :: more) =>
    rw [pairMismatches, List.append_assoc]
    apply (reports_readText first).bind
    intro name _
    apply (reports_readLiteral second).bind
    intro literal _
    cases more with
    | nil => rfl
    | cons third more => rfl
  | .null => rfl
  | .bool _ => rfl
  | .num _ => rfl
  | .str _ => rfl
  | .obj _ => rfl

private theorem reports_readOptionalText (value : Json) :
    Reports (readOptionalText value) (mismatches (.optional .text) value) := by
  by_cases absent : value = .null
  · subst absent
    rw [mismatches_optional_null]
    rfl
  · rw [mismatches_optional absent, mismatches, readOptionalText]
    · exact (reports_readText value).map some
    · exact absent

private theorem reports_readAnnotations (value : Json) :
    Reports (readAnnotations value) (mismatches (.optional .map) value) := by
  by_cases absent : value = .null
  · subst absent
    rw [mismatches_optional_null]
    rfl
  · rw [mismatches_optional absent, mismatches]
    cases value with
    | null => exact absurd rfl absent
    | _ => rfl

theorem reports_readOptional {form : Form} {read : Below bound α}
    (reports : ∀ value small, Reports (read value small) (mismatches form value))
    (value : Json) (small : value.size < bound) :
    Reports (readOptional read value small) (mismatches (.optional form) value) := by
  by_cases absent : value = .null
  · subst absent
    rw [mismatches_optional_null]
    rfl
  · rw [mismatches_optional absent, readOptional]
    · exact (reports value small).map some
    · exact fun _ same _ => absent same

theorem reports_readList {form : Form} {read : Below bound α}
    (reports : ∀ value small, Reports (read value small) (mismatches form value))
    (value : Json) (small : value.size < bound) :
    Reports (readList read value small) (mismatches (.list form) value) := by
  by_cases isList : ∃ items, value = .arr items
  · obtain ⟨items, rfl⟩ := isList
    rw [mismatches, readList]
    apply Reports.mapM
    intro item _
    exact reports item.1 _
  · have noList : ∀ items, value = .arr items → False := fun items same => isList ⟨items, same⟩
    rw [mismatches, readList]
    · rfl
    · exact fun items _ same _ => noList items same
    · exact noList

private theorem reports_excess (sort : Record) (value : Json) (record : ρ) :
    Reports (match excess? sort.names value with
      | some length => Except.error (Mismatch.excess length)
      | none => pure record) (excessMismatches sort value) := by
  cases value with
  | arr items =>
    rw [excess?, excessMismatches, expect]
    by_cases fits : items.length ≤ sort.names.length
    · rw [if_neg (Nat.not_lt.mpr fits), decide_eq_true fits]
      rfl
    · rw [if_pos (Nat.not_le.mp fits), decide_eq_false fits]
      rfl
  | _ => rfl

theorem readRecord_of_none {sort : Record} {blank : ρ} {value : Json}
    {write : ρ → String → Below value.size ρ} (none : slots? sort.names value = none) :
    readRecord sort.names sort.expected blank value write =
      .error (.wrongSort value.brief sort.expected) := by
  rw [readRecord]
  split
  · rfl
  · rename_i slots found
    rw [none] at found
    cases found

theorem readRecord_of_some {names : List String} {expected : Expected} {blank : ρ} {value : Json}
    {write : ρ → String → Below value.size ρ} {slots : List (String × Json)}
    (found : slots? names value = some slots) :
    readRecord names expected blank value write = (do
      let record ← slots.attach.foldlM (fun record slot =>
        write record slot.1.1 slot.1.2 (size_lt_of_mem_slots? found slot.2)) blank
      match excess? names value with
      | some length => .error (.excess length)
      | none => pure record) := by
  rw [readRecord]
  split
  · rename_i none
    rw [found] at none
    cases none
  · rename_i others same
    rw [found] at same
    obtain rfl := Option.some.inj same
    rfl

theorem reports_readRecord {sort : Record} {blank : ρ} {value : Json}
    {write : ρ → String → Below value.size ρ}
    (reports : ∀ record name inner small,
      Reports (write record name inner small) (memberMismatches sort (name, inner)))
    {slots : List (String × Json)} (found : slots? sort.names value = some slots) :
    Reports (readRecord sort.names sort.expected blank value write)
      (slots.flatMap (memberMismatches sort) ++ excessMismatches sort value) := by
  have whole : slots.attach.flatMap (fun slot => memberMismatches sort slot.1) =
      slots.flatMap (memberMismatches sort) :=
    Traversal.flatMap_attach slots (memberMismatches sort)
  rw [readRecord_of_some found, ← whole]
  apply Reports.bind
  · apply Reports.foldlM
    intro slot _ record
    exact reports record slot.1.1 slot.1.2 _
  · intro record _
    exact reports_excess sort value record

theorem readRecord_preserves {motive : List (String × Json) → ρ → Prop} {names : List String}
    {expected : Expected} {blank record : ρ} {value : Json}
    {write : ρ → String → Below value.size ρ} (start : motive [] blank)
    (preserved : ∀ done name inner small current next, motive done current →
      write current name inner small = .ok next → motive ((name, inner) :: done) next)
    {slots : List (String × Json)} (found : slots? names value = some slots)
    (ok : readRecord names expected blank value write = .ok record) :
    motive slots.reverse record := by
  rw [readRecord_of_some found] at ok
  obtain ⟨last, folded, ok⟩ := bind_eq_ok.mp ok
  have begun : motive (([] : List {slot // slot ∈ slots}).map Subtype.val) blank := start
  have holds := foldlM_preserves
    (motive := fun done current => motive (done.map Subtype.val) current)
    (fun done slot current next holds stepped =>
      preserved (done.map Subtype.val) slot.1.1 slot.1.2 _ current next holds stepped)
    begun folded
  rw [List.append_nil, List.map_reverse, List.attach_map_subtype_val] at holds
  cases longer : excess? names value with
  | none =>
    rw [longer] at ok
    rw [← Except.ok.inj ok]
    exact holds
  | some length =>
    rw [longer] at ok
    cases ok

theorem reports_record {sort : Record} (noNode : sort ≠ .node) {blank : ρ} {value : Json}
    {write : ρ → String → Below value.size ρ}
    (reports : ∀ record name inner small,
      Reports (write record name inner small) (memberMismatches sort (name, inner))) :
    Reports (readRecord sort.names sort.expected blank value write)
      (mismatches (.record sort) value) := by
  cases found : slots? sort.names value with
  | none =>
    rw [mismatches_record_none found, readRecord_of_none found]
    rfl
  | some slots =>
    have tagless : tagMismatches sort slots value = [] :=
      expect_eq_nil.mpr (decide_eq_true (.inl noNode))
    rw [mismatches_record_some found, tagless, List.append_nil]
    exact reports_readRecord reports found

section

variable {read : Below bound α}
  (reports : ∀ value small, Reports (read value small) (mismatches (.record .node) value))

include reports

private theorem reports_writeField (field : Field α) (name : String) (value : Json)
    (small : value.size < bound) :
    Reports (field.write read name value small) (memberMismatches .field (name, value)) := by
  unfold Field.write
  split
  · exact (reports_readOptionalText value).bind_pure fun _ _ => rfl
  · exact (reports_readOptionalText value).bind_pure fun _ _ => rfl
  · exact (reports_readOptional reports value small).bind_pure fun _ _ => rfl
  · exact (reports_readFlag value).bind_pure fun _ _ => rfl
  · exact (reports_readFlag value).bind_pure fun _ _ => rfl
  · exact (reports_readAnnotations value).bind_pure fun _ _ => rfl
  · rw [memberMismatches_of_unknown (by simp_all [Record.names, Record.members])]
    rfl

private theorem reports_readField (value : Json) (small : value.size < bound) :
    Reports (Field.read read value small) (mismatches (.record .field) value) := by
  have noNode : Record.field ≠ .node := nofun
  apply reports_record noNode
  intro field name inner smaller
  exact reports_writeField reports field name inner _

private theorem reports_writeSignature (signature : Signature α) (name : String) (value : Json)
    (small : value.size < bound) :
    Reports (signature.write read name value small)
      (memberMismatches .signature (name, value)) := by
  unfold Signature.write
  split
  · exact (reports_readOptional reports value small).bind_pure fun _ _ => rfl
  · exact (reports_readOptional reports value small).bind_pure fun _ _ => rfl
  · rw [memberMismatches_of_unknown (by simp_all [Record.names, Record.members])]
    rfl

private theorem reports_readSignature (value : Json) (small : value.size < bound) :
    Reports (Signature.read read value small) (mismatches (.record .signature) value) := by
  have noNode : Record.signature ≠ .node := nofun
  apply reports_record noNode
  intro signature name inner smaller
  exact reports_writeSignature reports signature name inner _

private theorem reports_writeElement (element : Element α) (name : String) (value : Json)
    (small : value.size < bound) :
    Reports (element.write read name value small) (memberMismatches .element (name, value)) := by
  unfold Element.write
  split
  · exact (reports_readOptional reports value small).bind_pure fun _ _ => rfl
  · exact (reports_readFlag value).bind_pure fun _ _ => rfl
  · exact (reports_readAnnotations value).bind_pure fun _ _ => rfl
  · rw [memberMismatches_of_unknown (by simp_all [Record.names, Record.members])]
    rfl

private theorem reports_readElement (value : Json) (small : value.size < bound) :
    Reports (Element.read read value small) (mismatches (.record .element) value) := by
  have noNode : Record.element ≠ .node := nofun
  apply reports_record noNode
  intro element name inner smaller
  exact reports_writeElement reports element name inner _

private theorem reports_writeBody (body : Body α) {name : String} (noTag : name ≠ "_tag")
    (value : Json) (small : value.size < bound) :
    Reports (body.write read name value small) (memberMismatches .node (name, value)) := by
  have fields := reports_readList (reports_readField reports) value small
  have signatures := reports_readList (reports_readSignature reports) value small
  have elements := reports_readList (reports_readElement reports) value small
  have nodes := reports_readList reports value small
  have node := reports_readOptional reports value small
  have text := reports_readOptionalText value
  unfold Body.write
  split
  · exact (reports_readAnnotations value).bind_pure fun _ _ => rfl
  · exact fields.bind_pure fun _ _ => rfl
  · exact signatures.bind_pure fun _ _ => rfl
  · exact nodes.bind_pure fun _ _ => rfl
  · exact elements.bind_pure fun _ _ => rfl
  · exact elements.bind_pure fun _ _ => rfl
  · exact node.bind_pure fun _ _ => rfl
  · exact node.bind_pure fun _ _ => rfl
  · exact nodes.bind_pure fun _ _ => rfl
  · exact text.bind_pure fun _ _ => rfl
  · have literal : mismatches .literal value = literalMismatches value := by rw [mismatches]
    show Reports _ (mismatches .literal value)
    rw [literal]
    exact (reports_readLiteral value).bind_pure fun _ _ => rfl
  · exact text.bind_pure fun _ _ => rfl
  · have pair (inner : Json) : mismatches .pair inner = pairMismatches inner := by rw [mismatches]
    have pairs :
        Reports (readList (fun inner (_ : inner.size < bound) => readPair inner) value small)
        (mismatches (.list .pair) value) := by
      apply reports_readList
      intro inner _
      rw [pair inner]
      exact reports_readPair inner
    exact pairs.bind_pure fun _ _ => rfl
  · exact text.bind_pure fun _ _ => rfl
  · exact text.bind_pure fun _ _ => rfl
  · rw [memberMismatches_of_unknown (by simp_all [Record.names, Record.members])]
    rfl

private theorem reports_writeDraft (draft : Draft α) (name : String) (value : Json)
    (small : value.size < bound) :
    Reports (draft.write read name value small) (memberMismatches .node (name, value)) := by
  unfold Draft.write
  split
  · have text : mismatches .text value = textMismatches value := by rw [mismatches]
    show Reports _ (mismatches .text value)
    rw [text]
    exact (reports_readText value).bind_pure fun _ _ => rfl
  · rename_i noTag
    exact (reports_writeBody reports draft.body noTag value small).bind_pure fun _ _ => rfl

end

private theorem tag_iff_of_write {read : Below bound α} {done : List (String × Json)}
    {draft next : Draft α} {name : String} {value : Json} {small : value.size < bound}
    (holds : draft.tag.isSome ↔ "_tag" ∈ done.map Prod.fst)
    (written : draft.write read name value small = .ok next) :
    next.tag.isSome ↔ "_tag" ∈ ((name, value) :: done).map Prod.fst := by
  unfold Draft.write at written
  split at written
  · obtain ⟨text, _, rfl⟩ := bind_pure_eq_ok.mp written
    simp
  · rename_i noTag
    obtain ⟨body, _, rfl⟩ := bind_pure_eq_ok.mp written
    have differs : "_tag" ≠ name := fun same => noTag same.symm
    rw [holds, List.map_cons, List.mem_cons]
    exact (or_iff_right differs).symm

theorem isSome_tag_iff {value : Json} {read : Below value.size α} {slots : List (String × Json)}
    {draft : Draft α} (found : slots? Draft.names value = some slots)
    (ok : readRecord Draft.names .node Draft.blank value (Draft.write read) = .ok draft) :
    draft.tag.isSome ↔ "_tag" ∈ slots.map Prod.fst := by
  have tagged : draft.tag.isSome ↔ "_tag" ∈ slots.reverse.map Prod.fst :=
    readRecord_preserves
      (motive := fun done (draft : Draft α) => draft.tag.isSome ↔ "_tag" ∈ done.map Prod.fst)
      (by simp [Draft.blank]) (fun _ _ _ _ _ _ holds written => tag_iff_of_write holds written)
      found ok
  rwa [List.map_reverse, List.mem_reverse] at tagged

/-- Reading a description reports the mismatches of the value. -/
theorem reports_read (value : Json) : Reports (read value) (mismatches (.record .node) value) := by
  rw [read]
  show Reports (readRecord Record.node.names Record.node.expected Draft.blank value
    (Draft.write fun inner (_ : inner.size < value.size) => read inner) >>= _) _
  cases found : slots? Record.node.names value with
  | none =>
    rw [mismatches_record_none found, readRecord_of_none found]
    rfl
  | some slots =>
    rw [mismatches_record_some found]
    apply Reports.bind
    · apply reports_readRecord _ found
      intro draft name inner small
      exact reports_writeDraft (fun inner _ => reports_read inner) draft name inner small
    · intro draft isDraft
      have tagged := isSome_tag_iff found isDraft
      cases isTag : draft.tag with
      | some tag =>
        rw [isTag] at tagged
        exact expect_eq_nil.mpr (decide_eq_true (.inr (tagged.mp rfl)))
      | none =>
        have untagged : "_tag" ∉ slots.map Prod.fst := by
          rw [← tagged, isTag]
          nofun
        show (tagMismatches .node slots value).head? = some (withoutTag value)
        rw [tagMismatches, expect, decide_eq_false]
        · rfl
        · rintro (noNode | inside)
          · exact noNode rfl
          · exact untagged inside
termination_by value.size

theorem read_ok_iff (value : Json) :
    (∃ description, read value = .ok description) ↔ HasForm (.record .node) value := by
  rw [(reports_read value).ok_iff, mismatches_eq_nil_iff]

end SchemaOutline.Description
