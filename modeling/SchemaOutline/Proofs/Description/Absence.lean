import SchemaOutline.Proofs.Description.Respelling

/-! A member that may be null is read as if it were missing when it is null. -/

set_option autoImplicit false
set_option relaxedAutoImplicit false

namespace SchemaOutline.Description

open Json

variable {α ρ : Type} {bound : Nat}

/-! ### Writing null -/

section

variable {R : Json → α → Prop} {read : Below bound α} {done : List (String × Json)} {name : String}
  {form : Form} {small : Json.null.size < bound}

private theorem text_eq_none {found : Option Json} {text : Option String}
    (same : textOf found = text) (absent : found = none) : text = none := by
  rw [← same, absent]
  rfl

private theorem map_eq_none {found : Option Json} {members : Option (List (String × Json))}
    (same : mapOf found = members) (absent : found = none) : members = none := by
  rw [← same, absent]
  rfl

private theorem node_eq_none {found : Option Json} {type : Option α}
    (rel : Option.Rel R (nodeOf found) type) (absent : found = none) : type = none := by
  rw [absent] at rel
  cases rel with
  | none => rfl

theorem Field.write_null {field : Field α} (agrees : Field.Agrees R (.ofSlots done) field)
    (absent : lookup? done name = none)
    (optional : Record.field.form? name = some (.optional form)) :
    field.write read name .null small = .ok field := by
  obtain ⟨fieldName, symbol, type, isOptional, readonly, annotations⟩ := field
  unfold Field.write
  split
  · obtain rfl := text_eq_none agrees.name absent
    rfl
  · obtain rfl := text_eq_none agrees.symbol absent
    rfl
  · obtain rfl := node_eq_none agrees.type absent
    rfl
  · cases optional
  · cases optional
  · obtain rfl := map_eq_none agrees.annotations absent
    rfl
  · rfl

theorem Signature.write_null {signature : Signature α}
    (agrees : Signature.Agrees R (.ofSlots done) signature) (absent : lookup? done name = none) :
    signature.write read name .null small = .ok signature := by
  obtain ⟨parameter, type⟩ := signature
  unfold Signature.write
  split
  · obtain rfl := node_eq_none agrees.parameter absent
    rfl
  · obtain rfl := node_eq_none agrees.type absent
    rfl
  · rfl

theorem Element.write_null {element : Element α}
    (agrees : Element.Agrees R (.ofSlots done) element) (absent : lookup? done name = none)
    (optional : Record.element.form? name = some (.optional form)) :
    element.write read name .null small = .ok element := by
  obtain ⟨type, isOptional, annotations⟩ := element
  unfold Element.write
  split
  · obtain rfl := node_eq_none agrees.type absent
    rfl
  · cases optional
  · obtain rfl := map_eq_none agrees.annotations absent
    rfl
  · rfl

theorem Body.write_null {body : Body α} (agrees : Body.Agrees R (.ofSlots done) body)
    (absent : lookup? done name = none)
    (optional : Record.node.form? name = some (.optional form)) :
    body.write read name .null small = .ok body := by
  obtain ⟨annotations, fields, signatures, types, elements, rest, source, target, typeParameters,
    bodyName, literal, pattern, enums, description, reference⟩ := body
  unfold Body.write
  split
  · obtain rfl := map_eq_none agrees.annotations absent
    rfl
  · cases optional
  · cases optional
  · cases optional
  · cases optional
  · cases optional
  · obtain rfl := node_eq_none agrees.source absent
    rfl
  · obtain rfl := node_eq_none agrees.target absent
    rfl
  · cases optional
  · obtain rfl := text_eq_none agrees.name absent
    rfl
  · cases optional
  · obtain rfl := text_eq_none agrees.pattern absent
    rfl
  · cases optional
  · obtain rfl := text_eq_none agrees.description absent
    rfl
  · obtain rfl := text_eq_none agrees.reference absent
    rfl
  · rfl

theorem Draft.write_null {draft : Draft α} (agrees : Draft.Agrees R done draft)
    (absent : lookup? done name = none)
    (optional : Record.node.form? name = some (.optional form)) :
    draft.write read name .null small = .ok draft := by
  unfold Draft.write
  split
  · cases optional
  · rw [Body.write_null agrees.body absent optional]
    rfl

end

/-! ### Leaving slots out -/

def alone (write : (bound : Nat) → ρ → String → Below bound ρ) (record : ρ) (name : String)
    (value : Json) : Except Mismatch ρ :=
  write (value.size + 1) record name value (Nat.lt_succ_self _)

section

variable {names : List String} {expected : Expected} {blank : ρ} {value other : Json}
  {write : ρ → String → Below value.size ρ} {writeOther : ρ → String → Below other.size ρ}
  (total : ρ → String → Json → Except Mismatch ρ)

theorem readRecord_eq_foldlM
    (same : ∀ record name inner small, write record name inner small = total record name inner)
    {slots : List (String × Json)} (found : slots? names value = some slots) :
    readRecord names expected blank value write = (do
      let record ← slots.foldlM (fun record slot => total record slot.1 slot.2) blank
      match excess? names value with
      | some length => .error (.excess length)
      | none => pure record) := by
  have written : slots.attach.foldlM (fun record slot =>
        write record slot.1.1 slot.1.2 (size_lt_of_mem_slots? found slot.2)) blank =
      slots.foldlM (fun record slot => total record slot.1 slot.2) blank := by
    simp only [same]
    conv_rhs => rw [← slots.attach_map_subtype_val, List.foldlM_map]
  exact (readRecord_of_some found).trans (congrArg (· >>= _) written)

theorem readRecord_without {motive : List (String × Json) → ρ → Prop}
    {before after : List (String × Json)} {slot : String × Json}
    (found : slots? names value = some (before ++ after))
    (foundOther : slots? names other = some (before ++ slot :: after))
    (excess : excess? names value = excess? names other)
    (same : ∀ record name inner small, write record name inner small = total record name inner)
    (sameOther : ∀ record name inner small,
      writeOther record name inner small = total record name inner)
    (start : motive [] blank)
    (preserved : ∀ done name inner current next, motive done current →
      total current name inner = .ok next → motive ((name, inner) :: done) next)
    (idle : ∀ record, motive before.reverse record → total record slot.1 slot.2 = .ok record) :
    readRecord names expected blank value write =
      readRecord names expected blank other writeOther := by
  let step (record : ρ) (slot : String × Json) := total record slot.1 slot.2
  have folds : (before ++ after).foldlM step blank =
      (before ++ slot :: after).foldlM step blank := by
    rw [List.foldlM_append, List.foldlM_append]
    cases folded : before.foldlM step blank with
    | error cause => rfl
    | ok record =>
      have holds : motive (before.reverse ++ []) record :=
        foldlM_preserves (fun done slot current next holds written =>
          preserved done slot.1 slot.2 current next holds written) start folded
      rw [List.append_nil] at holds
      have stays : step record slot = .ok record := idle record holds
      show after.foldlM step record = (slot :: after).foldlM step record
      rw [List.foldlM_cons, stays]
      rfl
  rw [readRecord_eq_foldlM total same found, readRecord_eq_foldlM total sameOther foundOther,
    excess]
  exact congrArg (· >>= _) folds

end

/-! ### Members that are null -/

section

variable {sort : Record} {name : String} {form : Form} {before after : List (String × Json)}

private theorem lookup?_reverse_of_absent (once : name ∉ before.map Prod.fst) :
    lookup? before.reverse name = none := by
  rw [lookup?, List.lookup_eq_none_iff]
  intro member inside
  have differs : name ≠ member.1 := by
    rintro rfl
    exact once (List.mem_map_of_mem (List.mem_reverse.mp inside))
  exact bne_iff_ne.mpr differs

/-- A member that may be null, and is null, is read as if it were not there. -/
theorem readAlike_of_absent (optional : sort.form? name = some (.optional form))
    (once : name ∉ before.map Prod.fst) :
    ReadAlike (.record sort) (.obj (before ++ after))
      (.obj (before ++ (name, .null) :: after)) := by
  have absent := lookup?_reverse_of_absent once
  let Any (_ : Json) (_ : Description) : Prop := True
  have sound (bound : Nat) (inner : Json) (smaller : inner.size < bound) (result : Description)
      (_ : readBelow bound inner smaller = .ok result) : Any inner result := trivial
  cases sort with
  | node =>
    have same : readRecord Record.node.names Record.node.expected Draft.blank
          (.obj (before ++ after)) (Draft.write (readBelow _)) =
        readRecord Record.node.names Record.node.expected Draft.blank
          (.obj (before ++ (name, .null) :: after)) (Draft.write (readBelow _)) :=
      readRecord_without (alone fun bound => Draft.write (readBelow bound))
        (motive := Draft.Agrees Any) rfl rfl rfl
        (fun draft name inner _ => draft.write_alike (fun form _ => .refl form inner) _ _)
        (fun draft name inner _ => draft.write_alike (fun form _ => .refl form inner) _ _)
        ⟨rfl, rfl, .nil, .nil, .nil, .nil, .nil, .none, .none, .nil, rfl, rfl, rfl, rfl, rfl, rfl⟩
        (fun _ _ _ _ _ agrees written => agrees_of_writeDraft (sound _) agrees written)
        fun _ agrees => Draft.write_null agrees absent optional
    show read _ = read _
    rw [read_eq, read_eq, same]
    rfl
  | field =>
    intro bound limit small smaller
    exact readRecord_without (alone fun bound => Field.write (readBelow bound))
      (motive := fun done field => Field.Agrees Any (.ofSlots done) field) rfl rfl rfl
      (fun field name inner _ => field.write_alike (fun form _ => .refl form inner) _ _)
      (fun field name inner _ => field.write_alike (fun form _ => .refl form inner) _ _)
      ⟨rfl, rfl, .none, rfl, rfl, rfl⟩
      (fun _ _ _ _ _ agrees written => agrees_of_writeField (sound _) agrees written)
      fun _ agrees => Field.write_null agrees absent optional
  | signature =>
    intro bound limit small smaller
    exact readRecord_without (alone fun bound => Signature.write (readBelow bound))
      (motive := fun done signature => Signature.Agrees Any (.ofSlots done) signature) rfl rfl rfl
      (fun signature name inner _ => signature.write_alike (fun form _ => .refl form inner) _ _)
      (fun signature name inner _ => signature.write_alike (fun form _ => .refl form inner) _ _)
      ⟨.none, .none⟩
      (fun _ _ _ _ _ agrees written => agrees_of_writeSignature (sound _) agrees written)
      fun _ agrees => Signature.write_null agrees absent
  | element =>
    intro bound limit small smaller
    exact readRecord_without (alone fun bound => Element.write (readBelow bound))
      (motive := fun done element => Element.Agrees Any (.ofSlots done) element) rfl rfl rfl
      (fun element name inner _ => element.write_alike (fun form _ => .refl form inner) _ _)
      (fun element name inner _ => element.write_alike (fun form _ => .refl form inner) _ _)
      ⟨.none, rfl, rfl⟩
      (fun _ _ _ _ _ agrees written => agrees_of_writeElement (sound _) agrees written)
      fun _ agrees => Element.write_null agrees absent optional

theorem readAlike_null (optional : sort.form? name = some (.optional form))
    (first : (before ++ (name, .null) :: after).map Prod.fst <+: sort.names) {spelled : Json}
    (isSpelling : spelled ∈ spellings (before ++ (name, .null) :: after)) :
    ReadAlike (.record sort) (.obj (before ++ after)) spelled := by
  have once : name ∉ before.map Prod.fst := by
    have distinct := sort.nodup_names.sublist first.sublist
    rw [List.map_append, List.nodup_append] at distinct
    exact fun inside => distinct.2.2 name inside name List.mem_cons_self rfl
  have spellings := readAlike_spellings first (fun _ => by simp) isSpelling
  exact (readAlike_of_absent optional once).trans spellings

theorem literal_eq_null {members : List (String × Json)} {description : Description}
    (inside : ("literal", .null) ∈ members) (first : members.map Prod.fst <+: Record.node.names)
    {spelled : Json} (isSpelling : spelled ∈ spellings members)
    (ok : read spelled = .ok description) : description.body.literal = some .null := by
  have same : read (.obj members) = read spelled :=
    readAlike_spellings first (fun _ => List.ne_nil_of_mem inside) isSpelling
  have distinct : (members.reverse.map Prod.fst).Nodup := by
    rw [List.map_reverse, List.nodup_reverse]
    exact Record.node.nodup_names.sublist first.sublist
  have found : lookup? members.reverse "literal" = some .null :=
    Members.lookup_of_mem distinct (List.mem_reverse.mpr inside)
  have agrees := (agrees_of_read (same.trans ok)).2.literal
  rw [← agrees]
  show (lookup? members.reverse "literal").map literalOf = some .null
  rw [found]
  rfl

end

end SchemaOutline.Description
