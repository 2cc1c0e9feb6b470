import SchemaOutline.Description.Reading
import SchemaOutline.Proofs.Json.Depth

/-! The grammar of descriptions, and the mismatches that keep a value from being of a form. -/

set_option autoImplicit false
set_option relaxedAutoImplicit false

namespace SchemaOutline

inductive Record where
  | node
  | field
  | signature
  | element
deriving DecidableEq

/-- What a value can be asked to be. -/
inductive Form where
  | text
  | flag
  | map
  | literal
  | pair
  | record (record : Record)
  | list (form : Form)
  | optional (form : Form)

namespace Record

def members : Record → List (String × Form)
  | node => [("_tag", .text), ("annotations", .optional .map), ("fields", .list (.record field)),
      ("indexSignatures", .list (.record signature)), ("types", .list (.record node)),
      ("elements", .list (.record element)), ("rest", .list (.record element)),
      ("from", .optional (.record node)), ("to", .optional (.record node)),
      ("typeParameters", .list (.record node)), ("name", .optional .text), ("literal", .literal),
      ("pattern", .optional .text), ("enums", .list .pair), ("description", .optional .text),
      ("ref", .optional .text)]
  | field => [("name", .optional .text), ("symbol", .optional .text),
      ("type", .optional (.record node)), ("optional", .flag), ("readonly", .flag),
      ("annotations", .optional .map)]
  | signature => [("parameter", .optional (.record node)), ("type", .optional (.record node))]
  | element => [("type", .optional (.record node)), ("optional", .flag),
      ("annotations", .optional .map)]

def names (record : Record) : List String := record.members.map Prod.fst

def form? (record : Record) (name : String) : Option Form := record.members.lookup name

theorem form?_eq_none {sort : Record} {name : String} (unknown : name ∉ sort.names) :
    sort.form? name = none := by
  rw [form?, List.lookup_eq_none_iff]
  intro member inside
  have differs : name ≠ member.1 := by
    rintro rfl
    exact unknown (List.mem_map_of_mem inside)
  exact bne_iff_ne.mpr differs

def expected : Record → Expected
  | node => .node
  | field => .field
  | signature => .signature
  | element => .element

end Record

/-- A value is of a form. -/
inductive HasForm : Form → Json → Prop
  | text (text : String) : HasForm .text (.str text)
  | flag (value : Bool) : HasForm .flag (.bool value)
  | map (members : List (String × Json)) : HasForm .map (.obj members)
  | null : HasForm .literal .null
  | boolean (value : Bool) : HasForm .literal (.bool value)
  | number (value : Json.Number) : HasForm .literal (.num value)
  | string (text : String) : HasForm .literal (.str text)
  | bigint {members : List (String × Json)} {digits : String}
      (found : Json.lookup? members "bigint" = some (.str digits)) : HasForm .literal (.obj members)
  | pair (name : String) {literal : Json} (second : HasForm .literal literal) :
      HasForm .pair (.arr [.str name, literal])
  | list {form : Form} {items : List Json} (each : ∀ item ∈ items, HasForm form item) :
      HasForm (.list form) (.arr items)
  | absent (form : Form) : HasForm (.optional form) .null
  | present {form : Form} {value : Json} (has : HasForm form value) :
      HasForm (.optional form) value
  | object {record : Record} {members : List (String × Json)}
      (each : ∀ member ∈ members, ∀ form, record.form? member.1 = some form →
        HasForm form member.2)
      (tagged : record = .node → "_tag" ∈ members.map Prod.fst) :
      HasForm (.record record) (.obj members)
  /-- A record as the list of its first members, in their fixed order. -/
  | array {record : Record} {items : List Json}
      (each : ∀ member ∈ record.names.zip items, ∀ form, record.form? member.1 = some form →
        HasForm form member.2)
      (fits : items.length ≤ record.names.length) (tagged : record = .node → items ≠ []) :
      HasForm (.record record) (.arr items)

namespace Form

def expect (fits : Bool) (mismatch : Mismatch) : List Mismatch := if fits then [] else [mismatch]

@[simp] theorem expect_eq_nil {fits : Bool} {mismatch : Mismatch} :
    expect fits mismatch = [] ↔ fits = true := by
  cases fits <;> simp [expect]

def isLiteral : Json → Bool
  | .null | .bool _ | .num _ | .str _ => true
  | .obj members => ((Json.lookup? members "bigint").bind Json.str?).isSome
  | .arr _ => false

def textMismatches (value : Json) : List Mismatch :=
  expect value.str?.isSome (.wrongSort value.brief .string)

def literalMismatches (value : Json) : List Mismatch := expect (isLiteral value) .notLiteral

def flagMismatches : Json → List Mismatch
  | .bool _ => []
  | value => [.wrongSort value.brief .boolean]

def mapMismatches : Json → List Mismatch
  | .obj _ => []
  | value => [.wrongSort value.brief .map]

def pairMismatches : Json → List Mismatch
  | .arr [] => [.shortPair 0]
  | .arr [first] => textMismatches first ++ [.shortPair 1]
  | .arr (first :: second :: more) => textMismatches first ++ literalMismatches second ++
      expect more.isEmpty (.excess (more.length + 2))
  | value => [.wrongSort value.brief .pair]

def excessMismatches (sort : Record) : Json → List Mismatch
  | .arr items => expect (items.length ≤ sort.names.length) (.excess items.length)
  | _ => []

def tagMismatches (sort : Record) (slots : List (String × Json)) (value : Json) : List Mismatch :=
  expect (sort ≠ .node ∨ "_tag" ∈ slots.map Prod.fst) (Description.withoutTag value)

/-- Everything that keeps a value from being of a form, in reading order. -/
def mismatches (form : Form) (value : Json) : List Mismatch :=
  match form with
  | text => textMismatches value
  | flag => flagMismatches value
  | map => mapMismatches value
  | literal => literalMismatches value
  | pair => pairMismatches value
  | optional form =>
    match value with
    | .null => []
    | value => mismatches form value
  | list form =>
    match value with
    | .arr items => items.attach.flatMap fun item => mismatches form item.1
    | value => [.wrongSort value.brief .sequence]
  | .record sort =>
    match _ : Description.slots? sort.names value with
    | none => [.wrongSort value.brief sort.expected]
    | some slots =>
      (slots.attach.flatMap fun slot =>
        match sort.form? slot.1.1 with
        | none => []
        | some form => mismatches form slot.1.2) ++ excessMismatches sort value ++
          tagMismatches sort slots value
termination_by (value.size, sizeOf form)
decreasing_by
  · exact Prod.Lex.right _ (by simp)
  · exact Prod.Lex.left _ _ (Description.size_lt_of_mem_items item.2)
  · exact Prod.Lex.left _ _ (Description.size_lt_of_mem_slots? ‹_› slot.2)

def memberMismatches (sort : Record) (slot : String × Json) : List Mismatch :=
  match sort.form? slot.1 with
  | none => []
  | some form => mismatches form slot.2

theorem memberMismatches_of_unknown {sort : Record} {slot : String × Json}
    (unknown : slot.1 ∉ sort.names) : memberMismatches sort slot = [] := by
  rw [memberMismatches, Record.form?_eq_none unknown]

theorem mismatches_optional_null (form : Form) : mismatches (.optional form) .null = [] := by
  rw [mismatches]

theorem mismatches_optional {form : Form} {value : Json} (there : value ≠ .null) :
    mismatches (.optional form) value = mismatches form value := by
  rw [mismatches]
  exact there

theorem mismatches_list (form : Form) (items : List Json) :
    mismatches (.list form) (.arr items) = items.flatMap (mismatches form) := by
  rw [mismatches]
  exact Traversal.flatMap_attach items (mismatches form)

theorem mismatches_record_none {sort : Record} {value : Json}
    (none : Description.slots? sort.names value = none) :
    mismatches (.record sort) value = [.wrongSort value.brief sort.expected] := by
  rw [mismatches]
  split
  · rfl
  · rename_i found
    rw [none] at found
    cases found

theorem mismatches_record_some {sort : Record} {value : Json} {slots : List (String × Json)}
    (some : Description.slots? sort.names value = some slots) :
    mismatches (.record sort) value =
      slots.flatMap (memberMismatches sort) ++ excessMismatches sort value ++
        tagMismatches sort slots value := by
  rw [mismatches]
  split
  · rename_i found
    rw [some] at found
    cases found
  · rename_i others found
    rw [some] at found
    obtain rfl := Option.some.inj found
    congr 2
    exact Traversal.flatMap_attach slots (memberMismatches sort)

private theorem text_iff (value : Json) : textMismatches value = [] ↔ HasForm .text value := by
  rw [textMismatches, expect_eq_nil]
  constructor
  · intro isText
    cases value with
    | str text => exact .text text
    | _ => cases isText
  · rintro ⟨text⟩
    rfl

private theorem flag_iff (value : Json) : flagMismatches value = [] ↔ HasForm .flag value := by
  constructor
  · intro isFlag
    cases value with
    | bool value => exact .flag value
    | _ => cases isFlag
  · rintro ⟨value⟩
    rfl

private theorem map_iff (value : Json) : mapMismatches value = [] ↔ HasForm .map value := by
  constructor
  · intro isMap
    cases value with
    | obj members => exact .map members
    | _ => cases isMap
  · rintro ⟨members⟩
    rfl

private theorem literal_iff (value : Json) :
    literalMismatches value = [] ↔ HasForm .literal value := by
  rw [literalMismatches, expect_eq_nil]
  constructor
  · intro isOne
    cases value with
    | null => exact .null
    | bool value => exact .boolean value
    | num value => exact .number value
    | str text => exact .string text
    | arr items => cases isOne
    | obj members =>
      have found : ((Json.lookup? members "bigint").bind Json.str?).isSome = true := isOne
      obtain ⟨digits, isDigits⟩ := Option.isSome_iff_exists.mp found
      obtain ⟨inner, isInner, isText⟩ := Option.bind_eq_some_iff.mp isDigits
      cases inner with
      | str text => exact .bigint isInner
      | _ => cases isText
  · intro isOne
    cases isOne with
    | null => rfl
    | boolean value => rfl
    | number value => rfl
    | string text => rfl
    | bigint found =>
      rw [isLiteral, found]
      rfl

private theorem pair_iff (value : Json) : pairMismatches value = [] ↔ HasForm .pair value := by
  constructor
  · intro isPair
    match value with
    | .arr [first, second] =>
      rw [pairMismatches, List.append_eq_nil_iff, List.append_eq_nil_iff, text_iff,
        literal_iff] at isPair
      obtain ⟨⟨name⟩, literal⟩ := isPair.1
      exact .pair name literal
    | .arr [] => cases isPair
    | .arr [first] =>
      rw [pairMismatches, List.append_eq_nil_iff] at isPair
      cases isPair.2
    | .arr (first :: second :: third :: more) =>
      rw [pairMismatches, List.append_eq_nil_iff, expect_eq_nil] at isPair
      cases isPair.2
    | .null => cases isPair
    | .bool _ => cases isPair
    | .num _ => cases isPair
    | .str _ => cases isPair
    | .obj _ => cases isPair
  · intro isPair
    cases isPair with
    | pair name second =>
      rw [pairMismatches, (literal_iff _).mpr second]
      rfl

private theorem member_iff {sort : Record} {slot : String × Json}
    (each : ∀ form, mismatches form slot.2 = [] ↔ HasForm form slot.2) :
    memberMismatches sort slot = [] ↔
      ∀ form, sort.form? slot.1 = some form → HasForm form slot.2 := by
  rw [memberMismatches]
  cases sort.form? slot.1 with
  | none => simp
  | some form => simp [each form]

private theorem tag_mem_zip_iff (items : List Json) :
    "_tag" ∈ (Record.node.names.zip items).map Prod.fst ↔ items ≠ [] := by
  cases items with
  | nil => simp
  | cons item items => simp [Record.names, Record.members]

private theorem excess_iff (sort : Record) (items : List Json) :
    excessMismatches sort (.arr items) = [] ↔ items.length ≤ sort.names.length := by
  rw [excessMismatches, expect_eq_nil, decide_eq_true_eq]

private theorem tag_iff (sort : Record) (slots : List (String × Json)) (value : Json) :
    tagMismatches sort slots value = [] ↔ (sort = .node → "_tag" ∈ slots.map Prod.fst) := by
  rw [tagMismatches, expect_eq_nil, decide_eq_true_eq]
  exact Decidable.imp_iff_not_or.symm

theorem mismatches_eq_nil_iff (form : Form) (value : Json) :
    mismatches form value = [] ↔ HasForm form value := by
  -- The cases are those of `mismatches`: five simple forms, null or not, list or not, and records
  -- without and with members.
  induction form, value using mismatches.induct with
  | case1 value => rw [mismatches, text_iff]
  | case2 value => rw [mismatches, flag_iff]
  | case3 value => rw [mismatches, map_iff]
  | case4 value => rw [mismatches, literal_iff]
  | case5 value => rw [mismatches, pair_iff]
  | case6 form =>
    rw [mismatches_optional_null]
    exact ⟨fun _ => .absent form, fun _ => rfl⟩
  | case7 form value there ih =>
    rw [mismatches_optional there, ih]
    constructor
    · exact .present
    · intro has
      cases has with
      | absent => exact absurd rfl there
      | present has => exact has
  | case8 form items ih =>
    rw [mismatches_list, List.flatMap_eq_nil_iff]
    constructor
    · intro each
      exact .list fun item inside => (ih ⟨item, inside⟩).mp (each item inside)
    · intro has item inside
      cases has with
      | list each => exact (ih ⟨item, inside⟩).mpr (each item inside)
  | case9 value form noList =>
    rw [mismatches]
    · constructor
      · intro none
        cases none
      · intro has
        cases has with
        | list each => exact absurd rfl (noList _)
    · exact noList
  | case10 value sort none =>
    rw [mismatches_record_none none]
    constructor
    · intro empty
      cases empty
    · intro has
      cases has with
      | object => cases none
      | array => cases none
  | case11 value sort slots found ih =>
    have each : (slots.flatMap (memberMismatches sort) = []) ↔
        ∀ slot ∈ slots, ∀ form, sort.form? slot.1 = some form → HasForm form slot.2 := by
      rw [List.flatMap_eq_nil_iff]
      exact forall₂_congr fun slot inside => member_iff (ih ⟨slot, inside⟩)
    rw [mismatches_record_some found, List.append_eq_nil_iff, List.append_eq_nil_iff, each, tag_iff]
    cases value with
    | obj members =>
      obtain rfl := Option.some.inj found
      constructor
      · rintro ⟨⟨fit, _⟩, tagged⟩
        exact .object fit tagged
      · intro has
        cases has with
        | object fit tagged => exact ⟨⟨fit, rfl⟩, tagged⟩
    | arr items =>
      obtain rfl := Option.some.inj found
      rw [excess_iff]
      constructor
      · rintro ⟨⟨fit, length⟩, tagged⟩
        refine .array fit length fun isNode => ?_
        subst isNode
        exact (tag_mem_zip_iff items).mp (tagged rfl)
      · intro has
        cases has with
        | array fit length nonempty =>
          refine ⟨⟨fit, length⟩, fun isNode => ?_⟩
          subst isNode
          exact (tag_mem_zip_iff items).mpr (nonempty rfl)
    | null => cases found
    | bool value => cases found
    | num value => cases found
    | str text => cases found

end Form

end SchemaOutline
