import Mathlib.Data.List.Forall2
import SchemaOutline.Proofs.Description.Reading

/-! What a JSON value says member by member, and the description that agrees with it. -/

set_option autoImplicit false
set_option relaxedAutoImplicit false

namespace SchemaOutline

open List (Forall₂)

namespace Json

def slots (sort : Record) (value : Json) : List (String × Json) :=
  ((Description.slots? sort.names value).getD []).reverse

def textOf : Option Json → Option String
  | some (.str text) => some text
  | _ => none

def flagOf : Option Json → Bool
  | some (.bool flag) => flag
  | _ => false

def mapOf : Option Json → Option (List (String × Json))
  | some (.obj members) => some members
  | _ => none

def nodeOf : Option Json → Option Json
  | some .null => none
  | found => found

def itemsOf : Option Json → List Json
  | some (.arr items) => items
  | _ => []

def literalOf : Json → Literal
  | .bool value => .boolean value
  | .num (.int value) => .number (Binary64.ofInt value)
  | .num (.float value) => .number value
  | .str text => .string text
  | .obj members => .bigint ((textOf (lookup? members "bigint")).getD "")
  | .null | .arr _ => .null

def pairOf : Json → String × Literal
  | .arr (.str name :: literal :: _) => (name, literalOf literal)
  | _ => ("", .null)

end Json

namespace Description

open Json

variable {α β : Type} {bound : Nat} {R : α → β → Prop}

def Field.ofSlots (slots : List (String × Json)) : Field Json where
  name := textOf (lookup? slots "name")
  symbol := textOf (lookup? slots "symbol")
  type := nodeOf (lookup? slots "type")
  optional := flagOf (lookup? slots "optional")
  readonly := flagOf (lookup? slots "readonly")
  annotations := mapOf (lookup? slots "annotations")

def Signature.ofSlots (slots : List (String × Json)) : Signature Json where
  parameter := nodeOf (lookup? slots "parameter")
  type := nodeOf (lookup? slots "type")

def Element.ofSlots (slots : List (String × Json)) : Element Json where
  type := nodeOf (lookup? slots "type")
  optional := flagOf (lookup? slots "optional")
  annotations := mapOf (lookup? slots "annotations")

def Field.ofJson (value : Json) : Field Json := .ofSlots (value.slots .field)

def Signature.ofJson (value : Json) : Signature Json := .ofSlots (value.slots .signature)

def Element.ofJson (value : Json) : Element Json := .ofSlots (value.slots .element)

def Body.ofSlots (slots : List (String × Json)) : Body Json where
  annotations := mapOf (lookup? slots "annotations")
  fields := (itemsOf (lookup? slots "fields")).map Field.ofJson
  signatures := (itemsOf (lookup? slots "indexSignatures")).map Signature.ofJson
  types := itemsOf (lookup? slots "types")
  elements := (itemsOf (lookup? slots "elements")).map Element.ofJson
  rest := (itemsOf (lookup? slots "rest")).map Element.ofJson
  source := nodeOf (lookup? slots "from")
  target := nodeOf (lookup? slots "to")
  typeParameters := itemsOf (lookup? slots "typeParameters")
  name := textOf (lookup? slots "name")
  literal := (lookup? slots "literal").map literalOf
  pattern := textOf (lookup? slots "pattern")
  enums := (itemsOf (lookup? slots "enums")).map pairOf
  description := textOf (lookup? slots "description")
  reference := textOf (lookup? slots "ref")

/-- The members of a node, with JSON values in the places of inner descriptions. -/
def Body.ofJson (value : Json) : Body Json := .ofSlots (value.slots .node)

structure Field.Agrees (R : α → β → Prop) (field : Field α) (other : Field β) : Prop where
  name : field.name = other.name
  symbol : field.symbol = other.symbol
  type : Option.Rel R field.type other.type
  optional : field.optional = other.optional
  readonly : field.readonly = other.readonly
  annotations : field.annotations = other.annotations

structure Signature.Agrees (R : α → β → Prop) (signature : Signature α) (other : Signature β) :
    Prop where
  parameter : Option.Rel R signature.parameter other.parameter
  type : Option.Rel R signature.type other.type

structure Element.Agrees (R : α → β → Prop) (element : Element α) (other : Element β) : Prop where
  type : Option.Rel R element.type other.type
  optional : element.optional = other.optional
  annotations : element.annotations = other.annotations

/-- Two bodies are the same up to what is in the places of inner descriptions. -/
structure Body.Agrees (R : α → β → Prop) (body : Body α) (other : Body β) : Prop where
  annotations : body.annotations = other.annotations
  fields : Forall₂ (Field.Agrees R) body.fields other.fields
  signatures : Forall₂ (Signature.Agrees R) body.signatures other.signatures
  types : Forall₂ R body.types other.types
  elements : Forall₂ (Element.Agrees R) body.elements other.elements
  rest : Forall₂ (Element.Agrees R) body.rest other.rest
  source : Option.Rel R body.source other.source
  target : Option.Rel R body.target other.target
  typeParameters : Forall₂ R body.typeParameters other.typeParameters
  name : body.name = other.name
  literal : body.literal = other.literal
  pattern : body.pattern = other.pattern
  enums : body.enums = other.enums
  description : body.description = other.description
  reference : body.reference = other.reference

private theorem textOf_of_readOptionalText {value : Json} {text : Option String}
    (ok : readOptionalText value = .ok text) : textOf (some value) = text := by
  cases value with
  | null => exact Except.ok.inj ok
  | str text => exact Except.ok.inj ok
  | _ => cases ok

private theorem flagOf_of_readFlag {value : Json} {flag : Bool}
    (ok : readFlag value = .ok flag) : flagOf (some value) = flag := by
  cases value with
  | bool flag => exact Except.ok.inj ok
  | _ => cases ok

private theorem mapOf_of_readAnnotations {value : Json} {members : Option (List (String × Json))}
    (ok : readAnnotations value = .ok members) : mapOf (some value) = members := by
  cases value with
  | null => exact Except.ok.inj ok
  | obj members => exact Except.ok.inj ok
  | _ => cases ok

private theorem literalOf_of_readLiteral {value : Json} {literal : Literal}
    (ok : readLiteral value = .ok literal) : literalOf value = literal := by
  cases value with
  | null => exact Except.ok.inj ok
  | bool value => exact Except.ok.inj ok
  | num value => cases value <;> exact Except.ok.inj ok
  | str text => exact Except.ok.inj ok
  | obj members =>
    rw [readLiteral] at ok
    rw [literalOf]
    cases found : lookup? members "bigint" with
    | none =>
      rw [found] at ok
      cases ok
    | some inner =>
      rw [found] at ok
      cases inner with
      | str digits => exact Except.ok.inj ok
      | _ => cases ok
  | arr items => cases ok

private theorem pairOf_of_readPair {value : Json} {pair : String × Literal}
    (ok : readPair value = .ok pair) : pairOf value = pair := by
  match value with
  | .arr (first :: second :: more) =>
    obtain ⟨name, isName, ok⟩ := bind_eq_ok.mp ok
    obtain ⟨literal, isLiteral, ok⟩ := bind_eq_ok.mp ok
    cases first with
    | str text =>
      obtain rfl := Except.ok.inj isName
      rw [pairOf, literalOf_of_readLiteral isLiteral]
      cases more with
      | nil => exact Except.ok.inj ok
      | cons third more => cases ok
    | _ => cases isName
  | .arr [first] =>
    obtain ⟨name, _, ok⟩ := bind_eq_ok.mp ok
    cases ok
  | .arr [] => cases ok
  | .null => cases ok
  | .bool _ => cases ok
  | .num _ => cases ok
  | .str _ => cases ok
  | .obj _ => cases ok

theorem exists_forall₂_iff {γ : Type} {S : β → γ → Prop} {items : List α} {others : List γ} :
    (∃ middle, Forall₂ R items middle ∧ Forall₂ S middle others) ↔
      Forall₂ (fun item other => ∃ between, R item between ∧ S between other) items others := by
  constructor
  · rintro ⟨middle, first, second⟩
    induction first generalizing others with
    | nil =>
      cases second
      exact .nil
    | cons related _ ih =>
      cases second with
      | cons next later => exact .cons ⟨_, related, next⟩ (ih later)
  · intro each
    induction each with
    | nil => exact ⟨[], .nil, .nil⟩
    | cons related _ ih =>
      obtain ⟨between, first, second⟩ := related
      obtain ⟨middle, firsts, seconds⟩ := ih
      exact ⟨between :: middle, .cons first firsts, .cons second seconds⟩

theorem mapM_eq_ok_iff {ε : Type} {solve : α → Except ε β} {items : List α} {results : List β} :
    items.mapM solve = .ok results ↔
      Forall₂ (fun item result => solve item = .ok result) items results := by
  constructor
  · intro ok
    induction items generalizing results with
    | nil =>
      obtain rfl := Except.ok.inj ok
      exact .nil
    | cons item items ih =>
      rw [List.mapM_cons] at ok
      obtain ⟨first, isFirst, ok⟩ := bind_eq_ok.mp ok
      obtain ⟨others, areOthers, rfl⟩ := bind_pure_eq_ok.mp ok
      exact .cons isFirst (ih areOthers)
  · intro each
    induction each with
    | nil => rfl
    | cons solved _ ih =>
      rw [List.mapM_cons, solved, ih]
      rfl

section

variable {R : Json → α → Prop} {read : Below bound α}

private theorem forall₂_of_readList {value : Json} {small : value.size < bound} {results : List α}
    (sound : ∀ inner smaller result, read inner smaller = .ok result → R inner result)
    (ok : readList read value small = .ok results) :
    Forall₂ R (itemsOf (some value)) results := by
  cases value with
  | arr items =>
    rw [readList] at ok
    have attached := (mapM_eq_ok_iff.mp ok).imp fun item result solved =>
      sound item.1 _ result solved
    rw [← List.forall₂_map_left_iff, List.attach_map_subtype_val] at attached
    exact attached
  | _ => cases ok

private theorem rel_of_readOptional {value : Json} {small : value.size < bound}
    {result : Option α}
    (sound : ∀ inner smaller result, read inner smaller = .ok result → R inner result)
    (ok : readOptional read value small = .ok result) :
    Option.Rel R (nodeOf (some value)) result := by
  by_cases absent : value = .null
  · subst absent
    obtain rfl := Except.ok.inj ok
    exact .none
  · have there : nodeOf (some value) = some value := by
      rw [nodeOf]
      exact fun same => absent (Option.some.inj same)
    rw [readOptional] at ok
    · rw [there]
      cases solved : read value small with
      | error cause =>
        rw [solved] at ok
        cases ok
      | ok found =>
        rw [solved] at ok
        obtain rfl := Except.ok.inj ok
        exact .some (sound value small found solved)
    · exact fun _ same _ => absent same

end

theorem lookup?_cons_of_unknown {sort : Record} {name other : String} (value : Json)
    (slots : List (String × Json)) (unknown : name ∉ sort.names) (known : other ∈ sort.names) :
    lookup? ((name, value) :: slots) other = lookup? slots other := by
  have differs : (other == name) = false := by
    rw [beq_eq_false_iff_ne]
    rintro rfl
    exact unknown known
  rw [lookup?, List.lookup_cons, differs]
  rfl

private theorem Field.ofSlots_cons {name : String} {value : Json} {slots : List (String × Json)}
    (unknown : name ∉ Record.field.names) :
    Field.ofSlots ((name, value) :: slots) = Field.ofSlots slots := by
  have keep (other : String) (known : other ∈ Record.field.names) :=
    lookup?_cons_of_unknown value slots unknown known
  rw [ofSlots, keep "name" (by decide), keep "symbol" (by decide), keep "type" (by decide),
    keep "optional" (by decide), keep "readonly" (by decide), keep "annotations" (by decide)]
  rfl

private theorem Signature.ofSlots_cons {name : String} {value : Json}
    {slots : List (String × Json)} (unknown : name ∉ Record.signature.names) :
    Signature.ofSlots ((name, value) :: slots) = Signature.ofSlots slots := by
  have keep (other : String) (known : other ∈ Record.signature.names) :=
    lookup?_cons_of_unknown value slots unknown known
  rw [ofSlots, keep "parameter" (by decide), keep "type" (by decide)]
  rfl

private theorem Element.ofSlots_cons {name : String} {value : Json} {slots : List (String × Json)}
    (unknown : name ∉ Record.element.names) :
    Element.ofSlots ((name, value) :: slots) = Element.ofSlots slots := by
  have keep (other : String) (known : other ∈ Record.element.names) :=
    lookup?_cons_of_unknown value slots unknown known
  rw [ofSlots, keep "type" (by decide), keep "optional" (by decide), keep "annotations" (by decide)]
  rfl

theorem Body.ofSlots_cons {name : String} {value : Json} {slots : List (String × Json)}
    (unknown : name ∉ Record.node.names) :
    Body.ofSlots ((name, value) :: slots) = Body.ofSlots slots := by
  have keep (other : String) (known : other ∈ Record.node.names) :=
    lookup?_cons_of_unknown value slots unknown known
  rw [ofSlots, keep "annotations" (by decide), keep "fields" (by decide),
    keep "indexSignatures" (by decide), keep "types" (by decide), keep "elements" (by decide),
    keep "rest" (by decide), keep "from" (by decide), keep "to" (by decide),
    keep "typeParameters" (by decide), keep "name" (by decide), keep "literal" (by decide),
    keep "pattern" (by decide), keep "enums" (by decide), keep "description" (by decide),
    keep "ref" (by decide)]
  rfl

section

variable {R : Json → α → Prop} {read : Below bound α}
  (sound : ∀ inner smaller result, read inner smaller = .ok result → R inner result)

include sound

theorem agrees_of_writeField {done : List (String × Json)} {field next : Field α}
    {name : String} {value : Json} {small : value.size < bound}
    (agrees : Field.Agrees R (.ofSlots done) field)
    (written : field.write read name value small = .ok next) :
    Field.Agrees R (.ofSlots ((name, value) :: done)) next := by
  unfold Field.write at written
  split at written
  · obtain ⟨text, isText, rfl⟩ := bind_pure_eq_ok.mp written
    exact { agrees with name := textOf_of_readOptionalText isText }
  · obtain ⟨text, isText, rfl⟩ := bind_pure_eq_ok.mp written
    exact { agrees with symbol := textOf_of_readOptionalText isText }
  · obtain ⟨type, isType, rfl⟩ := bind_pure_eq_ok.mp written
    exact { agrees with type := rel_of_readOptional sound isType }
  · obtain ⟨flag, isFlag, rfl⟩ := bind_pure_eq_ok.mp written
    exact { agrees with optional := flagOf_of_readFlag isFlag }
  · obtain ⟨flag, isFlag, rfl⟩ := bind_pure_eq_ok.mp written
    exact { agrees with readonly := flagOf_of_readFlag isFlag }
  · obtain ⟨members, areMembers, rfl⟩ := bind_pure_eq_ok.mp written
    exact { agrees with annotations := mapOf_of_readAnnotations areMembers }
  · obtain rfl := Except.ok.inj written
    rw [Field.ofSlots_cons (by simp_all [Record.names, Record.members])]
    exact agrees

theorem agrees_of_writeSignature {done : List (String × Json)}
    {signature next : Signature α} {name : String} {value : Json} {small : value.size < bound}
    (agrees : Signature.Agrees R (.ofSlots done) signature)
    (written : signature.write read name value small = .ok next) :
    Signature.Agrees R (.ofSlots ((name, value) :: done)) next := by
  unfold Signature.write at written
  split at written
  · obtain ⟨parameter, isParameter, rfl⟩ := bind_pure_eq_ok.mp written
    exact { agrees with parameter := rel_of_readOptional sound isParameter }
  · obtain ⟨type, isType, rfl⟩ := bind_pure_eq_ok.mp written
    exact { agrees with type := rel_of_readOptional sound isType }
  · obtain rfl := Except.ok.inj written
    rw [Signature.ofSlots_cons (by simp_all [Record.names, Record.members])]
    exact agrees

theorem agrees_of_writeElement {done : List (String × Json)} {element next : Element α}
    {name : String} {value : Json} {small : value.size < bound}
    (agrees : Element.Agrees R (.ofSlots done) element)
    (written : element.write read name value small = .ok next) :
    Element.Agrees R (.ofSlots ((name, value) :: done)) next := by
  unfold Element.write at written
  split at written
  · obtain ⟨type, isType, rfl⟩ := bind_pure_eq_ok.mp written
    exact { agrees with type := rel_of_readOptional sound isType }
  · obtain ⟨flag, isFlag, rfl⟩ := bind_pure_eq_ok.mp written
    exact { agrees with optional := flagOf_of_readFlag isFlag }
  · obtain ⟨members, areMembers, rfl⟩ := bind_pure_eq_ok.mp written
    exact { agrees with annotations := mapOf_of_readAnnotations areMembers }
  · obtain rfl := Except.ok.inj written
    rw [Element.ofSlots_cons (by simp_all [Record.names, Record.members])]
    exact agrees

omit sound in
private theorem agrees_of_readRecord {ρ : Type} {motive : List (String × Json) → ρ → Prop}
    (sort : Record) {blank record : ρ} {value : Json} {write : ρ → String → Below value.size ρ}
    (start : motive [] blank)
    (preserved : ∀ done name inner small current next, motive done current →
      write current name inner small = .ok next → motive ((name, inner) :: done) next)
    (ok : readRecord sort.names sort.expected blank value write = .ok record) :
    motive (value.slots sort) record := by
  cases found : slots? sort.names value with
  | none =>
    rw [readRecord_of_none found] at ok
    cases ok
  | some slots =>
    rw [Json.slots, found]
    exact readRecord_preserves start preserved found ok

private theorem agrees_of_readField {value : Json} {small : value.size < bound} {field : Field α}
    (ok : Field.read read value small = .ok field) : Field.Agrees R (.ofJson value) field := by
  have blank : Field.Agrees R (.ofSlots []) (Field.blank : Field α) :=
    ⟨rfl, rfl, .none, rfl, rfl, rfl⟩
  exact agrees_of_readRecord (motive := fun done field => Field.Agrees R (.ofSlots done) field)
    .field blank (fun _ _ _ _ _ _ agrees written => agrees_of_writeField sound agrees written) ok

private theorem agrees_of_readSignature {value : Json} {small : value.size < bound}
    {signature : Signature α} (ok : Signature.read read value small = .ok signature) :
    Signature.Agrees R (.ofJson value) signature := by
  have blank : Signature.Agrees R (.ofSlots []) (Signature.blank : Signature α) := ⟨.none, .none⟩
  exact agrees_of_readRecord
    (motive := fun done signature => Signature.Agrees R (.ofSlots done) signature)
    .signature blank
    (fun _ _ _ _ _ _ agrees written => agrees_of_writeSignature sound agrees written) ok

private theorem agrees_of_readElement {value : Json} {small : value.size < bound}
    {element : Element α} (ok : Element.read read value small = .ok element) :
    Element.Agrees R (.ofJson value) element := by
  have blank : Element.Agrees R (.ofSlots []) (Element.blank : Element α) := ⟨.none, rfl, rfl⟩
  exact agrees_of_readRecord
    (motive := fun done element => Element.Agrees R (.ofSlots done) element)
    .element blank
    (fun _ _ _ _ _ _ agrees written => agrees_of_writeElement sound agrees written) ok

theorem agrees_of_writeBody {done : List (String × Json)} {body next : Body α}
    {name : String} {value : Json} {small : value.size < bound} (noTag : name ≠ "_tag")
    (agrees : Body.Agrees R (.ofSlots done) body)
    (written : body.write read name value small = .ok next) :
    Body.Agrees R (.ofSlots ((name, value) :: done)) next := by
  have fieldsOf {fields : List (Field α)}
      (ok : readList (Field.read read) value small = .ok fields) :
      Forall₂ (Field.Agrees R) ((itemsOf (some value)).map Field.ofJson) fields :=
    List.forall₂_map_left_iff.mpr
      (forall₂_of_readList (fun _ _ _ ok => agrees_of_readField sound ok) ok)
  have signaturesOf {signatures : List (Signature α)}
      (ok : readList (Signature.read read) value small = .ok signatures) :
      Forall₂ (Signature.Agrees R) ((itemsOf (some value)).map Signature.ofJson) signatures :=
    List.forall₂_map_left_iff.mpr
      (forall₂_of_readList (fun _ _ _ ok => agrees_of_readSignature sound ok) ok)
  have elementsOf {elements : List (Element α)}
      (ok : readList (Element.read read) value small = .ok elements) :
      Forall₂ (Element.Agrees R) ((itemsOf (some value)).map Element.ofJson) elements :=
    List.forall₂_map_left_iff.mpr
      (forall₂_of_readList (fun _ _ _ ok => agrees_of_readElement sound ok) ok)
  -- One case for each member that is known, and at last one for all others.
  unfold Body.write at written
  split at written
  · obtain ⟨members, areMembers, rfl⟩ := bind_pure_eq_ok.mp written
    exact { agrees with annotations := mapOf_of_readAnnotations areMembers }
  · obtain ⟨fields, areFields, rfl⟩ := bind_pure_eq_ok.mp written
    exact { agrees with fields := fieldsOf areFields }
  · obtain ⟨signatures, areSignatures, rfl⟩ := bind_pure_eq_ok.mp written
    exact { agrees with signatures := signaturesOf areSignatures }
  · obtain ⟨types, areTypes, rfl⟩ := bind_pure_eq_ok.mp written
    exact { agrees with types := forall₂_of_readList sound areTypes }
  · obtain ⟨elements, areElements, rfl⟩ := bind_pure_eq_ok.mp written
    exact { agrees with elements := elementsOf areElements }
  · obtain ⟨rest, areRest, rfl⟩ := bind_pure_eq_ok.mp written
    exact { agrees with rest := elementsOf areRest }
  · obtain ⟨source, isSource, rfl⟩ := bind_pure_eq_ok.mp written
    exact { agrees with source := rel_of_readOptional sound isSource }
  · obtain ⟨target, isTarget, rfl⟩ := bind_pure_eq_ok.mp written
    exact { agrees with target := rel_of_readOptional sound isTarget }
  · obtain ⟨parameters, areParameters, rfl⟩ := bind_pure_eq_ok.mp written
    exact { agrees with typeParameters := forall₂_of_readList sound areParameters }
  · obtain ⟨text, isText, rfl⟩ := bind_pure_eq_ok.mp written
    exact { agrees with name := textOf_of_readOptionalText isText }
  · obtain ⟨literal, isLiteral, rfl⟩ := bind_pure_eq_ok.mp written
    exact { agrees with literal := congrArg some (literalOf_of_readLiteral isLiteral) }
  · obtain ⟨text, isText, rfl⟩ := bind_pure_eq_ok.mp written
    exact { agrees with pattern := textOf_of_readOptionalText isText }
  · obtain ⟨enums, areEnums, rfl⟩ := bind_pure_eq_ok.mp written
    have pairs : Forall₂ (fun inner pair => pairOf inner = pair) (itemsOf (some value)) enums :=
      forall₂_of_readList (fun _ _ _ ok => pairOf_of_readPair ok) areEnums
    have same := List.forall₂_map_left_iff.mpr pairs
    rw [List.forall₂_eq_eq_eq] at same
    exact { agrees with enums := same }
  · obtain ⟨text, isText, rfl⟩ := bind_pure_eq_ok.mp written
    exact { agrees with description := textOf_of_readOptionalText isText }
  · obtain ⟨text, isText, rfl⟩ := bind_pure_eq_ok.mp written
    exact { agrees with reference := textOf_of_readOptionalText isText }
  · obtain rfl := Except.ok.inj written
    rw [Body.ofSlots_cons (by simp_all [Record.names, Record.members])]
    exact agrees

structure Draft.Agrees (R : Json → α → Prop) (done : List (String × Json))
    (draft : Draft α) : Prop where
  tag : draft.tag = textOf (lookup? done "_tag")
  body : Body.Agrees R (.ofSlots done) draft.body

theorem agrees_of_writeDraft {done : List (String × Json)} {draft next : Draft α}
    {name : String} {value : Json} {small : value.size < bound}
    (agrees : Draft.Agrees R done draft)
    (written : draft.write read name value small = .ok next) :
    Draft.Agrees R ((name, value) :: done) next := by
  unfold Draft.write at written
  split at written
  · obtain ⟨text, isText, rfl⟩ := bind_pure_eq_ok.mp written
    have said : textOf (some value) = some text := by
      cases value with
      | str text => exact congrArg some (Except.ok.inj isText)
      | _ => cases isText
    exact ⟨said.symm, agrees.body⟩
  · rename_i noTag
    obtain ⟨body, isBody, rfl⟩ := bind_pure_eq_ok.mp written
    have differs : ("_tag" == name) = false := beq_eq_false_iff_ne.mpr fun same => noTag same.symm
    have kept : lookup? ((name, value) :: done) "_tag" = lookup? done "_tag" := by
      rw [lookup?, List.lookup_cons, differs]
      rfl
    refine ⟨?tag, ?body⟩
    case tag =>
      rw [kept]
      exact agrees.tag
    case body => exact agrees_of_writeBody sound noTag agrees.body isBody

end

def tagOf (value : Json) : String := (textOf (lookup? (value.slots .node) "_tag")).getD ""

/-- A description that is read from a value says what the value says, with the descriptions read
from the values inside in their places. -/
theorem agrees_of_read {value : Json} {description : Description}
    (ok : read value = .ok description) :
    description.tag = tagOf value ∧
      Body.Agrees (fun inner found => read inner = .ok found) (.ofJson value) description.body := by
  rw [read] at ok
  obtain ⟨draft, isDraft, ok⟩ := bind_eq_ok.mp ok
  let Reads (inner : Json) (found : Description) : Prop := read inner = .ok found
  have blank : Draft.Agrees Reads [] Draft.blank :=
    ⟨rfl, rfl, .nil, .nil, .nil, .nil, .nil, .none, .none, .nil, rfl, rfl, rfl, rfl, rfl, rfl⟩
  have preserved (done : List (String × Json)) (name : String) (inner : Json)
      (small : inner.size < value.size) (current next : Draft Description)
      (agrees : Draft.Agrees Reads done current)
      (written : current.write (fun inner (_ : inner.size < value.size) => read inner) name inner
        small = .ok next) : Draft.Agrees Reads ((name, inner) :: done) next := by
    apply agrees_of_writeDraft _ agrees written
    intro _ _ _ found
    exact found
  have agrees : Draft.Agrees Reads (value.slots .node) draft :=
    agrees_of_readRecord (motive := Draft.Agrees Reads) .node blank preserved isDraft
  cases isTag : draft.tag with
  | none =>
    rw [isTag] at ok
    cases ok
  | some tag =>
    rw [isTag] at ok
    obtain rfl := Except.ok.inj ok
    refine ⟨?tag, agrees.body⟩
    case tag =>
      rw [tagOf, ← agrees.tag, isTag]
      rfl

end Description

end SchemaOutline
