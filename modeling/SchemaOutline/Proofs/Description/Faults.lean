import SchemaOutline.Description.Content
import SchemaOutline.Proofs.Reports

/-! The faults of a description in pre-order, and the first of them as the error of a split. -/

set_option autoImplicit false
set_option relaxedAutoImplicit false

namespace SchemaOutline

variable {α : Type}

namespace Description

def missing (kind : Kind) (member : String) : Option α → List DecodeError
  | some _ => []
  | none => [.missingMember (.node kind) member]

def Field.faults (field : Field α) : List DecodeError :=
  missing .struct "name" (field.name.or field.symbol) ++ missing .struct "type" field.type

def Signature.faults (signature : Signature α) : List DecodeError :=
  missing .struct "parameter" signature.parameter ++ missing .struct "type" signature.type

def Element.faults (element : Element α) : List DecodeError :=
  missing .tuple "type" element.type

def unknown (definitions : List (String × Json)) (name : String) : List DecodeError :=
  match Json.lookup? definitions name with
  | some _ => []
  | none => [.unknownReference name]

/-- What a body lacks for a kind, under a table of definitions. -/
def Body.faults (definitions : List (String × Json)) (kind : Kind) (body : Body α) :
    List DecodeError :=
  match kind with
  | .struct => body.fields.flatMap Field.faults ++ body.signatures.flatMap Signature.faults
  | .tuple => body.elements.flatMap Element.faults ++ body.rest.flatMap Element.faults
  | .refinement => missing kind "from" body.source
  | .transformation => missing kind "from" body.source ++ missing kind "to" body.target
  | .suspend => missing kind "ref" body.reference ++
      body.reference.toList.flatMap (unknown definitions)
  | .literal => missing kind "literal" body.literal
  | .templateLiteral => missing kind "pattern" body.pattern
  | .uniqueSymbol => missing kind "description" body.description
  | .union | .declaration | .enums | .keyword _ => []

/-- The inner descriptions in members that a kind uses, from left to right. -/
def Body.used (kind : Kind) (body : Body α) : List α :=
  match kind with
  | .struct => body.fields.filterMap Field.type ++ body.signatures.flatMap Signature.inner
  | .union => body.types
  | .tuple => body.elements.filterMap Element.type ++ body.rest.filterMap Element.type
  | .refinement => body.source.toList
  | .transformation => body.source.toList ++ body.target.toList
  | .declaration => body.typeParameters
  | .suspend | .keyword _ | .literal | .templateLiteral | .enums | .uniqueSymbol => []

def Body.faultsAs (definitions : List (String × Json)) (tag : String) (body : Body α) :
    List DecodeError :=
  match Kind.ofName? tag with
  | none => [.unexpectedTag tag]
  | some kind => body.faults definitions kind

def Body.usedAs (tag : String) (body : Body α) : List α :=
  match Kind.ofName? tag with
  | none => []
  | some kind => body.used kind

def ownFaults (definitions : List (String × Json)) (description : Description) :
    List DecodeError :=
  description.body.faultsAs definitions description.tag

def used (description : Description) : List Description :=
  description.body.usedAs description.tag

def Body.Complete (definitions : List (String × Json)) (kind : Kind) (body : Body α) : Prop :=
  match kind with
  | .struct => (∀ field ∈ body.fields,
      (field.name.isSome ∨ field.symbol.isSome) ∧ field.type.isSome) ∧
      ∀ signature ∈ body.signatures, signature.parameter.isSome ∧ signature.type.isSome
  | .tuple => (∀ element ∈ body.elements, element.type.isSome) ∧
      ∀ element ∈ body.rest, element.type.isSome
  | .refinement => body.source.isSome
  | .transformation => body.source.isSome ∧ body.target.isSome
  | .suspend => ∃ name, body.reference = some name ∧ (Json.lookup? definitions name).isSome
  | .literal => body.literal.isSome
  | .templateLiteral => body.pattern.isSome
  | .uniqueSymbol => body.description.isSome
  | .union | .declaration | .enums | .keyword _ => True

private theorem missing_eq_nil {kind : Kind} {member : String} {value : Option α} :
    missing kind member value = [] ↔ value.isSome := by
  cases value <;> simp [missing]

private theorem unknown_eq_nil {definitions : List (String × Json)} {name : String} :
    unknown definitions name = [] ↔ (Json.lookup? definitions name).isSome := by
  rw [unknown]
  cases Json.lookup? definitions name <;> simp

private theorem faults_element_eq_nil {elements : List (Element α)} :
    elements.flatMap Element.faults = [] ↔ ∀ element ∈ elements, element.type.isSome := by
  rw [List.flatMap_eq_nil_iff]
  exact forall₂_congr fun _ _ => missing_eq_nil

theorem Body.faults_eq_nil_iff (definitions : List (String × Json)) (kind : Kind)
    (body : Body α) : body.faults definitions kind = [] ↔ body.Complete definitions kind := by
  cases kind with
  | struct =>
    rw [faults, List.append_eq_nil_iff, List.flatMap_eq_nil_iff, List.flatMap_eq_nil_iff]
    refine and_congr (forall₂_congr fun field _ => ?_) (forall₂_congr fun signature _ => ?_)
    · rw [Field.faults, List.append_eq_nil_iff, missing_eq_nil, missing_eq_nil, Option.isSome_or,
        Bool.or_eq_true]
    · rw [Signature.faults, List.append_eq_nil_iff, missing_eq_nil, missing_eq_nil]
  | tuple =>
    rw [faults, List.append_eq_nil_iff, faults_element_eq_nil, faults_element_eq_nil]
    rfl
  | transformation =>
    rw [faults, List.append_eq_nil_iff, missing_eq_nil, missing_eq_nil]
    rfl
  | suspend =>
    rw [faults, Complete]
    cases body.reference with
    | none => simp [missing]
    | some name => simp [missing, unknown_eq_nil]
  | refinement => exact missing_eq_nil
  | literal => exact missing_eq_nil
  | templateLiteral => exact missing_eq_nil
  | uniqueSymbol => exact missing_eq_nil
  | union => exact iff_of_true rfl trivial
  | declaration => exact iff_of_true rfl trivial
  | enums => exact iff_of_true rfl trivial
  | keyword word => exact iff_of_true rfl trivial

theorem Body.faultsAs_eq_nil_iff (definitions : List (String × Json)) (tag : String)
    (body : Body α) : body.faultsAs definitions tag = [] ↔
      ∃ kind : Kind, kind.name = tag ∧ body.Complete definitions kind := by
  rw [faultsAs]
  cases named : Kind.ofName? tag with
  | none =>
    constructor
    · intro empty
      cases empty
    · rintro ⟨kind, rfl, _⟩
      rw [Kind.ofName?_name] at named
      cases named
  | some kind =>
    obtain rfl := Kind.ofName?_eq_some_iff.mp named
    rw [faults_eq_nil_iff]
    constructor
    · exact fun complete => ⟨kind, rfl, complete⟩
    · rintro ⟨other, same, complete⟩
      rwa [Kind.name_injective same] at complete

theorem Body.used_sublist_inner (kind : Kind) (body : Body α) :
    (body.used kind).Sublist body.inner := by
  unfold Body.inner
  cases kind <;> simp only [Body.used] <;> grind

theorem Body.usedAs_sublist_inner (tag : String) (body : Body α) :
    (body.usedAs tag).Sublist body.inner := by
  unfold usedAs
  cases Kind.ofName? tag with
  | none => exact List.nil_sublist _
  | some kind => exact used_sublist_inner kind body

theorem mem_inner_of_mem_used {description part : Description} (inside : part ∈ description.used) :
    part ∈ description.inner :=
  (Body.usedAs_sublist_inner description.tag description.body).subset inside

/-- Everything that is wrong with a description and the descriptions it uses, in pre-order. -/
def faults (definitions : List (String × Json)) (description : Description) : List DecodeError :=
  description.ownFaults definitions ++
    description.used.attach.flatMap fun part => faults definitions part.1
termination_by sizeOf description
decreasing_by exact sizeOf_lt_of_mem_inner (mem_inner_of_mem_used part.2)

theorem faults_eq (definitions : List (String × Json)) (description : Description) :
    description.faults definitions =
      description.ownFaults definitions ++ description.used.flatMap (faults definitions) := by
  rw [faults]
  exact congrArg _ (Traversal.flatMap_attach description.used (faults definitions))

theorem reports_required (kind : Kind) (member : String) (value : Option α) :
    Reports (required kind member value) (missing kind member value) := by
  cases value with
  | none => rfl
  | some found => rfl

theorem reports_key (field : Field α) :
    Reports field.key (missing .struct "name" (field.name.or field.symbol)) := by
  unfold Field.key
  cases field.name with
  | some name => rfl
  | none =>
    cases field.symbol with
    | some symbol => rfl
    | none => rfl

theorem reports_field (field : Field α) : Reports field.content field.faults := by
  apply (reports_key field).bind
  intro key _
  apply (reports_required .struct "type" field.type).bind_pure
  intro type _
  rfl

theorem reports_signature (signature : Signature α) :
    Reports signature.content signature.faults := by
  apply (reports_required .struct "parameter" signature.parameter).bind
  intro parameter _
  apply (reports_required .struct "type" signature.type).bind_pure
  intro type _
  rfl

theorem reports_element (element : Element α) : Reports element.content element.faults := by
  apply (reports_required .tuple "type" element.type).bind_pure
  intro type _
  rfl

private theorem eq_of_mem_missing {kind : Kind} {member : String} {value : Option α}
    {cause : DecodeError} (inside : cause ∈ missing kind member value) :
    cause = .missingMember (.node kind) member := by
  cases value with
  | none => exact List.mem_singleton.mp inside
  | some found => cases inside

private theorem eq_of_mem_unknown {definitions : List (String × Json)} {name : String}
    {cause : DecodeError} (inside : cause ∈ unknown definitions name) :
    cause = .unknownReference name := by
  unfold unknown at inside
  cases known : Json.lookup? definitions name with
  | none =>
    rw [known] at inside
    exact List.mem_singleton.mp inside
  | some document =>
    rw [known] at inside
    cases inside

theorem Body.of_mem_faults {definitions : List (String × Json)} {kind : Kind} {body : Body α}
    {cause : DecodeError} (inside : cause ∈ body.faults definitions kind) :
    (∃ member, cause = .missingMember (.node kind) member) ∨
      ∃ name, cause = .unknownReference name := by
  cases kind with
  | struct =>
    left
    rcases List.mem_append.mp inside with inFields | inSignatures
    · obtain ⟨field, _, found⟩ := List.mem_flatMap.mp inFields
      rcases List.mem_append.mp found with ofKey | ofType
      · exact ⟨_, eq_of_mem_missing ofKey⟩
      · exact ⟨_, eq_of_mem_missing ofType⟩
    · obtain ⟨signature, _, found⟩ := List.mem_flatMap.mp inSignatures
      rcases List.mem_append.mp found with ofParameter | ofType
      · exact ⟨_, eq_of_mem_missing ofParameter⟩
      · exact ⟨_, eq_of_mem_missing ofType⟩
  | tuple =>
    left
    rcases List.mem_append.mp inside with inElements | inRest
    · obtain ⟨element, _, found⟩ := List.mem_flatMap.mp inElements
      exact ⟨_, eq_of_mem_missing found⟩
    · obtain ⟨element, _, found⟩ := List.mem_flatMap.mp inRest
      exact ⟨_, eq_of_mem_missing found⟩
  | transformation =>
    left
    rcases List.mem_append.mp inside with ofSource | ofTarget
    · exact ⟨_, eq_of_mem_missing ofSource⟩
    · exact ⟨_, eq_of_mem_missing ofTarget⟩
  | suspend =>
    rcases List.mem_append.mp inside with absent | dangling
    · exact .inl ⟨_, eq_of_mem_missing absent⟩
    · obtain ⟨name, _, found⟩ := List.mem_flatMap.mp dangling
      exact .inr ⟨name, eq_of_mem_unknown found⟩
  | refinement => exact .inl ⟨_, eq_of_mem_missing inside⟩
  | literal => exact .inl ⟨_, eq_of_mem_missing inside⟩
  | templateLiteral => exact .inl ⟨_, eq_of_mem_missing inside⟩
  | uniqueSymbol => exact .inl ⟨_, eq_of_mem_missing inside⟩
  | union => cases inside
  | declaration => cases inside
  | enums => cases inside
  | keyword word => cases inside

theorem Body.of_mem_faultsAs {definitions : List (String × Json)} {tag : String} {body : Body α}
    {cause : DecodeError} (inside : cause ∈ body.faultsAs definitions tag) :
    (∃ name, cause = .unexpectedTag name) ∨
      (∃ kind member, cause = .missingMember (.node kind) member) ∨
      ∃ name, cause = .unknownReference name := by
  unfold faultsAs at inside
  cases named : Kind.ofName? tag with
  | none =>
    rw [named] at inside
    exact .inl ⟨_, List.mem_singleton.mp inside⟩
  | some kind =>
    rw [named] at inside
    rcases of_mem_faults inside with ⟨member, found⟩ | dangling
    · exact .inr (.inl ⟨kind, member, found⟩)
    · exact .inr (.inr dangling)

theorem of_mem_faults {definitions : List (String × Json)} {description : Description}
    {cause : DecodeError} (inside : cause ∈ description.faults definitions) :
    (∃ name, cause = .unexpectedTag name) ∨
      (∃ kind member, cause = .missingMember (.node kind) member) ∨
      ∃ name, cause = .unknownReference name := by
  induction description using Description.induct with
  | step description ih =>
    rw [faults_eq, List.mem_append] at inside
    rcases inside with own | below
    · exact Body.of_mem_faultsAs own
    · obtain ⟨part, used, found⟩ := List.mem_flatMap.mp below
      exact ih part (mem_inner_of_mem_used used) found

theorem Body.reports_shape (definitions : List (String × Json)) (kind : Kind) (body : Body α) :
    Reports (body.shape definitions kind) (body.faults definitions kind) := by
  cases kind with
  | struct =>
    apply (Reports.mapM fun field _ => reports_field field).bind
    intro fields _
    apply (Reports.mapM fun signature _ => reports_signature signature).bind_pure
    intro signatures _
    rfl
  | tuple =>
    apply (Reports.mapM fun element _ => reports_element element).bind
    intro elements _
    apply (Reports.mapM fun element _ => reports_element element).bind_pure
    intro rest _
    rfl
  | refinement =>
    apply (reports_required _ "from" body.source).bind_pure
    intro base _
    rfl
  | transformation =>
    apply (reports_required _ "from" body.source).bind
    intro source _
    apply (reports_required _ "to" body.target).bind_pure
    intro target _
    rfl
  | suspend =>
    apply (reports_required _ "ref" body.reference).bind
    intro name isName
    rw [required_eq_ok] at isName
    rw [isName, Option.toList_some, List.flatMap_singleton, unknown]
    cases Json.lookup? definitions name with
    | none => rfl
    | some document => rfl
  | literal =>
    apply (reports_required _ "literal" body.literal).bind_pure
    intro value _
    rfl
  | templateLiteral =>
    apply (reports_required _ "pattern" body.pattern).bind_pure
    intro pattern _
    rfl
  | uniqueSymbol =>
    apply (reports_required _ "description" body.description).bind_pure
    intro description _
    rfl
  | union => rfl
  | declaration => rfl
  | enums => rfl
  | keyword word => rfl

/-- Taking a description apart reports its own faults. -/
theorem reports_split (definitions : List (String × Json)) (description : Description) :
    Reports (description.split definitions) (description.ownFaults definitions) := by
  unfold split ownFaults Body.faultsAs
  cases Kind.ofName? description.tag with
  | none => rfl
  | some kind =>
    apply (Body.reports_shape definitions kind description.body).bind_pure
    intro shape _
    rfl

theorem Body.kind_shape {definitions : List (String × Json)} {kind : Kind} {body : Body α}
    {shape : Shape α} (found : body.shape definitions kind = .ok shape) : shape.kind = kind := by
  cases kind with
  | struct =>
    obtain ⟨fields, _, found⟩ := bind_eq_ok.mp found
    obtain ⟨signatures, _, rfl⟩ := bind_pure_eq_ok.mp found
    rfl
  | tuple =>
    obtain ⟨elements, _, found⟩ := bind_eq_ok.mp found
    obtain ⟨rest, _, rfl⟩ := bind_pure_eq_ok.mp found
    rfl
  | transformation =>
    obtain ⟨source, _, found⟩ := bind_eq_ok.mp found
    obtain ⟨target, _, rfl⟩ := bind_pure_eq_ok.mp found
    rfl
  | suspend =>
    obtain ⟨name, _, found⟩ := bind_eq_ok.mp found
    cases known : Json.lookup? definitions name with
    | none =>
      rw [known] at found
      cases found
    | some document =>
      rw [known] at found
      obtain rfl := Except.ok.inj found
      rfl
  | refinement =>
    obtain ⟨base, _, rfl⟩ := bind_pure_eq_ok.mp found
    rfl
  | literal =>
    obtain ⟨value, _, rfl⟩ := bind_pure_eq_ok.mp found
    rfl
  | templateLiteral =>
    obtain ⟨pattern, _, rfl⟩ := bind_pure_eq_ok.mp found
    rfl
  | uniqueSymbol =>
    obtain ⟨description, _, rfl⟩ := bind_pure_eq_ok.mp found
    rfl
  | union =>
    obtain rfl := Except.ok.inj found
    rfl
  | declaration =>
    obtain rfl := Except.ok.inj found
    rfl
  | enums =>
    obtain rfl := Except.ok.inj found
    rfl
  | keyword word =>
    obtain rfl := Except.ok.inj found
    rfl

theorem Body.parts_shape {definitions : List (String × Json)} {kind : Kind} {body : Body α}
    {shape : Shape α} (found : body.shape definitions kind = .ok shape) :
    shape.parts = body.used kind := by
  cases kind with
  | struct =>
    obtain ⟨fields, areFields, found⟩ := bind_eq_ok.mp found
    obtain ⟨signatures, areSignatures, rfl⟩ := bind_pure_eq_ok.mp found
    rw [Shape.parts, map_type_of_fields areFields, flatMap_parts_of_signatures areSignatures]
    rfl
  | tuple =>
    obtain ⟨elements, areElements, found⟩ := bind_eq_ok.mp found
    obtain ⟨rest, areRest, rfl⟩ := bind_pure_eq_ok.mp found
    rw [Shape.parts, map_type_of_elements areElements, map_type_of_elements areRest]
    rfl
  | refinement =>
    obtain ⟨base, isBase, rfl⟩ := bind_pure_eq_ok.mp found
    rw [required_eq_ok] at isBase
    simp [Shape.parts, Body.used, isBase]
  | transformation =>
    obtain ⟨source, isSource, found⟩ := bind_eq_ok.mp found
    obtain ⟨target, isTarget, rfl⟩ := bind_pure_eq_ok.mp found
    rw [required_eq_ok] at isSource isTarget
    simp [Shape.parts, Body.used, isSource, isTarget]
  | suspend =>
    obtain ⟨name, _, found⟩ := bind_eq_ok.mp found
    cases known : Json.lookup? definitions name with
    | none => simp [known, throw, throwThe, MonadExceptOf.throw] at found
    | some document =>
      simp only [known] at found
      obtain rfl := Except.ok.inj found
      rfl
  | literal =>
    obtain ⟨value, _, rfl⟩ := bind_pure_eq_ok.mp found
    rfl
  | templateLiteral =>
    obtain ⟨pattern, _, rfl⟩ := bind_pure_eq_ok.mp found
    rfl
  | uniqueSymbol =>
    obtain ⟨description, _, rfl⟩ := bind_pure_eq_ok.mp found
    rfl
  | union =>
    obtain rfl := Except.ok.inj found
    rfl
  | declaration =>
    obtain rfl := Except.ok.inj found
    rfl
  | enums =>
    obtain rfl := Except.ok.inj found
    rfl
  | keyword word =>
    obtain rfl := Except.ok.inj found
    rfl

theorem parts_split {definitions : List (String × Json)} {description : Description}
    {layer : Annotations × Shape Description} (found : description.split definitions = .ok layer) :
    layer.2.parts = description.used := by
  unfold split at found
  unfold used Body.usedAs
  cases named : Kind.ofName? description.tag with
  | none => simp [named] at found
  | some kind =>
    simp only [named] at found
    obtain ⟨shape, isShape, rfl⟩ := bind_pure_eq_ok.mp found
    exact Body.parts_shape isShape

end Description

end SchemaOutline
