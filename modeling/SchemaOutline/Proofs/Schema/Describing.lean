import SchemaOutline.Proofs.Annotations.Collecting
import SchemaOutline.Proofs.Description.View
import SchemaOutline.Schema.Describe

/-! The description of a schema has the form of a node and says its shape again. -/

set_option autoImplicit false
set_option relaxedAutoImplicit false

namespace SchemaOutline

open Description

/-! ### Shapes -/

def Shape.referring {α : Type} (table : List (String × Json)) : Shape α → Shape α
  | suspend suspension =>
    suspend ⟨suspension.label, .definition table (suspension.label.getD "")⟩
  | shape => shape

/-- What a shape says itself, apart from its parts, can be described under a table: annotations
are plain, and what is suspended goes by the name of a definition. -/
def Shape.Describable {α : Type} (table : List (String × Json)) : Shape α → Prop
  | struct fields _ => ∀ field ∈ fields, field.annotations.Plain
  | tuple elements rest => ∀ element ∈ elements ++ rest, element.annotations.Plain
  | suspend suspension => ∃ name, suspension.label = some name ∧ (Json.lookup? table name).isSome
  | _ => True

private theorem annotationsOf_describe {annotations : Annotations} (plain : annotations.Plain) :
    annotationsOf (Json.mapOf (some annotations.describe)) = annotations :=
  Annotations.ofMembers_describe plain

private theorem literalOf_describe (literal : Literal) :
    Json.literalOf literal.describe = literal := by
  cases literal <;> rfl

private theorem mapM_describe {α β γ : Type} {describe : α → β} {ofJson : β → γ}
    {content : γ → Except DecodeError α} {items : List α}
    (each : ∀ item ∈ items, content (ofJson (describe item)) = .ok item) :
    ((items.map describe).map ofJson).mapM content = .ok items := by
  rw [mapM_eq_ok_iff, List.forall₂_map_left_iff, List.forall₂_map_left_iff]
  exact List.forall₂_same.mpr each

private theorem mapM_fields {fields : List (Field Json)}
    (plain : ∀ field ∈ fields, field.annotations.Plain)
    (objects : ∀ field ∈ fields, ∃ members, field.type = .obj members) :
    ((fields.map Field.describe).map Description.Field.ofJson).mapM Description.Field.content =
      .ok fields := by
  apply mapM_describe
  intro field inside
  have plain := plain field inside
  have isObject := objects field inside
  obtain ⟨key, type, optional, readonly, annotations⟩ := field
  obtain ⟨members, rfl⟩ : ∃ members, type = .obj members := isObject
  have said : (Description.Field.ofJson
        (Field.describe ⟨key, .obj members, optional, readonly, annotations⟩)).content =
      .ok ⟨key, .obj members, optional, readonly,
        annotationsOf (Json.mapOf (some annotations.describe))⟩ := by
    cases key <;> rfl
  rw [said, annotationsOf_describe plain]

private theorem mapM_elements {elements : List (Element Json)}
    (plain : ∀ element ∈ elements, element.annotations.Plain)
    (objects : ∀ element ∈ elements, ∃ members, element.type = .obj members) :
    ((elements.map Element.describe).map Description.Element.ofJson).mapM
      Description.Element.content = .ok elements := by
  apply mapM_describe
  intro element inside
  have plain := plain element inside
  have isObject := objects element inside
  obtain ⟨type, optional, annotations⟩ := element
  obtain ⟨members, rfl⟩ : ∃ members, type = .obj members := isObject
  have said : (Description.Element.ofJson
        (Element.describe ⟨.obj members, optional, annotations⟩)).content =
      .ok ⟨.obj members, optional, annotationsOf (Json.mapOf (some annotations.describe))⟩ := rfl
  rw [said, annotationsOf_describe plain]

private theorem mapM_signatures {signatures : List (IndexSignature Json)}
    (objects : ∀ signature ∈ signatures, ∀ part ∈ signature.parts, ∃ members, part = .obj members) :
    ((signatures.map IndexSignature.describe).map Description.Signature.ofJson).mapM
      Description.Signature.content = .ok signatures := by
  apply mapM_describe
  intro signature inside
  have isObject := objects signature inside
  obtain ⟨parameter, type⟩ := signature
  obtain ⟨_, rfl⟩ := isObject parameter List.mem_cons_self
  obtain ⟨_, rfl⟩ := isObject type (List.mem_cons_of_mem _ List.mem_cons_self)
  rfl

private theorem map_pairOf_describe (members : List (String × Literal)) :
    (members.map fun (name, value) => Json.arr [.str name, value.describe]).map Json.pairOf =
      members := by
  induction members with
  | nil => rfl
  | cons member members ih =>
    obtain ⟨name, value⟩ := member
    rw [List.map_cons, List.map_cons, ih]
    simp only [Json.pairOf, literalOf_describe]

def commonNames : List String := ["_tag", "annotations", "$defs"]

private theorem own_of_mem_members (shape : Shape Json) :
    ∀ member ∈ shape.members, member.1 ∉ commonNames := by
  have named {name : String} (text : Option String) (own : name ∉ commonNames) :
      ∀ member ∈ Shape.optionalMember name text, member.1 ∉ commonNames := by
    cases text with
    | none => nofun
    | some text => exact List.forall_mem_singleton.mpr own
  cases shape with
  | declaration name parameters =>
    exact List.forall_mem_cons.mpr ⟨by simp [commonNames], named name (by decide)⟩
  | refinement name base =>
    exact List.forall_mem_cons.mpr ⟨by simp [commonNames], named name (by decide)⟩
  | suspend suspension => exact named suspension.label (by decide)
  | leaf content => cases content <;> simp [Shape.members, Leaf.members, commonNames]
  | _ => simp [Shape.members, commonNames]

private theorem lookup_of_common {shape : Shape Json} {name : String} (common : name ∈ commonNames)
    {members : List (String × Json)} (among : members ⊆ shape.members) :
    members.lookup name = none := by
  rw [List.lookup_eq_none_iff]
  intro member inside
  apply bne_iff_ne.mpr
  rintro rfl
  exact own_of_mem_members shape member (among inside) common

private theorem lookup?_slots (shape : Shape Json) (tag annotations : Json) {name : String}
    (common : name ∈ commonNames) :
    Json.lookup? ((Json.obj (("_tag", tag) :: ("annotations", annotations) ::
      shape.members)).slots .node) name =
        [("annotations", annotations), ("_tag", tag)].lookup name := by
  change List.lookup name (_ :: _ :: shape.members).reverse = _
  have none := lookup_of_common common (List.reverse_subset.mpr (List.Subset.refl shape.members))
  rw [List.reverse_cons, List.reverse_cons, List.append_assoc, List.lookup_append, none]
  rfl

theorem Shape.tagOf_members (shape : Shape Json) (tag : String) (annotations : Json) :
    tagOf (.obj (("_tag", .str tag) :: ("annotations", annotations) :: shape.members)) = tag := by
  rw [tagOf, lookup?_slots shape _ _ (by decide)]
  rfl

theorem Shape.annotations_members (shape : Shape Json) (tag : Json) {annotations : Annotations}
    (plain : annotations.Plain) :
    annotationsOf (Body.ofJson (.obj
      (("_tag", tag) :: ("annotations", annotations.describe) :: shape.members))).annotations =
        annotations := by
  rw [Body.ofJson, Body.ofSlots, lookup?_slots shape _ _ (by decide)]
  exact annotationsOf_describe plain

theorem Shape.lookup?_definitions (shape : Shape Json) (tag annotations table : Json) :
    Json.lookup? (("_tag", tag) :: ("annotations", annotations) :: shape.members ++
      [("$defs", table)]) "$defs" = some table := by
  have none : shape.members.lookup "$defs" = none :=
    lookup_of_common (by decide) (List.Subset.refl _)
  change List.lookup "$defs" (shape.members ++ [("$defs", table)]) = some table
  rw [List.lookup_append, none]
  rfl

theorem Shape.shape_members {table : List (String × Json)} {shape : Shape Json}
    (describable : shape.Describable table)
    (objects : ∀ part ∈ shape.parts, ∃ members, part = .obj members) (tag annotations : Json) :
    (Body.ofJson (.obj (("_tag", tag) :: ("annotations", annotations) :: shape.members))).shape
      table shape.kind = .ok (shape.referring table) := by
  -- Every part is an object, so no part reads as a member that is null for none.
  cases shape with
  | struct fields signatures =>
    have areFields := mapM_fields describable fun field inside =>
      objects field.type (List.mem_append_left _ (List.mem_map_of_mem inside))
    have areSignatures := mapM_signatures fun signature inside part half =>
      objects part (List.mem_append_right _ (List.mem_flatMap_of_mem inside half))
    change (do
      let fields ← ((fields.map Field.describe).map Description.Field.ofJson).mapM
        Description.Field.content
      let signatures ← ((signatures.map IndexSignature.describe).map
        Description.Signature.ofJson).mapM Description.Signature.content
      return struct fields signatures) = _
    rw [areFields, areSignatures]
    rfl
  | tuple elements rest =>
    have areElements := mapM_elements
      (fun element inside => describable element (List.mem_append_left _ inside))
      fun element inside =>
        objects element.type (List.mem_append_left _ (List.mem_map_of_mem inside))
    have areRest := mapM_elements
      (fun element inside => describable element (List.mem_append_right _ inside))
      fun element inside =>
        objects element.type (List.mem_append_right _ (List.mem_map_of_mem inside))
    change (do
      let elements ← ((elements.map Element.describe).map Description.Element.ofJson).mapM
        Description.Element.content
      let rest ← ((rest.map Element.describe).map Description.Element.ofJson).mapM
        Description.Element.content
      return tuple elements rest) = _
    rw [areElements, areRest]
    rfl
  | union members => rfl
  | declaration name parameters => cases name <;> rfl
  | refinement name base =>
    obtain ⟨_, rfl⟩ := objects base List.mem_cons_self
    cases name <;> rfl
  | transformation source target =>
    obtain ⟨_, rfl⟩ := objects source List.mem_cons_self
    obtain ⟨_, rfl⟩ := objects target (List.mem_cons_of_mem _ List.mem_cons_self)
    rfl
  | suspend suspension =>
    obtain ⟨label, resolution⟩ := suspension
    obtain ⟨name, rfl, known⟩ := describable
    obtain ⟨definition, found⟩ := Option.isSome_iff_exists.mp known
    refine bind_eq_ok.mpr ⟨name, rfl, ?_⟩
    rw [found]
    rfl
  | leaf content =>
    cases content with
    | literal value =>
      change Except.ok (leaf (.literal (Json.literalOf value.describe))) = _
      rw [literalOf_describe]
      rfl
    | enums members =>
      change Except.ok (leaf (.enums (List.map Json.pairOf (members.map _)))) = _
      rw [map_pairOf_describe]
      rfl
    | keyword word => rfl
    | templateLiteral pattern => rfl
    | uniqueSymbol description => rfl

/-! ### Forms -/

def Record.Fits (sort : Record) (members : List (String × Json)) : Prop :=
  ∀ member ∈ members, ∀ form, sort.form? member.1 = some form → HasForm form member.2

namespace Record.Fits

theorem nil (sort : Record) : sort.Fits [] := by
  intro member inside
  cases inside

theorem cons {sort : Record} {name : String} {value : Json} {form : Form}
    {members : List (String × Json)} (asked : sort.form? name = some form)
    (has : HasForm form value) (fits : sort.Fits members) :
    sort.Fits ((name, value) :: members) := by
  intro member inside other isForm
  rcases List.mem_cons.mp inside with rfl | later
  · obtain rfl := Option.some.inj (asked.symm.trans isForm)
    exact has
  · exact fits member later other isForm

theorem singleton {sort : Record} {name : String} {value : Json} {form : Form}
    (asked : sort.form? name = some form) (has : HasForm form value) : sort.Fits [(name, value)] :=
  cons asked has (nil sort)

end Record.Fits

open Record.Fits (cons singleton nil)

private theorem hasForm_annotations (annotations : Annotations) :
    HasForm (.optional .map) annotations.describe := .present (.map _)

private theorem hasForm_literal (literal : Literal) : HasForm .literal literal.describe := by
  cases literal with
  | string text => exact .string text
  | number value => exact .number _
  | boolean value => exact .boolean value
  | bigint digits => exact .bigint rfl
  | null => exact .null

private theorem hasForm_list {α : Type} {describe : α → Json} {form : Form} {items : List α}
    (each : ∀ item ∈ items, HasForm form (describe item)) :
    HasForm (.list form) (.arr (items.map describe)) := by
  refine .list fun value inside => ?_
  obtain ⟨item, isItem, rfl⟩ := List.mem_map.mp inside
  exact each item isItem

private theorem hasForm_field {field : Field Json} (type : HasForm (.record .node) field.type) :
    HasForm (.record .field) field.describe := by
  have others : Record.field.Fits [("type", field.type), ("optional", .bool field.optional),
      ("readonly", .bool field.readonly), ("annotations", field.annotations.describe)] :=
    cons rfl (.present type) (cons rfl (.flag _) (cons rfl (.flag _)
      (singleton rfl (hasForm_annotations _))))
  refine .object ?_ nofun
  cases field.key with
  | name text => exact cons rfl (.present (.text text)) others
  | symbol description => exact cons rfl (.present (.text description)) others

private theorem hasForm_element {element : Element Json}
    (type : HasForm (.record .node) element.type) :
    HasForm (.record .element) element.describe := by
  refine .object ?_ nofun
  exact cons rfl (.present type) (cons rfl (.flag _) (singleton rfl (hasForm_annotations _)))

private theorem hasForm_signature {signature : IndexSignature Json}
    (parts : ∀ part ∈ signature.parts, HasForm (.record .node) part) :
    HasForm (.record .signature) signature.describe := by
  have parameter := parts signature.parameter List.mem_cons_self
  have type := parts signature.type (List.mem_cons_of_mem _ List.mem_cons_self)
  refine .object ?_ nofun
  exact cons rfl (.present parameter) (singleton rfl (.present type))

private theorem fits_optionalMember {name : String} (text : Option String)
    (asked : Record.node.form? name = some (.optional .text)) :
    Record.node.Fits (Shape.optionalMember name text) := by
  cases text with
  | none => exact nil _
  | some text => exact singleton asked (.present (.text text))

theorem Shape.fits_members {shape : Shape Json}
    (parts : ∀ part ∈ shape.parts, HasForm (.record .node) part) :
    Record.node.Fits shape.members := by
  cases shape with
  | struct fields signatures =>
    have types := hasForm_list fun field inside => hasForm_field
      (parts (Field.type field) (List.mem_append_left _ (List.mem_map_of_mem inside)))
    have rules := hasForm_list fun signature inside => hasForm_signature fun part half =>
      parts part (List.mem_append_right _ (List.mem_flatMap_of_mem inside half))
    exact cons rfl types (singleton rfl rules)
  | tuple elements rest =>
    have types := hasForm_list fun element inside => hasForm_element
      (parts (Element.type element) (List.mem_append_left _ (List.mem_map_of_mem inside)))
    have others := hasForm_list fun element inside => hasForm_element
      (parts (Element.type element) (List.mem_append_right _ (List.mem_map_of_mem inside)))
    exact cons rfl types (singleton rfl others)
  | union members => exact singleton rfl (.list parts)
  | declaration name parameters => exact cons rfl (.list parts) (fits_optionalMember name rfl)
  | refinement name base =>
    exact cons rfl (.present (parts base List.mem_cons_self)) (fits_optionalMember name rfl)
  | transformation source target =>
    have first := parts source List.mem_cons_self
    have second := parts target (List.mem_cons_of_mem _ List.mem_cons_self)
    exact cons rfl (.present first) (singleton rfl (.present second))
  | suspend suspension => exact fits_optionalMember suspension.label rfl
  | leaf content =>
    cases content with
    | keyword word => exact nil _
    | literal value => exact singleton rfl (hasForm_literal value)
    | templateLiteral pattern => exact singleton rfl (.present (.text pattern))
    | enums members =>
      have pairs := hasForm_list fun (member : String × Literal) (_ : member ∈ members) =>
        HasForm.pair member.1 (hasForm_literal member.2)
      exact singleton rfl pairs
    | uniqueSymbol description => exact singleton rfl (.present (.text description))

/-! ### Schemas -/

namespace Schema

open Traversal

private theorem describeOuter_congr (schema : Schema) {parts others : List Json}
    (same : parts = others) (fits : parts.length = schema.parts.length) :
    schema.describeOuter parts fits = schema.describeOuter others (same ▸ fits) := by
  subst same
  rfl

def describedShape (schema : Schema) : Shape Json :=
  schema.shape.refill (schema.shape.parts.map describe) (List.length_map _)

theorem parts_describedShape (schema : Schema) :
    schema.describedShape.parts = schema.parts.map describe :=
  Shape.parts_refill _ _ _

theorem kind_describedShape (schema : Schema) : schema.describedShape.kind = schema.kind :=
  Shape.kind_refill _ _ _

theorem describe_eq (schema : Schema) : schema.describe =
    .obj (("_tag", .str schema.kind.name) :: ("annotations", schema.annotations.describe) ::
      schema.describedShape.members) := by
  have parts : (ascendList schema.parts fun part _ => ascendInto describing part).run.1 =
      schema.parts.map describe := by
    rw [ascendList_eq_map]
    refine List.map_congr_left fun part _ => ?_
    rw [describe, ascend_eq_ascendInto]
  rw [describe, ascend_eq_ascendInto, ascendInto]
  exact congrArg Json.obj (describeOuter_congr schema parts _)

/-- The description of a schema has the form of a node. -/
theorem hasForm_describe (schema : Schema) : HasForm (.record .node) schema.describe := by
  induction schema using Schema.induct with
  | step schema ih =>
    rw [describe_eq]
    refine .object ?_ fun _ => List.mem_cons_self
    refine cons rfl (.text _) (cons rfl (hasForm_annotations _) (Shape.fits_members ?_))
    intro part inside
    rw [parts_describedShape] at inside
    obtain ⟨inner, isPart, rfl⟩ := List.mem_map.mp inside
    exact ih inner isPart

end Schema

/-! ### Unknown members -/

private theorem slots_append (members : List (String × Json)) (member : String × Json) :
    (Json.obj (members ++ [member])).slots .node = member :: (Json.obj members).slots .node :=
  List.reverse_append

section

variable {members : List (String × Json)} {name : String} (unknown : name ∉ Record.node.names)
  (value : Json)

include unknown

theorem Description.ofJson_append_unknown :
    Body.ofJson (.obj (members ++ [(name, value)])) = Body.ofJson (.obj members) := by
  rw [Body.ofJson, slots_append, Body.ofSlots_cons unknown]
  rfl

theorem Description.tagOf_append_unknown :
    tagOf (.obj (members ++ [(name, value)])) = tagOf (.obj members) := by
  have known : "_tag" ∈ Record.node.names := by decide
  rw [tagOf, slots_append, lookup?_cons_of_unknown value _ unknown known]
  rfl

theorem HasForm.append_unknown (has : HasForm (.record .node) (.obj members)) :
    HasForm (.record .node) (.obj (members ++ [(name, value)])) := by
  cases has with
  | object each tagged =>
    refine .object (fun member inside form isForm => ?_) fun isNode => ?_
    · rcases List.mem_append.mp inside with known | last
      · exact each member known form isForm
      · obtain rfl := List.mem_singleton.mp last
        rw [Record.form?_eq_none unknown] at isForm
        cases isForm
    · rw [List.map_append]
      exact List.mem_append_left _ (tagged isNode)

end

end SchemaOutline
