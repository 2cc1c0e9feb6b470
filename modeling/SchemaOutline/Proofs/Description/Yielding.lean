import Mathlib.Data.List.Induction
import SchemaOutline.Proofs.Annotations.Collecting
import SchemaOutline.Proofs.Description.View
import SchemaOutline.Proofs.Schema.Traverse
import SchemaOutline.Schema.Basic

/-! What the members of a description say about a schema, one sort of member at a time. -/

set_option autoImplicit false
set_option relaxedAutoImplicit false

namespace SchemaOutline

open List (Forall₂)

namespace Annotations

/-- A dictionary holds the members of an object: the keys in the order in which they occur first,
each with the value that it has last. -/
structure Collects (members : List (String × Json)) (annotations : Annotations) : Prop where
  keys : annotations.keys = (members.map fun member => Key.ofName member.1).eraseDups
  values : ∀ key, annotations.get? key =
    (members.map fun member => (Key.ofName member.1, member.2)).reverse.lookup key

private theorem ofList_append (entries : List (Key × Json)) (entry : Key × Json) :
    ofList (entries ++ [entry]) = (ofList entries).insert entry.1 entry.2 := by
  rw [ofList, insertAll, List.foldl_append]
  rfl

private theorem keys_ofList (entries : List (Key × Json)) :
    (ofList entries).keys = (entries.map Prod.fst).eraseDups := by
  induction entries using List.reverseRecOn with
  | nil => rfl
  | append_singleton entries entry ih =>
    rw [ofList_append, keys_insert, ih, List.map_append, List.map_singleton,
      List.eraseDups_append]
    by_cases known : entry.1 ∈ entries.map Prod.fst
    · have none : [entry.1].removeAll (entries.map Prod.fst) = [] := by
        simpa [List.removeAll] using known
      rw [if_pos (List.mem_eraseDups.mpr known), none, List.eraseDups_nil, List.append_nil]
    · have one : [entry.1].removeAll (entries.map Prod.fst) = [entry.1] := by
        simpa [List.removeAll] using known
      rw [if_neg (mt List.mem_eraseDups.mp known), one]
      rfl

private theorem get?_ofList (entries : List (Key × Json)) (key : Key) :
    (ofList entries).get? key = entries.reverse.lookup key := by
  induction entries using List.reverseRecOn with
  | nil => rfl
  | append_singleton entries entry ih =>
    rw [ofList_append, get?_insert, ih, List.reverse_append, List.reverse_singleton,
      List.singleton_append, List.lookup_cons]
    by_cases same : key = entry.1
    · rw [if_pos same, beq_iff_eq.mpr same]
    · rw [if_neg same, beq_eq_false_iff_ne.mpr same]

theorem collects_iff {members : List (String × Json)} {annotations : Annotations} :
    Collects members annotations ↔ ofMembers members = annotations := by
  have keys := keys_ofList (members.map fun member => (Key.ofName member.1, member.2))
  have values := get?_ofList (members.map fun member => (Key.ofName member.1, member.2))
  rw [List.map_map] at keys
  constructor
  · intro collects
    refine eq_of_get? (keys.trans collects.keys.symm) fun key => ?_
    rw [collects.values]
    exact values key
  · rintro rfl
    exact ⟨keys, values⟩

end Annotations

namespace Description

open Annotations (Collects collects_iff)

variable {α β γ : Type}

/-- A described field says a field of a schema. The name counts before the symbol. -/
structure Field.Yields (R : α → β → Prop) (field : Field α) (made : SchemaOutline.Field β) :
    Prop where
  key : (field.name.map PropertyKey.name).or (field.symbol.map .symbol) = some made.key
  type : ∃ type, field.type = some type ∧ R type made.type
  optional : made.optional = field.optional
  readonly : made.readonly = field.readonly
  annotations : Collects (field.annotations.getD []) made.annotations

structure Signature.Yields (R : α → β → Prop) (signature : Signature α)
    (made : IndexSignature β) : Prop where
  parameter : ∃ parameter, signature.parameter = some parameter ∧ R parameter made.parameter
  type : ∃ type, signature.type = some type ∧ R type made.type

structure Element.Yields (R : α → β → Prop) (element : Element α)
    (made : SchemaOutline.Element β) : Prop where
  type : ∃ type, element.type = some type ∧ R type made.type
  optional : made.optional = element.optional
  annotations : Collects (element.annotations.getD []) made.annotations

/-- The members that count for the kind of a shape say this shape, where inner descriptions say what
stands in the places of schemas. -/
def Body.Yields (definitions : List (String × Json)) (R : α → β → Prop) (body : Body α) :
    Shape β → Prop
  | .struct fields signatures => Forall₂ (Field.Yields R) body.fields fields ∧
      Forall₂ (Signature.Yields R) body.signatures signatures
  | .union members => Forall₂ R body.types members
  | .tuple elements rest => Forall₂ (Element.Yields R) body.elements elements ∧
      Forall₂ (Element.Yields R) body.rest rest
  | .refinement name base => body.name = name ∧ ∃ part, body.source = some part ∧ R part base
  | .transformation source target => (∃ part, body.source = some part ∧ R part source) ∧
      ∃ part, body.target = some part ∧ R part target
  | .declaration name parameters => body.name = name ∧ Forall₂ R body.typeParameters parameters
  | .suspend suspension => ∃ name, body.reference = some name ∧
      (Json.lookup? definitions name).isSome ∧
      suspension = ⟨some name, .definition definitions name⟩
  | .leaf (.keyword _) => True
  | .leaf (.literal value) => body.literal = some value
  | .leaf (.templateLiteral pattern) => body.pattern = some pattern
  | .leaf (.enums members) => body.enums = members
  | .leaf (.uniqueSymbol description) => body.description = some description

/-- A description says a schema by its tag and its own members, where inner descriptions say schemas
as given. -/
structure Yields (definitions : List (String × Json)) (R : Description → Schema → Prop)
    (description : Description) (schema : Schema) : Prop where
  tag : schema.kind.name = description.tag
  annotations : Collects (description.body.annotations.getD []) schema.annotations
  shape : description.body.Yields definitions R schema.shape

/-! ### Lists of members -/

private theorem exists_mapM_iff {ε : Type} {first : α → Except ε β} {second : β → Except ε γ}
    {items : List α} {results : List γ} :
    (∃ between, items.mapM first = .ok between ∧ between.mapM second = .ok results) ↔
      Forall₂ (fun item result => ∃ between, first item = .ok between ∧
        second between = .ok result) items results := by
  simp only [mapM_eq_ok_iff]
  exact exists_forall₂_iff

variable {solve : α → Except DecodeError β}

private theorem key_eq_ok_iff {field : Field α} {key : PropertyKey} : field.key = .ok key ↔
    (field.name.map PropertyKey.name).or (field.symbol.map .symbol) = some key := by
  unfold Field.key
  cases field.name <;> cases field.symbol <;> simp

private theorem yields_field_iff {field : Field α} {made : SchemaOutline.Field β} :
    (∃ content, field.content = .ok content ∧
      (solve content.type >>= fun type => pure (content.withType type)) = .ok made) ↔
      Field.Yields (fun part inner => solve part = .ok inner) field made := by
  constructor
  · rintro ⟨content, isContent, isMade⟩
    obtain ⟨key, isKey, isContent⟩ := bind_eq_ok.mp isContent
    obtain ⟨type, isType, rfl⟩ := bind_pure_eq_ok.mp isContent
    obtain ⟨inner, solved, rfl⟩ := bind_pure_eq_ok.mp isMade
    exact ⟨key_eq_ok_iff.mp isKey, ⟨type, required_eq_ok.mp isType, solved⟩, rfl, rfl,
      collects_iff.mpr rfl⟩
  · obtain ⟨key, inner, optional, readonly, annotations⟩ := made
    rintro ⟨isKey, ⟨type, isType, solved⟩, rfl, rfl, collects⟩
    obtain rfl := collects_iff.mp collects
    exact ⟨_, bind_eq_ok.mpr ⟨key, key_eq_ok_iff.mpr isKey,
      bind_pure_eq_ok.mpr ⟨type, required_eq_ok.mpr isType, rfl⟩⟩,
      bind_pure_eq_ok.mpr ⟨inner, solved, rfl⟩⟩

private theorem yields_signature_iff {signature : Signature α} {made : IndexSignature β} :
    (∃ content, signature.content = .ok content ∧
      (solve content.parameter >>= fun parameter => solve content.type >>= fun type =>
        pure (⟨parameter, type⟩ : IndexSignature β)) = .ok made) ↔
      Signature.Yields (fun part inner => solve part = .ok inner) signature made := by
  constructor
  · rintro ⟨content, isContent, isMade⟩
    obtain ⟨parameter, isParameter, isContent⟩ := bind_eq_ok.mp isContent
    obtain ⟨type, isType, rfl⟩ := bind_pure_eq_ok.mp isContent
    obtain ⟨first, solvedFirst, isMade⟩ := bind_eq_ok.mp isMade
    obtain ⟨second, solvedSecond, rfl⟩ := bind_pure_eq_ok.mp isMade
    exact ⟨⟨parameter, required_eq_ok.mp isParameter, solvedFirst⟩,
      ⟨type, required_eq_ok.mp isType, solvedSecond⟩⟩
  · obtain ⟨first, second⟩ := made
    rintro ⟨⟨parameter, isParameter, solvedFirst⟩, ⟨type, isType, solvedSecond⟩⟩
    exact ⟨_, bind_eq_ok.mpr ⟨parameter, required_eq_ok.mpr isParameter,
      bind_pure_eq_ok.mpr ⟨type, required_eq_ok.mpr isType, rfl⟩⟩,
      bind_eq_ok.mpr ⟨first, solvedFirst, bind_pure_eq_ok.mpr ⟨second, solvedSecond, rfl⟩⟩⟩

private theorem yields_element_iff {element : Element α} {made : SchemaOutline.Element β} :
    (∃ content, element.content = .ok content ∧
      (solve content.type >>= fun type => pure (content.withType type)) = .ok made) ↔
      Element.Yields (fun part inner => solve part = .ok inner) element made := by
  constructor
  · rintro ⟨content, isContent, isMade⟩
    obtain ⟨type, isType, rfl⟩ := bind_pure_eq_ok.mp isContent
    obtain ⟨inner, solved, rfl⟩ := bind_pure_eq_ok.mp isMade
    exact ⟨⟨type, required_eq_ok.mp isType, solved⟩, rfl, collects_iff.mpr rfl⟩
  · obtain ⟨inner, optional, annotations⟩ := made
    rintro ⟨⟨type, isType, solved⟩, rfl, collects⟩
    obtain rfl := collects_iff.mp collects
    exact ⟨_, bind_pure_eq_ok.mpr ⟨type, required_eq_ok.mpr isType, rfl⟩,
      bind_pure_eq_ok.mpr ⟨inner, solved, rfl⟩⟩

/-! ### Bodies -/

private theorem traverse_struct_eq_ok_iff {fields : List (SchemaOutline.Field α)}
    {signatures : List (IndexSignature α)} {made : Shape β} :
    (Shape.struct fields signatures).traverse (fun part _ => solve part) = .ok made ↔
      ∃ typed, (fields.mapM fun field => solve field.type >>= fun type =>
        pure (field.withType type)) = .ok typed ∧
      ∃ ruled, (signatures.mapM fun signature => solve signature.parameter >>= fun parameter =>
        solve signature.type >>= fun type => pure ⟨parameter, type⟩) = .ok ruled ∧
      Shape.struct typed ruled = made := by
  rw [Shape.traverse, Shape.mapM_attach fields fun field => solve field.type >>= fun type =>
      pure (field.withType type),
    Shape.mapM_attach signatures fun signature => solve signature.parameter >>= fun parameter =>
      solve signature.type >>= fun type => pure (⟨parameter, type⟩ : IndexSignature β), bind_eq_ok]
  exact exists_congr fun _ => and_congr_right fun _ => bind_pure_eq_ok

private theorem traverse_tuple_eq_ok_iff {elements rest : List (SchemaOutline.Element α)}
    {made : Shape β} : (Shape.tuple elements rest).traverse (fun part _ => solve part) = .ok made ↔
      ∃ first, (elements.mapM fun element => solve element.type >>= fun type =>
        pure (element.withType type)) = .ok first ∧
      ∃ others, (rest.mapM fun element => solve element.type >>= fun type =>
        pure (element.withType type)) = .ok others ∧
      Shape.tuple first others = made := by
  have put (elements : List (SchemaOutline.Element α)) :=
    Shape.mapM_attach elements fun element => solve element.type >>= fun type =>
      pure (element.withType type)
  rw [Shape.traverse, put elements, put rest, bind_eq_ok]
  exact exists_congr fun _ => and_congr_right fun _ => bind_pure_eq_ok

private theorem yields_of_shape {definitions : List (String × Json)} {kind : Kind} {body : Body α}
    {shape : Shape α} {made : Shape β} (isShape : body.shape definitions kind = .ok shape)
    (isMade : shape.traverse (fun part _ => solve part) = .ok made) :
    made.kind = kind ∧ body.Yields definitions (fun part inner => solve part = .ok inner) made := by
  -- A member is checked first and its part worked out later; item by item both come together.
  cases kind with
  | struct =>
    obtain ⟨fields, areFields, isShape⟩ := bind_eq_ok.mp isShape
    obtain ⟨signatures, areSignatures, rfl⟩ := bind_pure_eq_ok.mp isShape
    obtain ⟨typed, areTyped, ruled, areRuled, rfl⟩ := traverse_struct_eq_ok_iff.mp isMade
    have yieldFields := exists_mapM_iff.mp ⟨fields, areFields, areTyped⟩
    have yieldSignatures := exists_mapM_iff.mp ⟨signatures, areSignatures, areRuled⟩
    exact ⟨rfl, yieldFields.imp fun _ _ => yields_field_iff.mp,
      yieldSignatures.imp fun _ _ => yields_signature_iff.mp⟩
  | tuple =>
    obtain ⟨elements, areElements, isShape⟩ := bind_eq_ok.mp isShape
    obtain ⟨rest, areRest, rfl⟩ := bind_pure_eq_ok.mp isShape
    obtain ⟨first, areFirst, others, areOthers, rfl⟩ := traverse_tuple_eq_ok_iff.mp isMade
    have yieldElements := exists_mapM_iff.mp ⟨elements, areElements, areFirst⟩
    have yieldRest := exists_mapM_iff.mp ⟨rest, areRest, areOthers⟩
    exact ⟨rfl, yieldElements.imp fun _ _ => yields_element_iff.mp,
      yieldRest.imp fun _ _ => yields_element_iff.mp⟩
  | union =>
    obtain rfl := Except.ok.inj isShape
    rw [Shape.traverse, Shape.mapM_attach body.types solve] at isMade
    obtain ⟨members, areMembers, rfl⟩ := bind_pure_eq_ok.mp isMade
    exact ⟨rfl, mapM_eq_ok_iff.mp areMembers⟩
  | declaration =>
    obtain rfl := Except.ok.inj isShape
    rw [Shape.traverse, Shape.mapM_attach body.typeParameters solve] at isMade
    obtain ⟨parameters, areParameters, rfl⟩ := bind_pure_eq_ok.mp isMade
    exact ⟨rfl, rfl, mapM_eq_ok_iff.mp areParameters⟩
  | refinement =>
    obtain ⟨part, isPart, rfl⟩ := bind_pure_eq_ok.mp isShape
    obtain ⟨base, isBase, rfl⟩ := bind_pure_eq_ok.mp isMade
    exact ⟨rfl, rfl, part, required_eq_ok.mp isPart, isBase⟩
  | transformation =>
    obtain ⟨first, isFirst, isShape⟩ := bind_eq_ok.mp isShape
    obtain ⟨second, isSecond, rfl⟩ := bind_pure_eq_ok.mp isShape
    obtain ⟨source, isSource, isMade⟩ := bind_eq_ok.mp isMade
    obtain ⟨target, isTarget, rfl⟩ := bind_pure_eq_ok.mp isMade
    exact ⟨rfl, ⟨first, required_eq_ok.mp isFirst, isSource⟩,
      ⟨second, required_eq_ok.mp isSecond, isTarget⟩⟩
  | suspend =>
    obtain ⟨name, isName, isShape⟩ := bind_eq_ok.mp isShape
    cases known : Json.lookup? definitions name with
    | none =>
      rw [known] at isShape
      cases isShape
    | some definition =>
      rw [known] at isShape
      obtain rfl := Except.ok.inj isShape
      obtain rfl := Except.ok.inj isMade
      exact ⟨rfl, name, required_eq_ok.mp isName, by rw [known]; rfl, rfl⟩
  | keyword word =>
    obtain rfl := Except.ok.inj isShape
    obtain rfl := Except.ok.inj isMade
    exact ⟨rfl, trivial⟩
  | literal =>
    obtain ⟨value, isValue, rfl⟩ := bind_pure_eq_ok.mp isShape
    obtain rfl := Except.ok.inj isMade
    exact ⟨rfl, required_eq_ok.mp isValue⟩
  | templateLiteral =>
    obtain ⟨pattern, isPattern, rfl⟩ := bind_pure_eq_ok.mp isShape
    obtain rfl := Except.ok.inj isMade
    exact ⟨rfl, required_eq_ok.mp isPattern⟩
  | enums =>
    obtain rfl := Except.ok.inj isShape
    obtain rfl := Except.ok.inj isMade
    exact ⟨rfl, rfl⟩
  | uniqueSymbol =>
    obtain ⟨description, isDescription, rfl⟩ := bind_pure_eq_ok.mp isShape
    obtain rfl := Except.ok.inj isMade
    exact ⟨rfl, required_eq_ok.mp isDescription⟩

private theorem exists_shape_of_yields {definitions : List (String × Json)} {body : Body α}
    {made : Shape β}
    (yields : body.Yields definitions (fun part inner => solve part = .ok inner) made) :
    ∃ shape, body.shape definitions made.kind = .ok shape ∧
      shape.traverse (fun part _ => solve part) = .ok made := by
  cases made with
  | struct typed ruled =>
    obtain ⟨yieldFields, yieldSignatures⟩ := yields
    obtain ⟨fields, areFields, areTyped⟩ :=
      exists_mapM_iff.mpr (yieldFields.imp fun _ _ => yields_field_iff.mpr)
    obtain ⟨signatures, areSignatures, areRuled⟩ :=
      exists_mapM_iff.mpr (yieldSignatures.imp fun _ _ => yields_signature_iff.mpr)
    exact ⟨.struct fields signatures, bind_eq_ok.mpr ⟨fields, areFields,
      bind_pure_eq_ok.mpr ⟨signatures, areSignatures, rfl⟩⟩,
      traverse_struct_eq_ok_iff.mpr ⟨typed, areTyped, ruled, areRuled, rfl⟩⟩
  | tuple first others =>
    obtain ⟨yieldElements, yieldRest⟩ := yields
    obtain ⟨elements, areElements, areFirst⟩ :=
      exists_mapM_iff.mpr (yieldElements.imp fun _ _ => yields_element_iff.mpr)
    obtain ⟨rest, areRest, areOthers⟩ :=
      exists_mapM_iff.mpr (yieldRest.imp fun _ _ => yields_element_iff.mpr)
    exact ⟨.tuple elements rest, bind_eq_ok.mpr ⟨elements, areElements,
      bind_pure_eq_ok.mpr ⟨rest, areRest, rfl⟩⟩,
      traverse_tuple_eq_ok_iff.mpr ⟨first, areFirst, others, areOthers, rfl⟩⟩
  | union members =>
    refine ⟨.union body.types, rfl, ?_⟩
    rw [Shape.traverse, Shape.mapM_attach body.types solve]
    exact bind_pure_eq_ok.mpr ⟨members, mapM_eq_ok_iff.mpr yields, rfl⟩
  | declaration name parameters =>
    obtain ⟨rfl, yieldParameters⟩ := yields
    refine ⟨.declaration body.name body.typeParameters, rfl, ?_⟩
    rw [Shape.traverse, Shape.mapM_attach body.typeParameters solve]
    exact bind_pure_eq_ok.mpr ⟨parameters, mapM_eq_ok_iff.mpr yieldParameters, rfl⟩
  | refinement name base =>
    obtain ⟨rfl, part, isPart, isBase⟩ := yields
    exact ⟨.refinement body.name part,
      bind_pure_eq_ok.mpr ⟨part, required_eq_ok.mpr isPart, rfl⟩,
      bind_pure_eq_ok.mpr ⟨base, isBase, rfl⟩⟩
  | transformation source target =>
    obtain ⟨⟨first, isFirst, isSource⟩, ⟨second, isSecond, isTarget⟩⟩ := yields
    exact ⟨.transformation first second, bind_eq_ok.mpr ⟨first, required_eq_ok.mpr isFirst,
      bind_pure_eq_ok.mpr ⟨second, required_eq_ok.mpr isSecond, rfl⟩⟩,
      bind_eq_ok.mpr ⟨source, isSource, bind_pure_eq_ok.mpr ⟨target, isTarget, rfl⟩⟩⟩
  | suspend suspension =>
    obtain ⟨name, isName, known, rfl⟩ := yields
    obtain ⟨definition, found⟩ := Option.isSome_iff_exists.mp known
    refine ⟨.suspend ⟨some name, .definition definitions name⟩,
      bind_eq_ok.mpr ⟨name, required_eq_ok.mpr isName, ?_⟩, rfl⟩
    rw [found]
    rfl
  | leaf content =>
    refine ⟨.leaf content, ?_, rfl⟩
    cases content with
    | keyword word => rfl
    | literal value => exact bind_pure_eq_ok.mpr ⟨value, required_eq_ok.mpr yields, rfl⟩
    | templateLiteral pattern =>
      exact bind_pure_eq_ok.mpr ⟨pattern, required_eq_ok.mpr yields, rfl⟩
    | enums members =>
      obtain rfl : body.enums = members := yields
      rfl
    | uniqueSymbol description =>
      exact bind_pure_eq_ok.mpr ⟨description, required_eq_ok.mpr yields, rfl⟩

/-! ### Descriptions -/

theorem split_eq_ok_iff {definitions : List (String × Json)} {description : Description}
    {layer : Annotations × Shape Description} :
    description.split definitions = .ok layer ↔ ∃ kind : Kind, kind.name = description.tag ∧
      description.body.shape definitions kind = .ok layer.2 ∧
      annotationsOf description.body.annotations = layer.1 := by
  unfold split
  cases named : Kind.ofName? description.tag with
  | none =>
    constructor
    · nofun
    · rintro ⟨kind, isKind, _⟩
      rw [← isKind, Kind.ofName?_name] at named
      cases named
  | some kind =>
    rw [Kind.ofName?_eq_some_iff] at named
    constructor
    · intro found
      obtain ⟨shape, isShape, rfl⟩ := bind_pure_eq_ok.mp found
      exact ⟨kind, named, isShape, rfl⟩
    · rintro ⟨other, isOther, isShape, same⟩
      obtain rfl := Kind.name_injective (isOther.trans named.symm)
      exact bind_pure_eq_ok.mpr ⟨layer.2, isShape, Prod.ext same rfl⟩

/-- Taking a description apart and working out its parts in their places gives what its members
say. -/
theorem exists_split_iff_yields {definitions : List (String × Json)}
    {solve : Description → Except DecodeError Schema} {description : Description}
    {schema : Schema} :
    (∃ layer, description.split definitions = .ok layer ∧
      ∃ shape, layer.2.traverse (fun part _ => solve part) = .ok shape ∧
        .mk layer.1 shape = schema) ↔
      description.Yields definitions (fun part inner => solve part = .ok inner) schema := by
  constructor
  · rintro ⟨layer, found, shape, isShape, rfl⟩
    obtain ⟨kind, named, isLayer, annotations⟩ := split_eq_ok_iff.mp found
    obtain ⟨sameKind, yields⟩ := yields_of_shape isLayer isShape
    exact ⟨(congrArg Kind.name sameKind).trans named, collects_iff.mpr annotations, yields⟩
  · obtain ⟨annotations, shape⟩ := schema
    rintro ⟨named, collects, yields⟩
    obtain ⟨layer, isLayer, isShape⟩ := exists_shape_of_yields yields
    exact ⟨(annotations, layer), split_eq_ok_iff.mpr
      ⟨shape.kind, named, isLayer, collects_iff.mp collects⟩, shape, isShape, rfl⟩

end Description

end SchemaOutline
