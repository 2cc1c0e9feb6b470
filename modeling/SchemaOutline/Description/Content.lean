import SchemaOutline.Description.Basic
import SchemaOutline.Schema.DecodeError

/-! The shape that a body says for its kind, from the members that the kind uses. -/

set_option autoImplicit false

namespace SchemaOutline.Description

variable {α β : Type}

def required (kind : Kind) (member : String) : Option α → Except DecodeError α
  | some value => .ok value
  | none => .error (.missingMember (.node kind) member)

def annotationsOf (members : Option (List (String × Json))) : Annotations :=
  Annotations.ofMembers (members.getD [])

/-- The key of a field: its name if it has one, its symbol otherwise. -/
def Field.key (field : Field α) : Except DecodeError PropertyKey :=
  match field.name, field.symbol with
  | some name, _ => .ok (.name name)
  | none, some symbol => .ok (.symbol symbol)
  | none, none => .error (.missingMember (.node .struct) "name")

def Field.content (field : Field α) : Except DecodeError (SchemaOutline.Field α) := do
  let key ← field.key
  let type ← required .struct "type" field.type
  return ⟨key, type, field.optional, field.readonly, annotationsOf field.annotations⟩

def Signature.content (signature : Signature α) : Except DecodeError (IndexSignature α) := do
  let parameter ← required .struct "parameter" signature.parameter
  let type ← required .struct "type" signature.type
  return ⟨parameter, type⟩

def Element.content (element : Element α) : Except DecodeError (SchemaOutline.Element α) := do
  let type ← required .tuple "type" element.type
  return ⟨type, element.optional, annotationsOf element.annotations⟩

/-- The shape that a description says for a kind, under a table of definitions. -/
def Body.shape (definitions : List (String × Json)) (kind : Kind) (body : Body α) :
    Except DecodeError (Shape α) :=
  match kind with
  | .struct => do
    let fields ← body.fields.mapM Field.content
    let signatures ← body.signatures.mapM Signature.content
    return .struct fields signatures
  | .union => .ok (.union body.types)
  | .tuple => do
    let elements ← body.elements.mapM Element.content
    let rest ← body.rest.mapM Element.content
    return .tuple elements rest
  | .refinement => do
    let base ← required kind "from" body.source
    return .refinement body.name base
  | .transformation => do
    let source ← required kind "from" body.source
    let target ← required kind "to" body.target
    return .transformation source target
  | .declaration => .ok (.declaration body.name body.typeParameters)
  | .suspend => do
    let name ← required kind "ref" body.reference
    match Json.lookup? definitions name with
    | some _ => return .suspend ⟨some name, .definition definitions name⟩
    | none => throw (.unknownReference name)
  | .keyword word => .ok (.leaf (.keyword word))
  | .literal => do
    let value ← required kind "literal" body.literal
    return .leaf (.literal value)
  | .templateLiteral => do
    let pattern ← required kind "pattern" body.pattern
    return .leaf (.templateLiteral pattern)
  | .enums => .ok (.leaf (.enums body.enums))
  | .uniqueSymbol => do
    let description ← required kind "description" body.description
    return .leaf (.uniqueSymbol description)

theorem bind_eq_ok {ε : Type} {x : Except ε α} {f : α → Except ε β} {b : β} :
    (x >>= f) = .ok b ↔ ∃ a, x = .ok a ∧ f a = .ok b := by
  cases x with
  | error e => simp [bind, Except.bind]
  | ok a => simp [bind, Except.bind]

theorem bind_pure_eq_ok {ε : Type} {x : Except ε α} {f : α → β} {b : β} :
    (x >>= fun a => pure (f a)) = .ok b ↔ ∃ a, x = .ok a ∧ f a = b := by
  rw [bind_eq_ok]
  simp [pure, Except.pure]

theorem required_eq_ok {kind : Kind} {member : String} {value : Option α} {found : α} :
    required kind member value = .ok found ↔ value = some found := by
  cases value <;> simp [required]

private theorem flatMap_mapM_content {γ δ : Type} {content : β → Except DecodeError γ}
    {view : γ → List δ} {source : β → List δ}
    (agree : ∀ b c, content b = .ok c → source b = view c) {items : List β} {contents : List γ}
    (found : items.mapM content = .ok contents) :
    contents.flatMap view = items.flatMap source := by
  induction items generalizing contents with
  | nil =>
    obtain rfl : [] = contents := by simpa [pure, Except.pure] using found
    rfl
  | cons item items ih =>
    rw [List.mapM_cons] at found
    obtain ⟨first, isFirst, found⟩ := bind_eq_ok.mp found
    obtain ⟨others, areOthers, found⟩ := bind_eq_ok.mp found
    obtain rfl : first :: others = contents := by simpa [pure, Except.pure] using found
    simp [ih areOthers, agree item first isFirst]

private theorem type_content_field {field : Field α} {found : SchemaOutline.Field α}
    (ok : field.content = .ok found) : field.type = some found.type := by
  obtain ⟨key, _, ok⟩ := bind_eq_ok.mp ok
  obtain ⟨type, isType, ok⟩ := bind_eq_ok.mp ok
  rw [required_eq_ok] at isType
  obtain rfl := Except.ok.inj ok
  exact isType

private theorem type_content_element {element : Element α} {found : SchemaOutline.Element α}
    (ok : element.content = .ok found) : element.type = some found.type := by
  obtain ⟨type, isType, ok⟩ := bind_eq_ok.mp ok
  rw [required_eq_ok] at isType
  obtain rfl := Except.ok.inj ok
  exact isType

private theorem parts_content_signature {signature : Signature α} {found : IndexSignature α}
    (ok : signature.content = .ok found) : signature.inner = found.parts := by
  obtain ⟨parameter, isParameter, ok⟩ := bind_eq_ok.mp ok
  obtain ⟨type, isType, ok⟩ := bind_eq_ok.mp ok
  rw [required_eq_ok] at isParameter isType
  obtain rfl := Except.ok.inj ok
  simp [Signature.inner, IndexSignature.parts, isParameter, isType]

private theorem filterMap_eq_flatMap {γ : Type} (view : β → Option γ) (items : List β) :
    items.filterMap view = items.flatMap fun item => (view item).toList := by
  induction items with
  | nil => rfl
  | cons item items ih => cases found : view item <;> simp [found, ih]

private theorem map_eq_flatMap_singleton {γ : Type} (view : β → γ) (items : List β) :
    items.map view = items.flatMap fun item => [view item] := by
  induction items with
  | nil => rfl
  | cons item items ih => simp [ih]

theorem map_type_of_fields {fields : List (Field α)} {found : List (SchemaOutline.Field α)}
    (ok : fields.mapM Field.content = .ok found) :
    found.map SchemaOutline.Field.type = fields.filterMap Field.type := by
  rw [filterMap_eq_flatMap, map_eq_flatMap_singleton]
  exact flatMap_mapM_content (fun _ _ h => by simp [type_content_field h]) ok

theorem map_type_of_elements {elements : List (Element α)}
    {found : List (SchemaOutline.Element α)} (ok : elements.mapM Element.content = .ok found) :
    found.map SchemaOutline.Element.type = elements.filterMap Element.type := by
  rw [filterMap_eq_flatMap, map_eq_flatMap_singleton]
  exact flatMap_mapM_content (fun _ _ h => by simp [type_content_element h]) ok

theorem flatMap_parts_of_signatures {signatures : List (Signature α)}
    {found : List (IndexSignature α)} (ok : signatures.mapM Signature.content = .ok found) :
    found.flatMap IndexSignature.parts = signatures.flatMap Signature.inner :=
  flatMap_mapM_content (fun _ _ h => parts_content_signature h) ok

/-- What stands in the places of schemas are inner descriptions, in their order. -/
theorem Body.parts_sublist_inner {definitions : List (String × Json)} {kind : Kind} {body : Body α}
    {shape : Shape α} (ok : body.shape definitions kind = .ok shape) :
    shape.parts.Sublist body.inner := by
  unfold Body.inner
  cases kind with
  | struct =>
    obtain ⟨fields, areFields, ok⟩ := bind_eq_ok.mp ok
    obtain ⟨signatures, areSignatures, rfl⟩ := bind_pure_eq_ok.mp ok
    rw [Shape.parts, map_type_of_fields areFields, flatMap_parts_of_signatures areSignatures]
    simp only [List.append_assoc]
    rw [← List.append_assoc]
    exact List.sublist_append_left _ _
  | union =>
    obtain rfl := Except.ok.inj ok
    simp only [List.append_assoc]
    exact (List.sublist_append_left _ _).trans
      ((List.sublist_append_right _ _).trans (List.sublist_append_right _ _))
  | tuple =>
    obtain ⟨elements, areElements, ok⟩ := bind_eq_ok.mp ok
    obtain ⟨rest, areRest, rfl⟩ := bind_pure_eq_ok.mp ok
    rw [Shape.parts, map_type_of_elements areElements, map_type_of_elements areRest]
    refine List.Sublist.trans ?_ (List.sublist_append_left _ _)
    refine List.Sublist.trans ?_ (List.sublist_append_left _ _)
    refine List.Sublist.trans ?_ (List.sublist_append_left _ _)
    rw [List.append_assoc _ (body.elements.filterMap Element.type)]
    exact List.sublist_append_right _ _
  | refinement =>
    obtain ⟨base, isBase, rfl⟩ := bind_pure_eq_ok.mp ok
    rw [required_eq_ok] at isBase
    rw [isBase]
    refine List.Sublist.trans ?_ (List.sublist_append_left _ _)
    refine List.Sublist.trans ?_ (List.sublist_append_left _ _)
    exact List.sublist_append_right _ _
  | transformation =>
    obtain ⟨source, isSource, ok⟩ := bind_eq_ok.mp ok
    obtain ⟨target, isTarget, rfl⟩ := bind_pure_eq_ok.mp ok
    rw [required_eq_ok] at isSource isTarget
    rw [isSource, isTarget]
    refine List.Sublist.trans ?_ (List.sublist_append_left _ _)
    rw [List.append_assoc]
    exact List.sublist_append_right _ _
  | declaration =>
    obtain rfl := Except.ok.inj ok
    exact List.sublist_append_right _ _
  | suspend =>
    obtain ⟨name, _, ok⟩ := bind_eq_ok.mp ok
    cases known : Json.lookup? definitions name with
    | none => simp [known, throw, throwThe, MonadExceptOf.throw] at ok
    | some target =>
      simp only [known, pure, Except.pure, Except.ok.injEq] at ok
      subst ok
      exact List.nil_sublist _
  | keyword word =>
    obtain rfl := Except.ok.inj ok
    exact List.nil_sublist _
  | literal =>
    obtain ⟨value, _, rfl⟩ := bind_pure_eq_ok.mp ok
    exact List.nil_sublist _
  | templateLiteral =>
    obtain ⟨pattern, _, rfl⟩ := bind_pure_eq_ok.mp ok
    exact List.nil_sublist _
  | enums =>
    obtain rfl := Except.ok.inj ok
    exact List.nil_sublist _
  | uniqueSymbol =>
    obtain ⟨description, _, rfl⟩ := bind_pure_eq_ok.mp ok
    exact List.nil_sublist _

/-- A description splits into its annotations and a shape with descriptions in the places of
schemas. -/
def split (definitions : List (String × Json)) (description : Description) :
    Except DecodeError (Annotations × Shape Description) :=
  match Kind.ofName? description.tag with
  | none => .error (.unexpectedTag description.tag)
  | some kind => do
    let shape ← description.body.shape definitions kind
    return (annotationsOf description.body.annotations, shape)

open Traversal in
theorem totalWeight_parts_lt_of_split {definitions : List (String × Json)}
    {description : Description} {layer : Annotations × Shape Description}
    (ok : description.split definitions = .ok layer) :
    totalWeight weight layer.2.parts < description.weight := by
  unfold split at ok
  cases named : Kind.ofName? description.tag with
  | none => simp [named] at ok
  | some kind =>
    simp only [named] at ok
    obtain ⟨shape, isShape, rfl⟩ := bind_pure_eq_ok.mp ok
    have := @totalWeight_le_of_sublist _ weight _ _ (Body.parts_sublist_inner isShape)
    rw [weight_eq]
    exact Nat.lt_of_le_of_lt this (by rw [Nat.add_comm]; exact Nat.lt_succ_self _)

end SchemaOutline.Description
