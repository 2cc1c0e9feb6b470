import SchemaOutline.Proofs.Description.Faults
import SchemaOutline.Proofs.Description.View
import SchemaOutline.Proofs.Members

/-! The nodes that a JSON value uses, and the faults of a value and of what is read from it. -/

set_option autoImplicit false
set_option relaxedAutoImplicit false

namespace SchemaOutline

open List (Forall₂)
open Description

namespace Json

/-- What is wrong with a node, apart from the nodes inside it. -/
def ownFaults (definitions : List (String × Json)) (node : Json) : List DecodeError :=
  (Body.ofJson node).faultsAs definitions (tagOf node)

/-- The nodes in members that the kind of a node uses, from left to right. -/
def used (node : Json) : List Json := (Body.ofJson node).usedAs (tagOf node)

/-- A node has the name of a kind and says all that this kind needs, under a table of
definitions. -/
def Complete (definitions : List (String × Json)) (node : Json) : Prop :=
  ∃ kind : Kind, kind.name = tagOf node ∧ (Body.ofJson node).Complete definitions kind

inductive Reaches : Json → Json → Prop
  | refl (node : Json) : Reaches node node
  | step {node inner target : Json} (uses : inner ∈ node.used) (reaches : Reaches inner target) :
      Reaches node target

private theorem mem_children_of_mem_slots? {names : List String} {value : Json}
    {slots : List (String × Json)} {slot : String × Json} (found : slots? names value = some slots)
    (member : slot ∈ slots) : slot.2 ∈ value.children := by
  cases value with
  | obj members =>
    obtain rfl : members = slots := Option.some.inj found
    exact List.mem_map_of_mem member
  | arr items =>
    obtain rfl : names.zip items = slots := Option.some.inj found
    exact (List.of_mem_zip member).2
  | _ => cases found

private theorem inside_of_lookup? {sort : Record} {value found : Json} {name : String}
    (isFound : lookup? (value.slots sort) name = some found) : Inside found value := by
  have member : (name, found) ∈ value.slots sort := Members.mem_of_lookup isFound
  rw [slots, List.mem_reverse] at member
  cases known : slots? sort.names value with
  | none =>
    rw [known] at member
    cases member
  | some slots =>
    rw [known] at member
    exact .single (mem_children_of_mem_slots? known member)

private theorem inside_of_mem_nodeOf {sort : Record} {value inner : Json} {name : String}
    (inside : inner ∈ (nodeOf (lookup? (value.slots sort) name)).toList) : Inside inner value := by
  have found : lookup? (value.slots sort) name = some inner := by
    rw [Option.mem_toList] at inside
    unfold nodeOf at inside
    split at inside
    · cases inside
    · exact inside
  exact inside_of_lookup? found

private theorem inside_of_mem_itemsOf {sort : Record} {value inner : Json} {name : String}
    (inside : inner ∈ itemsOf (lookup? (value.slots sort) name)) : Inside inner value := by
  unfold itemsOf at inside
  split at inside
  · rename_i items found
    have within : inner ∈ (Json.arr items).children := inside
    exact .head within (inside_of_lookup? found)
  · cases inside

private theorem inside_of_mem_filterMap {sort : Record} {value inner : Json} {name : String}
    {γ : Type} {ofJson : Json → γ} {type : γ → Option Json}
    (further : ∀ item part, part ∈ (type (ofJson item)).toList → Inside part item)
    (inside : inner ∈ ((itemsOf (lookup? (value.slots sort) name)).map ofJson).filterMap type) :
    Inside inner value := by
  obtain ⟨found, isItem, isType⟩ := List.mem_filterMap.mp inside
  obtain ⟨item, within, rfl⟩ := List.mem_map.mp isItem
  have step := further item inner (Option.mem_toList.mpr isType)
  exact step.trans (inside_of_mem_itemsOf within)

theorem inside_of_mem_inner {value inner : Json} (inside : inner ∈ (Body.ofJson value).inner) :
    Inside inner value := by
  have field (item part : Json) (inside : part ∈ (Field.ofJson item).type.toList) :
      Inside part item := inside_of_mem_nodeOf inside
  have element (item part : Json) (inside : part ∈ (Element.ofJson item).type.toList) :
      Inside part item := inside_of_mem_nodeOf inside
  simp only [Body.inner, List.mem_append] at inside
  rcases inside with ((((((inField | inSignature) | inType) | inElement) | inRest) | inSource) |
    inTarget) | inParameter
  · exact inside_of_mem_filterMap field inField
  · obtain ⟨signature, isItem, half⟩ := List.mem_flatMap.mp inSignature
    obtain ⟨item, within, rfl⟩ := List.mem_map.mp isItem
    have step : Inside inner item := by
      rcases List.mem_append.mp half with inParameter | inType
      · exact inside_of_mem_nodeOf inParameter
      · exact inside_of_mem_nodeOf inType
    exact step.trans (inside_of_mem_itemsOf within)
  · exact inside_of_mem_itemsOf inType
  · exact inside_of_mem_filterMap element inElement
  · exact inside_of_mem_filterMap element inRest
  · exact inside_of_mem_nodeOf inSource
  · exact inside_of_mem_nodeOf inTarget
  · exact inside_of_mem_itemsOf inParameter

theorem inside_of_mem_used {node inner : Json} (uses : inner ∈ node.used) : Inside inner node :=
  inside_of_mem_inner ((Body.usedAs_sublist_inner (tagOf node) (Body.ofJson node)).subset uses)

theorem size_lt_of_mem_used {node inner : Json} (uses : inner ∈ node.used) :
    inner.size < node.size :=
  (inside_of_mem_used uses).size_lt

/-- Everything that is wrong with a node and the nodes it uses, in pre-order. -/
def faults (definitions : List (String × Json)) (node : Json) : List DecodeError :=
  node.ownFaults definitions ++ node.used.attach.flatMap fun inner => faults definitions inner.1
termination_by node.size
decreasing_by exact size_lt_of_mem_used inner.2

theorem faults_eq (definitions : List (String × Json)) (node : Json) :
    node.faults definitions =
      node.ownFaults definitions ++ node.used.flatMap (faults definitions) := by
  rw [faults]
  exact congrArg _ (Traversal.flatMap_attach node.used (faults definitions))

theorem faults_eq_nil_iff (definitions : List (String × Json)) (node : Json) :
    node.faults definitions = [] ↔
      ∀ target, Reaches node target → target.Complete definitions := by
  have own (target : Json) : target.ownFaults definitions = [] ↔ target.Complete definitions :=
    Body.faultsAs_eq_nil_iff definitions (tagOf target) (Body.ofJson target)
  constructor
  · intro clean target reaches
    induction reaches with
    | refl node =>
      rw [faults_eq, List.append_eq_nil_iff] at clean
      exact (own node).mp clean.1
    | step uses _ ih =>
      rw [faults_eq, List.append_eq_nil_iff, List.flatMap_eq_nil_iff] at clean
      exact ih (clean.2 _ uses)
  · intro clean
    induction node using faults.induct with
    | case1 node ih =>
      rw [faults_eq, List.append_eq_nil_iff, List.flatMap_eq_nil_iff]
      refine ⟨(own node).mpr (clean node (.refl node)), fun inner uses => ?_⟩
      exact ih ⟨inner, uses⟩ fun target reaches => clean target (.step uses reaches)

end Json

namespace Description

variable {α β : Type} {R : α → β → Prop}

private theorem missing_congr (kind : Kind) (member : String) {value : Option α}
    {other : Option β} (agree : Option.Rel R value other) :
    missing kind member value = missing kind member other := by
  cases agree with
  | none => rfl
  | some related => rfl

private theorem flatMap_congr {γ δ ε : Type} {R : γ → δ → Prop} {faults : γ → List ε}
    {others : δ → List ε} {items : List γ} {otherItems : List δ}
    (same : ∀ item, ∀ other ∈ otherItems, R item other → faults item = others other)
    (agree : Forall₂ R items otherItems) : items.flatMap faults = otherItems.flatMap others := by
  induction agree with
  | nil => rfl
  | cons related _ ih =>
    have later := ih fun item other inside => same item other (List.mem_cons_of_mem _ inside)
    rw [List.flatMap_cons, List.flatMap_cons, same _ _ List.mem_cons_self related, later]

private theorem fieldFaults_congr (field : Field α) (other : Field β)
    (agrees : Field.Agrees R field other) : field.faults = other.faults := by
  rw [Field.faults, Field.faults, agrees.name, agrees.symbol,
    missing_congr .struct "type" agrees.type]

private theorem signatureFaults_congr (signature : Signature α) (other : Signature β)
    (agrees : Signature.Agrees R signature other) : signature.faults = other.faults := by
  rw [Signature.faults, Signature.faults, missing_congr .struct "parameter" agrees.parameter,
    missing_congr .struct "type" agrees.type]

private theorem elementFaults_congr (element : Element α) (other : Element β)
    (agrees : Element.Agrees R element other) : element.faults = other.faults :=
  missing_congr .tuple "type" agrees.type

theorem Body.faults_congr (definitions : List (String × Json)) (kind : Kind) {body : Body α}
    {other : Body β} (agrees : Body.Agrees R body other) :
    body.faults definitions kind = other.faults definitions kind := by
  cases kind with
  | struct =>
    have fields := flatMap_congr (fun item other _ => fieldFaults_congr item other) agrees.fields
    have signatures :=
      flatMap_congr (fun item other _ => signatureFaults_congr item other) agrees.signatures
    rw [faults, faults, fields, signatures]
  | tuple =>
    have elements :=
      flatMap_congr (fun item other _ => elementFaults_congr item other) agrees.elements
    have rest := flatMap_congr (fun item other _ => elementFaults_congr item other) agrees.rest
    rw [faults, faults, elements, rest]
  | refinement => exact missing_congr _ "from" agrees.source
  | transformation =>
    rw [faults, faults, missing_congr _ "from" agrees.source, missing_congr _ "to" agrees.target]
  | suspend => rw [faults, faults, agrees.reference]
  | literal => rw [faults, faults, agrees.literal]
  | templateLiteral => rw [faults, faults, agrees.pattern]
  | uniqueSymbol => rw [faults, faults, agrees.description]
  | union => rfl
  | declaration => rfl
  | enums => rfl
  | keyword word => rfl

private theorem toList_congr {value : Option α} {other : Option β}
    (agree : Option.Rel R value other) : Forall₂ R value.toList other.toList := by
  cases agree with
  | none => exact .nil
  | some related => exact .cons related .nil

private theorem inner_congr (signature : Signature α) (other : Signature β)
    (agrees : Signature.Agrees R signature other) : Forall₂ R signature.inner other.inner :=
  List.rel_append (toList_congr agrees.parameter) (toList_congr agrees.type)

theorem Body.used_congr (kind : Kind) {body : Body α} {other : Body β}
    (agrees : Body.Agrees R body other) : Forall₂ R (body.used kind) (other.used kind) := by
  cases kind with
  | struct =>
    apply List.rel_append
    · exact List.rel_filterMap (fun _ _ related => related.type) agrees.fields
    · exact List.rel_flatMap agrees.signatures fun _ _ related => inner_congr _ _ related
  | tuple =>
    apply List.rel_append
    · exact List.rel_filterMap (fun _ _ related => related.type) agrees.elements
    · exact List.rel_filterMap (fun _ _ related => related.type) agrees.rest
  | union => exact agrees.types
  | refinement => exact toList_congr agrees.source
  | transformation =>
    exact List.rel_append (toList_congr agrees.source) (toList_congr agrees.target)
  | declaration => exact agrees.typeParameters
  | _ => exact .nil

theorem ownFaults_of_read (definitions : List (String × Json)) {value : Json}
    {description : Description} (ok : read value = .ok description) :
    description.ownFaults definitions = value.ownFaults definitions := by
  obtain ⟨tag, agrees⟩ := agrees_of_read ok
  rw [ownFaults, Json.ownFaults, tag]
  unfold Body.faultsAs
  cases Kind.ofName? (tagOf value) with
  | none => rfl
  | some kind => exact (Body.faults_congr definitions kind agrees).symm

theorem used_of_read {value : Json} {description : Description}
    (ok : read value = .ok description) :
    Forall₂ (fun inner found => read inner = .ok found) value.used description.used := by
  obtain ⟨tag, agrees⟩ := agrees_of_read ok
  rw [used, Json.used, tag]
  unfold Body.usedAs
  cases Kind.ofName? (tagOf value) with
  | none => exact .nil
  | some kind => exact Body.used_congr kind agrees

/-- A description read from a value has the faults of the value. -/
theorem faults_of_read (definitions : List (String × Json)) {value : Json}
    {description : Description} (ok : read value = .ok description) :
    description.faults definitions = value.faults definitions := by
  induction description using Description.induct generalizing value with
  | step description ih =>
    rw [faults_eq, Json.faults_eq, ownFaults_of_read definitions ok]
    congr 1
    have same (inner : Json) (found : Description) (uses : found ∈ description.used)
        (isFound : read inner = .ok found) : inner.faults definitions = found.faults definitions :=
      (ih found (mem_inner_of_mem_used uses) isFound).symm
    exact (flatMap_congr same (used_of_read ok)).symm

end Description

end SchemaOutline
