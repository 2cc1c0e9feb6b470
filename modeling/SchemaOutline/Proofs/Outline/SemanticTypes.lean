import Mathlib
import SchemaOutline.Outline.Query
import SchemaOutline.Proofs.Entity.Spine
import SchemaOutline.Proofs.Outline.Kinship
import SchemaOutline.Proofs.Outline.Locality
import SchemaOutline.Proofs.Outline.Prompts

/-! Semantic types are those of annotations and kind, whatever the contexts are. -/

set_option autoImplicit false
set_option relaxedAutoImplicit false

namespace SchemaOutline

variable {C D : Type}

namespace Node

/-! ### Types of nodes -/

/-- The annotations of a node hold a label as its semantic type, or they hold no text there and the
label is that of the kind. -/
def HasType (node : Node C) (label : String) : Prop :=
  node.annotations.get? .semanticType = some (.str label) ∨
    (∀ text, node.annotations.get? .semanticType ≠ some (.str text)) ∧ node.kind.label = label

def typeLabel (node : Node C) : String := node.annotations.semanticType?.getD node.kind.label

private theorem semanticType?_eq_some_iff {annotations : Annotations} {label : String} :
    annotations.semanticType? = some label ↔
      annotations.get? .semanticType = some (.str label) := by
  rw [Annotations.semanticType?, Annotations.text?, Option.bind_eq_some_iff]
  constructor
  · rintro ⟨value, found, isText⟩
    cases value <;> cases isText
    exact found
  · exact fun found => ⟨_, found, rfl⟩

theorem hasType_iff {node : Node C} {label : String} :
    node.HasType label ↔ node.typeLabel = label := by
  have unsaid : (∀ text, node.annotations.get? .semanticType ≠ some (.str text)) ↔
      node.annotations.semanticType? = none := by
    rw [Option.eq_none_iff_forall_ne_some]
    exact forall_congr' fun text => not_congr semanticType?_eq_some_iff.symm
  rw [HasType, ← semanticType?_eq_some_iff, unsaid, typeLabel]
  cases node.annotations.semanticType? with
  | none => simp
  | some text => simp

theorem semanticType_eq_typeLabel [NodeContext C] {node : Node C}
    (agrees : ∀ label ∈ NodeContext.semanticType? node.context, label = node.typeLabel) :
    node.semanticType = node.typeLabel := by
  cases said : node.annotations.semanticType? with
  | some label => rw [semanticType, typeLabel, said]; rfl
  | none =>
    cases view : NodeContext.semanticType? node.context with
    | none => rw [semanticType, typeLabel, said, view]
    | some label => rw [semanticType, said, view, ← agrees label view]; rfl

/-! ### Lines of types -/

theorem type_mem_promptLines_iff {node : Node StandardContext} {value : String} :
    "Type: " ++ value ∈ node.promptLines ↔ value = node.context.semanticType := by
  have shown : ("Type", some value) ∈ node.promptValues ↔ value = node.context.semanticType := by
    simp [promptValues, NodeContext.semanticType?]
  rw [← shown]
  constructor
  · have plain : ∀ label ∈ promptLabels, ':' ∉ label.toList := by decide
    have isType : ':' ∉ "Type".toList := by decide
    refine Text.mem_of_labelled_mem (fun item inside => plain _ ?_) isType
    exact node.map_fst_promptValues ▸ List.mem_map_of_mem inside
  · exact fun inside => Text.mem_labelledLines_iff.mpr ⟨_, _, inside, rfl⟩

theorem type_mem_lines_iff {node : Node StandardContext} (single : node.OneLined)
    {value : String} :
    "Type: " ++ value ∈ Text.lines node.promptBlock ↔ value = node.context.semanticType := by
  rw [promptBlock, Text.lines_intercalate (isParagraph_promptLines single).single
    node.promptLines_ne_nil, type_mem_promptLines_iff]

end Node

namespace Outline

namespace Unfolds

/-! ### Outlines with different contexts -/

section

variable {rule : ContextRule C} {schema : Schema} {outline : Outline C}
  {otherRule : ContextRule D} {other : Outline D}
  (unfolds : outline.Unfolds rule schema) (otherUnfolds : other.Unfolds otherRule schema)

include unfolds otherUnfolds

theorem typeLabel_get {id : Fin outline.nodes.size} {otherId : Fin other.nodes.size}
    (number : otherId.1 = id) :
    (other.get otherId).typeLabel = (outline.get id).typeLabel := by
  have tops : (other.get ⟨0, other.nonempty⟩).schema = schema := otherUnfolds.schema_get_zero
  obtain ⟨place, moved⟩ := exists_moved otherUnfolds unfolds tops id
  obtain rfl : place = otherId := by
    have numbers := moved.id
    rw [otherUnfolds.id_get, otherUnfolds.id_get, unfolds.id_get, Nat.zero_add] at numbers
    exact Fin.ext (numbers.trans number.symm)
  have annotations : (other.get place).annotations = (outline.get id).annotations := by
    by_cases first : id.1 = 0
    · obtain rfl : id = ⟨0, outline.nonempty⟩ := Fin.ext first
      obtain rfl : place = ⟨0, other.nonempty⟩ := Fin.ext number
      rw [otherUnfolds.annotations_get_zero, unfolds.annotations_get_zero]
    · exact moved.annotations (by rwa [unfolds.id_get])
  rw [Node.typeLabel, annotations, Node.kind, moved.schema]
  rfl

theorem map_typeLabel :
    other.nodes.toList.map (fun node => (node.id, node.typeLabel)) =
      outline.nodes.toList.map fun node => (node.id, node.typeLabel) := by
  apply List.ext_getElem
  · simp [unfolds.size_nodes, otherUnfolds.size_nodes]
  · intro position within inside
    rw [List.length_map, Array.length_toList] at within inside
    have same := typeLabel_get unfolds otherUnfolds
      (show (⟨position, within⟩ : Fin _).1 = (⟨position, inside⟩ : Fin _) from rfl)
    have number := unfolds.id_get ⟨position, inside⟩
    have otherNumber := otherUnfolds.id_get ⟨position, within⟩
    simp only [get, Fin.getElem_fin] at same number otherNumber
    simp [same, number, otherNumber]

end

section

variable [NodeContext C] {rule : ContextRule C} {schema : Schema} {outline : Outline C}
  (unfolds : outline.Unfolds rule schema)

include unfolds

theorem pairwise_ofSemanticType (label : String) :
    ((outline.ofSemanticType label).map Node.id).Pairwise (· < ·) := by
  have all : (outline.walk.map Node.id).Pairwise (· < ·) := by
    rw [unfolds.map_id_walk]
    exact List.pairwise_lt_range
  exact all.sublist (List.filter_sublist.map Node.id)

variable (typed : ∀ node ∈ outline.nodes, node.semanticType = node.typeLabel)

include typed

theorem ofSemanticType_eq (label : String) :
    outline.ofSemanticType label =
      outline.nodes.toList.filter fun node => node.typeLabel == label := by
  rw [ofSemanticType, unfolds.walk_eq]
  exact List.filter_congr fun node inside => by rw [typed node (Array.mem_toList_iff.mp inside)]

theorem map_id_ofSemanticType (label : String) :
    (outline.ofSemanticType label).map Node.id =
      ((outline.nodes.toList.map fun node => (node.id, node.typeLabel)).filter
        (·.2 == label)).map Prod.fst := by
  rw [unfolds.ofSemanticType_eq typed, List.filter_map, List.map_map]
  rfl

theorem mem_ofSemanticType_iff {label : String} {node : Node C} :
    node ∈ outline.ofSemanticType label ↔ node ∈ outline.nodes ∧ node.HasType label := by
  rw [unfolds.ofSemanticType_eq typed, List.mem_filter, Array.mem_toList_iff, beq_iff_eq,
    Node.hasType_iff]

theorem existsUnique_ofSemanticType {node : Node C} (inside : node ∈ outline.nodes) :
    ∃! label, node ∈ outline.ofSemanticType label := by
  refine ⟨node.typeLabel, ?_, fun label found => ?_⟩
  · exact (unfolds.mem_ofSemanticType_iff typed).mpr ⟨inside, Node.hasType_iff.mpr rfl⟩
  · exact (Node.hasType_iff.mp ((unfolds.mem_ofSemanticType_iff typed).mp found).2).symm

end

theorem semanticType_context {schema : Schema} {outline : Outline StandardContext}
    (unfolds : outline.Unfolds StandardContext.rule schema) :
    ∀ node ∈ outline.nodes, node.context.semanticType = node.typeLabel := by
  intro node inside
  obtain ⟨id, within, rfl⟩ := Array.mem_iff_getElem.mp inside
  obtain ⟨parent, context⟩ := unfolds.exists_context ⟨id, within⟩
  exact congrArg StandardContext.semanticType context

end Unfolds

/-- An outline with standard contexts and an outline of the same schema without contexts, each with
an index or without one, have the same nodes of every semantic type, in ascending order: those whose
annotations hold the label as a text, and those whose annotations hold no text there and whose kind
has the label. Every node is of one semantic type. With standard contexts this is the type that the
context has and that is shown in the block of the node. -/
theorem semantic_types_ignore_contexts (schema : Schema) :
    ∃ (built : Outline StandardContext) (bareBuilt : Outline Unit),
      build StandardContext.rule schema = .ok built ∧
      build (fun _ _ _ _ => ()) schema = .ok bareBuilt ∧
      ∀ (outline : Outline StandardContext) (bare : Outline Unit),
        outline.nodes = built.nodes → bare.nodes = bareBuilt.nodes →
        (∀ label,
          (outline.ofSemanticType label).map Node.id = (bare.ofSemanticType label).map Node.id ∧
          ((outline.ofSemanticType label).map Node.id).Pairwise (· < ·) ∧
          (∀ node, node ∈ outline.ofSemanticType label ↔
            node ∈ outline.nodes ∧ node.HasType label) ∧
          ∀ node, node ∈ bare.ofSemanticType label ↔ node ∈ bare.nodes ∧ node.HasType label) ∧
        (∀ node ∈ bare.nodes, ∃! label, node ∈ bare.ofSemanticType label) ∧
        ∀ node ∈ outline.nodes,
          (∃! label, node ∈ outline.ofSemanticType label) ∧
          node ∈ outline.ofSemanticType node.context.semanticType ∧
          (∀ value, "Type: " ++ value ∈ node.promptLines ↔ value = node.context.semanticType) ∧
          (node.OneLined → ∀ value,
            "Type: " ++ value ∈ Text.lines node.promptBlock ↔
              value = node.context.semanticType) := by
  obtain ⟨built, isBuilt, nodes, _⟩ := exists_build StandardContext.rule schema
  obtain ⟨bareBuilt, isBareBuilt, bareNodes, _⟩ := exists_build (fun _ _ _ _ => ()) schema
  refine ⟨built, bareBuilt, isBuilt, isBareBuilt, fun outline bare same bareSame => ?_⟩
  have unfolds : outline.Unfolds StandardContext.rule schema := same.trans nodes
  have bareUnfolds : bare.Unfolds (fun _ _ _ _ => ()) schema := bareSame.trans bareNodes
  have contexts := unfolds.semanticType_context
  have typed : ∀ node ∈ outline.nodes, node.semanticType = node.typeLabel := fun node inside =>
    Node.semanticType_eq_typeLabel fun label view => by
      rw [← contexts node inside]
      exact (Option.some.inj view).symm
  have bareTyped : ∀ node ∈ bare.nodes, node.semanticType = node.typeLabel := fun node _ =>
    Node.semanticType_eq_typeLabel fun _ view => by cases view
  refine ⟨fun label => ⟨?ids, unfolds.pairwise_ofSemanticType label,
    fun node => unfolds.mem_ofSemanticType_iff typed,
    fun node => bareUnfolds.mem_ofSemanticType_iff bareTyped⟩,
    fun node inside => bareUnfolds.existsUnique_ofSemanticType bareTyped inside, ?standard⟩
  case ids =>
    rw [unfolds.map_id_ofSemanticType typed, bareUnfolds.map_id_ofSemanticType bareTyped,
      Unfolds.map_typeLabel bareUnfolds unfolds]
  case standard =>
    intro node inside
    refine ⟨unfolds.existsUnique_ofSemanticType typed inside, ?_,
      fun value => Node.type_mem_promptLines_iff,
      fun single value => Node.type_mem_lines_iff single⟩
    rw [unfolds.mem_ofSemanticType_iff typed, Node.hasType_iff, contexts node inside]
    exact ⟨inside, rfl⟩

end Outline

end SchemaOutline
