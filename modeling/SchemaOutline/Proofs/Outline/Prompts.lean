import Mathlib
import SchemaOutline.Proofs.Outline.Lookup
import SchemaOutline.Proofs.Text.Paragraphs

/-! Prompts whose values contain no line break tell apart what they show. -/

set_option autoImplicit false
set_option relaxedAutoImplicit false

namespace SchemaOutline

open List (Forall₂)
open Text (IsParagraph OneLine)

variable {C D : Type} [NodeContext C] [NodeContext D]

/-! ### Lines of a node -/

namespace Node

def promptLabels : List String :=
  ["Entity", "Field", "Parent", "Path", "Title", "Description", "Type", "Role", "Source", "Comment"]

theorem map_fst_promptValues (node : Node C) : node.promptValues.map Prod.fst = promptLabels := rfl

/-- All that may be shown of two nodes is the same. -/
structure LooksLike (node : Node C) (other : Node D) : Prop where
  entity : NodeContext.entity? node.context = NodeContext.entity? other.context
  entityField : NodeContext.entityField? node.context = NodeContext.entityField? other.context
  parentEntity : NodeContext.parentEntity? node.context = NodeContext.parentEntity? other.context
  path : node.path.text = other.path.text
  title : NodeContext.title? node.context = NodeContext.title? other.context
  description : NodeContext.description? node.context = NodeContext.description? other.context
  semanticType : NodeContext.semanticType? node.context = NodeContext.semanticType? other.context
  role : NodeContext.role? node.context = NodeContext.role? other.context
  source : NodeContext.source? node.context = NodeContext.source? other.context
  comment : NodeContext.comment? node.context = NodeContext.comment? other.context

theorem looksLike_of_promptLines_eq {node : Node C} {other : Node D}
    (same : node.promptLines = other.promptLines) : node.LooksLike other := by
  have distinct : promptLabels.Nodup := by decide
  have plain : ∀ label ∈ promptLabels, ':' ∉ label.toList := by decide
  have values : node.promptValues = other.promptValues :=
    Text.eq_of_labelledLines_eq rfl distinct plain same
  simp only [promptValues, List.cons.injEq, Prod.mk.injEq, true_and, and_true,
    Option.some.injEq] at values
  obtain ⟨entity, field, parent, path, title, description, type, role, source, comment⟩ := values
  exact ⟨entity, field, parent, path, title, description, type, role, source, comment⟩

/-- No value that is shown for a node contains a line break. -/
def OneLined (node : Node C) : Prop :=
  ∀ label value, (label, some value) ∈ node.promptValues → OneLine value

theorem promptLines_ne_nil (node : Node C) : node.promptLines ≠ [] := by
  have path : ("Path", some node.path.text) ∈ node.promptValues := by simp [promptValues]
  have inside : Text.labelled "Path" node.path.text ∈ node.promptLines :=
    Text.mem_labelledLines_iff.mpr ⟨_, _, path, rfl⟩
  exact List.ne_nil_of_mem inside

theorem isParagraph_promptLines {node : Node C} (single : node.OneLined) :
    IsParagraph node.promptLines where
  nonempty := node.promptLines_ne_nil
  filled := by
    intro inside
    obtain ⟨label, value, _, empty⟩ := Text.mem_labelledLines_iff.mp inside
    have chars := congrArg String.toList empty
    simp [Text.labelled] at chars
  single := by
    intro line inside
    obtain ⟨label, value, shown, rfl⟩ := Text.mem_labelledLines_iff.mp inside
    have labels : ∀ label ∈ promptLabels, OneLine label := by decide
    have isLabel : label ∈ promptLabels :=
      node.map_fst_promptValues ▸ List.mem_map.mpr ⟨_, shown, rfl⟩
    exact ((labels label isLabel).append (by decide)).append (single label value shown)

end Node

namespace Outline

/-! ### Paragraphs of a prompt -/

def numberMark (position : Nat) : String := "[" ++ toString (position + 1) ++ "] "

def paragraphsFor (outline : Outline C) (node : Node C) : List (List String) :=
  (contextHeading :: node.promptLines) ::
    if node.isLeaf then []
    else [childrenHeading] :: (outline.childrenOf node).mapIdx fun position child =>
      child.promptLines.modifyHead (numberMark position ++ ·)

private theorem intercalate_eq_join (separator first : String) (others : List String) :
    separator.intercalate (first :: others) =
      first ++ String.join (others.map (separator ++ ·)) := by
  induction others generalizing first with
  | nil => simp
  | cons other others ih =>
    rw [String.intercalate_cons_cons, ih, List.map_cons, String.join_cons]
    simp only [String.append_assoc]

private theorem numberedBlocks_eq_join (children : List (Node C)) :
    numberedBlocks 1 children =
      String.join ((children.mapIdx fun position child =>
        numberMark position ++ child.promptBlock).map ("\n\n" ++ ·)) := by
  have blocks : (children.zipIdx 1).map (fun item =>
      "\n\n[" ++ toString item.2 ++ "] " ++ item.1.promptBlock) =
      (children.mapIdx fun position child => numberMark position ++ child.promptBlock).map
        ("\n\n" ++ ·) := by
    apply List.ext_getElem
    · simp
    · intro position _ _
      simp [numberMark, Nat.add_comm, ← String.append_assoc]
  exact congrArg String.join blocks

theorem promptFor_eq_intercalate (outline : Outline C) (node : Node C) :
    outline.promptFor node =
      "\n\n".intercalate ((contextHeading ++ "\n" ++ node.promptBlock) ::
        if node.isLeaf then []
        else childrenHeading :: (outline.childrenOf node).mapIdx fun position child =>
          numberMark position ++ child.promptBlock) := by
  rw [promptFor]
  split
  · rw [String.intercalate_singleton]
  · rw [intercalate_eq_join, numberedBlocks_eq_join, List.map_cons, String.join_cons]
    simp only [String.append_assoc]

theorem promptFor_eq_paragraphs (outline : Outline C) (node : Node C) :
    outline.promptFor node =
      "\n\n".intercalate ((outline.paragraphsFor node).map ("\n".intercalate ·)) := by
  have own : "\n".intercalate (contextHeading :: node.promptLines) =
      contextHeading ++ "\n" ++ node.promptBlock :=
    String.intercalate_cons_of_ne_nil node.promptLines_ne_nil
  have numbered (position : Nat) (child : Node C) :
      "\n".intercalate (child.promptLines.modifyHead (numberMark position ++ ·)) =
        numberMark position ++ child.promptBlock := by
    rw [Node.promptBlock]
    cases isLines : child.promptLines with
    | nil => exact absurd isLines child.promptLines_ne_nil
    | cons first lines => exact String.intercalate_cons_append
  rw [promptFor_eq_intercalate, paragraphsFor, List.map_cons, own]
  split
  · rfl
  · rw [List.map_cons, String.intercalate_singleton, List.mapIdx_eq_zipIdx_map,
      List.mapIdx_eq_zipIdx_map, List.map_map]
    have blocks := fun (item : Node C × Nat) (_ : item ∈ (outline.childrenOf node).zipIdx) =>
      (numbered item.2 item.1).symm
    rw [List.map_congr_left blocks]
    rfl

/-! ### Shown nodes -/

def shown (outline : Outline C) (path : Option String) : Node C :=
  (path.bind outline.nodeAtPath?).getD outline.root

theorem prompt_eq (outline : Outline C) (path : Option String) :
    outline.prompt path = outline.promptFor (outline.shown path) := rfl

omit [NodeContext C] in
theorem exists_get_of_nodeAtPath? {outline : Outline C} {text : String} {node : Node C}
    (found : outline.nodeAtPath? text = some node) : ∃ id, node = outline.get id := by
  rw [nodeAtPath?] at found
  split at found
  · obtain ⟨id, _, isNode⟩ := Option.bind_eq_some_iff.mp found
    obtain ⟨inside, rfl⟩ := Array.getElem?_eq_some_iff.mp isNode
    exact ⟨⟨id, inside⟩, rfl⟩
  · have listed := List.mem_of_find?_eq_some found
    rw [walk_eq_listing] at listed
    obtain ⟨id, _, rfl⟩ := List.mem_map.mp listed
    exact ⟨id, rfl⟩

omit [NodeContext C] in
theorem exists_get_shown (outline : Outline C) (path : Option String) :
    ∃ id, outline.shown path = outline.get id := by
  rw [shown]
  cases found : path.bind outline.nodeAtPath? with
  | none => exact ⟨⟨0, outline.nonempty⟩, rfl⟩
  | some node =>
    obtain ⟨text, _, isNode⟩ := Option.bind_eq_some_iff.mp found
    exact exists_get_of_nodeAtPath? isNode

omit [NodeContext C] in
theorem forall₂_childrenOf (outline : Outline C) (id : Fin outline.nodes.size) :
    Forall₂ (fun child inner => outline.node? child = some inner)
      (outline.get id).children (outline.childrenOf (outline.get id)) := by
  have closed : ∀ child ∈ (outline.get id).children, child < outline.nodes.size :=
    outline.closed id.1 id.2
  rw [childrenOf]
  generalize (outline.get id).children = children at closed
  induction children with
  | nil => exact .nil
  | cons child children ih =>
    obtain ⟨inside, others⟩ := List.forall_mem_cons.mp closed
    have found : outline.node? child = some (outline.get ⟨child, inside⟩) :=
      Array.getElem?_eq_getElem inside
    rw [List.filterMap_cons_some found]
    exact .cons found (ih others)

/-! ### Reading prompts -/

def OneLined (outline : Outline C) (node : Node C) : Prop :=
  node.OneLined ∧ ∀ child ∈ outline.childrenOf node, child.OneLined

private theorem isParagraph_numbered {position : Nat} {lines : List String}
    (group : IsParagraph lines) :
    IsParagraph (lines.modifyHead (numberMark position ++ ·)) := by
  have single : OneLine (numberMark position) :=
    ((show OneLine "[" by decide).append (Text.oneLine_toString _)).append (by decide)
  cases lines with
  | nil => exact absurd rfl group.nonempty
  | cons first lines =>
    obtain ⟨_, filled, each⟩ := group
    obtain ⟨firstSingle, others⟩ := List.forall_mem_cons.mp each
    refine ⟨List.cons_ne_nil _ _, ?_, ?_⟩
    · intro inside
      rcases List.mem_cons.mp inside with empty | later
      · have first := (String.append_eq_empty_iff.mp empty.symm).2
        exact filled (first ▸ List.mem_cons_self)
      · exact filled (List.mem_cons_of_mem _ later)
    · exact List.forall_mem_cons.mpr ⟨single.append firstSingle, others⟩

private theorem isParagraph_of_mem {outline : Outline C} {node : Node C}
    (single : outline.OneLined node) :
    ∀ group ∈ outline.paragraphsFor node, IsParagraph group := by
  obtain ⟨own, children⟩ := single
  have group := Node.isParagraph_promptLines own
  rw [paragraphsFor, List.forall_mem_cons]
  constructor
  · refine ⟨List.cons_ne_nil _ _, ?_, List.forall_mem_cons.mpr ⟨by decide, group.single⟩⟩
    rw [List.mem_cons, not_or]
    exact ⟨by decide, group.filled⟩
  · intro lines inside
    split at inside
    · cases inside
    · rcases List.mem_cons.mp inside with rfl | numbered
      · exact ⟨List.cons_ne_nil _ _, by decide, by decide⟩
      · obtain ⟨position, within, rfl⟩ := List.mem_mapIdx.mp numbered
        exact isParagraph_numbered
          (Node.isParagraph_promptLines (children _ (List.getElem_mem within)))

/-- The paragraphs of a prompt can be read off its text. -/
theorem paragraphs_promptFor {outline : Outline C} {node : Node C}
    (single : outline.OneLined node) :
    Text.paragraphs (outline.promptFor node) = outline.paragraphsFor node := by
  rw [promptFor_eq_paragraphs]
  exact Text.paragraphs_intercalate (isParagraph_of_mem single) (List.cons_ne_nil _ _)

private theorem modifyHead_injective {α : Type} {change : α → α}
    (injective : Function.Injective change) : Function.Injective (List.modifyHead change) := by
  intro items others same
  cases items with
  | nil =>
    cases others with
    | nil => rfl
    | cons other others => cases same
  | cons item items =>
    cases others with
    | nil => cases same
    | cons other others =>
      obtain ⟨first, rest⟩ := List.cons.inj same
      rw [injective first, rest]

omit [NodeContext C] in
private theorem childrenOf_of_isLeaf {outline : Outline C} {node : Node C} (leaf : node.isLeaf) :
    outline.childrenOf node = [] := by
  rw [childrenOf, List.isEmpty_iff.mp leaf, List.filterMap_nil]

private theorem looksLike_of_blocks_eq {children : List (Node C)} {others : List (Node D)}
    (same : (children.mapIdx fun position child =>
        child.promptLines.modifyHead (numberMark position ++ ·)) =
      others.mapIdx fun position child =>
        child.promptLines.modifyHead (numberMark position ++ ·)) :
    Forall₂ Node.LooksLike children others := by
  have lengths := congrArg List.length same
  rw [List.length_mapIdx, List.length_mapIdx] at lengths
  refine List.forall₂_iff_get.mpr ⟨lengths, fun position within other => ?_⟩
  have blocks := congrArg (fun blocks => blocks[position]?) same
  simp only [List.getElem?_mapIdx, List.getElem?_eq_getElem within,
    List.getElem?_eq_getElem other, Option.map_some, Option.some.injEq] at blocks
  have injective : Function.Injective (numberMark position ++ ·) := fun _ _ =>
    (String.append_right_inj _).mp
  exact Node.looksLike_of_promptLines_eq (modifyHead_injective injective blocks)

theorem looksLike_of_paragraphsFor_eq {outline : Outline C} {other : Outline D} {node : Node C}
    {otherNode : Node D} (same : outline.paragraphsFor node = other.paragraphsFor otherNode) :
    node.LooksLike otherNode ∧
      Forall₂ Node.LooksLike (outline.childrenOf node) (other.childrenOf otherNode) := by
  obtain ⟨own, rest⟩ := List.cons.inj same
  refine ⟨Node.looksLike_of_promptLines_eq (List.cons.inj own).2, ?_⟩
  split at rest
  · split at rest
    · rw [childrenOf_of_isLeaf ‹_›, childrenOf_of_isLeaf ‹_›]
      exact .nil
    · cases rest
  · split at rest
    · cases rest
    · exact looksLike_of_blocks_eq (List.cons.inj rest).2

/-- A prompt shows the node and then every child, with one block for each of them and the numbers
from one on. If no value that is shown contains a line break, equal prompts show equal values: for
the node, and for its children, of which there are equally many, one by one in their order. -/
theorem prompts_tell_apart :
    (∀ (outline : Outline C) (path : Option String),
      Forall₂ (fun child inner => outline.node? child = some inner)
        (outline.shown path).children (outline.childrenOf (outline.shown path)) ∧
      outline.prompt path =
        "\n\n".intercalate ((contextHeading ++ "\n" ++ (outline.shown path).promptBlock) ::
          if (outline.shown path).isLeaf then []
          else childrenHeading ::
            (outline.childrenOf (outline.shown path)).mapIdx fun position child =>
              "[" ++ toString (position + 1) ++ "] " ++ child.promptBlock)) ∧
    ∀ (outline : Outline C) (other : Outline D) (path otherPath : Option String),
      outline.OneLined (outline.shown path) → other.OneLined (other.shown otherPath) →
      outline.prompt path = other.prompt otherPath →
      (outline.shown path).LooksLike (other.shown otherPath) ∧
        Forall₂ Node.LooksLike (outline.childrenOf (outline.shown path))
          (other.childrenOf (other.shown otherPath)) := by
  refine ⟨fun outline path => ⟨?every, outline.promptFor_eq_intercalate _⟩, ?equal⟩
  case every =>
    obtain ⟨id, isShown⟩ := outline.exists_get_shown path
    rw [isShown]
    exact outline.forall₂_childrenOf id
  case equal =>
    intro outline other path otherPath single otherSingle same
    rw [prompt_eq, prompt_eq] at same
    apply looksLike_of_paragraphsFor_eq
    rw [← paragraphs_promptFor single, same, paragraphs_promptFor otherSingle]

namespace Heading

def schema (optional : Bool) : Schema :=
  .mk (Annotations.empty.insert .title (.str childrenHeading))
    (.struct
      [⟨.name "[2] Path: ", .ofShape (.leaf (.keyword .string)), optional, false, .empty⟩] [])

def values : List (List (String × Option String)) :=
  [[("Entity", none), ("Field", none), ("Parent", none), ("Path", some ""),
      ("Title", some childrenHeading), ("Description", none), ("Type", some "struct"),
      ("Role", none), ("Source", none), ("Comment", none)],
    [("Entity", none), ("Field", none), ("Parent", none), ("Path", some "[2] Path: "),
      ("Title", none), ("Description", none), ("Type", some "string"), ("Role", none),
      ("Source", none), ("Comment", none)]]

private theorem map_nodes (optional : Bool) :
    (unfold StandardContext.rule (.ofRoot StandardContext.rule (schema optional))).map
        (fun node => (node.promptValues, node.children)) = values.zip [[1], []] := by
  cbv

private theorem exists_outline (optional : Bool) :
    ∃ outline, build StandardContext.rule (schema optional) = .ok outline ∧
      outline.OneLined (outline.shown none) ∧
      outline.paragraphsFor (outline.shown none) =
        [["=== SCHEMA CONTEXT ===", "Path: ", "Title: === CHILD SCHEMAS ===", "Type: struct"],
          ["=== CHILD SCHEMAS ==="], ["[1] Path: [2] Path: ", "Type: string"]] := by
  obtain ⟨outline, built, nodes, _⟩ := exists_build StandardContext.rule (schema optional)
  obtain ⟨first, rest, isNodes, views, further⟩ := List.map_eq_cons_iff.mp (map_nodes optional)
  obtain ⟨second, others, rfl, view, isLast⟩ := List.map_eq_cons_iff.mp further
  obtain rfl := List.map_eq_nil_iff.mp isLast
  obtain ⟨firstValues, firstChildren⟩ := Prod.mk.inj views
  obtain ⟨secondValues, _⟩ := Prod.mk.inj view
  rw [isNodes] at nodes
  have isFirst : outline.shown none = first := by
    show outline.root = first
    simp [root, nodes]
  have children : outline.childrenOf first = [second] := by
    rw [childrenOf, firstChildren]
    simp [node?, nodes]
  refine ⟨outline, built, ?_, ?_⟩
  · rw [isFirst]
    have single : ∀ item ∈ values.flatten, ∀ value ∈ item.2, Text.OneLine value := by decide
    have shows {node : Node StandardContext} {items : List (String × Option String)}
        (isItems : node.promptValues = items) (among : items ∈ values) : node.OneLined :=
      fun label value inside => single (label, some value)
        (List.mem_flatten.mpr ⟨items, among, isItems ▸ inside⟩) value rfl
    refine ⟨shows firstValues (by simp [values]), ?_⟩
    rw [children, List.forall_mem_singleton]
    exact shows secondValues (by simp [values])
  · rw [isFirst, paragraphsFor, children]
    simp only [Node.promptLines, Node.isLeaf, firstChildren, firstValues, secondValues,
      List.mapIdx_cons, List.mapIdx_nil]
    cbv

/-- Whether a field is optional is not shown, so the prompts are equal, and the nodes look alike. -/
theorem optional_fields_look_alike :
    ∃ outline other, build StandardContext.rule (schema false) = .ok outline ∧
      build StandardContext.rule (schema true) = .ok other ∧
      outline.OneLined (outline.shown none) ∧ other.OneLined (other.shown none) ∧
      outline.prompt none = other.prompt none ∧
      (outline.shown none).LooksLike (other.shown none) ∧
      Forall₂ Node.LooksLike (outline.childrenOf (outline.shown none))
        (other.childrenOf (other.shown none)) := by
  obtain ⟨outline, built, single, paragraphs⟩ := exists_outline false
  obtain ⟨other, otherBuilt, otherSingle, otherParagraphs⟩ := exists_outline true
  have same : outline.prompt none = other.prompt none := by
    rw [prompt_eq, prompt_eq, promptFor_eq_paragraphs, promptFor_eq_paragraphs, paragraphs,
      otherParagraphs]
  exact ⟨outline, other, built, otherBuilt, single, otherSingle, same,
    prompts_tell_apart.2 outline other none none single otherSingle same⟩

end Heading

end Outline

end SchemaOutline
