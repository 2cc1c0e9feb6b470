import Mathlib
import SchemaOutline.Context.Standard
import SchemaOutline.Outline.Prompt
import SchemaOutline.Outline.Query
import SchemaOutline.Proofs.Outline.Preorder

/-! Look-ups find the first node in pre-order that answers, with an index or without. -/

set_option autoImplicit false
set_option relaxedAutoImplicit false

namespace SchemaOutline

variable {C : Type}

namespace Node

variable [NodeContext C]

def isEntity (entity : String) (node : Node C) : Bool :=
  NodeContext.entity? node.context == some entity

/-- The context of the node names no entity, but its formatted path reads like the given one. -/
def isNamesake (entity : String) (node : Node C) : Bool :=
  (NodeContext.entity? node.context).isNone && node.path.text == entity

theorem key_beq (node : Node C) (entity : String) :
    (node.key == entity) = (node.isEntity entity || node.isNamesake entity) := by
  unfold key keyWith isEntity isNamesake
  cases NodeContext.entity? node.context with
  | none => simp
  | some other => simp

end Node

namespace OutlineIndex

private theorem getElem?_foldl_insertIfNew (entries : List (String × NodeId))
    (map : Std.HashMap String NodeId) (text : String) :
    (entries.foldl (fun map entry => map.insertIfNew entry.1 entry.2) map)[text]? =
      map[text]?.or ((entries.find? fun entry => entry.1 == text).map Prod.snd) := by
  induction entries generalizing map with
  | nil => simp
  | cons entry entries ih =>
    obtain ⟨label, id⟩ := entry
    rw [List.foldl_cons, ih, Std.HashMap.getElem?_insertIfNew, List.find?_cons]
    by_cases same : label = text
    · subst same
      by_cases present : label ∈ map
      · simp [present]
      · simp [present]
    · have differs : (label == text) = false := beq_eq_false_iff_ne.mpr same
      simp [differs]

theorem getElem?_firsts (entries : List (String × NodeId)) (text : String) :
    (firsts entries)[text]? = (entries.find? fun entry => entry.1 == text).map Prod.snd := by
  rw [firsts, getElem?_foldl_insertIfNew]
  simp

private theorem getElem?_firsts_map (label : Node C → String) (nodes : List (Node C))
    (text : String) :
    (firsts (nodes.map fun node => (label node, node.id)))[text]? =
      (nodes.find? fun node => label node == text).map Node.id := by
  rw [getElem?_firsts, List.find?_map, Option.map_map]
  rfl

theorem getElem?_paths_ofNodes [NodeContext C] (nodes : List (Node C)) (text : String) :
    (ofNodes nodes).paths[text]? =
      (nodes.find? fun node => node.path.text == text).map Node.id := by
  simp only [ofNodes, List.map_map]
  exact getElem?_firsts_map (fun node => node.path.text) nodes text

theorem getElem?_keys_ofNodes [NodeContext C] (nodes : List (Node C)) (text : String) :
    (ofNodes nodes).keys[text]? = (nodes.find? fun node => node.key == text).map Node.id := by
  simp only [ofNodes, List.map_map]
  exact getElem?_firsts_map Node.key nodes text

end OutlineIndex

namespace Outline

def listing (outline : Outline C) : List (Node C) :=
  (outline.preorder ⟨0, outline.nonempty⟩).map outline.get

theorem walk_eq_listing (outline : Outline C) : outline.walk = outline.listing :=
  outline.walkFrom_eq ⟨0, outline.nonempty⟩

section

variable {rule : ContextRule C} {schema : Schema} {outline : Outline C}
  (unfolds : outline.Unfolds rule schema)

include unfolds

namespace Unfolds

theorem nodes_eq_listing : outline.nodes.toList = outline.listing := by
  rw [← walk_eq_listing, unfolds.walk_eq]

theorem node?_id {node : Node C} (listed : node ∈ outline.listing) :
    outline.node? node.id = some node := by
  obtain ⟨id, _, rfl⟩ := List.mem_map.mp listed
  rw [unfolds.id_get]
  exact Array.getElem?_eq_getElem id.2

theorem bind_node?_find? (test : Node C → Bool) :
    ((outline.listing.find? test).map Node.id).bind outline.node? = outline.listing.find? test := by
  cases found : outline.listing.find? test with
  | none => rfl
  | some node => exact unfolds.node?_id (List.mem_of_find?_eq_some found)

variable [NodeContext C]

theorem nodeAtPath?_indexed (text : String) :
    outline.indexed.nodeAtPath? text =
      outline.listing.find? fun node => node.path.text == text := by
  change (OutlineIndex.ofNodes outline.nodes.toList).paths[text]?.bind outline.node? = _
  rw [OutlineIndex.getElem?_paths_ofNodes, unfolds.nodes_eq_listing, unfolds.bind_node?_find?]

theorem nodeByKey?_indexed (key : String) :
    outline.indexed.nodeByKey? key = outline.listing.find? fun node => node.key == key := by
  change (OutlineIndex.ofNodes outline.nodes.toList).keys[key]?.bind outline.node? = _
  rw [OutlineIndex.getElem?_keys_ofNodes, unfolds.nodes_eq_listing, unfolds.bind_node?_find?]

end Unfolds

end

section

variable {outline : Outline C} (unindexed : outline.index = none)

include unindexed

theorem nodeAtPath?_of_unindexed (text : String) :
    outline.nodeAtPath? text = outline.listing.find? fun node => node.path.text == text := by
  rw [nodeAtPath?, unindexed]
  exact congrArg (List.find? _) outline.walk_eq_listing

theorem nodeByKey?_of_unindexed [NodeContext C] (key : String) :
    outline.nodeByKey? key = outline.listing.find? fun node => node.key == key := by
  rw [nodeByKey?, unindexed]
  exact congrArg (List.find? _) outline.walk_eq_listing

end

variable [NodeContext C]

/-- The first node of an entity, unless one of the nodes before it is a namesake. -/
def firstEntity (entity : String) (nodes : List (Node C)) : Option (Node C) :=
  if (nodes.takeWhile fun node => !node.isEntity entity).any (Node.isNamesake entity) then none
  else nodes.find? (Node.isEntity entity)

private theorem filter_find?_key (entity : String) (nodes : List (Node C)) :
    (nodes.find? fun node => node.key == entity).filter (Node.isEntity entity) =
      firstEntity entity nodes := by
  unfold firstEntity
  -- The first node with the key decides: it is the entity, or a namesake of it that hides it.
  induction nodes with
  | nil => rfl
  | cons node nodes ih =>
    simp only [Node.key_beq] at ih ⊢
    cases named : node.isEntity entity with
    | true => simp [named]
    | false =>
      cases namesake : node.isNamesake entity with
      | true => simp [named, namesake]
      | false => simp [named, namesake, ih]

theorem entity?_of_unindexed {outline : Outline C} (unindexed : outline.index = none)
    (entity : String) : outline.entity? entity = firstEntity entity outline.listing := by
  rw [entity?, nodeByKey?_of_unindexed unindexed]
  exact filter_find?_key entity outline.listing

theorem Unfolds.entity?_indexed {rule : ContextRule C} {schema : Schema} {outline : Outline C}
    (unfolds : outline.Unfolds rule schema) (entity : String) :
    outline.indexed.entity? entity = firstEntity entity outline.listing := by
  rw [entity?, unfolds.nodeByKey?_indexed]
  exact filter_find?_key entity outline.listing

/-- With an index or without one, a look-up by entity finds the first node of the entity, unless
a node without an entity, whose formatted path reads like the entity, comes before it; then it
finds nothing. -/
theorem entity?_unless_namesake (rule : ContextRule C) (schema : Schema) :
    ∃ outline, build rule schema = .ok outline ∧
      ∀ entity, outline.entity? entity = firstEntity entity outline.listing ∧
        outline.indexed.entity? entity = firstEntity entity outline.listing := by
  obtain ⟨outline, built, _, unindexed⟩ := exists_build rule schema
  exact ⟨outline, built, fun entity => ⟨entity?_of_unindexed unindexed entity,
    (unfolds_of_build built).entity?_indexed entity⟩⟩

namespace Namesake

def schema : Schema :=
  .ofShape (.struct
    [⟨.name "x", .ofShape (.leaf (.keyword .string)), false, false, .empty⟩,
      ⟨.name "y", .mk (Annotations.empty.insert .entityType (.str "x"))
        (.leaf (.keyword .string)), false, false, .empty⟩] [])

def nodes : List (Node StandardContext) :=
  unfold StandardContext.rule (.ofRoot StandardContext.rule schema)

private theorem firstEntity_nodes : firstEntity "x" nodes = none := by cbv

private theorem find?_nodes : (nodes.find? (Node.isEntity "x")).map Node.id = some 2 := by cbv

/-- The entity is the last node of the outline, but no look-up finds it. -/
theorem entity_behind_namesake_missed :
    ∃ outline, build StandardContext.rule schema = .ok outline ∧
      (outline.listing.find? (Node.isEntity "x")).map Node.id = some 2 ∧
      outline.entity? "x" = none ∧ outline.indexed.entity? "x" = none := by
  obtain ⟨outline, built, same, unindexed⟩ := exists_build StandardContext.rule schema
  have unfolds := unfolds_of_build built
  have listing : outline.listing = nodes := by
    rw [← unfolds.nodes_eq_listing, same]
    exact List.toList_toArray
  refine ⟨outline, built, ?_, ?_, ?_⟩
  · rw [listing, find?_nodes]
  · rw [entity?_of_unindexed unindexed, listing, firstEntity_nodes]
  · rw [unfolds.entity?_indexed, listing, firstEntity_nodes]

end Namesake

end Outline

end SchemaOutline
