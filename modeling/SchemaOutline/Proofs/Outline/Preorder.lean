import Mathlib.Data.List.FinRange
import Mathlib.Data.List.Forall2
import Mathlib.Data.List.Perm.Basic
import Mathlib.Logic.Relation
import SchemaOutline.Outline.Lookup
import SchemaOutline.Proofs.Outline.Unfolding

/-! Pre-order and post-order by plain recursion, and pre-order as the order of the numbers. -/

set_option autoImplicit false
set_option relaxedAutoImplicit false

namespace SchemaOutline.Outline

open List (Forall₂)
open Traversal

variable {C D : Type}

theorem map_eq_of_forall₂ {α β γ : Type} {view : α → γ} {other : β → γ} {items : List α}
    {others : List β} (same : Forall₂ (fun item part => view item = other part) items others) :
    items.map view = others.map other := by
  rwa [← List.forall₂_eq_eq_eq, List.forall₂_map_left_iff, List.forall₂_map_right_iff]

theorem exists_of_mem_forall₂ {α β : Type} {R : α → β → Prop} {items : List α}
    {others : List β} (each : Forall₂ R items others) {item : α} (inside : item ∈ items) :
    ∃ other ∈ others, R item other := by
  induction each with
  | nil => cases inside
  | cons related _ ih =>
    rcases List.mem_cons.mp inside with rfl | later
    · exact ⟨_, List.mem_cons_self, related⟩
    · obtain ⟨other, among, found⟩ := ih later
      exact ⟨other, List.mem_cons_of_mem _ among, found⟩

theorem lt_of_mem_childIds {outline : Outline C} {id child : Fin outline.nodes.size}
    (inside : child ∈ outline.childIds id) : id < child := by
  obtain ⟨number, _, rfl⟩ := List.mem_map.mp inside
  exact List.rel_of_pairwise_cons (outline.ascending id.1 id.2) number.2

theorem map_val_childIds (outline : Outline C) (id : Fin outline.nodes.size) :
    (outline.childIds id).map Fin.val = (outline.get id).children := by
  rw [childIds, List.map_map]
  exact List.attach_map_subtype_val _

theorem exists_childIds_at {outline : Outline C} {others : Outline D}
    {id : Fin outline.nodes.size} {other : Fin others.nodes.size} {move : NodeId → NodeId}
    (children : (others.get other).children = (outline.get id).children.map move)
    {position : Nat} (within : position < (outline.childIds id).length) :
    ∃ inside : position < (others.childIds other).length,
      (others.childIds other)[position].1 = move (outline.childIds id)[position].1 := by
  have numbers : (others.childIds other).map Fin.val =
      ((outline.childIds id).map Fin.val).map move := by
    rw [map_val_childIds, map_val_childIds, children]
  have lengths : (others.childIds other).length = (outline.childIds id).length := by
    simpa using congrArg List.length numbers
  have inside : position < (others.childIds other).length := lengths ▸ within
  exact ⟨inside, by simpa [within, inside] using congrArg (fun ids => ids[position]?) numbers⟩

theorem induct_childIds {outline : Outline C} {motive : Fin outline.nodes.size → Prop}
    (step : ∀ id, (∀ child ∈ outline.childIds id, motive child) → motive id)
    (id : Fin outline.nodes.size) : motive id :=
  step id fun child _ => induct_childIds step child
termination_by outline.nodes.size - id
decreasing_by
  have := lt_of_mem_childIds ‹_›
  omega

def preorder (outline : Outline C) (id : Fin outline.nodes.size) : List (Fin outline.nodes.size) :=
  id :: (outline.childIds id).attach.flatMap fun child => preorder outline child.1
termination_by outline.nodes.size - id
decreasing_by
  have := lt_of_mem_childIds child.2
  omega

def postorder (outline : Outline C) (id : Fin outline.nodes.size) :
    List (Fin outline.nodes.size) :=
  ((outline.childIds id).attach.flatMap fun child => postorder outline child.1) ++ [id]
termination_by outline.nodes.size - id
decreasing_by
  have := lt_of_mem_childIds child.2
  omega

theorem preorder_eq (outline : Outline C) (id : Fin outline.nodes.size) :
    outline.preorder id = id :: (outline.childIds id).flatMap outline.preorder := by
  rw [preorder, flatMap_attach]

theorem postorder_eq (outline : Outline C) (id : Fin outline.nodes.size) :
    outline.postorder id = (outline.childIds id).flatMap outline.postorder ++ [id] := by
  rw [postorder, flatMap_attach]

theorem perm_postorder_preorder (outline : Outline C) (id : Fin outline.nodes.size) :
    (outline.postorder id).Perm (outline.preorder id) := by
  induction id using induct_childIds with
  | step id ih =>
    rw [postorder_eq, preorder_eq]
    exact (List.perm_append_singleton id _).trans ((List.Perm.flatMap_left _ ih).cons id)

def Below (outline : Outline C) : Fin outline.nodes.size → Fin outline.nodes.size → Prop :=
  Relation.ReflTransGen fun id child => child ∈ outline.childIds id

theorem mem_preorder_iff {outline : Outline C} {id other : Fin outline.nodes.size} :
    other ∈ outline.preorder id ↔ outline.Below id other := by
  induction id using induct_childIds with
  | step id ih =>
    rw [preorder_eq, List.mem_cons, List.mem_flatMap, Below, Relation.ReflTransGen.cases_head_iff]
    refine or_congr eq_comm (exists_congr fun child => and_congr_right fun inside => ?_)
    exact ih child inside

/-! ### Walks -/

theorem walkOn_of_found {outline : Outline C} {id : NodeId} {node : Node C}
    (found : outline.node? id = some node) (visited : Array (Node C)) (pending : List NodeId) :
    outline.walkOn visited (id :: pending) =
      outline.walkOn (visited.push node) (node.children ++ pending) := by
  have next : outline.next? (id :: pending) = some (node, node.children ++ pending) := by
    rw [next?, found]
  rw [walkOn]
  split
  · next none => cases none.symm.trans next
  · next other same =>
    obtain rfl := Option.some.inj (same.symm.trans next)
    rfl

theorem walkOn_cons (outline : Outline C) (id : Fin outline.nodes.size)
    (visited : Array (Node C)) (pending : List NodeId) :
    outline.walkOn visited (id.1 :: pending) =
      outline.walkOn (visited ++ ((outline.preorder id).map outline.get).toArray) pending := by
  induction id using induct_childIds generalizing visited pending with
  | step id ih =>
    have children (ids : List (Fin outline.nodes.size)) (among : ids ⊆ outline.childIds id)
        (before : Array (Node C)) :
        outline.walkOn before (ids.map Fin.val ++ pending) =
          outline.walkOn (before ++ ((ids.flatMap outline.preorder).map outline.get).toArray)
            pending := by
      induction ids generalizing before with
      | nil => simp
      | cons child ids next =>
        obtain ⟨inside, others⟩ := List.cons_subset.mp among
        rw [List.map_cons, List.cons_append, ih child inside, next others]
        simp
    have found : outline.node? id = some (outline.get id) := Array.getElem?_eq_getElem id.2
    rw [walkOn_of_found found, ← outline.map_val_childIds, children _ (List.Subset.refl _),
      preorder_eq]
    simp

theorem walkFrom_eq (outline : Outline C) (id : Fin outline.nodes.size) :
    outline.walkFrom id = (outline.preorder id).map outline.get := by
  have ended (visited : Array (Node C)) : outline.walkOn visited [] = visited := by
    rw [walkOn]
    rfl
  rw [walkFrom, walkOn_cons, ended]
  simp

/-! ### Outlines that unfold a schema -/

/-- The nodes of an outline are those that a schema unfolds to. -/
def Unfolds (rule : ContextRule C) (schema : Schema) (outline : Outline C) : Prop :=
  outline.nodes = (unfold rule (.ofRoot rule schema)).toArray

theorem unfolds_of_build {rule : ContextRule C} {schema : Schema} {outline : Outline C}
    (built : build rule schema = .ok outline) : outline.Unfolds rule schema := by
  obtain ⟨other, isOther, unfolds, _⟩ := exists_build rule schema
  obtain rfl := Except.ok.inj (isOther.symm.trans built)
  exact unfolds

namespace Unfolds

variable {rule : ContextRule C} {schema : Schema} {outline : Outline C}
  (unfolds : outline.Unfolds rule schema)

include unfolds

private theorem getElem?_get (id : Fin outline.nodes.size) :
    (unfold rule (.ofRoot rule schema))[id.1]? = some (outline.get id) := by
  have here : outline.nodes[id.1]? = some (outline.get id) := Array.getElem?_eq_getElem id.2
  have nodes := congrArg (fun nodes => nodes[id.1]?) unfolds
  rw [← List.getElem?_toArray, ← here]
  exact nodes.symm

theorem id_get (id : Fin outline.nodes.size) : (outline.get id).id = id :=
  getElem?_unfold (unfolds.getElem?_get id)

theorem children_get (id : Fin outline.nodes.size) :
    (outline.get id).children = Link.starts (id + 1) (outline.get id).schema.links := by
  have member := List.mem_of_getElem? (unfolds.getElem?_get id)
  rw [((starts_both rule).1 _ _ member).1, unfolds.id_get]

theorem bare_get_zero : (outline.get ⟨0, outline.nonempty⟩).bare = .ofRoot rule schema := by
  have first := unfolds.getElem?_get ⟨0, outline.nonempty⟩
  rw [unfold] at first
  exact congrArg Node.bare (Option.some.inj first).symm

theorem schema_get_zero : (outline.get ⟨0, outline.nonempty⟩).schema = schema :=
  congrArg Node.schema unfolds.bare_get_zero

theorem parent_get_zero : (outline.get ⟨0, outline.nonempty⟩).parent = none :=
  congrArg Node.parent unfolds.bare_get_zero

theorem path_get_zero : (outline.get ⟨0, outline.nonempty⟩).path = .root :=
  congrArg Node.path unfolds.bare_get_zero

theorem annotations_get_zero :
    (outline.get ⟨0, outline.nonempty⟩).annotations = schema.annotations :=
  congrArg Node.annotations unfolds.bare_get_zero

theorem size_nodes : outline.nodes.size = schema.extent := by
  rw [unfolds, List.size_toArray, length_unfold]
  rfl

theorem forall₂_childIds (id : Fin outline.nodes.size) :
    Forall₂ (fun child link =>
        (outline.get child).bare = .ofLink rule (outline.get id).bare child.1 link)
      (outline.childIds id) (outline.get id).schema.links := by
  have member := List.mem_of_getElem? (unfolds.getElem?_get id)
  have numbers := outline.map_val_childIds id
  have lengths : (outline.childIds id).length = (outline.get id).schema.links.length := by
    rw [← List.length_map, numbers, unfolds.children_get, Link.length_starts]
  apply List.forall₂_iff_get.mpr
  refine ⟨lengths, fun position within inLinks => ?_⟩
  have isLink := List.getElem?_eq_getElem inLinks
  obtain ⟨child, inner, isChild, found, isInner⟩ := exists_child member isLink
  rw [← numbers, List.getElem?_map, List.getElem?_eq_getElem within] at isChild
  have number : (outline.childIds id)[position].1 = child := Option.some.inj isChild
  have same := unfolds.getElem?_get (outline.childIds id)[position]
  rw [number, found] at same
  rw [List.get_eq_getElem, List.get_eq_getElem, ← Option.some.inj same, number]
  exact isInner

theorem exists_link {id : Fin outline.nodes.size} {position : Nat}
    (within : position < (outline.childIds id).length) :
    ∃ link, (outline.get id).schema.links[position]? = some link ∧
      (outline.get (outline.childIds id)[position]).bare =
        .ofLink rule (outline.get id).bare (outline.childIds id)[position].1 link := by
  obtain ⟨lengths, each⟩ := List.forall₂_iff_get.mp (unfolds.forall₂_childIds id)
  have inLinks : position < (outline.get id).schema.links.length := lengths ▸ within
  exact ⟨_, List.getElem?_eq_getElem inLinks, each position within inLinks⟩

theorem exists_link_of_mem {id child : Fin outline.nodes.size}
    (inside : child ∈ outline.childIds id) :
    ∃ link ∈ (outline.get id).schema.links,
      (outline.get child).bare = .ofLink rule (outline.get id).bare child.1 link :=
  exists_of_mem_forall₂ (unfolds.forall₂_childIds id) inside

theorem map_schema_childIds (id : Fin outline.nodes.size) :
    (outline.childIds id).map (fun child => (outline.get child).schema) =
      (outline.get id).schema.links.map Link.target :=
  map_eq_of_forall₂ ((unfolds.forall₂_childIds id).imp fun _ _ => Node.schema_of_link)

omit unfolds in
private theorem flatMap_range'_childIds {children : List (Fin outline.nodes.size)}
    {first : NodeId} {links : List Link}
    (numbers : children.map Fin.val = Link.starts first links)
    (schemas : children.map (fun child => (outline.get child).schema) = links.map Link.target) :
    (children.flatMap fun child => List.range' child.1 (outline.get child).schema.extent) =
      List.range' first (Link.extents links) := by
  induction children generalizing first links with
  | nil =>
    cases links with
    | nil => rfl
    | cons link links => cases numbers
  | cons child children ih =>
    cases links with
    | nil => cases schemas
    | cons link links =>
      obtain ⟨number, numbers⟩ := List.cons.inj numbers
      obtain ⟨leads, schemas⟩ := List.cons.inj schemas
      have target : (outline.get child).schema = link.target := leads
      rw [List.flatMap_cons, ih numbers schemas, number, target, Link.extents_cons]
      exact List.range'_append_1

/-- The numbers from a node on down follow each other without a gap. -/
theorem map_val_preorder (id : Fin outline.nodes.size) :
    (outline.preorder id).map Fin.val =
      List.range' id (outline.get id).schema.extent := by
  induction id using induct_childIds with
  | step id ih =>
    have below : ((outline.childIds id).flatMap outline.preorder).map Fin.val =
        (outline.childIds id).flatMap fun child =>
          List.range' child.1 (outline.get child).schema.extent := by
      rw [List.map_flatMap]
      exact List.flatMap_congr ih
    have numbers := (outline.map_val_childIds id).trans (unfolds.children_get id)
    rw [preorder_eq, List.map_cons, below,
      flatMap_range'_childIds numbers (unfolds.map_schema_childIds id), Schema.extent_eq,
      Nat.add_comm 1, List.range'_succ]

theorem nodup_preorder (id : Fin outline.nodes.size) : (outline.preorder id).Nodup := by
  apply List.Nodup.of_map Fin.val
  rw [unfolds.map_val_preorder]
  exact List.nodup_range'

theorem preorder_zero :
    outline.preorder ⟨0, outline.nonempty⟩ = List.finRange outline.nodes.size := by
  apply List.map_injective_iff.mpr Fin.val_injective
  rw [unfolds.map_val_preorder, unfolds.schema_get_zero, ← unfolds.size_nodes,
    List.map_coe_finRange_eq_range, List.range_eq_range']

theorem induct_nodes {motive : Fin outline.nodes.size → Prop}
    (root : motive ⟨0, outline.nonempty⟩)
    (child : ∀ id, motive id → ∀ child ∈ outline.childIds id, motive child)
    (id : Fin outline.nodes.size) : motive id := by
  have below : outline.Below ⟨0, outline.nonempty⟩ id := by
    rw [← mem_preorder_iff, unfolds.preorder_zero]
    exact List.mem_finRange id
  induction below with
  | refl => exact root
  | tail _ inside ih => exact child _ ih _ inside

theorem walk_eq : outline.walk = outline.nodes.toList := by
  refine (outline.walkFrom_eq ⟨0, outline.nonempty⟩).trans ?_
  rw [unfolds.preorder_zero]
  apply List.ext_getElem
  · simp
  · intro position _ _
    simp [get]

end Unfolds

end SchemaOutline.Outline
