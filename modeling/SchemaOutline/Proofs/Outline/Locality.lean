import SchemaOutline.Proofs.Outline.Folding
import SchemaOutline.Proofs.Reports

/-! What lies below a node is the outline of its own schema, moved. -/

set_option autoImplicit false
set_option relaxedAutoImplicit false

namespace SchemaOutline

open List (Forall₂)

variable {C D : Type}

/-- A node stands below the node `top` as another one stands in the outline of the schema of `top`.
Only the root of that outline does not say which link leads to it. -/
structure Node.Moved (top : Node C) (inner : Node D) (node : Node C) : Prop where
  id : node.id = top.id + inner.id
  schema : node.schema = inner.schema
  children : node.children = inner.children.map (top.id + ·)
  path : node.path.segments = top.path.segments ++ inner.path.segments
  annotations : inner.id ≠ 0 → node.annotations = inner.annotations
  parent : inner.id ≠ 0 → node.parent = inner.parent.map (top.id + ·)

theorem Link.starts_add (offset first : NodeId) (links : List Link) :
    starts (offset + first) links = (starts first links).map (offset + ·) := by
  induction links generalizing first with
  | nil => rfl
  | cons link links ih => rw [starts, starts, List.map_cons, Nat.add_assoc, ih]

namespace Schema

variable {γ : Type} {m : Type → Type} [Monad m]

/-- The result of a schema by recursion on the schemas that it links to. -/
def catamorphism (algebra : Schema → List γ → m γ) (schema : Schema) : m γ := do
  let results ← schema.links.attach.mapM fun link => catamorphism algebra link.1.target
  algebra schema results
termination_by schema.weight
decreasing_by exact weight_target_lt link.2

theorem catamorphism_eq [LawfulMonad m] (algebra : Schema → List γ → m γ) (schema : Schema) :
    schema.catamorphism algebra =
      (schema.links.mapM fun link => link.target.catamorphism algebra) >>= algebra schema := by
  rw [catamorphism, List.mapM_subtype (g := fun link => catamorphism algebra link.target)
    fun _ _ => rfl, List.unattach_attach]

end Schema

namespace Outline

namespace Unfolds

section

variable {rule : ContextRule C} {schema : Schema} {outline : Outline C}
  (unfolds : outline.Unfolds rule schema)

include unfolds

theorem below_iff (id other : Fin outline.nodes.size) :
    outline.Below id other ↔ id.1 ≤ other.1 ∧ other.1 < id + (outline.get id).schema.extent := by
  rw [← mem_preorder_iff, ← List.mem_map_of_injective Fin.val_injective, unfolds.map_val_preorder,
    List.mem_range'_1]

theorem catamorphism_eq {γ : Type} {m : Type → Type} [Monad m] [LawfulMonad m]
    (algebra : Schema → List γ → m γ) (id : Fin outline.nodes.size) :
    outline.catamorphism (fun node => algebra node.schema) id =
      (outline.get id).schema.catamorphism algebra := by
  induction id using induct_childIds with
  | step id ih =>
    have children := unfolds.forall₂_childIds id
    have results : Forall₂ (fun child link =>
        outline.catamorphism (fun node => algebra node.schema) child =
          link.target.catamorphism algebra)
        (outline.childIds id) (outline.get id).schema.links := by
      apply ((List.forall₂_and_left _ _).mpr ⟨ih, children⟩).imp
      rintro child link ⟨solved, isChild⟩
      rw [solved, Node.schema_of_link isChild]
    rw [Outline.catamorphism_eq, Schema.catamorphism_eq, mapM_eq_of_forall₂ results]

end

variable {rule : ContextRule C} {schema : Schema} {outline : Outline C}
  {innerRule : ContextRule D} {innerSchema : Schema} {inner : Outline D}
  (unfolds : outline.Unfolds rule schema) (innerUnfolds : inner.Unfolds innerRule innerSchema)

include unfolds innerUnfolds

private theorem children_moved {offset : NodeId} {id : Fin inner.nodes.size}
    {other : Fin outline.nodes.size} (number : other.1 = offset + id)
    (same : (outline.get other).schema = (inner.get id).schema) :
    (outline.get other).children = (inner.get id).children.map (offset + ·) := by
  rw [unfolds.children_get, innerUnfolds.children_get, same, number, Nat.add_assoc,
    Link.starts_add]

theorem exists_child_moved {top other : Fin outline.nodes.size} {id child : Fin inner.nodes.size}
    (moved : (outline.get top).Moved (inner.get id) (outline.get other))
    (inside : child ∈ inner.childIds id) :
    ∃ moved, (outline.get top).Moved (inner.get child) (outline.get moved) := by
  obtain ⟨position, within, rfl⟩ := List.getElem_of_mem inside
  obtain ⟨withinOther, number⟩ := exists_childIds_at moved.children within
  -- The children at one position are what one link leads to.
  obtain ⟨link, isLink, isChild⟩ := innerUnfolds.exists_link within
  obtain ⟨otherLink, isOther, isMoved⟩ := unfolds.exists_link withinOther
  obtain rfl : otherLink = link := by
    rw [moved.schema, isLink] at isOther
    exact (Option.some.inj isOther).symm
  have schemas : (outline.get (outline.childIds other)[position]).schema =
      (inner.get (inner.childIds id)[position]).schema := by
    rw [Node.schema_of_link isChild, Node.schema_of_link isMoved]
  refine ⟨(outline.childIds other)[position], ?id, schemas, ?children, ?path, ?annotations, ?parent⟩
  case id => rw [unfolds.id_get, innerUnfolds.id_get, number]
  case children => exact children_moved unfolds innerUnfolds number schemas
  case path =>
    rw [Node.path_of_link isChild, Node.path_of_link isMoved, Path.segments_step,
      Path.segments_step, moved.path, List.append_assoc]
  case annotations =>
    intro _
    rw [Node.annotations_of_link isChild, Node.annotations_of_link isMoved]
  case parent =>
    intro _
    rw [Node.parent_of_link isChild, Node.parent_of_link isMoved, moved.id]
    rfl

theorem exists_moved {top : Fin outline.nodes.size} (same : (outline.get top).schema = innerSchema)
    (id : Fin inner.nodes.size) :
    ∃ other, (outline.get top).Moved (inner.get id) (outline.get other) := by
  induction id using innerUnfolds.induct_nodes with
  | root =>
    have schemas := same.trans innerUnfolds.schema_get_zero.symm
    have isFirst : (inner.get ⟨0, inner.nonempty⟩).id = 0 := innerUnfolds.id_get _
    refine ⟨top, ?id, schemas, ?children, ?path, ?annotations, ?parent⟩
    case id => rw [isFirst, Nat.add_zero]
    case children =>
      rw [unfolds.id_get]
      exact children_moved unfolds innerUnfolds (Nat.add_zero _).symm schemas
    case path => rw [innerUnfolds.path_get_zero, Path.segments_root, List.append_nil]
    case annotations => exact fun other => absurd isFirst other
    case parent => exact fun other => absurd isFirst other
  | child id ih child inside =>
    obtain ⟨other, moved⟩ := ih
    exact exists_child_moved unfolds innerUnfolds moved inside

end Unfolds

/-- From any node on down, an outline is the outline of the schema of that node. What is reached
from the node are as many nodes as that outline has, with the numbers that follow; the node with a
number there stands, moved, under the sum of both numbers here. A fold that looks at nothing of a
node but its schema has the same result from the node on as for that outline. -/
theorem subtree_builds_alike (rule : ContextRule C) (innerRule : ContextRule D)
    (schema : Schema) :
    ∃ outline, build rule schema = .ok outline ∧
      ∀ top : Fin outline.nodes.size,
        ∃ inner, build innerRule (outline.get top).schema = .ok inner ∧
          (∀ id : Fin outline.nodes.size,
            outline.Below top id ↔ top.1 ≤ id.1 ∧ id.1 < top + inner.size) ∧
          (∀ id : Fin inner.nodes.size, ∃ node, outline.node? (top + id) = some node ∧
            (outline.get top).Moved (inner.get id) node) ∧
          ∀ {γ : Type} {m : Type → Type} [Monad m] [LawfulMonad m]
            (algebra : Schema → List γ → m γ),
            outline.foldFromM top.1 (fun node => algebra node.schema) =
              inner.foldFromM inner.rootId fun node => algebra node.schema := by
  obtain ⟨outline, built, _⟩ := exists_build rule schema
  have unfolds := unfolds_of_build built
  refine ⟨outline, built, fun top => ?_⟩
  obtain ⟨inner, innerBuilt, _⟩ := exists_build innerRule (outline.get top).schema
  have innerUnfolds := unfolds_of_build innerBuilt
  refine ⟨inner, innerBuilt, fun id => ?below, fun id => ?moved, fun algebra => ?fold⟩
  case below =>
    rw [size, innerUnfolds.size_nodes]
    exact unfolds.below_iff top id
  case moved =>
    obtain ⟨other, moved⟩ := Unfolds.exists_moved unfolds innerUnfolds rfl id
    have number : other.1 = top + id := by
      rw [← unfolds.id_get other, moved.id, unfolds.id_get, innerUnfolds.id_get]
    refine ⟨outline.get other, ?_, moved⟩
    rw [← number]
    exact Array.getElem?_eq_getElem other.2
  case fold =>
    have root := inner.foldFromM_eq (fun node => algebra node.schema) ⟨0, inner.nonempty⟩
    rw [outline.foldFromM_eq, unfolds.catamorphism_eq]
    rw [innerUnfolds.catamorphism_eq, innerUnfolds.schema_get_zero] at root
    exact root.symm

end Outline

end SchemaOutline
