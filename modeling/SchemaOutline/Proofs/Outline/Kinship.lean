import SchemaOutline.Proofs.Outline.Preorder

/-! Parents and children know each other, and every number is met once along children. -/

set_option autoImplicit false
set_option relaxedAutoImplicit false

namespace SchemaOutline.Outline

variable {C : Type}

theorem val_mem_children_iff {outline : Outline C} {id child : Fin outline.nodes.size} :
    child.1 ∈ (outline.get id).children ↔ child ∈ outline.childIds id := by
  rw [← map_val_childIds, List.mem_map_of_injective Fin.val_injective]

theorem nodup_children (outline : Outline C) (id : Fin outline.nodes.size) :
    (outline.get id).children.Nodup :=
  (outline.ascending id.1 id.2).of_cons.imp Nat.ne_of_lt

namespace Unfolds

variable {rule : ContextRule C} {schema : Schema} {outline : Outline C}
  (unfolds : outline.Unfolds rule schema)

include unfolds

theorem parent_of_mem_childIds {id child : Fin outline.nodes.size}
    (inside : child ∈ outline.childIds id) : (outline.get child).parent = some id.1 := by
  obtain ⟨link, _, isChild⟩ := unfolds.exists_link_of_mem inside
  rw [Node.parent_of_link isChild, unfolds.id_get]

theorem exists_parent {child : Fin outline.nodes.size} (later : child.1 ≠ 0) :
    ∃ id, child ∈ outline.childIds id := by
  have either : child.1 = 0 ∨ ∃ id, child ∈ outline.childIds id := by
    induction child using unfolds.induct_nodes with
    | root => exact .inl rfl
    | child id _ child inside => exact .inr ⟨id, inside⟩
  exact either.resolve_left later

theorem parent_eq_none_iff (id : Fin outline.nodes.size) :
    (outline.get id).parent = none ↔ id.1 = 0 := by
  constructor
  · intro none
    by_contra later
    obtain ⟨above, inside⟩ := unfolds.exists_parent later
    cases none.symm.trans (unfolds.parent_of_mem_childIds inside)
  · intro first
    rw [show id = ⟨0, outline.nonempty⟩ from Fin.ext first]
    exact unfolds.parent_get_zero

theorem eq_of_mem_childIds {id other child : Fin outline.nodes.size}
    (inside : child ∈ outline.childIds id) (insideOther : child ∈ outline.childIds other) :
    other = id := by
  have same := (unfolds.parent_of_mem_childIds insideOther).symm.trans
    (unfolds.parent_of_mem_childIds inside)
  exact Fin.ext (Option.some.inj same)

theorem map_id_walk : outline.walk.map Node.id = List.range outline.nodes.size := by
  apply List.ext_getElem
  · simp [unfolds.walk_eq]
  · intro position within _
    have inside : position < outline.nodes.size := by simpa [unfolds.walk_eq] using within
    have number : outline.nodes[position].id = position := unfolds.id_get ⟨position, inside⟩
    simp [unfolds.walk_eq, number]

end Unfolds

/-- In what building has made of a schema, a walk meets all numbers once, from the smallest to the
largest. The children of a node are nodes with larger numbers, in ascending order. Only the root has
no parent; every other node is once among the children of its parent, which has a smaller number,
and not among those of any other node. -/
theorem build_links_both_ways (rule : ContextRule C) (schema : Schema) :
    ∃ arena outline, run rule [.enter (.root schema)] .empty = .ok arena ∧
      build rule schema = .ok outline ∧ outline.nodes = arena.nodes ∧
      outline.walk.map Node.id = List.range arena.nodes.size ∧
      (∀ (id : NodeId) (node : Node C), arena.nodes[id]? = some node →
        node.id = id ∧ (node.parent = none ↔ id = 0) ∧ node.children.Pairwise (· < ·) ∧
          ∀ child ∈ node.children, id < child ∧ child < arena.nodes.size) ∧
      ∀ (child : NodeId) (inner : Node C), arena.nodes[child]? = some inner → child ≠ 0 →
        ∃ (id : NodeId) (parent : Node C), arena.nodes[id]? = some parent ∧
          inner.parent = some id ∧ id < child ∧ parent.children.count child = 1 ∧
          ∀ (other : NodeId) (node : Node C), arena.nodes[other]? = some node →
            child ∈ node.children → other = id := by
  obtain ⟨outline, built, nodes, _⟩ := exists_build rule schema
  have unfolds : outline.Unfolds rule schema := nodes
  refine ⟨_, outline, run_root rule schema, built, nodes, ?_⟩
  dsimp only
  rw [← nodes]
  refine ⟨unfolds.map_id_walk, ?children, ?parents⟩
  case children =>
    intro id node found
    obtain ⟨inside, rfl⟩ := Array.getElem?_eq_some_iff.mp found
    have ascending := outline.ascending id inside
    refine ⟨unfolds.id_get ⟨id, inside⟩, unfolds.parent_eq_none_iff ⟨id, inside⟩,
      ascending.of_cons, fun child isChild => ⟨?_, outline.closed id inside child isChild⟩⟩
    exact List.rel_of_pairwise_cons ascending isChild
  case parents =>
    intro child inner found later
    obtain ⟨inside, rfl⟩ := Array.getElem?_eq_some_iff.mp found
    have isLater : (⟨child, inside⟩ : Fin outline.nodes.size).1 ≠ 0 := later
    obtain ⟨id, isChild⟩ := unfolds.exists_parent isLater
    refine ⟨id.1, outline.get id, Array.getElem?_eq_getElem id.2,
      unfolds.parent_of_mem_childIds isChild, lt_of_mem_childIds isChild, ?once, ?only⟩
    case once =>
      exact List.count_eq_one_of_mem (outline.nodup_children id) (val_mem_children_iff.mpr isChild)
    case only =>
      intro other node foundOther among
      obtain ⟨insideOther, rfl⟩ := Array.getElem?_eq_some_iff.mp foundOther
      have isOther : (⟨child, inside⟩ : Fin outline.nodes.size) ∈
          outline.childIds ⟨other, insideOther⟩ := val_mem_children_iff.mp among
      exact congrArg Fin.val (unfolds.eq_of_mem_childIds isChild isOther)

end SchemaOutline.Outline
