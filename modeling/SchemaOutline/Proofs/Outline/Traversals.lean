import Mathlib
import SchemaOutline.Outline.Query
import SchemaOutline.Proofs.Outline.Ancestry
import SchemaOutline.Proofs.Outline.Refinements
import SchemaOutline.Proofs.Schema.Bounds

/-! What walks, folds, parents and paths agree on: counts, leaves and depths. -/

set_option autoImplicit false
set_option relaxedAutoImplicit false

namespace SchemaOutline.Outline

variable {C : Type}

/-! ### Leaves -/

theorem isLeaf_get_iff {outline : Outline C} {id : Fin outline.nodes.size} :
    (outline.get id).isLeaf ↔ outline.childIds id = [] := by
  rw [Node.isLeaf, List.isEmpty_iff, ← outline.map_val_childIds, List.map_eq_nil_iff]

theorem filter_isLeaf_postorder (outline : Outline C) (id : Fin outline.nodes.size) :
    (outline.postorder id).filter (fun other => (outline.get other).isLeaf) =
      (outline.preorder id).filter fun other => (outline.get other).isLeaf := by
  induction id using induct_childIds with
  | step id ih =>
    rw [postorder_eq, preorder_eq]
    by_cases leaf : (outline.get id).isLeaf
    · rw [isLeaf_get_iff.mp leaf, List.flatMap_nil, List.flatMap_nil, List.nil_append]
    · have below : ((outline.childIds id).flatMap outline.postorder).filter
            (fun other => (outline.get other).isLeaf) =
          ((outline.childIds id).flatMap outline.preorder).filter
            fun other => (outline.get other).isLeaf := by
        rw [List.filter_flatMap, List.filter_flatMap, List.flatMap_congr ih]
      rw [List.filter_append, below]
      simp [leaf]

theorem filter_isLeaf_map_postorder (outline : Outline C) :
    ((outline.postorder ⟨0, outline.nonempty⟩).map outline.get).filter Node.isLeaf =
      outline.leaves := by
  rw [leaves, walk_eq_listing, listing, List.filter_map, List.filter_map]
  exact congrArg (List.map outline.get) (outline.filter_isLeaf_postorder _)

/-! ### Folds without effects -/

/-- If every node has the result that the algebra gives for the results of its children, then the
fold has the result of the root. -/
theorem fold_eq {γ : Type} (outline : Outline C) (algebra : Node C → List γ → γ)
    (result : Fin outline.nodes.size → γ)
    (combined : ∀ id, algebra (outline.get id) ((outline.childIds id).map result) = result id) :
    outline.fold algebra = .ok (result ⟨0, outline.nonempty⟩) := by
  have each (id : Fin outline.nodes.size) :
      (outline.catamorphism (fun node results => (pure (algebra node results) : Id γ)) id).run =
        result id := by
    induction id using induct_childIds with
    | step id ih =>
      rw [catamorphism_eq, Id.run_bind, List.idRun_mapM, List.map_congr_left ih]
      exact combined id
  have folded := outline.foldFromM_eq (fun node results => (pure (algebra node results) : Id γ))
    ⟨0, outline.nonempty⟩
  have root := congrArg Id.run folded
  rw [Id.run_map, each] at root
  exact root

theorem count_eq_length_walk (outline : Outline C) : outline.count = .ok outline.walk.length := by
  have counted := outline.fold_eq (fun _ counts => 1 + counts.foldr (· + ·) 0)
    (fun id => (outline.preorder id).length) fun id => by
      rw [preorder_eq, List.length_cons, List.length_flatMap, Nat.add_comm]
      rfl
  rw [count, counted, walk_eq_listing, listing, List.length_map]

private theorem foldl_max_cases (heights : List Nat) :
    (heights = [] ∧ heights.foldl max 0 = 0) ∨
      (heights.foldl max 0 ∈ heights ∧ ∀ height ∈ heights, height ≤ heights.foldl max 0) := by
  have largest : heights.foldl max 0 = heights.max?.getD 0 := by
    rw [List.foldl_max, Nat.zero_max]
  cases found : heights.max? with
  | none => exact .inl ⟨List.max?_eq_none_iff.mp found, by rw [largest, found]; rfl⟩
  | some height =>
    rw [largest, found]
    exact .inr (List.max?_eq_some_iff.mp found)

namespace Unfolds

section

variable {rule : ContextRule C} {schema : Schema} {outline : Outline C}
  (unfolds : outline.Unfolds rule schema)

include unfolds

/-! ### Ways along parents -/

theorem ancestors_cases (id : Fin outline.nodes.size) :
    ((outline.get id).parent = none ∧ outline.ancestors id = []) ∨
      ∃ above, (outline.get id).parent = some above.1 ∧
        outline.ancestors id = above :: outline.ancestors above := by
  induction id using unfolds.induct_nodes with
  | root => exact .inl ⟨unfolds.parent_get_zero, unfolds.ancestors_zero⟩
  | child id _ child inside =>
    exact .inr ⟨id, unfolds.parent_of_mem_childIds inside, unfolds.ancestors_of_mem_childIds inside⟩

theorem height_cases (id : Fin outline.nodes.size) :
    (outline.childIds id = [] ∧ (outline.get id).schema.height = 1) ∨
      ∃ child ∈ outline.childIds id,
        (outline.get id).schema.height = (outline.get child).schema.height + 1 ∧
          ∀ other ∈ outline.childIds id,
            (outline.get other).schema.height ≤ (outline.get child).schema.height := by
  have heights : (outline.childIds id).map (fun child => (outline.get child).schema.height) =
      (outline.get id).schema.links.map fun link => link.target.height := by
    have schemas := congrArg (List.map Schema.height) (unfolds.map_schema_childIds id)
    rwa [List.map_map, List.map_map] at schemas
  rw [Schema.height_eq, ← heights]
  rcases foldl_max_cases ((outline.childIds id).map fun child =>
    (outline.get child).schema.height) with ⟨none, zero⟩ | ⟨among, largest⟩
  · exact .inl ⟨List.map_eq_nil_iff.mp none, by rw [zero]⟩
  · obtain ⟨child, inside, highest⟩ := List.mem_map.mp among
    refine .inr ⟨child, inside, ?_, fun other isOther => ?_⟩
    · rw [highest, Nat.add_comm]
    · rw [highest]
      exact largest _ (List.mem_map_of_mem isOther)

theorem length_ancestors_add_height_le (id : Fin outline.nodes.size) :
    (outline.ancestors id).length + (outline.get id).schema.height ≤ schema.height := by
  induction id using unfolds.induct_nodes with
  | root => rw [unfolds.ancestors_zero, unfolds.schema_get_zero, List.length_nil, Nat.zero_add]
  | child id ih child inside =>
    rw [unfolds.ancestors_of_mem_childIds inside, List.length_cons]
    rcases unfolds.height_cases id with ⟨none, _⟩ | ⟨highest, _, height, largest⟩
    · rw [none] at inside
      cases inside
    · have lower := largest child inside
      omega

theorem exists_length_ancestors (id : Fin outline.nodes.size) :
    ∃ other, (outline.ancestors other).length + 1 =
      (outline.ancestors id).length + (outline.get id).schema.height := by
  induction id using induct_childIds with
  | step id ih =>
    rcases unfolds.height_cases id with ⟨_, one⟩ | ⟨child, inside, height, _⟩
    · exact ⟨id, by rw [one]⟩
    · obtain ⟨other, deepest⟩ := ih child inside
      rw [unfolds.ancestors_of_mem_childIds inside, List.length_cons] at deepest
      exact ⟨other, by omega⟩

theorem exists_depth_eq :
    ∃ levels, outline.depth = .ok (1 + levels) ∧
      IsGreatest (Set.range fun id => (outline.ancestors id).length) levels := by
  obtain ⟨deepest, isDeepest⟩ := unfolds.exists_length_ancestors ⟨0, outline.nonempty⟩
  rw [unfolds.ancestors_zero, unfolds.schema_get_zero, List.length_nil, Nat.zero_add] at isDeepest
  refine ⟨(outline.ancestors deepest).length, ?_, ⟨deepest, rfl⟩, ?_⟩
  · rw [unfolds.depth_eq, ← isDeepest, Nat.add_comm]
  · rintro length ⟨id, rfl⟩
    have bounded := unfolds.length_ancestors_add_height_le id
    have positive : 1 ≤ (outline.get id).schema.height := by
      rw [Schema.height_eq]
      exact Nat.le_add_right _ _
    dsimp only
    omega

/-! ### Lengths of paths -/

theorem length_path_le (id : Fin outline.nodes.size) :
    (outline.get id).path.length ≤ (outline.ancestors id).length := by
  induction id using unfolds.induct_nodes with
  | root =>
    rw [unfolds.path_get_zero]
    exact Nat.zero_le _
  | child id ih child inside =>
    rw [unfolds.ancestors_of_mem_childIds inside, List.length_cons]
    rcases unfolds.path_cases inside with ⟨_, same⟩ | ⟨_, _, _, segment, _, longer⟩
    · rw [same]
      exact Nat.le_succ_of_le ih
    · rw [longer]
      exact Nat.succ_le_succ ih

theorem length_path_eq (unrefined : ∀ id, (outline.get id).kind ≠ .refinement)
    (id : Fin outline.nodes.size) :
    (outline.get id).path.length = (outline.ancestors id).length := by
  induction id using unfolds.induct_nodes with
  | root =>
    rw [unfolds.path_get_zero, unfolds.ancestors_zero]
    rfl
  | child id ih child inside =>
    rw [unfolds.ancestors_of_mem_childIds inside, List.length_cons]
    rcases unfolds.path_cases inside with ⟨refinement, _⟩ | ⟨_, _, _, segment, _, longer⟩
    · exact absurd refinement.1 (unrefined id)
    · rw [longer, ← ih]
      rfl

end

end Unfolds

/-- The traversals of what is built from a schema, with an index or without one, agree. A fold
counts all nodes, and a walk meets as many. A fold applies an algebra to the leaves in the order in
which a walk meets them. The depth is one more than the length of the longest way along parents, and
no path is longer than that; if there is no refinement, then some path is as long. -/
theorem traversals_agree (rule : ContextRule C) (schema : Schema) :
    ∃ built, build rule schema = .ok built ∧
      ∀ outline : Outline C, outline.nodes = built.nodes →
        outline.count = .ok outline.size ∧ outline.walk.length = outline.size ∧
        (∃ met : List (Node C),
          (∀ {γ : Type} {m : Type → Type} [Monad m] [LawfulMonad m]
            (algebra : Node C → List γ → m γ),
            (outline.foldFromM outline.rootId (recording algebra)).run [] =
              (fun result => (result, met)) <$> outline.foldFromM outline.rootId algebra) ∧
          met.filter Node.isLeaf = outline.leaves) ∧
        (∀ id, ((outline.get id).parent = none ∧ outline.ancestors id = []) ∨
          ∃ above, (outline.get id).parent = some above.1 ∧
            outline.ancestors id = above :: outline.ancestors above) ∧
        ∃ levels steps, outline.depth = .ok (1 + levels) ∧
          IsGreatest (Set.range fun id => (outline.ancestors id).length) levels ∧
          IsGreatest (Set.range fun id => (outline.get id).path.length) steps ∧
          1 + steps ≤ 1 + levels ∧
          ((∀ node ∈ outline.nodes, node.kind ≠ .refinement) → 1 + steps = 1 + levels) := by
  obtain ⟨built, isBuilt, nodes, _⟩ := exists_build rule schema
  refine ⟨built, isBuilt, fun outline same => ?_⟩
  have unfolds : outline.Unfolds rule schema := same.trans nodes
  have all : outline.walk.length = outline.size := by
    rw [unfolds.walk_eq, Array.length_toList, size]
  refine ⟨by rw [count_eq_length_walk, all], all, ⟨_, ?calls, outline.filter_isLeaf_map_postorder⟩,
    unfolds.ancestors_cases, ?depth⟩
  case calls =>
    intro γ m _ _ algebra
    have result := outline.foldFromM_eq algebra ⟨0, outline.nonempty⟩
    have recorded := outline.foldFromM_eq (recording algebra) ⟨0, outline.nonempty⟩
    rw [rootId, result, recorded, StateT.run_map, run_catamorphism_recording]
    simp
  case depth =>
    obtain ⟨levels, depth, ⟨deepest, isDeepest⟩, bounded⟩ := unfolds.exists_depth_eq
    have : Nonempty (Fin outline.nodes.size) := ⟨⟨0, outline.nonempty⟩⟩
    obtain ⟨farthest, isFarthest⟩ := Finite.exists_max fun id => (outline.get id).path.length
    have shorter : (outline.get farthest).path.length ≤ levels :=
      (unfolds.length_path_le farthest).trans (bounded ⟨farthest, rfl⟩)
    refine ⟨levels, _, depth, ⟨⟨deepest, isDeepest⟩, bounded⟩,
      ⟨⟨farthest, rfl⟩, Set.forall_mem_range.mpr isFarthest⟩, Nat.add_le_add_left shorter 1,
      fun unrefined => congrArg (1 + ·) (shorter.antisymm ?_)⟩
    have lengths := unfolds.length_path_eq fun id => unrefined _ (Array.getElem_mem id.2)
    rw [← isDeepest]
    exact (lengths deepest).symm.trans_le (isFarthest deepest)

end SchemaOutline.Outline
