import SchemaOutline.Outline.Fold
import SchemaOutline.Proofs.Outline.Preorder

/-! A fold computes what the plain recursion computes, with the same effects. -/

set_option autoImplicit false
set_option relaxedAutoImplicit false

namespace SchemaOutline.Outline

variable {C γ : Type} {m : Type → Type} [Monad m]

/-- The result of a node by recursion, with the effects of the algebra. -/
def catamorphism (outline : Outline C) (algebra : Node C → List γ → m γ)
    (id : Fin outline.nodes.size) : m γ := do
  let results ← (outline.childIds id).attach.mapM fun child =>
    catamorphism outline algebra child.1
  algebra (outline.get id) results
termination_by outline.nodes.size - id
decreasing_by
  have := lt_of_mem_childIds child.2
  omega

/-- The algebra, writing down the nodes to which it is applied. -/
def recording (algebra : Node C → List γ → m γ) (node : Node C) (results : List γ) :
    StateT (List (Node C)) m γ := do
  modify fun calls => calls ++ [node]
  algebra node results

variable [LawfulMonad m]

theorem catamorphism_eq (outline : Outline C) (algebra : Node C → List γ → m γ)
    (id : Fin outline.nodes.size) :
    outline.catamorphism algebra id =
      (outline.childIds id).mapM (outline.catamorphism algebra) >>= algebra (outline.get id) := by
  rw [catamorphism, List.mapM_subtype fun _ _ => rfl, List.unattach_attach]

/-! ### Tasks -/

namespace Folding

private theorem erase_insertMany_insert {results : Results γ} {child : NodeId} {value : γ}
    {done : List (NodeId × γ)} (fresh : child ∉ results) (later : child ∉ done.map Prod.fst) :
    ((results.insert child value).insertMany done).erase child = results.insertMany done := by
  induction done generalizing results with
  | nil =>
    apply Std.ExtHashMap.ext_getElem?
    intro key
    by_cases same : child = key
    · subst same
      simp [fresh]
    · simp [Std.ExtHashMap.getElem?_erase, Std.ExtHashMap.getElem?_insert, same]
  | cons entry done ih =>
    obtain ⟨other, result⟩ := entry
    obtain ⟨differs, later⟩ := not_or.mp (fun inside => later (List.mem_cons.mpr inside))
    have swapped : (results.insert child value).insert other result =
        (results.insert other result).insert child value := by
      apply Std.ExtHashMap.ext_getElem?
      intro key
      simp only [Std.ExtHashMap.getElem?_insert, beq_iff_eq]
      grind
    have absent : child ∉ results.insert other result := by
      rw [Std.ExtHashMap.mem_insert, beq_iff_eq]
      exact not_or.mpr ⟨fun same => differs same.symm, fresh⟩
    rw [Std.ExtHashMap.insertMany_cons, swapped, ih absent later, Std.ExtHashMap.insertMany_cons]

theorem collect_insertMany (parent : NodeId) {results : Results γ} {done : List (NodeId × γ)}
    (distinct : (done.map Prod.fst).Nodup) (fresh : ∀ entry ∈ done, entry.1 ∉ results) :
    collect parent (done.map Prod.fst) (results.insertMany done) =
      .ok (done.map Prod.snd, results) := by
  induction done with
  | nil => rfl
  | cons entry done ih =>
    obtain ⟨child, value⟩ := entry
    obtain ⟨later, distinct⟩ := List.nodup_cons.mp distinct
    have absent : child ∉ results := fresh (child, value) List.mem_cons_self
    have rest := ih distinct fun other inside => fresh other (List.mem_cons_of_mem _ inside)
    have found : (results.insertMany ((child, value) :: done))[child]? = some value := by
      rw [Std.ExtHashMap.insertMany_cons,
        Std.ExtHashMap.getElem?_insertMany_list_of_contains_eq_false (by simpa using later),
        Std.ExtHashMap.getElem?_insert_self]
    rw [List.map_cons, collect, found, Std.ExtHashMap.insertMany_cons,
      erase_insertMany_insert absent later, rest]
    rfl

variable {outline : Outline C} {algebra : Node C → List γ → m γ}

omit [LawfulMonad m] in
theorem run_visit_of_found {id : NodeId} {node : Node C}
    (found : outline.node? id = some node) (rest : List Task) (results : Results γ) :
    run outline algebra (.visit id :: rest) results =
      run outline algebra (node.children.map .visit ++ .combine id :: rest) results := by
  rw [run]
  split
  · next none => cases none.symm.trans found
  · next other same =>
    obtain rfl := Option.some.inj (same.symm.trans found)
    rfl

omit [LawfulMonad m] in
theorem run_combine_of_collect {id : NodeId} {node : Node C} {values : List γ}
    {results left : Results γ} (found : outline.node? id = some node)
    (collected : collect id node.children results = .ok (values, left)) (rest : List Task) :
    run outline algebra (.combine id :: rest) results =
      (algebra node values >>= fun value => run outline algebra rest (left.insert id value)) := by
  rw [run, found]
  dsimp only
  rw [collected]

/-- Visiting a node works it out by recursion and adds its result to those that wait. -/
structure Visits (outline : Outline C) (algebra : Node C → List γ → m γ)
    (id : Fin outline.nodes.size) : Prop where
  run_visit : ∀ (rest : List Task) (results : Results γ), (∀ key, id.1 ≤ key → key ∉ results) →
    run outline algebra (.visit id :: rest) results =
      (outline.catamorphism algebra id >>= fun value =>
        run outline algebra rest (results.insert id.1 value))

private theorem run_children {id : Fin outline.nodes.size}
    (each : ∀ child ∈ outline.childIds id, Visits outline algebra child) (rest : List Task)
    {results : Results γ} (fresh : ∀ key, id.1 ≤ key → key ∉ results)
    (done : List (NodeId × γ)) (todo : List (Fin outline.nodes.size))
    (among : todo ⊆ outline.childIds id)
    (order : done.map Prod.fst ++ todo.map Fin.val = (outline.get id).children) :
    run outline algebra ((todo.map Fin.val).map .visit ++ .combine id :: rest)
        (results.insertMany done) = (do
      let values ← todo.mapM (outline.catamorphism algebra)
      let value ← algebra (outline.get id) (done.map Prod.snd ++ values)
      run outline algebra rest (results.insert id.1 value)) := by
  have ascending := outline.ascending id.1 id.2
  have found : outline.node? id = some (outline.get id) := Array.getElem?_eq_getElem id.2
  change (id.1 :: (outline.get id).children).Pairwise (· < ·) at ascending
  induction todo generalizing done with
  | nil =>
    -- All children have their results, and combining the node takes out these and no others.
    rw [List.map_nil, List.append_nil] at order
    have distinct : (done.map Prod.fst).Nodup := by
      rw [order]
      exact ascending.of_cons.imp Nat.ne_of_lt
    have absent : ∀ entry ∈ done, entry.1 ∉ results := by
      intro entry inside
      apply fresh
      have isChild : entry.1 ∈ (outline.get id).children := order ▸ List.mem_map_of_mem inside
      exact Nat.le_of_lt (List.rel_of_pairwise_cons ascending isChild)
    have collected : collect id (outline.get id).children (results.insertMany done) =
        .ok (done.map Prod.snd, results) := order ▸ collect_insertMany id.1 distinct absent
    rw [List.map_nil, List.map_nil, List.nil_append, run_combine_of_collect found collected]
    simp
  | cons child todo ih =>
    obtain ⟨inside, others⟩ := List.cons_subset.mp among
    rw [← order, List.map_cons] at ascending
    -- Of what is not before the child nothing waits: its done siblings have smaller numbers.
    have free : ∀ key, child.1 ≤ key → key ∉ results.insertMany done := by
      intro key late waits
      rcases Std.ExtHashMap.mem_insertMany_list.mp waits with before | earlier
      · have := lt_of_mem_childIds inside
        exact fresh key (by omega) before
      · have isDone : key ∈ done.map Prod.fst := by simpa using earlier
        have := (List.pairwise_append.mp ascending.of_cons).2.2 key isDone child.1
          List.mem_cons_self
        omega
    have next (value : γ) := ih (done ++ [(child.1, value)]) others (by simp [← order])
    have inserted (value : γ) : (results.insertMany done).insert child.1 value =
        results.insertMany (done ++ [(child.1, value)]) := by
      rw [Std.ExtHashMap.insertMany_append, Std.ExtHashMap.insertMany_list_singleton]
    rw [List.map_cons, List.map_cons, List.cons_append, (each child inside).run_visit _ _ free]
    simp only [inserted, next, List.mapM_cons, bind_assoc, pure_bind, List.map_append,
      List.map_cons, List.map_nil, List.append_assoc, List.singleton_append]

theorem visits (outline : Outline C) (algebra : Node C → List γ → m γ)
    (id : Fin outline.nodes.size) : Visits outline algebra id := by
  induction id using induct_childIds with
  | step id ih =>
    refine ⟨fun rest results fresh => ?_⟩
    have found : outline.node? id = some (outline.get id) := Array.getElem?_eq_getElem id.2
    have children := run_children ih rest fresh [] (outline.childIds id) (List.Subset.refl _)
      (outline.map_val_childIds id)
    rw [outline.map_val_childIds, Std.ExtHashMap.insertMany_nil] at children
    rw [run_visit_of_found found, children, catamorphism_eq]
    simp only [bind_assoc, List.map_nil, List.nil_append]

end Folding

open Folding (Results visits)

theorem foldFromM_eq (outline : Outline C) (algebra : Node C → List γ → m γ)
    (id : Fin outline.nodes.size) :
    outline.foldFromM id.1 algebra = .ok <$> outline.catamorphism algebra id := by
  have none : ∀ key, id.1 ≤ key → key ∉ (∅ : Results γ) := fun _ _ => Std.ExtHashMap.not_mem_empty
  rw [foldFromM, (visits outline algebra id).run_visit [] ∅ none]
  simp [Folding.run]

theorem foldFromM_of_unknown {outline : Outline C} (algebra : Node C → List γ → m γ)
    {start : NodeId} (outside : outline.nodes.size ≤ start) :
    outline.foldFromM start algebra = pure (.error (.unknownNode start)) := by
  have unknown : outline.node? start = none := Array.getElem?_eq_none outside
  have stopped : Folding.run outline algebra [.visit start] ∅ =
      pure (.error (.unknownNode start)) := by
    rw [Folding.run]
    split
    · rfl
    · next node found => cases unknown.symm.trans found
  rw [foldFromM, stopped]
  simp

/-! ### Calls -/

private theorem run_mapM_recording {outline : Outline C} {algebra : Node C → List γ → m γ}
    {ids : List (Fin outline.nodes.size)}
    (each : ∀ id ∈ ids, ∀ calls, (outline.catamorphism (recording algebra) id).run calls =
      (fun result => (result, calls ++ (outline.postorder id).map outline.get)) <$>
        outline.catamorphism algebra id) (calls : List (Node C)) :
    (ids.mapM (outline.catamorphism (recording algebra))).run calls =
      (fun results => (results, calls ++ (ids.flatMap outline.postorder).map outline.get)) <$>
        ids.mapM (outline.catamorphism algebra) := by
  induction ids generalizing calls with
  | nil => simp
  | cons id ids ih =>
    have first := each id List.mem_cons_self
    have others := ih fun other inside => each other (List.mem_cons_of_mem _ inside)
    simp [List.mapM_cons, StateT.run_bind, first, others]

theorem run_catamorphism_recording (outline : Outline C) (algebra : Node C → List γ → m γ)
    (id : Fin outline.nodes.size) (calls : List (Node C)) :
    (outline.catamorphism (recording algebra) id).run calls =
      (fun result => (result, calls ++ (outline.postorder id).map outline.get)) <$>
        outline.catamorphism algebra id := by
  induction id using induct_childIds generalizing calls with
  | step id ih =>
    have children := run_mapM_recording ih
    rw [catamorphism_eq, catamorphism_eq, postorder_eq]
    simp [StateT.run_bind, children, recording]

/-! ### Folds of built outlines -/

/-- A fold of what is built from a schema, from a node on down, applies the algebra once to each
node that is reached along children and to no other, in post-order, and gives the result of the
recursion. From what is no node it applies the algebra to nothing. -/
theorem fold_calls_in_postorder (rule : ContextRule C) (schema : Schema) :
    ∃ outline, build rule schema = .ok outline ∧
      ∀ {γ : Type} {m : Type → Type} [Monad m] [LawfulMonad m]
        (algebra : Node C → List γ → m γ) (start : NodeId),
        (∀ inside : start < outline.nodes.size,
          outline.foldFromM start algebra = .ok <$> outline.catamorphism algebra ⟨start, inside⟩ ∧
          (∀ calls, (outline.foldFromM start (recording algebra)).run calls =
            (fun result =>
              (result, calls ++ (outline.postorder ⟨start, inside⟩).map outline.get)) <$>
                outline.foldFromM start algebra) ∧
          (outline.postorder ⟨start, inside⟩).Nodup ∧
          ∀ id, id ∈ outline.postorder ⟨start, inside⟩ ↔ outline.Below ⟨start, inside⟩ id) ∧
        (outline.nodes.size ≤ start →
          outline.foldFromM start algebra = pure (.error (.unknownNode start)) ∧
          ∀ calls, (outline.foldFromM start (recording algebra)).run calls =
            pure (.error (.unknownNode start), calls)) := by
  obtain ⟨outline, built, _⟩ := exists_build rule schema
  have unfolds := unfolds_of_build built
  refine ⟨outline, built, fun algebra start => ⟨fun inside => ?_, fun outside => ?_⟩⟩
  · have same := outline.perm_postorder_preorder ⟨start, inside⟩
    have result := outline.foldFromM_eq algebra ⟨start, inside⟩
    refine ⟨result, fun calls => ?_, ?_, fun id => ?_⟩
    · rw [result, outline.foldFromM_eq (recording algebra) ⟨start, inside⟩, StateT.run_map,
        run_catamorphism_recording]
      simp
    · exact same.nodup_iff.mpr (unfolds.nodup_preorder _)
    · exact same.mem_iff.trans mem_preorder_iff
  · refine ⟨foldFromM_of_unknown algebra outside, fun calls => ?_⟩
    rw [foldFromM_of_unknown _ outside, StateT.run_pure]

end SchemaOutline.Outline
