import SchemaOutline.Outline.Basic
import Std.Data.ExtHashMap

/-! Folding an outline with an effectful algebra, through a list of tasks. -/

set_option autoImplicit false

namespace SchemaOutline.Outline

open Traversal

variable {C γ : Type} {m : Type → Type}

namespace Folding

inductive Task where
  | visit (id : NodeId)
  | combine (id : NodeId)

def Task.weight (size : Nat) : Task → Nat
  | visit id => 2 * Nat.pow 2 (size - id)
  | combine _ => 1

/-- The results that no parent has taken yet, by the numbers of their nodes. -/
abbrev Results (γ : Type) : Type := Std.ExtHashMap NodeId γ

/-- Takes the results of some children of a node out of the others. -/
def collect (parent : NodeId) : List NodeId → Results γ →
    Except OutlineError (List γ × Results γ)
  | [], results => .ok ([], results)
  | child :: children, results =>
    match results[child]? with
    | none => .error (.missingChildResult parent child)
    | some value => do
      let (values, left) ← collect parent children (results.erase child)
      return (value :: values, left)

private theorem totalWeight_visits (size : Nat) (ids : List NodeId) :
    totalWeight (Task.weight size) (ids.map .visit) =
      2 * totalWeight (fun id => Nat.pow 2 (size - id)) ids := by
  induction ids with
  | nil => rfl
  | cons id ids ih =>
    rw [List.map_cons, totalWeight_cons, totalWeight_cons, ih, Task.weight]
    omega

@[specialize]
def run [Monad m] (outline : Outline C) (algebra : Node C → List γ → m γ) (tasks : List Task)
    (results : Results γ) : m (Except OutlineError (Results γ)) :=
  match tasks with
  | [] => pure (.ok results)
  | .visit id :: rest =>
    match _ : outline.node? id with
    | none => pure (.error (.unknownNode id))
    | some node => run outline algebra (node.children.map .visit ++ .combine id :: rest) results
  | .combine id :: rest =>
    match outline.node? id with
    | none => pure (.error (.unknownNode id))
    | some node =>
      match collect id node.children results with
      | .error cause => pure (.error cause)
      | .ok (values, left) => do
        let value ← algebra node values
        run outline algebra rest (left.insert id value)
termination_by totalWeight (Task.weight outline.nodes.size) tasks
decreasing_by
  · have := totalWeight_children_lt ‹_›
    simp only [totalWeight_append, totalWeight_cons, totalWeight_visits, Task.weight]
    omega
  · simp only [totalWeight_cons, Task.weight]
    omega

end Folding

/-- The result of the node with a given number, with the effects of the algebra. -/
def foldFromM [Monad m] (outline : Outline C) (start : NodeId)
    (algebra : Node C → List γ → m γ) : m (Except OutlineError γ) := do
  match ← Folding.run outline algebra [.visit start] ∅ with
  | .error cause => return .error cause
  | .ok results =>
    match results[start]? with
    | some value => return .ok value
    | none => return .error (.missingFoldResult start)

def foldFrom (outline : Outline C) (start : NodeId) (algebra : Node C → List γ → γ) :
    Except OutlineError γ :=
  (outline.foldFromM start fun node results => (pure (algebra node results) : Id γ)).run

def fold (outline : Outline C) (algebra : Node C → List γ → γ) : Except OutlineError γ :=
  outline.foldFrom outline.rootId algebra

/-- The number of nodes, counted from the leaves up. -/
def count (outline : Outline C) : Except OutlineError Nat :=
  outline.fold fun _ counts => 1 + counts.foldr (· + ·) 0

/-- The number of nodes on the longest way down from the root. -/
def depth (outline : Outline C) : Except OutlineError Nat :=
  outline.fold fun _ depths => 1 + depths.foldl max 0

end SchemaOutline.Outline
