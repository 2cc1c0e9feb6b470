import SchemaOutline.Description.Content
import SchemaOutline.Schema.Basic

/-! Converting descriptions into schemas through a list of tasks. -/

set_option autoImplicit false

namespace SchemaOutline

open Traversal

inductive Task where
  | enter (description : Description)
  | leave (annotations : Annotations) (shape : Shape Description)

def Task.weight : Task → Nat
  | enter description => 2 * description.weight
  | leave _ _ => 1

structure Conversion where
  tasks : List Task
  /-- The finished schemas that belong to no other yet, latest first. -/
  finished : List Schema

namespace Conversion

def start (description : Description) : Conversion := ⟨[.enter description], []⟩

/-- The schema of a shape whose parts are the given schemas. -/
def assemble (annotations : Annotations) (shape : Shape Description) (parts : List Schema) :
    Except DecodeError Schema :=
  if fits : parts.length = shape.parts.length then .ok (.mk annotations (shape.refill parts fits))
  else .error (.missingMember (.node shape.kind) "type")

def perform (definitions : List (String × Json)) (rest : List Task) (finished : List Schema) :
    Task → Except DecodeError Conversion
  | .enter description => do
    let layer ← description.split definitions
    return ⟨layer.2.parts.map .enter ++ .leave layer.1 layer.2 :: rest, finished⟩
  | .leave annotations shape => do
    let schema ← assemble annotations shape (finished.take shape.arity).reverse
    return ⟨rest, schema :: finished.drop shape.arity⟩

private theorem totalWeight_map_enter (descriptions : List Description) :
    totalWeight Task.weight (descriptions.map .enter) =
      2 * totalWeight Description.weight descriptions := by
  induction descriptions with
  | nil => rfl
  | cons description descriptions ih =>
    rw [List.map_cons, totalWeight_cons, totalWeight_cons, ih, Task.weight]
    omega

theorem totalWeight_lt_of_perform {definitions : List (String × Json)} {rest : List Task}
    {finished : List Schema} {task : Task} {next : Conversion}
    (performed : perform definitions rest finished task = .ok next) :
    totalWeight Task.weight next.tasks < totalWeight Task.weight (task :: rest) := by
  cases task with
  | enter description =>
    obtain ⟨layer, split, rfl⟩ := Description.bind_pure_eq_ok.mp performed
    have lighter := Description.totalWeight_parts_lt_of_split split
    simp only [totalWeight_append, totalWeight_cons, totalWeight_map_enter, Task.weight]
    omega
  | leave annotations shape =>
    obtain ⟨schema, _, rfl⟩ := Description.bind_pure_eq_ok.mp performed
    simp only [totalWeight_cons, Task.weight]
    omega

def run (definitions : List (String × Json)) (tasks : List Task) (finished : List Schema) :
    Except DecodeError (List Schema) :=
  match tasks with
  | [] => .ok finished
  | task :: rest =>
    match _ : perform definitions rest finished task with
    | .error cause => .error cause
    | .ok next => run definitions next.tasks next.finished
termination_by totalWeight Task.weight tasks
decreasing_by exact totalWeight_lt_of_perform ‹_›

end Conversion

/-- The schema that a description says, under a table of definitions. -/
def Description.toSchema (definitions : List (String × Json)) (description : Description) :
    Except DecodeError Schema := do
  match ← Conversion.run definitions (Conversion.start description).tasks [] with
  | schema :: _ => return schema
  | [] => throw (.missingMember .document "_tag")

end SchemaOutline
