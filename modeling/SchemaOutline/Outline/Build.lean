import SchemaOutline.Outline.Basic

/-! Building outlines through a list of tasks, one to enter and one to leave each place. -/

set_option autoImplicit false

namespace SchemaOutline.Outline

open Traversal

variable {C : Type}

structure Slot where
  parent : NodeId
  position : Nat

/-- A place that has not been entered. -/
structure Pending where
  schema : Schema
  path : Path
  parent : Option NodeId
  edge : Annotations
  slot : Option Slot

namespace Pending

def root (schema : Schema) : Pending := ⟨schema, .root, none, .empty, none⟩

def annotations (pending : Pending) : Annotations := pending.schema.annotations.merged pending.edge

/-- The place that the link at a position leads to from here. -/
def follow (pending : Pending) (id : NodeId) (link : Link) (position : Nat) : Pending :=
  ⟨link.target, pending.path.step link.segment, some id, link.annotations, some ⟨id, position⟩⟩

def followFrom (pending : Pending) (id : NodeId) (position : Nat) : List Link → List Pending
  | [] => []
  | link :: links => pending.follow id link position :: pending.followFrom id (position + 1) links

def next (pending : Pending) (id : NodeId) : List Pending :=
  pending.followFrom id 0 pending.schema.links

/-- The node of a place that is entered when the given nodes have been made. -/
def node (rule : ContextRule C) (nodes : Array (Node C)) (pending : Pending) : Node C where
  id := nodes.size
  parent := pending.parent
  path := pending.path
  schema := pending.schema
  annotations := pending.annotations
  context := rule pending.schema pending.annotations pending.path
    (pending.parent.bind fun parent => nodes[parent]?)
  children := []

end Pending

/-- What remains to be done. -/
inductive Task where
  | enter (pending : Pending)
  | leave (id : NodeId)

def Task.weight : Task → Nat
  | enter pending => 2 * pending.schema.weight
  | leave _ => 1

/-- What has been built so far. -/
structure Arena (C : Type) where
  /-- The nodes by number, without children unless they have been left. -/
  nodes : Array (Node C)
  /-- For each node that has not been left, the numbers that its children have told. -/
  slots : Array (List (Option NodeId))
  /-- The node without a parent, once it has been left. -/
  root : Option NodeId

def Arena.empty : Arena C := ⟨#[], #[], none⟩

def fillSlot (slots : Array (List (Option NodeId))) (id : NodeId) :
    Option Slot → Array (List (Option NodeId))
  | some slot => slots.modify slot.parent fun children => children.set slot.position (some id)
  | none => slots

def childrenFrom (node : NodeId) (position : Nat) :
    List (Option NodeId) → Except OutlineError (List NodeId)
  | [] => .ok []
  | none :: _ => .error (.unfilledSlot node position)
  | some child :: slots => do
    let children ← childrenFrom node (position + 1) slots
    return child :: children

def perform (rule : ContextRule C) (rest : List Task) (arena : Arena C) :
    Task → Except OutlineError (List Task × Arena C)
  | .enter pending =>
    let id := arena.nodes.size
    let unfilled := List.replicate pending.schema.links.length none
    .ok ((pending.next id).map .enter ++ .leave id :: rest,
      { nodes := arena.nodes.push (pending.node rule arena.nodes)
        slots := (fillSlot arena.slots id pending.slot).push unfilled
        root := arena.root })
  | .leave id => do
    let children ← childrenFrom id 0 (arena.slots[id]?.getD [])
    let isRoot := arena.nodes[id]?.any fun node => node.parent.isNone
    return (rest,
      { nodes := arena.nodes.modify id fun node => { node with children }
        slots := arena.slots.modify id fun _ => []
        root := if isRoot then some id else arena.root })

private theorem totalWeight_followFrom (pending : Pending) (id : NodeId) (position : Nat)
    (links : List Link) :
    totalWeight Task.weight ((pending.followFrom id position links).map .enter) =
      2 * totalWeight (fun link => link.target.weight) links := by
  induction links generalizing position with
  | nil => rfl
  | cons link links ih =>
    have head : Task.weight (.enter (pending.follow id link position)) = 2 * link.target.weight :=
      rfl
    rw [Pending.followFrom, List.map_cons, totalWeight_cons, totalWeight_cons, ih, head]
    omega

theorem totalWeight_lt_of_perform {rule : ContextRule C} {rest : List Task} {arena : Arena C}
    {task : Task} {next : List Task × Arena C}
    (performed : perform rule rest arena task = .ok next) :
    totalWeight Task.weight next.1 < totalWeight Task.weight (task :: rest) := by
  cases task with
  | enter pending =>
    obtain rfl := Except.ok.inj performed
    have lighter := pending.schema.totalWeight_links_lt
    simp only [totalWeight_append, totalWeight_cons, Pending.next, totalWeight_followFrom,
      Task.weight]
    omega
  | leave id =>
    cases filled : childrenFrom id 0 (arena.slots[id]?.getD []) with
    | error cause => simp [perform, filled, bind, Except.bind] at performed
    | ok children =>
      simp only [perform, filled, bind, Except.bind, pure, Except.pure,
        Except.ok.injEq] at performed
      subst performed
      simp only [totalWeight_cons, Task.weight]
      omega

def run (rule : ContextRule C) (tasks : List Task) (arena : Arena C) :
    Except OutlineError (Arena C) :=
  match tasks with
  | [] => .ok arena
  | task :: rest =>
    match _ : perform rule rest arena task with
    | .error cause => .error cause
    | .ok next => run rule next.1 next.2
termination_by totalWeight Task.weight tasks
decreasing_by exact totalWeight_lt_of_perform ‹_›

/-- The outline of a schema. -/
def build (rule : ContextRule C) (schema : Schema) : Except OutlineError (Outline C) := do
  let arena ← run rule [.enter (.root schema)] .empty
  match arena.root with
  | some _ => ofNodes arena.nodes
  | none => throw .missingRoot

end SchemaOutline.Outline
