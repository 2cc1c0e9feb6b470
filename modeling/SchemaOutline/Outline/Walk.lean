import SchemaOutline.Outline.Basic

/-! Walking through an outline in pre-order, without a call stack. -/

set_option autoImplicit false

namespace SchemaOutline.Outline

open Traversal

variable {C : Type}

/-- The next node of a walk, with the numbers that are to be visited after it. A number that no node
has is passed over. -/
def next? (outline : Outline C) : List NodeId → Option (Node C × List NodeId)
  | [] => none
  | id :: pending =>
    match outline.node? id with
    | some node => some (node, node.children ++ pending)
    | none => outline.next? pending

theorem totalWeight_lt_of_next? {outline : Outline C} {pending : List NodeId}
    {next : Node C × List NodeId} (found : outline.next? pending = some next) :
    totalWeight (fun id => Nat.pow 2 (outline.nodes.size - id)) next.2 <
      totalWeight (fun id => Nat.pow 2 (outline.nodes.size - id)) pending := by
  fun_induction outline.next? pending with
  | case1 => cases found
  | case2 id pending node here =>
    obtain rfl := Option.some.inj found
    have := totalWeight_children_lt here
    rw [totalWeight_append, totalWeight_cons]
    omega
  | case3 id pending _ ih =>
    have := ih found
    rw [totalWeight_cons]
    omega

def walkOn (outline : Outline C) (visited : Array (Node C)) (pending : List NodeId) :
    Array (Node C) :=
  match _ : outline.next? pending with
  | none => visited
  | some next => outline.walkOn (visited.push next.1) next.2
termination_by totalWeight (fun id => Nat.pow 2 (outline.nodes.size - id)) pending
decreasing_by exact totalWeight_lt_of_next? ‹_›

def walkFrom (outline : Outline C) (start : NodeId) : List (Node C) :=
  (outline.walkOn #[] [start]).toList

def walk (outline : Outline C) : List (Node C) := outline.walkFrom outline.rootId

end SchemaOutline.Outline
