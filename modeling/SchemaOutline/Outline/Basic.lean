import SchemaOutline.Outline.Node
import SchemaOutline.Schema.Link
import Std.Data.HashMap

/-! Outlines: arrays of nodes whose children have larger numbers and stand in ascending order. -/

set_option autoImplicit false

namespace SchemaOutline

inductive OutlineError where
  | missingRoot
  | unfilledSlot (node : NodeId) (position : Nat)
  | missingChildResult (parent child : NodeId)
  | missingFoldResult (node : NodeId)
  | unknownNode (id : NodeId)
deriving DecidableEq, Repr

def OutlineError.message : OutlineError → String
  | missingRoot => "tree builder drained its work-list without producing a root"
  | unfilledSlot node position =>
    "child slot " ++ toString position ++ " of node " ++ NodeId.text node ++ " was never filled"
  | missingChildResult parent child =>
    "fold result of child " ++ NodeId.text child ++ " is missing while combining node " ++
      NodeId.text parent
  | missingFoldResult node => "fold finished without a result for node " ++ NodeId.text node
  | unknownNode id => "node " ++ NodeId.text id ++ " does not belong to this tree"

/-- Maps from texts to the first node that has them. -/
structure OutlineIndex where
  keys : Std.HashMap String NodeId
  paths : Std.HashMap String NodeId

/-- The places that links lead to, starting from a schema. -/
structure Outline (C : Type) where
  nodes : Array (Node C)
  nonempty : 0 < nodes.size
  ascending : ∀ id (inside : id < nodes.size), (id :: nodes[id].children).Pairwise (· < ·)
  closed : ∀ id (inside : id < nodes.size), ∀ child ∈ nodes[id].children, child < nodes.size
  index : Option OutlineIndex

namespace Outline

variable {C : Type}

def gapAfter (size previous position : Nat) : (links : Nat) → List NodeId → Option Nat
  | 0, [] => none
  | links + 1, child :: rest =>
    if previous < child ∧ child < size then gapAfter size child (position + 1) links rest
    else some position
  | _, _ => some position

/-- The first link without a node, with the node that it belongs to. -/
def gap? (nodes : Array (Node C)) : Option (NodeId × Nat) :=
  (List.range nodes.size).findSome? fun id =>
    nodes[id]?.bind fun node =>
      (gapAfter nodes.size id 0 node.schema.links.length node.children).map (id, ·)

private theorem ascending_of_gapAfter {size previous position links : Nat}
    {children : List NodeId} (complete : gapAfter size previous position links children = none) :
    (previous :: children).Pairwise (· < ·) ∧ ∀ child ∈ children, child < size := by
  fun_induction gapAfter size previous position links children with
  | case1 => exact ⟨List.pairwise_singleton .., by simp⟩
  | case2 previous position links child rest placed ih =>
    obtain ⟨ascending, inside⟩ := ih complete
    refine ⟨List.pairwise_cons.mpr ⟨?_, ascending⟩, ?_⟩
    · intro other member
      rcases List.mem_cons.mp member with rfl | later
      · exact placed.1
      · exact Nat.lt_trans placed.1 (List.rel_of_pairwise_cons ascending later)
    · intro other member
      rcases List.mem_cons.mp member with rfl | later
      · exact placed.2
      · exact inside other later
  | case3 => cases complete
  | case4 => cases complete

private theorem gapAfter_of_gap? {nodes : Array (Node C)} (complete : gap? nodes = none)
    {id : NodeId} (inside : id < nodes.size) :
    gapAfter nodes.size id 0 nodes[id].schema.links.length nodes[id].children = none := by
  have here := List.findSome?_eq_none_iff.mp complete id (List.mem_range.mpr inside)
  simpa [inside] using here

def ofNodes (nodes : Array (Node C)) : Except OutlineError (Outline C) :=
  if nonempty : 0 < nodes.size then
    match complete : gap? nodes with
    | some (node, position) => .error (.unfilledSlot node position)
    | none => .ok
      { nodes
        nonempty
        ascending := fun _ inside =>
          (ascending_of_gapAfter (gapAfter_of_gap? complete inside)).1
        closed := fun _ inside => (ascending_of_gapAfter (gapAfter_of_gap? complete inside)).2
        index := none }
  else .error .missingRoot

def size (outline : Outline C) : Nat := outline.nodes.size

def rootId (_ : Outline C) : NodeId := 0

def root (outline : Outline C) : Node C :=
  have nonempty := outline.nonempty
  outline.nodes[0]

def node? (outline : Outline C) (id : NodeId) : Option (Node C) := outline.nodes[id]?

def childrenOf (outline : Outline C) (node : Node C) : List (Node C) :=
  node.children.filterMap outline.node?

def get (outline : Outline C) (id : Fin outline.nodes.size) : Node C := outline.nodes[id]

def childIds (outline : Outline C) (id : Fin outline.nodes.size) : List (Fin outline.nodes.size) :=
  (outline.get id).children.attach.map fun child =>
    ⟨child.1, outline.closed id.1 id.2 child.1 child.2⟩

open Traversal in
private theorem totalWeight_two_pow_lt {size previous : Nat} {later : List Nat}
    (ascending : (previous :: later).Pairwise (· < ·)) (inside : ∀ id ∈ later, id < size) :
    totalWeight (fun id => Nat.pow 2 (size - id)) later < Nat.pow 2 (size - previous) := by
  induction later generalizing previous with
  | nil => exact Nat.two_pow_pos _
  | cons id later ih =>
    have next : previous < id := List.rel_of_pairwise_cons ascending (by simp)
    have bound : id < size := inside id (by simp)
    have rest := ih ascending.of_cons fun other member => inside other (by simp [member])
    have double : Nat.pow 2 (size - id + 1) = Nat.pow 2 (size - id) * 2 := rfl
    have larger : Nat.pow 2 (size - id + 1) ≤ Nat.pow 2 (size - previous) :=
      Nat.pow_le_pow_right (by omega) (by omega)
    rw [totalWeight_cons]
    omega

open Traversal in
/-- A bound for walks down an outline: it is halved from each number to the next, so the children
of a node, with their different larger numbers, together stay below it. -/
theorem totalWeight_children_lt {outline : Outline C} {id : NodeId} {node : Node C}
    (found : outline.node? id = some node) :
    totalWeight (fun child => Nat.pow 2 (outline.nodes.size - child)) node.children <
      Nat.pow 2 (outline.nodes.size - id) := by
  obtain ⟨inside, rfl⟩ := Array.getElem?_eq_some_iff.mp found
  exact totalWeight_two_pow_lt (outline.ascending id inside) (outline.closed id inside)

end Outline

end SchemaOutline
