import SchemaOutline.Path.Basic

/-! Paths as cells with addresses, and a comparison that stops where the cells are shared. -/

set_option autoImplicit false

namespace SchemaOutline.Path

structure Cell where
  address : Nat
  segment : Segment
deriving DecidableEq, Repr

/-- A path with the addresses of its cells. -/
structure Linked where
  cells : List Cell
  length : Nat
  length_eq : length = cells.length

namespace Linked

def root : Linked := ⟨[], 0, List.length_nil.symm⟩

def child (linked : Linked) (address : Nat) (segment : Segment) : Linked :=
  ⟨⟨address, segment⟩ :: linked.cells, linked.length + 1, by simp [linked.length_eq]⟩

def ofCells (cells : List Cell) : Linked :=
  cells.foldl (fun linked cell => linked.child cell.address cell.segment) root

def path (linked : Linked) : Path :=
  ⟨linked.cells.map Cell.segment, linked.length, by simp [linked.length_eq]⟩

/-- Cells at one address are taken for the same. -/
instance : BEq Linked := ⟨fun linked other =>
  linked.length == other.length &&
    agree (fun cell other => cell.address == other.address) Cell.segment linked.cells other.cells⟩

@[simp] theorem path_child (linked : Linked) (address : Nat) (segment : Segment) :
    (linked.child address segment).path = linked.path.child segment := rfl

end Linked

end SchemaOutline.Path
