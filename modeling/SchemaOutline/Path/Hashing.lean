import SchemaOutline.Path.Basic

/-! What a hasher sees of a path: its length, and its segments back to the root. -/

set_option autoImplicit false

namespace SchemaOutline

/-- A piece that a hasher is fed with. -/
inductive HashPart where
  | number (value : Nat)
  | sort (position : Nat)
  | text (text : String)
deriving DecidableEq, Repr

def Segment.hashParts : Segment → List HashPart
  | key name => [.sort 0, .text name]
  | symbol description => [.sort 1, .text description]
  | index position => [.sort 2, .number position]
  | union position => [.sort 3, .number position]
  | tuple position => [.sort 4, .number position]
  | rest position => [.sort 5, .number position]
  | typeParameter position => [.sort 6, .number position]
  | source => [.sort 7]
  | target => [.sort 8]

def Path.hashParts (path : Path) : List HashPart :=
  .number path.length :: path.reversed.flatMap Segment.hashParts

end SchemaOutline
