import SchemaOutline.Text.Quoted

/-! Segments, which lead from a node to one of its children. -/

set_option autoImplicit false

namespace SchemaOutline

/-- One step from a node to a child. -/
inductive Segment where
  | key (name : String)
  | symbol (description : String)
  | index (position : Nat)
  | union (position : Nat)
  | tuple (position : Nat)
  | rest (position : Nat)
  | typeParameter (position : Nat)
  | source
  | target
deriving DecidableEq, Repr, Inhabited

namespace Segment

def text : Segment → String
  | key name => name
  | symbol description => description
  | index position => "index_" ++ toString position
  | union position => "union_" ++ toString position
  | tuple position => "tuple_" ++ toString position
  | rest position => "rest_" ++ toString position
  | typeParameter position => "typeParameter_" ++ toString position
  | source => "from"
  | target => "to"

def spelled : Segment → String
  | key name => "Key(" ++ Text.quoted name ++ ")"
  | symbol description => "Symbol(" ++ Text.quoted description ++ ")"
  | index position => "Index(" ++ toString position ++ ")"
  | union position => "Union(" ++ toString position ++ ")"
  | tuple position => "Tuple(" ++ toString position ++ ")"
  | rest position => "Rest(" ++ toString position ++ ")"
  | typeParameter position => "TypeParameter(" ++ toString position ++ ")"
  | source => "From"
  | target => "To"

end Segment

end SchemaOutline
