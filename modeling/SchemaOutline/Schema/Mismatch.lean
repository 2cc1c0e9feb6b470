import SchemaOutline.Json.Brief

/-! Why a JSON value is not of the form that a description asks for. -/

set_option autoImplicit false

namespace SchemaOutline

inductive Expected where
  | string
  | boolean
  | sequence
  | map
  | node
  | field
  | signature
  | element
  | pair
deriving DecidableEq, Repr, Inhabited

def Expected.text : Expected → String
  | string => "a string"
  | boolean => "a boolean"
  | sequence => "a sequence"
  | map => "a map"
  | node => "struct NodeDto"
  | field => "struct FieldDto"
  | signature => "struct IndexSignatureDto"
  | element => "struct ElementDto"
  | pair => "a tuple of size 2"

inductive Mismatch where
  | wrongSort (found : Json.Brief) (expected : Expected)
  | missingTag
  | emptyNode
  | shortPair (length : Nat)
  | excess (length : Nat)
  | notLiteral
deriving DecidableEq, Repr, Inhabited

def Mismatch.message : Mismatch → String
  | wrongSort found expected => "invalid type: " ++ found.text ++ ", expected " ++ expected.text
  | missingTag => "missing field `_tag`"
  | emptyNode => "invalid length 0, expected struct NodeDto with 16 elements"
  | shortPair length => "invalid length " ++ toString length ++ ", expected " ++ Expected.pair.text
  | excess length =>
    "invalid length " ++ toString length ++ ", expected fewer elements in array"
  | notLiteral => "data did not match any variant of untagged enum LiteralDto"

end SchemaOutline
