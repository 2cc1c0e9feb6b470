import SchemaOutline.Schema.Basic
import SchemaOutline.Traversal.Ascent

/-! Describing schemas in JSON, with suspended ones by their labels. -/

set_option autoImplicit false

namespace SchemaOutline

open Traversal

def Annotations.describe (annotations : Annotations) : Json :=
  .obj (annotations.entries.map fun entry => (entry.1.name, entry.2))

def Literal.describe : Literal → Json
  | string text => .str text
  | number value => .num (.float value)
  | boolean value => .bool value
  | bigint digits => .obj [("bigint", .str digits)]
  | null => .null

def PropertyKey.describe : PropertyKey → String × Json
  | .name text => ("name", .str text)
  | .symbol description => ("symbol", .str description)

def Field.describe (field : Field Json) : Json :=
  .obj [field.key.describe, ("type", field.type), ("optional", .bool field.optional),
    ("readonly", .bool field.readonly), ("annotations", field.annotations.describe)]

def IndexSignature.describe (signature : IndexSignature Json) : Json :=
  .obj [("parameter", signature.parameter), ("type", signature.type)]

def Element.describe (element : Element Json) : Json :=
  .obj [("type", element.type), ("optional", .bool element.optional),
    ("annotations", element.annotations.describe)]

def Shape.optionalMember (name : String) (text : Option String) : List (String × Json) :=
  (text.map fun text => (name, .str text)).toList

def Leaf.members : Leaf → List (String × Json)
  | keyword _ => []
  | literal value => [("literal", value.describe)]
  | templateLiteral pattern => [("pattern", .str pattern)]
  | enums members =>
    [("enums", .arr (members.map fun (name, value) => .arr [.str name, value.describe]))]
  | uniqueSymbol description => [("description", .str description)]

/-- The members that a shape uses, with described schemas in the places of schemas. -/
def Shape.members : Shape Json → List (String × Json)
  | struct fields signatures =>
    [("fields", .arr (fields.map Field.describe)),
      ("indexSignatures", .arr (signatures.map IndexSignature.describe))]
  | union members => [("types", .arr members)]
  | tuple elements rest =>
    [("elements", .arr (elements.map Element.describe)),
      ("rest", .arr (rest.map Element.describe))]
  | refinement name base => ("from", base) :: optionalMember "name" name
  | transformation source target => [("from", source), ("to", target)]
  | declaration name parameters =>
    ("typeParameters", .arr parameters) :: optionalMember "name" name
  | suspend suspension => optionalMember "ref" suspension.label
  | .leaf content => content.members

namespace Schema

def describeOuter (schema : Schema) (parts : List Json)
    (fits : parts.length = schema.parts.length) : List (String × Json) :=
  ("_tag", .str schema.kind.name) :: ("annotations", schema.annotations.describe) ::
    (schema.shape.refill parts fits).members

def describing : Ascent Id Schema Schema Json where
  weight := weight
  parts := parts
  expand schema := ⟨schema, schema.totalWeight_parts_lt⟩
  combine schema parts fits := .obj (describeOuter schema parts fits)

def describe (schema : Schema) : Json := (ascend describing schema).run

/-- A document that describes a schema, with a table of definitions for what it suspends. -/
def describeUnder (table : List (String × Json)) (schema : Schema) : Json :=
  match schema.describe with
  | .obj members => .obj (members ++ [("$defs", .obj table)])
  | other => other

end Schema

end SchemaOutline
