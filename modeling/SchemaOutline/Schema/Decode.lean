import SchemaOutline.Description.Content
import SchemaOutline.Description.Reading
import SchemaOutline.Json.Nesting
import SchemaOutline.Json.Reader
import SchemaOutline.Schema.Conversion

/-! Decoding JSON documents in stages, and resolving suspended schemas one level at a time. -/

set_option autoImplicit false

namespace SchemaOutline

def Description.ofJson (document : Json) : Except DecodeError Description :=
  if document.nestsWithin nestingLimit then
    (Description.read document).mapError fun mismatch => .malformed (.mismatch mismatch)
  else .error .tooDeep

namespace Schema

def definitions (document : Json) : Except DecodeError (List (String × Json)) :=
  match document.get? "$defs" with
  | none => .ok []
  | some (.obj table) => .ok table
  | some found => .error (.malformed (.definitions found))

def decodeUnder (table : List (String × Json)) (document : Json) : Except DecodeError Schema := do
  let description ← Description.ofJson document
  description.toSchema table

/-- Checks that every definition of a table describes a schema under that table. -/
def checkDefinitions (table : List (String × Json)) : Except DecodeError Unit :=
  table.forM fun definition => discard (decodeUnder table definition.2)

/-- The schema of a document. -/
def decode (document : Json) : Except DecodeError Schema := do
  let description ← Description.ofJson document
  let table ← definitions document
  checkDefinitions table
  description.toSchema table

def textLimit : Nat := 127

def decodeText (text : String) : Except DecodeError Schema :=
  match Json.ofTextWithin? (some textLimit) text with
  | none => .error (.malformed .notJson)
  | some document => decode document

end Schema

/-- The schema that a suspended one stands for, if there is one, where the given function says what
each routine finds. -/
def Suspension.resolve? (find? : Routine → Option Schema) (suspension : Suspension) :
    Option Schema :=
  match suspension.resolution with
  | .routine routine => find? routine
  | .definition table name =>
    (Json.lookup? table name).bind fun document => (Schema.decodeUnder table document).toOption

def Schema.suspension? (schema : Schema) : Option Suspension :=
  match schema.shape with
  | .suspend suspension => some suspension
  | _ => none

/-- A suspension with its label, and with its target left out. -/
def Suspension.spelled (suspension : Suspension) : String :=
  let label := match suspension.label with
    | some label => "Some(" ++ Text.quoted label ++ ")"
    | none => "None"
  "Suspend \x7b label: " ++ label ++ ", .. \x7d"

end SchemaOutline
