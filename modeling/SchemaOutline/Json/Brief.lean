import SchemaOutline.Json.Writer
import SchemaOutline.Text.Quoted

/-! JSON values in brief, for messages. -/

set_option autoImplicit false

namespace SchemaOutline.Json

/-- What a message tells about a value. -/
inductive Brief where
  | null
  | boolean (value : Bool)
  | number (value : Number)
  | string (text : String)
  | sequence
  | map
deriving DecidableEq, Repr, Inhabited

def brief : Json → Brief
  | null => .null
  | bool value => .boolean value
  | num value => .number value
  | str text => .string text
  | arr _ => .sequence
  | obj _ => .map

def Brief.text : Brief → String
  | null => "null"
  | boolean value => "boolean `" ++ (if value then "true" else "false") ++ "`"
  | number (.int value) => "integer `" ++ Number.text (.int value) ++ "`"
  | number (.float value) => "floating point `" ++ Number.text (.float value) ++ "`"
  | string text => "string " ++ Text.quoted text
  | sequence => "sequence"
  | map => "map"

end SchemaOutline.Json
