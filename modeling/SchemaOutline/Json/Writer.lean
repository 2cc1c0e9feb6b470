import SchemaOutline.Json.Basic
import SchemaOutline.Numeric.Decimal

/-! Writing JSON text without blanks. -/

set_option autoImplicit false

namespace SchemaOutline.Json

/-- Doubles have the fewest digits that read back, positionally from `10 ^ -5` up to below `10 ^ 16`
and with a signed exponent elsewhere. -/
def doubleLayout : Decimal.Layout where
  positionalFrom := -5
  positionalBelow := 16
  plusSign := true

/-- The text of a number. A number that JSON cannot hold is written as null. -/
def Number.text : Number → String
  | .int value => toString value
  | .float value => if value.isFinite then doubleLayout.render value else "null"

def escapeChar (c : Char) : List Char :=
  match c with
  | '"' => ['\\', '"']
  | '\\' => ['\\', '\\']
  | '\n' => ['\\', 'n']
  | '\r' => ['\\', 'r']
  | '\t' => ['\\', 't']
  | '\x08' => ['\\', 'b']
  | '\x0c' => ['\\', 'f']
  | c =>
    if c.toNat < 0x20 then
      ['\\', 'u', '0', '0', Hex.digit (c.toNat / 16), Hex.digit (c.toNat % 16)]
    else [c]

def writeString (written text : String) : String :=
  (text.foldl (fun written c => (escapeChar c).foldl String.push written)
    (written.push '"')).push '"'

mutual

def write (written : String) : Json → String
  | .null => written ++ "null"
  | .bool true => written ++ "true"
  | .bool false => written ++ "false"
  | .num number => written ++ number.text
  | .str text => writeString written text
  | .arr [] => written ++ "[]"
  | .arr (item :: items) => (writeItems (write (written.push '[') item) items).push ']'
  | .obj [] => (written.push '\x7b').push '\x7d'
  | .obj ((name, value) :: members) =>
    (writeMembers (write ((writeString (written.push '\x7b') name).push ':') value) members).push
      '\x7d'

def writeItems (written : String) : List Json → String
  | [] => written
  | item :: items => writeItems (write (written.push ',') item) items

def writeMembers (written : String) : List (String × Json) → String
  | [] => written
  | (name, value) :: members =>
    writeMembers (write ((writeString (written.push ',') name).push ':') value) members

end

def toText (value : Json) : String := write "" value

end SchemaOutline.Json
