import SchemaOutline.Json.Numeral
import SchemaOutline.Numeric.Hex

/-! Cutting JSON text into tokens. -/

set_option autoImplicit false

namespace SchemaOutline.Json

inductive Token where
  | openBracket
  | closeBracket
  | openBrace
  | closeBrace
  | comma
  | colon
  | scalar (value : Json)

namespace Token

def isBlank (c : Char) : Bool :=
  c == ' ' || c == '\t' || c == '\n' || c == '\r'

def unescape? : Char → Option Char
  | '"' => some '"'
  | '\\' => some '\\'
  | '/' => some '/'
  | 'b' => some '\x08'
  | 'f' => some '\x0c'
  | 'n' => some '\n'
  | 'r' => some '\r'
  | 't' => some '\t'
  | _ => none

def unit? (a b c d : Char) : Option Nat := Hex.ofDigits? [a, b, c, d]

def pairChar (high low : Nat) : Char :=
  Char.ofNat (0x10000 + (high - 0xD800) * 0x400 + (low - 0xDC00))

/-- A rest of the text that is shorter than the text before. -/
abbrev Shorter (cs : List Char) := { rest : List Char // rest.length < cs.length }

def escape? (cs : List Char) : Option (Char × Shorter cs) :=
  match cs with
  | 'u' :: a :: b :: c :: d :: rest =>
    match unit? a b c d with
    | none => none
    | some unit =>
      if unit < 0xD800 ∨ 0xE000 ≤ unit then
        some (Char.ofNat unit, ⟨rest, by simp only [List.length_cons]; omega⟩)
      else if unit < 0xDC00 then
        match rest with
        | '\\' :: 'u' :: a :: b :: c :: d :: rest =>
          match unit? a b c d with
          | none => none
          | some low =>
            if 0xDC00 ≤ low ∧ low < 0xE000 then
              some (pairChar unit low, ⟨rest, by simp only [List.length_cons]; omega⟩)
            else none
        | _ => none
      else none
  | c :: rest => (unescape? c).map (·, ⟨rest, by simp⟩)
  | [] => none

/-- Reads a string whose opening quote has been read; `gathered` are its characters so far, latest
first. -/
def string? (gathered : List Char) (cs : List Char) : Option (String × List Char) :=
  match cs with
  | [] => none
  | '"' :: rest => some (String.ofList gathered.reverse, rest)
  | '\\' :: rest =>
    match escape? rest with
    | none => none
    | some (c, ⟨after, _⟩) => string? (c :: gathered) after
  | c :: rest => if c.toNat < 0x20 then none else string? (c :: gathered) rest
termination_by cs.length
decreasing_by
  all_goals simp only [List.length_cons]
  all_goals omega

theorem length_lt_of_string? {gathered cs rest : List Char} {text : String}
    (read : string? gathered cs = some (text, rest)) : rest.length < cs.length := by
  fun_induction string? gathered cs with
  | case1 => simp at read
  | case2 gathered others =>
    simp only [Option.some.injEq, Prod.mk.injEq] at read
    simp [read.2]
  | case3 => simp at read
  | case4 gathered others c after shorter _ ih =>
    have := ih read
    simp only [List.length_cons]
    omega
  | case5 => simp at read
  | case6 gathered c others _ _ _ ih =>
    have := ih read
    simp only [List.length_cons]
    omega

def scanFrom? (gathered : Array Token) (cs : List Char) : Option (Array Token) :=
  match cs with
  | [] => some gathered
  | '[' :: rest => scanFrom? (gathered.push .openBracket) rest
  | ']' :: rest => scanFrom? (gathered.push .closeBracket) rest
  | '\x7b' :: rest => scanFrom? (gathered.push .openBrace) rest
  | '\x7d' :: rest => scanFrom? (gathered.push .closeBrace) rest
  | ',' :: rest => scanFrom? (gathered.push .comma) rest
  | ':' :: rest => scanFrom? (gathered.push .colon) rest
  | 'n' :: 'u' :: 'l' :: 'l' :: rest => scanFrom? (gathered.push (.scalar .null)) rest
  | 't' :: 'r' :: 'u' :: 'e' :: rest => scanFrom? (gathered.push (.scalar (.bool true))) rest
  | 'f' :: 'a' :: 'l' :: 's' :: 'e' :: rest =>
    scanFrom? (gathered.push (.scalar (.bool false))) rest
  | '"' :: rest =>
    match _read : string? [] rest with
    | none => none
    | some (text, others) => scanFrom? (gathered.push (.scalar (.str text))) others
  | c :: rest =>
    if isBlank c then scanFrom? gathered rest
    else
      match _read : Numeral.scan (c :: rest) with
      | none => none
      | some (numeral, others) =>
        match numeral.value? with
        | none => none
        | some number => scanFrom? (gathered.push (.scalar (.num number))) others
termination_by cs.length
decreasing_by
  all_goals simp only [List.length_cons]
  all_goals try omega
  · have := length_lt_of_string? _read
    omega
  · have := Numeral.length_lt_of_scan _read
    simpa using this

def scan? (text : String) : Option (Array Token) := scanFrom? #[] text.toList

end Token

end SchemaOutline.Json
