import SchemaOutline.Json.Token

/-! Reading JSON text token by token, with the open containers in a list. -/

set_option autoImplicit false

namespace SchemaOutline.Json

def insertMember (members : List (String × Json)) (name : String) (value : Json) :
    List (String × Json) :=
  if members.any (·.1 == name) then
    members.map fun member => if member.1 == name then (name, value) else member
  else members ++ [(name, value)]

/-- A container whose closing token has not been read. -/
inductive Open where
  | array (items : List Json)
  | object (members : List (String × Json))
  /-- An object that waits for the value of a member. -/
  | member (members : List (String × Json)) (name : String)

/-- What the reader may meet next. -/
inductive Expectation where
  | value
  | firstItem
  | firstName
  | name
  | colon
  | separator
  | finished (value : Json)

structure ReaderState where
  stack : List Open
  level : Nat
  expected : Expectation

namespace ReaderState

def start : ReaderState := ⟨[], 0, .value⟩

def complete (stack : List Open) (level : Nat) (value : Json) : ReaderState :=
  match stack with
  | [] => ⟨[], level, .finished value⟩
  | .array items :: others => ⟨.array (value :: items) :: others, level, .separator⟩
  | .member members name :: others =>
    ⟨.object ((name, value) :: members) :: others, level, .separator⟩
  | .object members :: others => ⟨.object members :: others, level, .separator⟩

/-- The members of a closed object: of several with one name, the first position and the last value
count. -/
def gather (latestFirst : List (String × Json)) : List (String × Json) :=
  latestFirst.foldr (fun member members => insertMember members member.1 member.2) []

def enter (limit : Option Nat) (state : ReaderState) (container : Open)
    (expected : Expectation) : Option ReaderState :=
  match limit with
  | none => some ⟨container :: state.stack, state.level + 1, expected⟩
  | some most =>
    if state.level < most then some ⟨container :: state.stack, state.level + 1, expected⟩ else none

def readValue (limit : Option Nat) (state : ReaderState) : Token → Option ReaderState
  | .scalar value => some (complete state.stack state.level value)
  | .openBracket => state.enter limit (.array []) .firstItem
  | .openBrace => state.enter limit (.object []) .firstName
  | _ => none

def close (state : ReaderState) : Token → Option ReaderState
  | .closeBracket =>
    match state.stack with
    | .array items :: others => some (complete others (state.level - 1) (.arr items.reverse))
    | _ => none
  | .closeBrace =>
    match state.stack with
    | .object members :: others =>
      some (complete others (state.level - 1) (.obj (gather members)))
    | _ => none
  | _ => none

def readName (state : ReaderState) : Token → Option ReaderState
  | .scalar (.str name) =>
    match state.stack with
    | .object members :: others => some ⟨.member members name :: others, state.level, .colon⟩
    | _ => none
  | _ => none

def readComma (state : ReaderState) : Option ReaderState :=
  match state.stack with
  | .array _ :: _ => some { state with expected := .value }
  | .object _ :: _ => some { state with expected := .name }
  | _ => none

def step (limit : Option Nat) (state : ReaderState) (token : Token) : Option ReaderState :=
  match state.expected, token with
  | .value, token => state.readValue limit token
  | .firstItem, .closeBracket => state.close token
  | .firstItem, token => state.readValue limit token
  | .firstName, .closeBrace => state.close token
  | .firstName, token => state.readName token
  | .name, token => state.readName token
  | .colon, .colon => some { state with expected := .value }
  | .colon, _ => none
  | .separator, .comma => state.readComma
  | .separator, token => state.close token
  | .finished _, _ => none

end ReaderState

/-- Reads a text that holds one JSON value, with at most `limit` containers open at a time. -/
def ofTextWithin? (limit : Option Nat) (text : String) : Option Json := do
  let tokens ← Token.scan? text
  let state ← tokens.foldlM (ReaderState.step limit) ReaderState.start
  match state.expected with
  | .finished value => some value
  | _ => none

def ofText? (text : String) : Option Json := ofTextWithin? none text

end SchemaOutline.Json
