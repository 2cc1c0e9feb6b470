/-! The twenty-two kinds of schemas, with their names and labels. -/

set_option autoImplicit false

namespace SchemaOutline

inductive Keyword where
  | string
  | number
  | boolean
  | bigint
  | symbol
  | object
  | undefined
  | void
  | never
  | unknown
  | any
deriving DecidableEq, Repr, Inhabited

namespace Keyword

def name : Keyword → String
  | string => "StringKeyword"
  | number => "NumberKeyword"
  | boolean => "BooleanKeyword"
  | bigint => "BigIntKeyword"
  | symbol => "SymbolKeyword"
  | object => "ObjectKeyword"
  | undefined => "UndefinedKeyword"
  | void => "VoidKeyword"
  | never => "NeverKeyword"
  | unknown => "UnknownKeyword"
  | any => "AnyKeyword"

def label : Keyword → String
  | string => "string"
  | number => "number"
  | boolean => "boolean"
  | bigint => "bigint"
  | symbol => "symbol"
  | object => "object"
  | undefined => "undefined"
  | void => "void"
  | never => "never"
  | unknown => "unknown"
  | any => "any"

end Keyword

inductive Kind where
  | struct
  | union
  | tuple
  | refinement
  | transformation
  | suspend
  | declaration
  | keyword (word : Keyword)
  | literal
  | templateLiteral
  | enums
  | uniqueSymbol
deriving DecidableEq, Repr, Inhabited

namespace Kind

def all : List Kind :=
  [struct, union, tuple, refinement, transformation, suspend, declaration, keyword .string,
    keyword .number, keyword .boolean, keyword .bigint, keyword .symbol, keyword .object, literal,
    keyword .undefined, keyword .void, keyword .never, keyword .unknown, keyword .any,
    templateLiteral, enums, uniqueSymbol]

def name : Kind → String
  | struct => "Struct"
  | union => "Union"
  | tuple => "Tuple"
  | refinement => "Refinement"
  | transformation => "Transformation"
  | suspend => "Suspend"
  | declaration => "Declaration"
  | .keyword word => word.name
  | literal => "Literal"
  | templateLiteral => "TemplateLiteral"
  | enums => "Enums"
  | uniqueSymbol => "UniqueSymbol"

def label : Kind → String
  | struct => "struct"
  | union => "union"
  | tuple => "tuple"
  | refinement => "refinement"
  | transformation => "transformation"
  | suspend => "recursive"
  | declaration => "declaration"
  | .keyword word => word.label
  | literal => "literal"
  | templateLiteral => "template_literal"
  | enums => "enum"
  | uniqueSymbol => "unique_symbol"

/-- Whether schemas of a kind never link to others. -/
def isLeaf : Kind → Bool
  | struct | union | tuple | refinement | transformation | declaration => false
  | _ => true

def ofName? (name : String) : Option Kind := all.find? fun kind => kind.name == name

def position (kind : Kind) : Nat := all.idxOf kind

/-- The semantic type of the kind with a given name; unknown if there is none. -/
def labelOfName (name : String) : String :=
  match ofName? name with
  | some kind => kind.label
  | none => Keyword.unknown.label

theorem mem_all (kind : Kind) : kind ∈ all := by
  cases kind with
  | keyword word => cases word <;> decide
  | _ => decide

theorem name_injective {kind other : Kind} (same : kind.name = other.name) : kind = other := by
  have distinct : ∀ a ∈ all, ∀ b ∈ all, a.name = b.name → a = b := by decide +kernel
  exact distinct kind (mem_all kind) other (mem_all other) same

@[simp] theorem ofName?_name (kind : Kind) : ofName? kind.name = some kind := by
  unfold ofName?
  cases found : all.find? fun other => other.name == kind.name with
  | none => simpa using List.find?_eq_none.mp found kind (mem_all kind)
  | some other =>
    have same : other.name = kind.name := by simpa using List.find?_some found
    rw [name_injective same]

theorem ofName?_eq_some_iff {text : String} {kind : Kind} :
    ofName? text = some kind ↔ kind.name = text := by
  constructor
  · intro found
    simpa using List.find?_some found
  · rintro rfl
    exact ofName?_name kind

end Kind

end SchemaOutline
