import SchemaOutline.Text.Blank

/-! Settings of diagnostic logging, from two texts for the filter and one for the format. -/

set_option autoImplicit false

namespace SchemaOutline.Logging

inductive Format where
  | text
  | tree
  | json
deriving DecidableEq, Repr, Inhabited

namespace Format

def name : Format → String
  | text => "text"
  | tree => "tree"
  | json => "json"

/-- The format with a given name, whatever its case and the blanks around it; plain text if there
is none. -/
def ofName (name : String) : Format :=
  match Text.lowerAscii (Text.trim name) with
  | "tree" => tree
  | "json" => json
  | _ => text

end Format

structure Settings where
  filter : Option String
  format : Format
deriving DecidableEq, Repr, Inhabited

namespace Settings

def disabled : Settings := ⟨none, .text⟩

/-- The settings given by a filter, another one to fall back on, and the name of a format. -/
def ofTexts (filter fallback format : Option String) : Settings where
  filter := ((filter.toList ++ fallback.toList).map Text.trim).find? fun text => !text.isEmpty
  format := (format.map Format.ofName).getD .text

def isEnabled (settings : Settings) : Bool := settings.filter.isSome

end Settings

end SchemaOutline.Logging
