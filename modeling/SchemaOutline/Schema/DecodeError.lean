import SchemaOutline.Schema.Kind
import SchemaOutline.Schema.Mismatch

/-! Why a description does not describe a schema. -/

set_option autoImplicit false

namespace SchemaOutline

def nestingLimit : Nat := 1024

inductive Malformation where
  | notJson
  | mismatch (mismatch : Mismatch)
  | definitions (found : Json)

/-- What can lack a member. -/
inductive Holder where
  | node (kind : Kind)
  /-- A document of which nothing is left when it has been worked through. -/
  | document

def Holder.name : Holder → String
  | node kind => kind.name
  | document => "document"

inductive DecodeError where
  | unexpectedTag (name : String)
  | missingMember (holder : Holder) (member : String)
  | malformed (cause : Malformation)
  | unknownReference (name : String)
  | tooDeep

def Malformation.message : Malformation → String
  | notJson => "not a JSON text"
  | mismatch cause => cause.message
  | definitions found => "`$defs` must be an object, found " ++ found.toText

def DecodeError.message : DecodeError → String
  | unexpectedTag name => "unexpected AST tag: " ++ name
  | missingMember holder member =>
    "missing member `" ++ member ++ "` on " ++ holder.name ++ " node"
  | malformed cause => "malformed AST description: " ++ cause.message
  | unknownReference name => "unknown definition reference: " ++ name
  | tooDeep => "AST description nested deeper than " ++ toString nestingLimit ++ " levels"

end SchemaOutline
