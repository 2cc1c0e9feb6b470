import SchemaOutline.Entity.Fingerprint
import SchemaOutline.Entity.Stamp

/-! Signatures of the marked fields of a schema, struct by struct. -/

set_option autoImplicit false

namespace SchemaOutline

open Traversal

namespace Signature

def rootLabel : String := "root"

def fieldKind : String := "PropertySignature"

def text (path kind marker : String) : String := path ++ ":" ++ kind ++ ":" ++ marker

def extend (path key : String) : String := if path.isEmpty then key else path ++ "." ++ key

/-- The signature of a schema that is marked itself. -/
def own? (path : String) (schema : Schema) : Option String :=
  schema.annotations.entityField?.map fun marker =>
    text (if path.isEmpty then rootLabel else path) schema.kind.name marker

def ofField? (path : String) (field : Field Schema) : Option String :=
  field.annotations.entityField?.map fun marker =>
    text (extend path field.key.text) fieldKind marker

/-- The signatures of a schema at a path, without those below its fields. -/
def here (path : String) (schema : Schema) : List String :=
  (own? path schema).toList ++ (schema.fields?.getD []).filterMap (ofField? path)

structure Located where
  path : String
  schema : Schema

def Located.next (located : Located) : List Located :=
  (located.schema.fields?.getD []).map fun field =>
    ⟨extend located.path field.key.text, field.type⟩

def Located.weight (located : Located) : Nat := located.schema.weight

theorem Located.totalWeight_next_lt (located : Located) :
    totalWeight weight located.next < located.weight := by
  have types : totalWeight weight located.next =
      totalWeight Schema.weight located.schema.fieldTypes := by
    unfold next Schema.fieldTypes Schema.fields? weight
    cases located.schema.shape <;> simp
  rw [types]
  exact located.schema.totalWeight_fieldTypes_lt

def visit (signatures : Array String) (located : Located) :
    Visit Located.weight (Array String) located :=
  ⟨signatures ++ here located.path located.schema, located.next, located.totalWeight_next_lt⟩

end Signature

namespace Schema

/-- The signatures of everything that is marked, in pre-order. -/
def signatures (schema : Schema) : List String :=
  (descend Signature.Located.weight Signature.visit #[] [⟨"", schema⟩]).toList

def signatureSet (schema : Schema) : SignatureSet := .ofList schema.signatures

def fingerprint (schema : Schema) : Fingerprint := .ofSet schema.signatureSet

end Schema

end SchemaOutline
