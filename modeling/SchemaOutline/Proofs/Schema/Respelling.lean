import Mathlib
import SchemaOutline.Proofs.Description.Absence
import SchemaOutline.Proofs.Description.Respelling
import SchemaOutline.Proofs.Schema.Decoding

/-! Documents with records as objects or as arrays are decoded alike. -/

set_option autoImplicit false
set_option relaxedAutoImplicit false

namespace SchemaOutline

open Description
open Relation (ReflTransGen)

namespace Schema

variable {document other : Json}

theorem decode_eq_of_respelled (respelled : Json.Respelled (.record .node) document other)
    (noTable : document.get? "$defs" = none) : decode other = decode document := by
  have sameRead : Description.read document = Description.read other := respelled.readAlike
  have sameJson : Description.ofJson other = Description.ofJson document := by
    simp only [Description.ofJson, Json.nestsWithin_iff, respelled.depth_eq, sameRead]
  have sameTable : definitions other = definitions document := by
    rw [definitions, definitions, noTable, respelled.get?_eq_none noTable]
  rw [decode, decode, sameJson, sameTable]

theorem decode_eq_of_respellings
    (respelled : ReflTransGen (Json.Respelled (.record .node)) document other)
    (noTable : document.get? "$defs" = none) :
    decode other = decode document ∧ other.get? "$defs" = none := by
  induction respelled with
  | refl => exact ⟨rfl, noTable⟩
  | tail _ last ih =>
    obtain ⟨same, stillNoTable⟩ := ih
    exact ⟨(decode_eq_of_respelled last stillNoTable).trans same, last.get?_eq_none stillNoTable⟩

/-- Documents without a table of definitions that differ only in the spellings of their records are
decoded alike. In both spellings of a record, a member that may be null is read as if it were not
there when it is null, but a literal that is null is there. -/
theorem decode_respelled (respelled : ReflTransGen (Json.Respelled (.record .node)) document other)
    (noTable : document.get? "$defs" = none) :
    decode other = decode document ∧
    (∀ (sort : Record) (name : String) (form : Form) (before after : List (String × Json)),
      sort.form? name = some (.optional form) →
      (before ++ (name, .null) :: after).map Prod.fst <+: sort.names →
      ∀ spelled ∈ Json.spellings (before ++ (name, .null) :: after),
        ReadAlike (.record sort) (.obj (before ++ after)) spelled) ∧
    ∀ (members : List (String × Json)) (description : Description),
      ("literal", .null) ∈ members → members.map Prod.fst <+: Record.node.names →
      ∀ spelled ∈ Json.spellings members, Description.read spelled = .ok description →
        description.body.literal = some .null :=
  ⟨(decode_eq_of_respellings respelled noTable).1,
    fun _ _ _ _ _ optional first _ => readAlike_null optional first,
    fun _ _ inside first _ => literal_eq_null inside first⟩

namespace Birth

def number : List (String × Json) := [("_tag", .str "NumberKeyword")]

def field (type : Json) : List (String × Json) :=
  [("name", .str "born"), ("symbol", .null), ("type", type)]

def struct (field : Json) : List (String × Json) :=
  [("_tag", .str "Struct"), ("annotations", .null), ("fields", .arr [field])]

def objects : Json := .obj (struct (.obj (field (.obj number))))

def arrays : Json :=
  .arr [.str "Struct", .null, .arr [.arr [.str "born", .null, .arr [.str "NumberKeyword"]]]]

private theorem respelled_struct {field other : Json}
    (respelled : Json.Respelled (.record .field) field other) :
    Json.Respelled (.record .node) (.obj (struct field)) (.obj (struct other)) :=
  .member rfl [("_tag", .str "Struct"), ("annotations", .null)] [] (.item [] [] respelled)

private theorem respelled_field {type other : Json}
    (respelled : Json.Respelled (.record .node) type other) :
    Json.Respelled (.record .field) (.obj (field type)) (.obj (field other)) :=
  .member rfl [("name", .str "born"), ("symbol", .null)] [] (.present respelled)

private theorem respelled_arrays :
    ReflTransGen (Json.Respelled (.record .node)) objects arrays := by
  have type : Json.Respelled (.record .node) (.obj number) (.arr [.str "NumberKeyword"]) :=
    .array (by decide) nofun
  have field : Json.Respelled (.record .field) (.obj (field (.arr [.str "NumberKeyword"])))
      (.arr [.str "born", .null, .arr [.str "NumberKeyword"]]) :=
    .array ⟨["optional", "readonly", "annotations"], rfl⟩ nofun
  have whole : Json.Respelled (.record .node)
      (.obj (struct (.arr [.str "born", .null, .arr [.str "NumberKeyword"]]))) arrays :=
    .array (by decide) nofun
  exact .tail (.tail (.tail .refl (respelled_struct (respelled_field type)))
    (respelled_struct field)) whole

/-- What the document of objects says, the document of arrays says as well, and the field is read as
if it had no symbol. -/
theorem decode_arrays_eq_decode_objects :
    ReflTransGen (Json.Respelled (.record .node)) objects arrays ∧
      objects.get? "$defs" = none ∧
      (decode arrays).isOk = true ∧ decode arrays = decode objects ∧
      ∀ type, ∀ spelled ∈ Json.spellings (field type),
        ReadAlike (.record .field) (.obj [("name", .str "born"), ("type", type)]) spelled := by
  obtain ⟨same, absent, _⟩ := decode_respelled respelled_arrays rfl
  refine ⟨respelled_arrays, rfl, by cbv, same, fun type => ?_⟩
  exact absent .field "symbol" .text [("name", .str "born")] [("type", type)] rfl
    ⟨["optional", "readonly", "annotations"], rfl⟩

end Birth

end Schema

end SchemaOutline
