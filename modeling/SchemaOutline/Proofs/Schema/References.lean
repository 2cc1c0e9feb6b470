import Mathlib
import SchemaOutline.Proofs.Schema.Decoding

/-! Every suspension inside a decoded schema refers to a definition of its table. -/

set_option autoImplicit false
set_option relaxedAutoImplicit false

namespace SchemaOutline

def Suspension.RefersTo (table : List (String × Json)) (suspension : Suspension) : Prop :=
  ∃ name definition, Json.lookup? table name = some definition ∧
    suspension = ⟨some name, .definition table name⟩

namespace Schema

/-- Every suspension inside a schema refers to a definition of a table. -/
inductive Grounded (table : List (String × Json)) : Schema → Prop
  | intro {schema : Schema} (parts : ∀ part ∈ schema.parts, Grounded table part)
      (own : ∀ suspension, schema.suspension? = some suspension → suspension.RefersTo table) :
      Grounded table schema

/-- From a schema another one is reached, going to a part or to what a suspension stands for. -/
inductive Reaches (find? : Routine → Option Schema) : Schema → Schema → Prop
  | refl (schema : Schema) : Reaches find? schema schema
  | part {schema part target : Schema} (inside : part ∈ schema.parts)
      (reaches : Reaches find? part target) : Reaches find? schema target
  | resolved {schema found target : Schema} {suspension : Suspension}
      (suspends : schema.suspension? = some suspension)
      (resolves : suspension.resolve? find? = some found) (reaches : Reaches find? found target) :
      Reaches find? schema target

variable {find? : Routine → Option Schema} {table : List (String × Json)}

theorem Grounded.part {schema part : Schema} (grounded : Grounded table schema)
    (inside : part ∈ schema.parts) : Grounded table part := by
  cases grounded with
  | intro parts _ => exact parts part inside

theorem Grounded.own {schema : Schema} {suspension : Suspension}
    (grounded : Grounded table schema) (suspends : schema.suspension? = some suspension) :
    suspension.RefersTo table := by
  cases grounded with
  | intro _ own => exact own suspension suspends

theorem shape_suspend_eq_ok_iff {α : Type} {body : Description.Body α} {shape : Shape α} :
    body.shape table .suspend = .ok shape ↔ ∃ name definition, body.reference = some name ∧
      Json.lookup? table name = some definition ∧
      shape = .suspend ⟨some name, .definition table name⟩ := by
  constructor
  · intro isShape
    obtain ⟨name, isName, isShape⟩ := Description.bind_eq_ok.mp isShape
    rw [Description.required_eq_ok] at isName
    cases known : Json.lookup? table name with
    | none =>
      rw [known] at isShape
      cases isShape
    | some definition =>
      rw [known] at isShape
      exact ⟨name, definition, isName, known, (Except.ok.inj isShape).symm⟩
  · rintro ⟨name, definition, isName, known, rfl⟩
    refine Description.bind_eq_ok.mpr ⟨name, Description.required_eq_ok.mpr isName, ?_⟩
    rw [known]
    rfl

private theorem refersTo_of_split {description : Description}
    {layer : Annotations × Shape Description} (found : description.split table = .ok layer)
    (isSuspend : layer.2.kind = .suspend) :
    ∃ name definition, Json.lookup? table name = some definition ∧
      layer.2 = .suspend ⟨some name, .definition table name⟩ := by
  unfold Description.split at found
  cases named : Kind.ofName? description.tag with
  | none =>
    rw [named] at found
    cases found
  | some kind =>
    rw [named] at found
    obtain ⟨shape, isShape, rfl⟩ := Description.bind_pure_eq_ok.mp found
    have same : shape.kind = kind := Description.Body.kind_shape isShape
    obtain rfl : kind = .suspend := same.symm.trans isSuspend
    obtain ⟨name, definition, _, known, rfl⟩ := shape_suspend_eq_ok_iff.mp isShape
    exact ⟨name, definition, known, rfl⟩

theorem shape_of_suspension? {schema : Schema} {suspension : Suspension}
    (suspends : schema.suspension? = some suspension) : schema.shape = .suspend suspension := by
  unfold suspension? at suspends
  cases isShape : schema.shape with
  | suspend other =>
    rw [isShape] at suspends
    exact congrArg Shape.suspend (Option.some.inj suspends)
  | _ =>
    rw [isShape] at suspends
    cases suspends

theorem grounded_of_convert {description : Description} {schema : Schema}
    (ok : description.convert table = .ok schema) : Grounded table schema := by
  induction description using Description.induct generalizing schema with
  | step description ih =>
    obtain ⟨layer, schemas, found, solved, fits, rfl⟩ :=
      Description.exists_layer_of_convert ok
    constructor
    · intro part inside
      have isPart : part ∈ schemas := by
        have parts := Shape.parts_refill layer.2 schemas fits
        rwa [Schema.parts, shape_mk, parts] at inside
      obtain ⟨inner, isInner, converted⟩ := Shape.exists_of_mem_mapM solved isPart
      exact ih inner (Description.mem_inner_of_split found isInner) converted
    · intro suspension suspends
      have isShape := shape_of_suspension? suspends
      rw [shape_mk] at isShape
      have isSuspend : layer.2.kind = .suspend := by
        rw [← Shape.kind_refill layer.2 schemas fits, isShape]
        rfl
      obtain ⟨name, definition, known, layerShape⟩ := refersTo_of_split found isSuspend
      obtain ⟨annotations, shape⟩ := layer
      obtain rfl : shape = .suspend ⟨some name, .definition table name⟩ := layerShape
      exact ⟨name, definition, known, (Shape.suspend.inj isShape).symm⟩

theorem grounded_of_decodeUnder {value : Json} {schema : Schema}
    (ok : decodeUnder table value = .ok schema) : Grounded table schema := by
  obtain ⟨description, _, ok⟩ := Description.bind_eq_ok.mp ok
  rw [Conversion.toSchema_eq_convert] at ok
  exact grounded_of_convert ok

private theorem forM_decodeUnder_eq_ok_iff {definitions : List (String × Json)} :
    definitions.forM (fun definition => discard (decodeUnder table definition.2)) = .ok () ↔
      ∀ definition ∈ definitions, ∃ schema, decodeUnder table definition.2 = .ok schema := by
  induction definitions with
  | nil => exact iff_of_true rfl nofun
  | cons definition definitions ih =>
    rw [List.forall_mem_cons, ← ih]
    change (discard (decodeUnder table definition.2) >>= fun _ => definitions.forM _) = _ ↔ _
    cases decodeUnder table definition.2 with
    | error cause => exact iff_of_false nofun (by simp)
    | ok schema => exact (and_iff_right ⟨schema, rfl⟩).symm

theorem checkDefinitions_eq_ok_iff : checkDefinitions table = .ok () ↔
    ∀ definition ∈ table, ∃ schema, decodeUnder table definition.2 = .ok schema :=
  forM_decodeUnder_eq_ok_iff

theorem grounded_of_decode {document : Json} {schema : Schema}
    (ok : decode document = .ok schema) :
    Grounded (tableOf document) schema ∧
      ∀ definition ∈ tableOf document, ∃ decoded,
        decodeUnder (tableOf document) definition.2 = .ok decoded := by
  obtain ⟨description, _, ok⟩ := Description.bind_eq_ok.mp ok
  obtain ⟨table, isTable, ok⟩ := Description.bind_eq_ok.mp ok
  obtain rfl := definitions_eq_tableOf isTable
  obtain ⟨_, checked, ok⟩ := Description.bind_eq_ok.mp ok
  rw [Conversion.toSchema_eq_convert] at ok
  exact ⟨grounded_of_convert ok, checkDefinitions_eq_ok_iff.mp checked⟩

theorem resolve?_of_lookup? {name : String} {definition : Json}
    (known : Json.lookup? table name = some definition) :
    Suspension.resolve? find? ⟨some name, .definition table name⟩ =
      (decodeUnder table definition).toOption := by
  show (Json.lookup? table name).bind _ = _
  rw [known]
  rfl

theorem exists_definition_of_resolve? {suspension : Suspension} {found : Schema}
    (refers : suspension.RefersTo table) (resolves : suspension.resolve? find? = some found) :
    ∃ definition ∈ table, decodeUnder table definition.2 = .ok found := by
  obtain ⟨name, definition, known, rfl⟩ := refers
  rw [resolve?_of_lookup? known] at resolves
  refine ⟨(name, definition), Members.mem_of_lookup known, ?_⟩
  cases decoded : decodeUnder table definition with
  | error cause =>
    rw [decoded] at resolves
    cases resolves
  | ok other =>
    rw [decoded] at resolves
    exact congrArg Except.ok (Option.some.inj resolves)

/-- Going from a grounded schema to a part or along a reference leads to grounded schemas only. -/
theorem Grounded.of_reaches {schema target : Schema} (grounded : Grounded table schema)
    (reaches : Reaches find? schema target) : Grounded table target := by
  induction reaches with
  | refl => exact grounded
  | part inside _ ih => exact ih (grounded.part inside)
  | resolved suspends resolves _ ih =>
    -- The schema found was decoded under the same table, so it refers to nothing else.
    obtain ⟨_, _, decoded⟩ := exists_definition_of_resolve? (grounded.own suspends) resolves
    exact ih (grounded_of_decodeUnder decoded)

theorem get?_of_lookup?_tableOf {document definition : Json} {name : String}
    (known : Json.lookup? (tableOf document) name = some definition) :
    document.get? "$defs" = some (.obj (tableOf document)) := by
  unfold tableOf at known ⊢
  split
  · rename_i table found
    exact found
  · rename_i noTable
    split at known
    · rename_i table found
      exact absurd found (noTable table)
    · cases known

/-- Every suspension that is reached from a decoded schema goes by the name of a definition of the
document, and stands for the schema that this definition says under the table of the document. -/
theorem resolves_of_reaches {document : Json} {schema target : Schema}
    {suspension : Suspension} (ok : decode document = .ok schema)
    (reaches : Reaches find? schema target) (suspends : target.suspension? = some suspension) :
    ∃ table name definition resolved,
      document.get? "$defs" = some (.obj table) ∧
      suspension.label = some name ∧
      Json.lookup? table name = some definition ∧
      decodeUnder table definition = .ok resolved ∧
      suspension.resolve? find? = some resolved := by
  obtain ⟨grounded, decodes⟩ := grounded_of_decode ok
  obtain ⟨name, definition, known, rfl⟩ := (grounded.of_reaches reaches).own suspends
  have isTable := get?_of_lookup?_tableOf known
  obtain ⟨resolved, decoded⟩ := decodes (name, definition) (Members.mem_of_lookup known)
  refine ⟨tableOf document, name, definition, resolved, isTable, rfl, known, decoded, ?_⟩
  rw [resolve?_of_lookup? known, decoded]
  rfl

namespace Friends

def person : Json :=
  .obj [("_tag", .str "Struct"),
    ("fields", .arr [.obj [("name", .str "friend"),
      ("type", .obj [("_tag", .str "Suspend"), ("ref", .str "Person")])]]),
    ("$defs", .obj [])]

def document : Json :=
  .obj [("_tag", .str "Union"),
    ("types", .arr [.obj [("_tag", .str "Suspend"), ("ref", .str "Person")]]),
    ("$defs", .obj [("Person", person)])]

def reference : Suspension := ⟨some "Person", .definition [("Person", person)] "Person"⟩

def suspended : Schema := .ofShape (.suspend reference)

def personSchema : Schema :=
  .ofShape (.struct [⟨.name "friend", suspended, false, false, .empty⟩] [])

def schema : Schema := .ofShape (.union [suspended])

theorem decode_document : decode document = .ok schema := by cbv

def findNone (_ : Routine) : Option Schema := none

private theorem resolve?_reference : reference.resolve? findNone = some personSchema := by cbv

theorem reaches_suspended : Reaches findNone schema suspended := by
  have inSchema : suspended ∈ schema.parts := List.mem_cons_self
  have inPerson : suspended ∈ personSchema.parts := List.mem_cons_self
  apply Reaches.part inSchema
  apply Reaches.resolved rfl resolve?_reference
  apply Reaches.part inPerson
  exact .refl suspended

/-- The reference inside a person, reached around the circle, stands for what the definition
says. -/
theorem resolves_around_circle :
    decode document = .ok schema ∧ Reaches findNone schema suspended ∧
    suspended.suspension? = some reference ∧
    ∃ table name definition resolved,
      document.get? "$defs" = some (.obj table) ∧
      reference.label = some name ∧
      Json.lookup? table name = some definition ∧
      decodeUnder table definition = .ok resolved ∧
      reference.resolve? findNone = some resolved :=
  ⟨decode_document, reaches_suspended, rfl,
    resolves_of_reaches decode_document reaches_suspended rfl⟩

end Friends

end Schema

end SchemaOutline
