import SchemaOutline.Entity.Identity
import SchemaOutline.Schema.Basic

/-! Stamping structs with the identity of an entity, and their fields with its marker. -/

set_option autoImplicit false

namespace SchemaOutline

open Traversal

def Annotations.stamped (annotations : Annotations) (entity : EntityId) : Annotations :=
  (annotations.insert .entityType (.str entity.text)).insert .identifier (.str entity.text)

def Annotations.marked (annotations : Annotations) (marker : FieldMarker) : Annotations :=
  annotations.insert .entityField (.str marker.text)

def Field.stamped (entity : EntityId) (field : Field Schema) (type : Schema) : Field Schema :=
  { field with type, annotations := field.annotations.marked entity.marker }

namespace Schema

def fieldTypes (schema : Schema) : List Schema :=
  match schema.shape with
  | .struct fields _ => fields.map Field.type
  | _ => []

theorem fieldTypes_sublist_parts (schema : Schema) : schema.fieldTypes.Sublist schema.parts := by
  unfold fieldTypes parts
  cases schema.shape with
  | struct fields signatures => exact List.sublist_append_left _ _
  | _ => exact List.nil_sublist _

theorem totalWeight_fieldTypes_lt (schema : Schema) :
    totalWeight weight schema.fieldTypes < schema.weight := by
  have := @totalWeight_le_of_sublist _ weight _ _ schema.fieldTypes_sublist_parts
  have := schema.totalWeight_parts_lt
  omega

/-- The structs among the types of the fields. -/
def nested (schema : Schema) : List Schema := schema.fieldTypes.filter isStruct

theorem totalWeight_nested_lt (schema : Schema) :
    totalWeight weight schema.nested < schema.weight := by
  have fewer : schema.nested.Sublist schema.fieldTypes := List.filter_sublist
  have := @totalWeight_le_of_sublist _ weight _ _ fewer
  have := schema.totalWeight_fieldTypes_lt
  omega

end Schema

inductive Stamping.Task where
  | enter (schema : Schema)
  /-- The structs among the types of the schema's fields are stamped. -/
  | leave (schema : Schema)

structure Stamping where
  tasks : List Stamping.Task
  /-- The stamped structs that belong to no other yet, latest first. -/
  finished : List Schema

namespace Stamping

def Task.weight : Task → Nat
  | enter schema => 2 * schema.weight
  | leave _ => 1

def start (schema : Schema) : Stamping := ⟨[.enter schema], []⟩

/-- The fields of a stamped struct. Stamped structs replace, one after the other, the types that are
structs; where none is left, the type stays. -/
def fill (entity : EntityId) : List (Field Schema) → List Schema → List (Field Schema)
  | [], _ => []
  | field :: fields, stamped =>
    if field.type.isStruct then
      field.stamped entity (stamped.head?.getD field.type) :: fill entity fields stamped.tail
    else field.stamped entity field.type :: fill entity fields stamped

/-- Puts a stamped struct in the place of the stamped structs that belong to it. -/
def rebuild (entity : EntityId) (schema : Schema) (finished : List Schema) : List Schema :=
  match schema.shape with
  | .struct fields signatures =>
    let count := schema.nested.length
    let filled := fill entity fields (finished.take count).reverse
    .mk (schema.annotations.stamped entity) (.struct filled signatures) :: finished.drop count
  | _ => finished

def perform (entity : EntityId) (rest : List Task) (finished : List Schema) : Task → Stamping
  | .enter schema => ⟨schema.nested.map .enter ++ .leave schema :: rest, finished⟩
  | .leave schema => ⟨rest, rebuild entity schema finished⟩

private theorem totalWeight_map_enter (schemas : List Schema) :
    totalWeight Task.weight (schemas.map .enter) = 2 * totalWeight Schema.weight schemas := by
  induction schemas with
  | nil => rfl
  | cons schema schemas ih =>
    rw [List.map_cons, totalWeight_cons, totalWeight_cons, ih, Task.weight]
    omega

theorem totalWeight_perform_lt (entity : EntityId) (rest : List Task) (finished : List Schema)
    (task : Task) : totalWeight Task.weight (perform entity rest finished task).tasks <
      totalWeight Task.weight (task :: rest) := by
  cases task with
  | enter schema =>
    have lighter := schema.totalWeight_nested_lt
    simp only [perform, totalWeight_append, totalWeight_cons, totalWeight_map_enter, Task.weight]
    omega
  | leave schema =>
    simp only [perform, totalWeight_cons, Task.weight]
    omega

/-- Performs all tasks and returns the structs that are left. -/
def run (entity : EntityId) (tasks : List Task) (finished : List Schema) : List Schema :=
  match tasks with
  | [] => finished
  | task :: rest =>
    let next := perform entity rest finished task
    run entity next.tasks next.finished
termination_by totalWeight Task.weight tasks
decreasing_by exact totalWeight_perform_lt entity rest finished task

end Stamping

namespace Schema

/-- The schema, stamped as an entity if it is a struct. -/
def stamp (schema : Schema) (entity : EntityId) : Schema :=
  if schema.isStruct then
    (Stamping.run entity (Stamping.start schema).tasks []).head?.getD schema
  else schema

def entity? (schema : Schema) : Option EntityId := schema.annotations.entityType?.map EntityId.mk

/-- Whether a schema is a struct that is stamped. -/
def isEntity (schema : Schema) : Bool := schema.isStruct && schema.entity?.isSome

end Schema

end SchemaOutline
