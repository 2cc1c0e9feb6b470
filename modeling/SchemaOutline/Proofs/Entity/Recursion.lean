import Mathlib.Data.List.Forall2
import SchemaOutline.Entity.Stamp
import SchemaOutline.Proofs.Annotations.Writing

/-! Stamping through a list of tasks does what the plain recursion does. -/

set_option autoImplicit false
set_option relaxedAutoImplicit false

namespace SchemaOutline

open List (Forall₂)
open Traversal

namespace Schema

theorem isStruct_of_shape {schema : Schema} {fields : List (Field Schema)}
    {signatures : List (IndexSignature Schema)}
    (isShape : schema.shape = .struct fields signatures) : schema.isStruct = true := by
  rw [isStruct, fields?, isShape]
  rfl

theorem exists_shape_of_isStruct {schema : Schema} (isStruct : schema.isStruct = true) :
    ∃ fields signatures, schema.shape = .struct fields signatures := by
  unfold Schema.isStruct fields? at isStruct
  cases isShape : schema.shape with
  | struct fields signatures => exact ⟨fields, signatures, rfl⟩
  | _ =>
    rw [isShape] at isStruct
    cases isStruct

theorem type_mem_parts {schema : Schema} {fields : List (Field Schema)}
    {signatures : List (IndexSignature Schema)}
    (isShape : schema.shape = .struct fields signatures) {field : Field Schema}
    (inside : field ∈ fields) : field.type ∈ schema.parts := by
  rw [parts, isShape]
  exact List.mem_append_left _ (List.mem_map_of_mem inside)

theorem nested_of_shape {schema : Schema} {fields : List (Field Schema)}
    {signatures : List (IndexSignature Schema)}
    (isShape : schema.shape = .struct fields signatures) :
    schema.nested = (fields.map Field.type).filter isStruct := by
  rw [nested, fieldTypes, isShape]

theorem isStruct_of_mem_nested {schema inner : Schema} (inside : inner ∈ schema.nested) :
    inner.isStruct = true :=
  (List.mem_filter.mp inside).2

/-- A struct with its annotations and its fields stamped, and so on in the types of the fields;
anything else as it is. -/
def stampInto (entity : EntityId) (schema : Schema) : Schema :=
  match _ : schema.shape with
  | .struct fields signatures =>
    .mk (schema.annotations.stamped entity)
      (.struct (fields.attach.map fun field => field.1.stamped entity
        (if field.1.type.isStruct then stampInto entity field.1.type else field.1.type))
        signatures)
  | _ => schema
termination_by sizeOf schema
decreasing_by exact sizeOf_lt_of_mem_parts (type_mem_parts ‹_› field.2)

theorem stampInto_of_shape (entity : EntityId) {schema : Schema} {fields : List (Field Schema)}
    {signatures : List (IndexSignature Schema)}
    (isShape : schema.shape = .struct fields signatures) :
    schema.stampInto entity = .mk (schema.annotations.stamped entity)
      (.struct (fields.map fun field => field.stamped entity
        (if field.type.isStruct then field.type.stampInto entity else field.type))
        signatures) := by
  rw [stampInto]
  split
  · rename_i found signatures' same
    obtain ⟨rfl, rfl⟩ := Shape.struct.inj (same.symm.trans isShape)
    let become (field : Field Schema) : Field Schema := field.stamped entity
      (if field.type.isStruct then stampInto entity field.type else field.type)
    have each : found.attach.map (fun field => become field.1) = found.map become :=
      List.attach_map_val
    exact congrArg (fun stamped => mk _ (.struct stamped _)) each
  · rename_i other
    exact absurd isShape (other fields signatures)

theorem stampInto_of_not_isStruct (entity : EntityId) {schema : Schema}
    (other : schema.isStruct = false) : schema.stampInto entity = schema := by
  rw [stampInto]
  split
  · rename_i isShape
    rw [isStruct_of_shape isShape] at other
    cases other
  · rfl

end Schema

namespace Stamping

variable {entity : EntityId} {result : List Schema}

private theorem fill_stampInto (fields : List (Field Schema)) :
    fill entity fields (((fields.map Field.type).filter Schema.isStruct).map
      (Schema.stampInto entity)) =
        fields.map fun field => field.stamped entity
          (if field.type.isStruct then field.type.stampInto entity else field.type) := by
  induction fields with
  | nil => rfl
  | cons field fields ih =>
    cases isStruct : field.type.isStruct with
    | true =>
      simp only [List.map_cons, List.filter_cons_of_pos isStruct, fill, isStruct, if_pos,
        List.head?_cons, Option.getD_some, List.tail_cons, ih]
    | false =>
      have skipped : ¬ field.type.isStruct = true := by rw [isStruct]; exact Bool.false_ne_true
      simp only [List.map_cons, List.filter_cons_of_neg skipped, fill, if_neg skipped, ih]

theorem rebuild_stampInto {schema : Schema} (isStruct : schema.isStruct = true)
    (others : List Schema) :
    rebuild entity schema ((schema.nested.map (Schema.stampInto entity)).reverse ++ others) =
      schema.stampInto entity :: others := by
  obtain ⟨fields, signatures, isShape⟩ := Schema.exists_shape_of_isStruct isStruct
  let types := schema.nested.map (Schema.stampInto entity)
  have count : types.reverse.length = schema.nested.length := by simp [types]
  have taken : ((types.reverse ++ others).take schema.nested.length).reverse = types := by
    rw [← count, List.take_left, List.reverse_reverse]
  have left : (types.reverse ++ others).drop schema.nested.length = others := by
    rw [← count, List.drop_left]
  have filled : fill entity fields types = fields.map fun field => field.stamped entity
      (if field.type.isStruct then field.type.stampInto entity else field.type) := by
    simp only [types, Schema.nested_of_shape isShape]
    exact fill_stampInto fields
  rw [Schema.stampInto_of_shape entity isShape, rebuild, isShape]
  dsimp only
  rw [taken, left, filled]

/-- With the tasks that remain, every struct is left when the structs among the types of its fields
lie stamped on the stack, the last one on top, and the result is what is left in the end. -/
def Supplied (entity : EntityId) (result : List Schema) : List Task → List Schema → Prop
  | [], finished => finished = result
  | .enter schema :: rest, finished =>
    schema.isStruct = true ∧ Supplied entity result rest (schema.stampInto entity :: finished)
  | .leave schema :: rest, finished =>
    schema.isStruct = true ∧ ∃ others,
      finished = (schema.nested.map (Schema.stampInto entity)).reverse ++ others ∧
        Supplied entity result rest (schema.stampInto entity :: others)

private theorem supplied_enters (schemas : List Schema) {tasks : List Task}
    {finished : List Schema} (structs : ∀ schema ∈ schemas, schema.isStruct = true)
    (supplied : Supplied entity result tasks
      ((schemas.map (Schema.stampInto entity)).reverse ++ finished)) :
    Supplied entity result (schemas.map .enter ++ tasks) finished := by
  induction schemas generalizing finished with
  | nil => exact supplied
  | cons schema schemas ih =>
    refine ⟨structs schema List.mem_cons_self, ih ?_ ?_⟩
    · exact fun other inside => structs other (List.mem_cons_of_mem schema inside)
    · simpa using supplied

theorem supplied_perform {task : Task} {rest : List Task} {finished : List Schema}
    (supplied : Supplied entity result (task :: rest) finished) :
    Supplied entity result (perform entity rest finished task).tasks
      (perform entity rest finished task).finished := by
  cases task with
  | enter schema =>
    obtain ⟨isStruct, later⟩ := supplied
    apply supplied_enters
    · exact fun _ inside => Schema.isStruct_of_mem_nested inside
    · exact ⟨isStruct, finished, rfl, later⟩
  | leave schema =>
    obtain ⟨isStruct, others, rfl, later⟩ := supplied
    rw [perform, rebuild_stampInto isStruct]
    exact later

theorem run_of_supplied {tasks : List Task} {finished : List Schema}
    (supplied : Supplied entity result tasks finished) : run entity tasks finished = result := by
  induction tasks, finished using run.induct entity with
  | case1 finished =>
    rw [run]
    exact supplied
  | case2 finished task rest next ih =>
    rw [run]
    exact ih (supplied_perform supplied)

theorem supplied_start {schema : Schema} (isStruct : schema.isStruct = true) :
    Supplied entity [schema.stampInto entity] (start schema).tasks (start schema).finished :=
  ⟨isStruct, rfl⟩

/-- One stamping goes on to become another, task by task. -/
inductive Reaches (entity : EntityId) (first : Stamping) : Stamping → Prop
  | refl : Reaches entity first first
  | step {task : Task} {rest : List Task} {finished : List Schema}
      (reached : Reaches entity first ⟨task :: rest, finished⟩) :
      Reaches entity first (perform entity rest finished task)

theorem supplied_of_reaches {schema : Schema} (isStruct : schema.isStruct = true)
    {state : Stamping} (reached : Reaches entity (start schema) state) :
    Supplied entity [schema.stampInto entity] state.tasks state.finished := by
  induction reached with
  | refl => exact supplied_start isStruct
  | step _ ih => exact supplied_perform ih

theorem reaches_run {first : Stamping} {tasks : List Task} {finished : List Schema}
    (reached : Reaches entity first ⟨tasks, finished⟩) :
    Reaches entity first ⟨[], run entity tasks finished⟩ := by
  induction tasks, finished using run.induct entity with
  | case1 finished =>
    rw [run]
    exact reached
  | case2 finished task rest next ih =>
    rw [run]
    exact ih reached.step

end Stamping

theorem Schema.stamp_eq_stampInto (schema : Schema) (entity : EntityId) :
    schema.stamp entity = schema.stampInto entity := by
  unfold stamp
  split
  · next isStruct =>
    have ended : Stamping.run entity (Stamping.start schema).tasks [] = [schema.stampInto entity] :=
      Stamping.run_of_supplied (Stamping.supplied_start isStruct)
    rw [ended]
    rfl
  · next other => rw [stampInto_of_not_isStruct entity (Bool.eq_false_iff.mpr other)]

theorem Schema.stamp_of_not_isStruct (entity : EntityId) {schema : Schema}
    (other : schema.isStruct = false) : schema.stamp entity = schema := by
  rw [stamp_eq_stampInto, stampInto_of_not_isStruct entity other]

theorem Schema.stamp_of_shape (entity : EntityId) {schema : Schema}
    {fields : List (Field Schema)} {signatures : List (IndexSignature Schema)}
    (isShape : schema.shape = .struct fields signatures) :
    schema.stamp entity = .mk (schema.annotations.stamped entity)
      (.struct (fields.map fun field => field.stamped entity (field.type.stamp entity))
        signatures) := by
  have types (field : Field Schema) :
      (if field.type.isStruct then field.type.stampInto entity else field.type) =
        field.type.stamp entity := by
    rw [stamp_eq_stampInto]
    split
    · rfl
    · next other => rw [stampInto_of_not_isStruct entity (Bool.eq_false_iff.mpr other)]
  rw [stamp_eq_stampInto, stampInto_of_shape entity isShape]
  simp only [types]

theorem Annotations.written_stamped (annotations : Annotations) (entity : EntityId) :
    Written [.entityType, .identifier] (.str entity.text) annotations
      (annotations.stamped entity) :=
  (Written.insert annotations .entityType _).insert_last (by decide)

theorem Annotations.written_marked (annotations : Annotations) (marker : FieldMarker) :
    Written [.entityField] (.str marker.text) annotations (annotations.marked marker) :=
  Written.insert annotations .entityField _

/-- What a field of a struct becomes when the struct is stamped. -/
structure Field.Becomes (entity : EntityId) (field stamped : Field Schema) : Prop where
  key : stamped.key = field.key
  optional : stamped.optional = field.optional
  readonly : stamped.readonly = field.readonly
  annotations : Annotations.Written [.entityField] (.str ("field##" ++ entity.text))
    field.annotations stamped.annotations
  type : stamped.type = if field.type.isStruct then field.type.stamp entity else field.type

theorem Field.becomes_stamped (entity : EntityId) (field : Field Schema) :
    field.Becomes entity (field.stamped entity (field.type.stamp entity)) where
  key := rfl
  optional := rfl
  readonly := rfl
  annotations := field.annotations.written_marked entity.marker
  type := by
    split
    · rfl
    · next other => exact Schema.stamp_of_not_isStruct entity (Bool.eq_false_iff.mpr other)

namespace Stamping

variable {entity : EntityId} {schema : Schema} (isStruct : schema.isStruct = true)

include isStruct

theorem exists_others_of_reaches {inner : Schema} {rest : List Task} {finished : List Schema}
    (reached : Reaches entity (start schema) ⟨.leave inner :: rest, finished⟩) :
    inner.isStruct = true ∧ ∃ others,
      finished = (inner.nested.map fun type => type.stamp entity).reverse ++ others := by
  obtain ⟨innerStruct, others, onTop, _⟩ := supplied_of_reaches isStruct reached
  have types : inner.nested.map (fun type => type.stamp entity) =
      inner.nested.map (Schema.stampInto entity) :=
    List.map_congr_left fun type _ => type.stamp_eq_stampInto entity
  refine ⟨innerStruct, others, ?_⟩
  rw [types]
  exact onTop

theorem finished_of_reaches {finished : List Schema}
    (reached : Reaches entity (start schema) ⟨[], finished⟩) :
    finished = [schema.stamp entity] := by
  have left : finished = [schema.stampInto entity] := supplied_of_reaches isStruct reached
  rw [left, Schema.stamp_eq_stampInto]

end Stamping

open Stamping in
/-- Stamping gives what the plain recursion gives. A schema that is no struct stays as it is. A
struct keeps its index signatures and has the entity among its annotations, and each of its fields
becomes a stamped one in its place. On the way, whenever a struct is left, the stack holds the
stamped structs for all fields that need one, in their order; in the end it holds the result and
nothing else. -/
theorem Schema.stamp_by_recursion (schema : Schema) (entity : EntityId) :
    schema.stamp entity = schema.stampInto entity ∧
    (schema.isStruct = false → schema.stamp entity = schema) ∧
    (∀ fields signatures, schema.shape = .struct fields signatures →
      Annotations.Written [.entityType, .identifier] (.str entity.text) schema.annotations
        (schema.stamp entity).annotations ∧
      ∃ stamped, (schema.stamp entity).shape = .struct stamped signatures ∧
        Forall₂ (Field.Becomes entity) fields stamped) ∧
    (schema.isStruct = true →
      (∀ inner rest finished,
        Reaches entity (start schema) ⟨.leave inner :: rest, finished⟩ →
        inner.isStruct = true ∧ inner.nested.length ≤ finished.length ∧
        (finished.take inner.nested.length).reverse =
          inner.nested.map fun type => type.stamp entity) ∧
      Reaches entity (start schema) ⟨[], [schema.stamp entity]⟩ ∧
      ∀ finished, Reaches entity (start schema) ⟨[], finished⟩ →
        finished = [schema.stamp entity]) := by
  refine ⟨schema.stamp_eq_stampInto entity, stamp_of_not_isStruct entity, ?fields, ?states⟩
  case fields =>
    intro fields signatures isShape
    rw [stamp_of_shape entity isShape]
    refine ⟨schema.annotations.written_stamped entity, _, rfl, ?_⟩
    rw [List.forall₂_map_right_iff, List.forall₂_same]
    exact fun field _ => field.becomes_stamped entity
  case states =>
    intro isStruct
    refine ⟨?supplied, ?ends, fun finished => finished_of_reaches isStruct⟩
    case supplied =>
      intro inner rest finished reached
      obtain ⟨innerStruct, others, rfl⟩ := exists_others_of_reaches isStruct reached
      have count : (inner.nested.map fun type => type.stamp entity).reverse.length =
          inner.nested.length := by simp
      refine ⟨innerStruct, ?_, ?_⟩
      · rw [List.length_append, count]
        omega
      · rw [← count, List.take_left, List.reverse_reverse]
    case ends =>
      have ended : Reaches entity (start schema) ⟨[], run entity (start schema).tasks []⟩ :=
        reaches_run .refl
      rwa [finished_of_reaches isStruct ended] at ended

end SchemaOutline
