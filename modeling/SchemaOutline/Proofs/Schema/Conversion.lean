import SchemaOutline.Proofs.Description.Faults
import SchemaOutline.Proofs.Description.Yielding
import SchemaOutline.Schema.Conversion

/-! A conversion gives what the plain recursion gives, and otherwise the first fault. -/

set_option autoImplicit false
set_option relaxedAutoImplicit false

namespace SchemaOutline

variable {definitions : List (String × Json)}

namespace Description

theorem mem_inner_of_split {description part : Description}
    {layer : Annotations × Shape Description} (found : description.split definitions = .ok layer)
    (inside : part ∈ layer.2.parts) : part ∈ description.inner := by
  rw [parts_split found] at inside
  exact mem_inner_of_mem_used inside

/-- The schema that a description says: the description is taken apart, and what stands in the
places of schemas is converted from left to right. -/
def convert (definitions : List (String × Json)) (description : Description) :
    Except DecodeError Schema :=
  match _ : description.split definitions with
  | .error cause => .error cause
  | .ok layer => do
    let shape ← layer.2.traverse fun part _ => convert definitions part
    return .mk layer.1 shape
termination_by sizeOf description
decreasing_by exact sizeOf_lt_of_mem_inner (mem_inner_of_split ‹_› ‹_›)

theorem convert_of_error {description : Description} {cause : DecodeError}
    (failed : description.split definitions = .error cause) :
    description.convert definitions = .error cause := by
  rw [convert]
  split
  · rename_i found same
    rw [failed] at same
    exact congrArg Except.error (Except.error.inj same).symm
  · rename_i layer same
    rw [failed] at same
    cases same

theorem convert_of_ok {description : Description} {layer : Annotations × Shape Description}
    (found : description.split definitions = .ok layer) :
    description.convert definitions = do
      let shape ← layer.2.traverse fun part _ => convert definitions part
      return .mk layer.1 shape := by
  rw [convert]
  split
  · rename_i cause same
    rw [found] at same
    cases same
  · rename_i other same
    rw [found] at same
    rw [Except.ok.inj same]

theorem convert_eq_ok_iff {description : Description} {schema : Schema} :
    description.convert definitions = .ok schema ↔
      description.Yields definitions (fun part inner => part.convert definitions = .ok inner)
        schema := by
  rw [← exists_split_iff_yields]
  cases found : description.split definitions with
  | error cause =>
    rw [convert_of_error found]
    constructor
    · nofun
    · rintro ⟨_, same, _⟩
      cases same
  | ok layer =>
    rw [convert_of_ok found, bind_pure_eq_ok]
    constructor
    · exact fun converted => ⟨layer, rfl, converted⟩
    · rintro ⟨_, same, converted⟩
      obtain rfl := Except.ok.inj same
      exact converted

theorem exists_layer_of_convert {description : Description} {schema : Schema}
    (ok : description.convert definitions = .ok schema) :
    ∃ layer schemas, description.split definitions = .ok layer ∧
      layer.2.parts.mapM (convert definitions) = .ok schemas ∧
      ∃ fits, schema = .mk layer.1 (layer.2.refill schemas fits) := by
  cases found : description.split definitions with
  | error cause =>
    rw [convert_of_error found] at ok
    cases ok
  | ok layer =>
    rw [convert_of_ok found] at ok
    cases solved : layer.2.parts.mapM (convert definitions) with
    | error cause =>
      rw [Shape.traverse_eq_error solved] at ok
      cases ok
    | ok schemas =>
      have fits := Shape.length_of_mapM solved
      rw [Shape.traverse_eq_ok solved fits] at ok
      exact ⟨layer, schemas, rfl, solved, fits, (Except.ok.inj ok).symm⟩

private theorem reports_traverse {α β : Type} {shape : Shape α} {solve : α → Except DecodeError β}
    {faults : α → List DecodeError}
    (each : ∀ part ∈ shape.parts, Reports (solve part) (faults part)) :
    Reports (shape.traverse fun part _ => solve part) (shape.parts.flatMap faults) := by
  have whole := Reports.mapM each
  cases solved : shape.parts.mapM solve with
  | error cause =>
    rw [solved] at whole
    rw [Shape.traverse_eq_error solved]
    exact whole
  | ok results =>
    rw [solved] at whole
    rw [Shape.traverse_eq_ok solved (Shape.length_of_mapM solved)]
    exact whole

theorem reports_convert (definitions : List (String × Json)) (description : Description) :
    Reports (description.convert definitions) (description.faults definitions) := by
  induction description using Description.induct with
  | step description ih =>
    have own := reports_split definitions description
    rw [faults_eq]
    cases found : description.split definitions with
    | error cause =>
      rw [convert_of_error found]
      rw [found] at own
      exact own.append_error
    | ok layer =>
      rw [found] at own
      have none : description.ownFaults definitions = [] := own
      rw [convert_of_ok found, none, List.nil_append, ← parts_split found]
      apply Reports.bind_pure
      · apply reports_traverse
        intro part inside
        exact ih part (mem_inner_of_split found inside)
      · intro shape _
        rfl

end Description

namespace Conversion

theorem run_nil (finished : List Schema) : run definitions [] finished = .ok finished := by
  rw [run]

theorem run_cons (task : Task) (rest : List Task) (finished : List Schema) :
    run definitions (task :: rest) finished =
      (perform definitions rest finished task >>= fun next =>
        run definitions next.tasks next.finished) := by
  rw [run]
  split
  · rename_i cause performed
    rw [performed]
    rfl
  · rename_i next performed
    rw [performed]
    rfl

private theorem perform_enter {description : Description}
    {layer : Annotations × Shape Description} (found : description.split definitions = .ok layer)
    (rest : List Task) (finished : List Schema) :
    perform definitions rest finished (.enter description) =
      .ok ⟨layer.2.parts.map .enter ++ .leave layer.1 layer.2 :: rest, finished⟩ := by
  rw [perform, found]
  rfl

private theorem perform_leave (annotations : Annotations) {shape : Shape Description}
    {results : List Schema} (fits : results.length = shape.parts.length) (rest : List Task)
    (finished : List Schema) :
    perform definitions rest (results.reverse ++ finished) (.leave annotations shape) =
      .ok ⟨rest, .mk annotations (shape.refill results fits) :: finished⟩ := by
  have count : results.reverse.length = shape.arity := by
    rw [List.length_reverse, fits, shape.length_parts]
  have taken : ((results.reverse ++ finished).take shape.arity).reverse = results := by
    rw [← count, List.take_left, List.reverse_reverse]
  have left : (results.reverse ++ finished).drop shape.arity = finished := by
    rw [← count, List.drop_left]
  rw [perform, taken, left, assemble, dif_pos fits]
  rfl

private theorem run_enters (descriptions : List Description)
    (each : ∀ description ∈ descriptions, ∀ (rest : List Task) (finished : List Schema),
      run definitions (.enter description :: rest) finished =
        (description.convert definitions >>= fun schema =>
          run definitions rest (schema :: finished)))
    (rest : List Task) (finished : List Schema) :
    run definitions (descriptions.map .enter ++ rest) finished =
      (descriptions.mapM (Description.convert definitions) >>= fun schemas =>
        run definitions rest (schemas.reverse ++ finished)) := by
  induction descriptions generalizing finished with
  | nil => rfl
  | cons description descriptions ih =>
    have later := ih fun other inside => each other (List.mem_cons_of_mem description inside)
    rw [List.map_cons, List.cons_append, each description List.mem_cons_self, List.mapM_cons]
    cases description.convert definitions with
    | error cause => rfl
    | ok schema =>
      show run definitions (descriptions.map .enter ++ rest) (schema :: finished) = _
      rw [later]
      cases descriptions.mapM (Description.convert definitions) with
      | error cause => rfl
      | ok schemas =>
        show run definitions rest (schemas.reverse ++ schema :: finished) =
          run definitions rest ((schema :: schemas).reverse ++ finished)
        rw [List.reverse_cons, List.append_assoc, List.singleton_append]

theorem run_enter (description : Description) (rest : List Task) (finished : List Schema) :
    run definitions (.enter description :: rest) finished =
      (description.convert definitions >>= fun schema =>
        run definitions rest (schema :: finished)) := by
  induction description using Description.induct generalizing rest finished with
  | step description ih =>
    rw [run_cons]
    cases found : description.split definitions with
    | error cause =>
      rw [Description.convert_of_error found, perform, found]
      rfl
    | ok layer =>
      rw [Description.convert_of_ok found, perform_enter found]
      show run definitions (layer.2.parts.map .enter ++ .leave layer.1 layer.2 :: rest) finished = _
      rw [run_enters layer.2.parts fun part inside =>
        ih part (Description.mem_inner_of_split found inside)]
      cases solved : layer.2.parts.mapM (Description.convert definitions) with
      | error cause =>
        rw [Shape.traverse_eq_error solved]
        rfl
      | ok schemas =>
        -- When the description is left, the schemas of its parts lie on top of the stack.
        have fits := Shape.length_of_mapM solved
        rw [Shape.traverse_eq_ok solved fits]
        show run definitions (.leave layer.1 layer.2 :: rest) (schemas.reverse ++ finished) = _
        rw [run_cons, perform_leave layer.1 fits]
        rfl

theorem toSchema_eq_convert (definitions : List (String × Json)) (description : Description) :
    description.toSchema definitions = description.convert definitions := by
  rw [Description.toSchema, start, run_enter]
  cases description.convert definitions with
  | error cause => rfl
  | ok schema =>
    show (run definitions [] [schema] >>= _) = _
    rw [run_nil]
    rfl

/-- One conversion goes on to become another, task by task. -/
inductive Reaches (definitions : List (String × Json)) (first : Conversion) : Conversion → Prop
  | refl : Reaches definitions first first
  | step {task : Task} {rest : List Task} {finished : List Schema} {next : Conversion}
      (reached : Reaches definitions first ⟨task :: rest, finished⟩)
      (performed : perform definitions rest finished task = .ok next) :
      Reaches definitions first next

/-- With a number of finished schemas, every description is left after the schemas of its parts are
finished, and a single schema is left in the end. -/
def Balanced : List Task → Nat → Prop
  | [], count => count = 1
  | .enter _ :: rest, count => Balanced rest (count + 1)
  | .leave _ shape :: rest, count =>
    shape.arity ≤ count ∧ Balanced rest (count - shape.arity + 1)

private theorem balanced_enters (descriptions : List Description) (tasks : List Task)
    (count : Nat) :
    Balanced (descriptions.map .enter ++ tasks) count ↔
      Balanced tasks (count + descriptions.length) := by
  induction descriptions generalizing count with
  | nil => rfl
  | cons description descriptions ih =>
    rw [List.map_cons, List.cons_append, Balanced, ih, List.length_cons, Nat.add_assoc,
      Nat.add_comm 1]

theorem balanced_of_perform {task : Task} {rest : List Task} {finished : List Schema}
    {next : Conversion} (balanced : Balanced (task :: rest) finished.length)
    (performed : perform definitions rest finished task = .ok next) :
    Balanced next.tasks next.finished.length := by
  cases task with
  | enter description =>
    obtain ⟨layer, _, rfl⟩ := Description.bind_pure_eq_ok.mp performed
    rw [Balanced] at balanced
    rw [balanced_enters, layer.2.length_parts, Balanced]
    constructor
    · omega
    · rwa [Nat.add_sub_cancel]
  | leave annotations shape =>
    obtain ⟨schema, _, rfl⟩ := Description.bind_pure_eq_ok.mp performed
    rw [List.length_cons, List.length_drop]
    exact balanced.2

theorem balanced_of_reaches {description : Description} {state : Conversion}
    (reached : Reaches definitions (start description) state) :
    Balanced state.tasks state.finished.length := by
  induction reached with
  | refl => rfl
  | step _ performed ih => exact balanced_of_perform ih performed

theorem exists_assemble (annotations : Annotations) {shape : Shape Description}
    {finished : List Schema} (enough : shape.arity ≤ finished.length) :
    ∃ schema, assemble annotations shape (finished.take shape.arity).reverse = .ok schema := by
  have fits : (finished.take shape.arity).reverse.length = shape.parts.length := by
    rw [List.length_reverse, List.length_take, shape.length_parts]
    omega
  exact ⟨_, dif_pos fits⟩

theorem reaches_of_run {first : Conversion} {tasks : List Task} {finished : List Schema}
    (reached : Reaches definitions first ⟨tasks, finished⟩) :
    (∀ left, run definitions tasks finished = .ok left →
      Reaches definitions first ⟨[], left⟩) ∧
    ∀ cause, run definitions tasks finished = .error cause →
      ∃ task rest stack, Reaches definitions first ⟨task :: rest, stack⟩ ∧
        perform definitions rest stack task = .error cause := by
  induction tasks, finished using run.induct definitions with
  | case1 finished =>
    rw [run_nil]
    constructor
    · intro left ended
      obtain rfl := Except.ok.inj ended
      exact reached
    · intro cause stopped
      cases stopped
  | case2 finished task rest cause performed =>
    rw [run_cons, performed]
    constructor
    · intro left ended
      cases ended
    · intro found stopped
      obtain rfl := Except.error.inj stopped
      exact ⟨task, rest, finished, reached, performed⟩
  | case3 finished task rest next performed ih =>
    rw [run_cons, performed]
    exact ih (reached.step performed)

end Conversion

open Conversion in
/-- Converting a description gives what the plain recursion gives: the schema that its members say,
with the schemas of the inner descriptions in their places. The error is the first of the faults in
pre-order. On the way, whenever a description is left, the schemas of its parts are finished and
make up its own; in the end exactly one schema is left. -/
theorem Description.toSchema_by_recursion (definitions : List (String × Json))
    (description : Description) :
    description.toSchema definitions = description.convert definitions ∧
    (∀ schema, description.toSchema definitions = .ok schema ↔
      description.Yields definitions (fun part inner => part.toSchema definitions = .ok inner)
        schema) ∧
    ((∃ schema, description.toSchema definitions = .ok schema) ↔
      description.faults definitions = []) ∧
    (∀ cause, description.toSchema definitions = .error cause ↔
      (description.faults definitions).head? = some cause) ∧
    (∀ member, description.toSchema definitions ≠ .error (.missingMember .document member)) ∧
    (∀ annotations shape rest finished,
      Reaches definitions (start description) ⟨.leave annotations shape :: rest, finished⟩ →
      shape.arity ≤ finished.length ∧
      ∃ schema, assemble annotations shape (finished.take shape.arity).reverse = .ok schema) ∧
    (∀ finished, Reaches definitions (start description) ⟨[], finished⟩ →
      ∃ schema, finished = [schema]) ∧
    ∀ left, run definitions (start description).tasks [] = .ok left →
      Reaches definitions (start description) ⟨[], left⟩ := by
  have reports := reports_convert definitions description
  have same := toSchema_eq_convert definitions description
  refine ⟨same, ?members, ?accepted, ?first, ?document, ?enough, ?single, ?ends⟩
  case members =>
    intro schema
    simp only [toSchema_eq_convert]
    exact convert_eq_ok_iff
  case accepted =>
    rw [same]
    exact reports.ok_iff
  case first =>
    rw [same]
    exact reports.error_iff
  case document =>
    intro member failed
    rw [same, reports.error_iff] at failed
    rcases of_mem_faults (List.mem_of_head? failed) with ⟨_, found⟩ | ⟨_, _, found⟩ | ⟨_, found⟩
    · cases found
    · cases found
    · cases found
  case enough =>
    intro annotations shape rest finished reached
    have enough := (balanced_of_reaches reached).1
    exact ⟨enough, exists_assemble annotations enough⟩
  case single =>
    intro finished reached
    exact List.length_eq_one_iff.mp (balanced_of_reaches reached)
  case ends =>
    exact (reaches_of_run .refl).1

end SchemaOutline
