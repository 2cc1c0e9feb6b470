import SchemaOutline.Proofs.Description.Nodes
import SchemaOutline.Proofs.Schema.Conversion
import SchemaOutline.Schema.Decode

/-! Which documents are decoded, and the first fault, stage by stage, of all others. -/

set_option autoImplicit false
set_option relaxedAutoImplicit false

namespace SchemaOutline

namespace Schema

def depthFaults (value : Json) : List DecodeError :=
  if value.depth ≤ nestingLimit then [] else [.tooDeep]

def formFaults (value : Json) : List DecodeError :=
  (Form.mismatches (.record .node) value).map fun mismatch => .malformed (.mismatch mismatch)

def tableFaults (document : Json) : List DecodeError :=
  match document.get? "$defs" with
  | none | some (.obj _) => []
  | some found => [.malformed (.definitions found)]

def tableOf (document : Json) : List (String × Json) :=
  match document.get? "$defs" with
  | some (.obj table) => table
  | _ => []

/-- Everything that is wrong with a document, stage by stage: its depth, its form, its table, the
definitions one after the other, and at last the nodes that it uses. -/
def documentFaults (document : Json) : List DecodeError :=
  depthFaults document ++ formFaults document ++ tableFaults document ++
    (tableOf document).flatMap (fun definition =>
      formFaults definition.2 ++ definition.2.faults (tableOf document)) ++
    document.faults (tableOf document)

theorem ofJson_eq_ok_iff {value : Json} {description : Description} :
    Description.ofJson value = .ok description ↔
      value.depth ≤ nestingLimit ∧ Description.read value = .ok description := by
  unfold Description.ofJson
  simp only [Json.nestsWithin_iff]
  by_cases shallow : value.depth ≤ nestingLimit
  · rw [if_pos shallow]
    cases Description.read value with
    | error mismatch => simp [Except.mapError]
    | ok found => simp [Except.mapError, shallow]
  · rw [if_neg shallow]
    simp [shallow]

private theorem reports_ofJson (value : Json) :
    Reports (Description.ofJson value) (depthFaults value ++ formFaults value) := by
  unfold Description.ofJson depthFaults
  simp only [Json.nestsWithin_iff]
  split
  · exact (Description.reports_read value).mapError _
  · rfl

theorem reports_decodeUnder (table : List (String × Json)) (value : Json) :
    Reports (decodeUnder table value)
      (depthFaults value ++ formFaults value ++ value.faults table) := by
  apply (reports_ofJson value).bind
  intro description found
  rw [← Description.faults_of_read table (ofJson_eq_ok_iff.mp found).2,
    Conversion.toSchema_eq_convert]
  exact Description.reports_convert table description

private theorem reports_definitions (document : Json) :
    Reports (definitions document) (tableFaults document) := by
  unfold definitions tableFaults
  cases document.get? "$defs" with
  | none => rfl
  | some found => cases found <;> rfl

theorem definitions_eq_tableOf {document : Json} {table : List (String × Json)}
    (ok : definitions document = .ok table) : tableOf document = table := by
  unfold definitions at ok
  unfold tableOf
  cases found : document.get? "$defs" with
  | none =>
    rw [found] at ok
    exact Except.ok.inj ok
  | some value =>
    rw [found] at ok
    cases value with
    | obj members => exact Except.ok.inj ok
    | _ => cases ok

theorem depth_lt_of_mem_tableOf {document : Json} {definition : String × Json}
    (inside : definition ∈ tableOf document) : definition.2.depth < document.depth := by
  unfold tableOf at inside
  split at inside
  · rename_i table found
    have inTable : definition.2 ∈ (Json.obj table).children := List.mem_map_of_mem inside
    have inDocument : .obj table ∈ document.children := by
      cases document with
      | obj members => exact List.mem_map_of_mem (Members.mem_of_lookup found)
      | _ => cases found
    have inner := Json.depth_lt_of_mem_children inTable
    have outer := Json.depth_lt_of_mem_children inDocument
    omega
  · cases inside

theorem reports_checkDefinitions {document : Json}
    (shallow : document.depth ≤ nestingLimit) :
    Reports (checkDefinitions (tableOf document))
      ((tableOf document).flatMap fun definition =>
        formFaults definition.2 ++ definition.2.faults (tableOf document)) := by
  apply Reports.forM
  intro definition inside
  -- A definition lies inside the document, whose depth has been checked.
  have inner := depth_lt_of_mem_tableOf inside
  have noDepth : depthFaults definition.2 = [] := if_pos (by omega)
  have reports := reports_decodeUnder (tableOf document) definition.2
  rw [noDepth, List.nil_append] at reports
  exact reports.map fun _ => ()

theorem reports_decode (document : Json) :
    Reports (decode document) (documentFaults document) := by
  unfold decode documentFaults
  rw [List.append_assoc, List.append_assoc]
  apply (reports_ofJson document).bind
  intro description isDescription
  obtain ⟨shallow, isRead⟩ := ofJson_eq_ok_iff.mp isDescription
  apply (reports_definitions document).bind
  intro table isTable
  obtain rfl := definitions_eq_tableOf isTable
  apply (reports_checkDefinitions shallow).bind
  intro _ _
  rw [← Description.faults_of_read _ isRead, Conversion.toSchema_eq_convert]
  exact Description.reports_convert _ description

/-- A table holds the definitions of a document, which are none where it has no such member. -/
def IsTable (document : Json) (table : List (String × Json)) : Prop :=
  document.get? "$defs" = some (.obj table) ∨ document.get? "$defs" = none ∧ table = []

private theorem tableFaults_eq_nil_iff (document : Json) :
    tableFaults document = [] ↔ IsTable document (tableOf document) := by
  unfold tableFaults IsTable tableOf
  cases document.get? "$defs" with
  | none => simp
  | some found => cases found <;> simp

private theorem tableOf_eq_of_isTable {document : Json} {table : List (String × Json)}
    (isTable : IsTable document table) : tableOf document = table := by
  unfold tableOf
  rcases isTable with found | ⟨none, rfl⟩
  · rw [found]
  · rw [none]

private theorem depthFaults_eq_nil_iff (value : Json) :
    depthFaults value = [] ↔ value.depth ≤ nestingLimit := by
  unfold depthFaults
  split <;> simp_all

private theorem formFaults_eq_nil_iff (value : Json) :
    formFaults value = [] ↔ HasForm (.record .node) value := by
  rw [formFaults, List.map_eq_nil_iff, Form.mismatches_eq_nil_iff]

/-- A document is accepted exactly if it does not nest too deeply, has the form of a node, and has
a table of definitions under which every node that is reached in the document or in a definition is
complete, each definition having the form of a node as well. The error of a document that is not
accepted is the first of its faults, stage by stage. -/
theorem decode_accepts_grammar (document : Json) :
    ((∃ schema, decode document = .ok schema) ↔
      document.depth ≤ nestingLimit ∧
      HasForm (.record .node) document ∧
      ∃ table, IsTable document table ∧
        (∀ definition ∈ table, HasForm (.record .node) definition.2) ∧
        (∀ node, document.Reaches node → node.Complete table) ∧
        ∀ definition ∈ table, ∀ node, definition.2.Reaches node → node.Complete table) ∧
    ∀ cause, decode document = .error cause ↔ (documentFaults document).head? = some cause := by
  have reports := reports_decode document
  refine ⟨?accepted, reports.error_iff⟩
  case accepted =>
    have definitionsClean : (tableOf document).flatMap (fun definition =>
          formFaults definition.2 ++ definition.2.faults (tableOf document)) = [] ↔
        ∀ definition ∈ tableOf document, HasForm (.record .node) definition.2 ∧
          ∀ node, definition.2.Reaches node → node.Complete (tableOf document) := by
      rw [List.flatMap_eq_nil_iff]
      refine forall₂_congr fun definition _ => ?_
      rw [List.append_eq_nil_iff, formFaults_eq_nil_iff, Json.faults_eq_nil_iff]
    rw [reports.ok_iff, documentFaults, List.append_eq_nil_iff, List.append_eq_nil_iff,
      List.append_eq_nil_iff, List.append_eq_nil_iff, depthFaults_eq_nil_iff,
      formFaults_eq_nil_iff, tableFaults_eq_nil_iff, definitionsClean, Json.faults_eq_nil_iff]
    constructor
    · rintro ⟨⟨⟨⟨shallow, hasForm⟩, isTable⟩, each⟩, complete⟩
      exact ⟨shallow, hasForm, tableOf document, isTable,
        fun definition inside => (each definition inside).1, complete,
        fun definition inside => (each definition inside).2⟩
    · rintro ⟨shallow, hasForm, table, isTable, forms, complete, definitionsComplete⟩
      obtain rfl := tableOf_eq_of_isTable isTable
      exact ⟨⟨⟨⟨shallow, hasForm⟩, isTable⟩, fun definition inside =>
        ⟨forms definition inside, definitionsComplete definition inside⟩⟩, complete⟩

end Schema

end SchemaOutline
