import Mathlib
import SchemaOutline.Proofs.Schema.Bounds

/-! A document that passes its own depth check passes every later one. -/

set_option autoImplicit false
set_option relaxedAutoImplicit false

namespace SchemaOutline

theorem Json.nestsWithin_of_inside {inner value : Json} {limit : Nat} (inside : Inside inner value)
    (within : value.nestsWithin limit = true) : inner.nestsWithin limit = true := by
  have below := inside.depth_lt
  rw [nestsWithin_iff] at within ⊢
  omega

namespace Schema

section

variable {table : List (String × Json)} {document value : Json}

theorem decodeUnder_ne_tooDeep (within : value.nestsWithin nestingLimit = true) :
    decodeUnder table value ≠ .error .tooDeep := by
  intro refused
  have inside := List.mem_of_head? (((reports_decodeUnder table value).error_iff _).mp refused)
  have none : depthFaults value = [] := if_pos (Json.nestsWithin_iff.mp within)
  rw [none, List.nil_append, List.mem_append] at inside
  exact inside.elim (tooDeep_not_mem_formFaults value) (tooDeep_not_mem_faults table value)

theorem checkDefinitions_ne_tooDeep (shallow : document.depth ≤ nestingLimit) :
    checkDefinitions (tableOf document) ≠ .error .tooDeep := by
  intro refused
  have inside := List.mem_of_head? (((reports_checkDefinitions shallow).error_iff _).mp refused)
  obtain ⟨definition, _, found⟩ := List.mem_flatMap.mp inside
  exact (List.mem_append.mp found).elim (tooDeep_not_mem_formFaults _) (tooDeep_not_mem_faults _ _)

theorem decode_eq_tooDeep_iff (document : Json) :
    decode document = .error .tooDeep ↔ nestingLimit < document.depth := by
  constructor
  · intro refused
    by_contra shallow
    exact decode_ne_tooDeep (Nat.not_lt.mp shallow) refused
  · intro deep
    have first : depthFaults document = [.tooDeep] := if_neg (Nat.not_le.mpr deep)
    rw [(reports_decode document).error_iff, documentFaults, first]
    rfl

theorem nestsWithin_of_mem_tableOf {definition : String × Json} {limit : Nat}
    (inside : definition ∈ tableOf document) (within : document.nestsWithin limit = true) :
    definition.2.nestsWithin limit = true := by
  have below := depth_lt_of_mem_tableOf inside
  rw [Json.nestsWithin_iff] at within ⊢
  omega

/-- A value is found to nest too deeply exactly if it has more than 1024 levels; in whatever order
its values are taken, the walk through them comes to an end and finds out the same. What is inside a
value that passes passes as well. So a document that passes is never refused for its depth later on:
not when its definitions are checked, and not when a suspension is resolved, however it is reached
from the decoded schema. -/
theorem depth_counts_once (find? : Routine → Option Schema) :
    (∀ value : Json, value.nestsWithin nestingLimit = false ↔ 1024 < value.depth) ∧
    (∀ (value : Json) (limit : Nat) (outcome : Bool),
      Json.Placed.Walks limit [⟨value, 1⟩] outcome ↔ (outcome = true ↔ value.depth ≤ limit)) ∧
    (∀ limit, WellFounded fun next pending => Json.Placed.Visits limit pending next) ∧
    (∀ (inner value : Json) (limit : Nat), Json.Inside inner value →
      value.nestsWithin limit = true → inner.nestsWithin limit = true) ∧
    ∀ document : Json,
      (decode document = .error .tooDeep ↔ document.nestsWithin nestingLimit = false) ∧
      (document.nestsWithin nestingLimit = true →
        checkDefinitions (tableOf document) ≠ .error .tooDeep ∧
        (∀ definition ∈ tableOf document, definition.2.nestsWithin nestingLimit = true ∧
          decodeUnder (tableOf document) definition.2 ≠ .error .tooDeep) ∧
        ∀ schema target suspension, decode document = .ok schema →
          Reaches find? schema target →
          target.suspension? = some suspension →
          ∃ table name definition, suspension.resolution = .definition table name ∧
            Json.lookup? table name = some definition ∧
            definition.nestsWithin nestingLimit = true ∧
            decodeUnder table definition ≠ .error .tooDeep) := by
  have deep (value : Json) : value.nestsWithin nestingLimit = false ↔ 1024 < value.depth := by
    rw [← Bool.not_eq_true, Json.nestsWithin_iff, Nat.not_le]
    rfl
  refine ⟨deep, fun _ _ _ => Json.Placed.walks_iff, Json.Placed.wellFounded_visits,
    fun _ _ _ => Json.nestsWithin_of_inside, fun document => ⟨?refused, fun within => ?later⟩⟩
  case refused =>
    rw [decode_eq_tooDeep_iff, deep]
    rfl
  case later =>
    have definitions {definition : String × Json} (inside : definition ∈ tableOf document) :
        definition.2.nestsWithin nestingLimit = true ∧
          decodeUnder (tableOf document) definition.2 ≠ .error .tooDeep := by
      have inner := nestsWithin_of_mem_tableOf inside within
      exact ⟨inner, decodeUnder_ne_tooDeep inner⟩
    refine ⟨checkDefinitions_ne_tooDeep (Json.nestsWithin_iff.mp within),
      fun definition inside => definitions inside, ?_⟩
    intro schema target suspension ok reaches suspends
    have grounded := (grounded_of_decode ok).1.of_reaches reaches
    obtain ⟨name, definition, known, rfl⟩ := grounded.own suspends
    obtain ⟨inner, decoded⟩ := definitions (Members.mem_of_lookup known)
    exact ⟨tableOf document, name, definition, rfl, known, inner, decoded⟩

end

namespace Friends

/-- Around the circle, the definition of a person is never refused for its depth. -/
theorem person_stays_within :
    document.nestsWithin nestingLimit = true ∧
    (Json.Inside person document ∧ person.nestsWithin nestingLimit = true) ∧
    checkDefinitions (tableOf document) ≠ .error .tooDeep ∧
    (("Person", person) ∈ tableOf document ∧
      decodeUnder (tableOf document) person ≠ .error .tooDeep) ∧
    decode document = .ok schema ∧ Reaches findNone schema suspended ∧
    suspended.suspension? = some reference ∧
    ∃ table name definition, reference.resolution = .definition table name ∧
      Json.lookup? table name = some definition ∧
      definition.nestsWithin nestingLimit = true ∧
      decodeUnder table definition ≠ .error .tooDeep := by
  obtain ⟨_, _, _, inner, documents⟩ := depth_counts_once findNone
  have within : document.nestsWithin nestingLimit = true := by cbv
  have inDocument : Json.obj [("Person", person)] ∈ document.children := by
    simp [document, Json.children]
  have inTable : person ∈ (Json.obj [("Person", person)]).children := List.mem_cons_self
  have inside : Json.Inside person document := .tail (.single inTable) inDocument
  have defined : ("Person", person) ∈ tableOf document := List.mem_cons_self
  obtain ⟨checked, definitions, resolved⟩ := (documents document).2 within
  exact ⟨within, ⟨inside, inner person document nestingLimit inside within⟩, checked,
    ⟨defined, (definitions _ defined).2⟩, decode_document, reaches_suspended, rfl,
    resolved schema suspended reference decode_document reaches_suspended rfl⟩

end Friends

end Schema

end SchemaOutline
