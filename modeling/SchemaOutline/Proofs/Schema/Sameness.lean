import SchemaOutline.Proofs.Outline.Preorder
import SchemaOutline.Proofs.Schema.RoundTrip

/-! Schemas that cannot be told apart, whatever their suspensions are resolved to. -/

set_option autoImplicit false
set_option relaxedAutoImplicit false

namespace SchemaOutline

open List (Forall₂)

namespace Shape

variable {α β : Type}

/-- A shape with nothing in the places of schemas. Of what is suspended only the label is left. -/
def face (shape : Shape α) : Shape Unit :=
  (shape.referring []).refill ((shape.referring []).parts.map fun _ => ()) (List.length_map _)

theorem suspend_or_kind_ne (shape : Shape α) :
    (∃ suspension, shape = .suspend suspension) ∨ shape.kind ≠ .suspend := by
  cases shape with
  | suspend suspension => exact .inl ⟨suspension, rfl⟩
  | leaf content => exact .inr (by cases content <;> nofun)
  | _ => exact .inr nofun

theorem referring_of_kind_ne {shape : Shape α} (plain : shape.kind ≠ .suspend)
    (table : List (String × Json)) : shape.referring table = shape := by
  cases shape with
  | suspend suspension => exact absurd rfl plain
  | _ => rfl

theorem face_refill {shape : Shape α} (plain : shape.kind ≠ .suspend) (filling : List β)
    (fits : filling.length = shape.parts.length) :
    (shape.refill filling fits).face = shape.face := by
  have refilled : (shape.refill filling fits).kind ≠ .suspend := by
    rwa [Shape.kind_refill]
  have places : filling.map (fun _ => ()) = shape.parts.map fun _ => () := by
    rw [List.map_const', List.map_const', fits]
  simp only [face, referring_of_kind_ne plain, referring_of_kind_ne refilled, refill_refill]
  exact refill_congr shape (by rw [parts_refill, places]) _

end Shape

namespace Schema

def SuspendedAlike (find? : Routine → Option Schema) (R : Schema → Schema → Prop)
    (suspension other : Suspension) : Prop :=
  suspension.label = other.label ∧
    Option.Rel R (suspension.resolve? find?) (other.resolve? find?)

/-- Two schemas look the same, and what lies one step further is related. -/
structure Alike (find? : Routine → Option Schema) (R : Schema → Schema → Prop)
    (schema other : Schema) : Prop where
  annotations : schema.annotations = other.annotations
  face : schema.shape.face = other.shape.face
  parts : Forall₂ R schema.parts other.parts
  suspended : Option.Rel (SuspendedAlike find? R) schema.suspension? other.suspension?

/-- Two schemas cannot be told apart, however far one goes. -/
def Same (find? : Routine → Option Schema) (schema other : Schema) : Prop :=
  ∃ R : Schema → Schema → Prop, (∀ schema other, R schema other → Alike find? R schema other) ∧
    R schema other

variable {find? : Routine → Option Schema} {R S : Schema → Schema → Prop} {schema other : Schema}

private theorem rel_imp {α β : Type} {R S : α → β → Prop} {found : Option α} {others : Option β}
    (related : Option.Rel R found others) (each : ∀ item other, R item other → S item other) :
    Option.Rel S found others := by
  cases related with
  | none => exact .none
  | some related => exact .some (each _ _ related)

private theorem exists_of_rel {α β : Type} {R : α → β → Prop} {found : Option α}
    {others : Option β} (related : Option.Rel R found others) {item : α}
    (isFound : found = some item) : ∃ other, others = some other ∧ R item other := by
  cases related with
  | none => cases isFound
  | some related => exact ⟨_, rfl, Option.some.inj isFound ▸ related⟩

theorem Alike.imp (alike : Alike find? R schema other)
    (each : ∀ schema other, R schema other → S schema other) : Alike find? S schema other where
  annotations := alike.annotations
  face := alike.face
  parts := alike.parts.imp each
  suspended := rel_imp alike.suspended fun _ _ related => ⟨related.1, rel_imp related.2 each⟩

theorem Same.alike (same : Same find? schema other) : Alike find? (Same find?) schema other := by
  obtain ⟨R, kept, related⟩ := same
  exact (kept schema other related).imp fun _ _ inner => ⟨R, kept, inner⟩

theorem Same.exists_of_reaches {target : Schema} (same : Same find? schema other)
    (reaches : Reaches find? schema target) :
    ∃ found, Reaches find? other found ∧ Same find? target found := by
  induction reaches generalizing other with
  | refl => exact ⟨other, .refl other, same⟩
  | part inside _ ih =>
    obtain ⟨part, among, samePart⟩ := Outline.exists_of_mem_forall₂ same.alike.parts inside
    obtain ⟨found, reaches, sameFound⟩ := ih samePart
    exact ⟨found, .part among reaches, sameFound⟩
  | resolved suspends resolves _ ih =>
    obtain ⟨suspension, suspends, _, targets⟩ := exists_of_rel same.alike.suspended suspends
    obtain ⟨target, resolves, sameTarget⟩ := exists_of_rel targets resolves
    obtain ⟨found, reaches, sameFound⟩ := ih sameTarget
    exact ⟨found, .resolved suspends resolves reaches, sameFound⟩

/-! ### References to another table -/

variable {table others : List (String × Json)}

theorem referring_suspend (annotations : Annotations) (suspension : Suspension) :
    (mk annotations (.suspend suspension)).referring table = mk annotations
      (.suspend ⟨suspension.label, .definition table (suspension.label.getD "")⟩) := by
  rw [referring_eq]
  rfl

theorem referring_plain {annotations : Annotations} {shape : Shape Schema}
    (plain : shape.kind ≠ .suspend) : (mk annotations shape).referring table =
      mk annotations (shape.refill (shape.parts.map (referring table)) (List.length_map _)) := by
  have same := Shape.referring_of_kind_ne plain table
  rw [referring_eq]
  simp only [shape_mk, same, annotations_mk]

theorem referring_referring (schema : Schema) :
    (schema.referring table).referring others = schema.referring others := by
  induction schema using Schema.induct with
  | step schema ih =>
    obtain ⟨annotations, shape⟩ := schema
    rcases shape.suspend_or_kind_ne with ⟨suspension, rfl⟩ | plain
    · rw [referring_suspend, referring_suspend, referring_suspend]
    · have refilled : (shape.refill (shape.parts.map (referring table))
          (List.length_map _)).kind ≠ .suspend := by
        rwa [Shape.kind_refill]
      have parts : (shape.parts.map (referring table)).map (referring others) =
          shape.parts.map (referring others) := by
        rw [List.map_map]
        exact List.map_congr_left ih
      rw [referring_plain plain, referring_plain refilled, referring_plain plain,
        Shape.refill_refill]
      exact congrArg _ (Shape.refill_congr _ (by rw [Shape.parts_refill, parts]) _)

/-- Each name in a table stands for something, and in another table for the same, apart from what
is referred to. -/
def Redirects (table others : List (String × Json)) : Prop :=
  ∀ name definition, Json.lookup? table name = some definition →
    ∃ target definition', decodeUnder table definition = .ok target ∧
      Json.lookup? others name = some definition' ∧
      decodeUnder others definition' = .ok (target.referring others)

theorem same_referring (find? : Routine → Option Schema) (grounded : Grounded table schema)
    (redirects : Redirects table others) :
    Same find? schema (schema.referring others) := by
  refine ⟨fun schema other => Grounded table schema ∧ other = schema.referring others, ?_,
    grounded, rfl⟩
  rintro schema other ⟨grounded, rfl⟩
  obtain ⟨annotations, shape⟩ := schema
  rcases shape.suspend_or_kind_ne with ⟨suspension, rfl⟩ | plain
  · obtain ⟨name, definition, known, rfl⟩ := grounded.own rfl
    obtain ⟨target, definition', decoded, known', decoded'⟩ := redirects name definition known
    rw [referring_suspend]
    refine ⟨rfl, rfl, .nil, .some ⟨rfl, ?_⟩⟩
    have resolves : Suspension.resolve? find? ⟨some name, .definition others name⟩ =
        some (target.referring others) := by
      rw [resolve?_of_lookup? known', decoded']
      rfl
    rw [resolve?_of_lookup? known, decoded]
    show Option.Rel _ (some target)
      (Suspension.resolve? find? ⟨some name, .definition others name⟩)
    rw [resolves]
    exact .some ⟨grounded_of_decodeUnder decoded, rfl⟩
  · have noSuspension {shape : Shape Schema} (plain : shape.kind ≠ .suspend) :
        (mk annotations shape).suspension? = none := by
      cases isSuspended : (mk annotations shape).suspension? with
      | none => rfl
      | some suspension =>
        exact absurd (congrArg Shape.kind (shape_of_suspension? isSuspended)) plain
    have filled : (shape.parts.map (referring others)).length = shape.parts.length :=
      List.length_map _
    have refilled : (shape.refill (shape.parts.map (referring others)) filled).kind ≠
        .suspend := by
      rwa [Shape.kind_refill]
    rw [referring_plain plain]
    refine ⟨rfl, (Shape.face_refill plain _ _).symm, ?_, ?_⟩
    · show Forall₂ _ shape.parts (shape.refill _ _).parts
      rw [Shape.parts_refill, List.forall₂_map_right_iff]
      exact List.forall₂_same.mpr fun part inside => ⟨grounded.part inside, rfl⟩
    · rw [noSuspension plain, noSuspension refilled]
      exact .none

end Schema

end SchemaOutline
