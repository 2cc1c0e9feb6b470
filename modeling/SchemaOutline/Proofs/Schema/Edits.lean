import SchemaOutline.Proofs.Description.EditAgreement
import SchemaOutline.Proofs.Schema.Meaning
import SchemaOutline.Proofs.Schema.Sameness

/-! Edits of a document and of its definitions leave the decoded schema as it is. -/

set_option autoImplicit false
set_option relaxedAutoImplicit false

namespace SchemaOutline

open List (Forall₂)
open Description

namespace Json

variable {table others : List (String × Json)} {value other : Json} {annotations : Annotations}
  {shape : Shape Json} {schema : Schema}

theorem Says.of_edit (said : value.Says table annotations shape)
    (edit : Edit (.record .node) value other) :
    ∃ nodes fits, other.Says table annotations (shape.refill nodes fits) ∧
      Forall₂ (Edit (.record .node)) shape.parts nodes := by
  obtain ⟨form, ⟨kind, isKind, isShape⟩, own⟩ := said
  obtain ⟨nodes, fits, isEdited, related⟩ := Body.shape_of_edit edit isKind isShape
  refine ⟨nodes, fits, ⟨edit.hasForm form, ⟨kind, ?_, isEdited⟩, ?_⟩, related⟩
  · rw [isKind, tagOf_of_edit edit]
  · rw [← Body.annotations_of_edit edit, own]

theorem Means.of_edit (means : Means table value schema)
    (edit : Edit (.record .node) value other) : Means table other schema := by
  refine Means.induct (motive := fun value schema => ∀ other, Edit (.record .node) value other →
    Means table other schema) ?step means other edit
  intro value annotations shape schemas said ih fits other edit
  obtain ⟨nodes, enough, said, edits⟩ := said.of_edit edit
  have mean : Forall₂ (Means table) (shape.refill nodes enough).parts schemas := by
    rw [Shape.parts_refill]
    refine (exists_forall₂_iff.mp ⟨_, edits.flip, ih⟩).imp ?_
    rintro node part ⟨inner, edit, ih⟩
    exact ih node edit
  have means := said.means mean
  rwa [Shape.refill_refill] at means

def Covers (table others : List (String × Json)) : Prop :=
  ∀ name, (lookup? table name).isSome → (lookup? others name).isSome

theorem Says.referring (said : value.Says table annotations shape) (covers : Covers table others) :
    value.Says others annotations (shape.referring others) := by
  obtain ⟨form, ⟨kind, isKind, isShape⟩, own⟩ := said
  refine ⟨form, ⟨kind, isKind, ?_⟩, own⟩
  have sameKind : shape.kind = kind := Body.kind_shape isShape
  rcases shape.suspend_or_kind_ne with ⟨suspension, rfl⟩ | plain
  · obtain rfl : Kind.suspend = kind := sameKind
    obtain ⟨name, definition, isName, known, same⟩ := Schema.shape_suspend_eq_ok_iff.mp isShape
    obtain rfl := Shape.suspend.inj same
    obtain ⟨definition', known'⟩ := Option.isSome_iff_exists.mp (covers name (by rw [known]; rfl))
    exact Schema.shape_suspend_eq_ok_iff.mpr ⟨name, definition', isName, known', rfl⟩
  · rw [Shape.referring_of_kind_ne plain]
    cases kind with
    | suspend => exact absurd sameKind plain
    | _ => exact isShape

theorem Means.referring (means : Means table value schema) (covers : Covers table others) :
    Means others value (schema.referring others) := by
  refine Means.induct (motive := fun value schema => Means others value (schema.referring others))
    ?step means
  intro value annotations shape schemas said ih fits
  have said := said.referring covers
  rcases shape.suspend_or_kind_ne with ⟨suspension, rfl⟩ | plain
  · obtain ⟨label, resolution⟩ := suspension
    have referred : (Schema.mk annotations ((Shape.suspend ⟨label, resolution⟩).refill schemas
        fits)).referring others =
          .mk annotations (.suspend ⟨label, .definition others (label.getD "")⟩) :=
      Schema.referring_suspend _ _
    have none : Forall₂ (Means others) [] ([] : List Schema) := .nil
    rw [referred]
    exact said.means none
  · have refilled : (shape.refill schemas fits).kind ≠ .suspend := by
      rwa [Shape.kind_refill]
    have mean : Forall₂ (Means others) shape.parts (schemas.map (Schema.referring others)) :=
      List.forall₂_map_right_iff.mpr ih
    rw [Shape.referring_of_kind_ne plain] at said
    have means := said.means mean
    rw [Schema.referring_plain refilled]
    simp only [Shape.refill_refill]
    rwa [Shape.refill_congr _ (by rw [Shape.parts_refill])]

end Json

namespace Schema

open Json (Means Covers lookup?)

variable {table others last : List (String × Json)} {document other value edited : Json}
  {schema : Schema}

/-! ### Edits of documents -/

/-- A document is edited in one place: in its nodes, where its table stays as it is, or in a
definition of its table. -/
inductive DocumentEdit : Json → Json → Prop
  | node {document other : Json} (edit : Json.Edit (.record .node) document other)
      (kept : other.get? "$defs" = document.get? "$defs") : DocumentEdit document other
  | definition {before after : List (String × Json)} (first : ∀ member ∈ before, member.1 ≠ "$defs")
      (front back : List (String × Json)) (name : String) {definition other : Json}
      (edit : Json.Edit (.record .node) definition other) :
      DocumentEdit
        (.obj (before ++ ("$defs", .obj (front ++ (name, definition) :: back)) :: after))
        (.obj (before ++ ("$defs", .obj (front ++ (name, other) :: back)) :: after))

def Restates (table others : List (String × Json)) (value edited : Json) : Prop :=
  ∀ schema, Means table value schema → Means others edited (schema.referring others)

theorem restates_of_edit (edit : Json.Edit (.record .node) value edited) :
    Restates table table value edited := by
  intro schema means
  rw [referring_of_grounded means.grounded]
  exact means.of_edit edit

theorem Restates.trans (first : Restates table others value edited)
    (second : Restates others last edited other) : Restates table last value other := by
  intro schema means
  have twice : (schema.referring others).referring last = schema.referring last :=
    referring_referring schema
  rw [← twice]
  exact second _ (first schema means)

theorem restates_of_covers (covers : Covers table others) : Restates table others value value :=
  fun _ means => means.referring covers

/-- What a document and the definitions of its table mean, another document and its definitions
mean as well. -/
structure Unchanged (document other : Json) : Prop where
  isTable : definitions document = .ok (tableOf document) → definitions other = .ok (tableOf other)
  table : Forall₂ (fun definition definition' => definition.1 = definition'.1 ∧
    Restates (tableOf document) (tableOf other) definition.2 definition'.2)
    (tableOf document) (tableOf other)
  root : Restates (tableOf document) (tableOf other) document other

theorem Unchanged.refl (document : Json) : Unchanged document document where
  isTable := id
  table := List.forall₂_same.mpr fun definition _ => ⟨rfl, restates_of_edit (.same _ definition.2)⟩
  root := restates_of_edit (.same _ document)

theorem Unchanged.trans {between : Json} (first : Unchanged document between)
    (second : Unchanged between other) : Unchanged document other where
  isTable := second.isTable ∘ first.isTable
  table := by
    refine (exists_forall₂_iff.mp ⟨_, first.table, second.table⟩).imp ?_
    rintro definition definition' ⟨_, ⟨sameName, restated⟩, sameName', restated'⟩
    exact ⟨sameName.trans sameName', restated.trans restated'⟩
  root := first.root.trans second.root

section

variable {before : List (String × Json)} (first : ∀ member ∈ before, member.1 ≠ "$defs")
  (after : List (String × Json))

include first

private theorem get?_definitions (found : Json) :
    (Json.obj (before ++ ("$defs", found) :: after)).get? "$defs" = some found :=
  Members.lookup_append_cons_self first found after

private theorem tableOf_definitions (table : List (String × Json)) :
    tableOf (.obj (before ++ ("$defs", .obj table) :: after)) = table := by
  rw [tableOf, get?_definitions first]

omit first in
private theorem edit_of_definitions (table others : List (String × Json)) :
    Json.Edit (.record .node) (.obj (before ++ ("$defs", .obj table) :: after))
      (.obj (before ++ ("$defs", .obj others) :: after)) := by
  have unknown : "$defs" ∉ Record.node.names := by decide
  have edit : Json.Edit (.record .node) (.obj (before ++ [("$defs", .obj table)] ++ after))
      (.obj (before ++ [("$defs", .obj others)] ++ after)) :=
    .unknown rfl before after (by simpa using unknown)
  simpa using edit

omit first in
private theorem covers_replaced (front back : List (String × Json)) (name : String) :
    Covers (front ++ (name, value) :: back) (front ++ (name, edited) :: back) := by
  intro other known
  rw [lookup?, Members.isSome_lookup_iff] at known ⊢
  simpa using known

private theorem unchanged_of_definition (front back : List (String × Json)) (name : String)
    (edit : Json.Edit (.record .node) value edited) :
    Unchanged (.obj (before ++ ("$defs", .obj (front ++ (name, value) :: back)) :: after))
      (.obj (before ++ ("$defs", .obj (front ++ (name, edited) :: back)) :: after)) := by
  have covers : Covers (front ++ (name, value) :: back) (front ++ (name, edited) :: back) :=
    covers_replaced front back name
  refine ⟨fun _ => ?isTable, ?table, ?root⟩
  case isTable => rw [definitions, get?_definitions first, tableOf_definitions first]
  case table =>
    rw [tableOf_definitions first, tableOf_definitions first]
    have elsewhere (definition : String × Json) : definition.1 = definition.1 ∧
        Restates (front ++ (name, value) :: back) (front ++ (name, edited) :: back)
          definition.2 definition.2 := ⟨rfl, restates_of_covers covers⟩
    exact List.rel_append (List.forall₂_same.mpr fun definition _ => elsewhere definition)
      (.cons ⟨rfl, (restates_of_edit edit).trans (restates_of_covers covers)⟩
        (List.forall₂_same.mpr fun definition _ => elsewhere definition))
  case root =>
    rw [tableOf_definitions first, tableOf_definitions first]
    exact (restates_of_edit (edit_of_definitions after _ _)).trans (restates_of_covers covers)

end

theorem unchanged_of_edit (edit : DocumentEdit document other) : Unchanged document other := by
  cases edit with
  | definition first front back name edit =>
    exact unchanged_of_definition first _ front back name edit
  | node edit kept =>
    have sameTable : tableOf other = tableOf document := by
      rw [tableOf, tableOf, kept]
    refine ⟨fun isTable => ?_, ?_, ?_⟩
    · rw [definitions, kept, sameTable]
      exact isTable
    · rw [sameTable]
      exact (Unchanged.refl document).table
    · rw [sameTable]
      exact restates_of_edit edit

theorem unchanged_of_edits (edits : Relation.ReflTransGen DocumentEdit document other) :
    Unchanged document other := by
  induction edits with
  | refl => exact .refl document
  | tail _ edit ih => exact ih.trans (unchanged_of_edit edit)

private theorem Unchanged.redirects (unchanged : Unchanged document other)
    (defined : ∀ definition ∈ tableOf document, ∃ target,
      decodeUnder (tableOf document) definition.2 = .ok target)
    (shallow : other.depth ≤ nestingLimit) : Redirects (tableOf document) (tableOf other) := by
  intro name definition known
  obtain ⟨target, decoded⟩ := defined (name, definition) (Members.mem_of_lookup known)
  obtain ⟨definition', known', restated⟩ := Members.exists_lookup_of_forall₂
    (R := Restates (tableOf document) (tableOf other)) unchanged.table known
  have below : definition'.depth < other.depth :=
    depth_lt_of_mem_tableOf (Members.mem_of_lookup known')
  have means := restated target (decodeUnder_eq_ok_iff.mp decoded).2
  exact ⟨target, definition', decoded, known', decodeUnder_eq_ok_iff.mpr ⟨by omega, means⟩⟩

/-- However often a document is edited in members that do not count, what it is decoded into stays
the same, as far as one may go from it, and refers to the table of the edited document. -/
theorem decode_of_edits (find? : Routine → Option Schema) (ok : decode document = .ok schema)
    (edits : Relation.ReflTransGen DocumentEdit document other)
    (shallow : other.depth ≤ nestingLimit) :
    ∃ result, decode other = .ok result ∧ Same find? schema result ∧
      result = schema.referring (tableOf other) ∧
      (tableOf other = tableOf document → result = schema) := by
  have unchanged := unchanged_of_edits edits
  obtain ⟨grounded, defined⟩ := grounded_of_decode ok
  obtain ⟨_, isTable, meant, means⟩ := decode_eq_ok_iff.mp ok
  have defined' : ∀ definition' ∈ tableOf other, ∃ part,
      definition'.2.Means (tableOf other) part := by
    intro definition' inside
    obtain ⟨definition, among, _, restated⟩ :=
      Outline.exists_of_mem_forall₂ unchanged.table.flip inside
    obtain ⟨part, means⟩ := meant definition among
    exact ⟨part.referring (tableOf other), restated part means⟩
  have decoded : decode other = .ok (schema.referring (tableOf other)) :=
    decode_eq_ok_iff.mpr
      ⟨shallow, unchanged.isTable isTable, defined', unchanged.root schema means⟩
  have same := same_referring find? grounded (unchanged.redirects defined shallow)
  refine ⟨_, decoded, same, rfl, fun sameTable => ?_⟩
  rw [sameTable, referring_of_grounded grounded]

end Schema

namespace Schema.Friends

def referral : List (String × Json) := [("_tag", .str "Suspend"), ("ref", .str "Person")]

def clutter : List (String × Json) := [("from", .obj [("_tag", .str "Nothing")])]

def personal : List (String × Json) :=
  [("_tag", .str "Struct"),
    ("fields", .arr [.obj [("name", .str "friend"), ("type", .obj referral)]])]

def editedDocument : Json :=
  .obj [("$defs", .obj [("Person", .obj (personal ++ [("$defs", .null)]))]),
    ("types", .arr [.obj (referral ++ clutter)]), ("_tag", .str "Union")]

private theorem edit_referral :
    Json.Edit (.record .node) (.obj referral) (.obj (referral ++ clutter)) := by
  have typed : HasForm (.optional (.record .node)) (.obj [("_tag", .str "Nothing")]) := by
    refine .present (.object ?_ fun _ => List.mem_cons_self)
    intro member inside form isForm
    obtain rfl := List.mem_singleton.mp inside
    obtain rfl := Option.some.inj isForm
    exact .text "Nothing"
  have ignored : Kind.suspend.Ignores "from" := ⟨by decide, by decide⟩
  have named : Kind.suspend.name = tagOf (.obj (referral ++ [] ++ [])) := by cbv
  have edit : Json.Edit (.record .node) (.obj (referral ++ [] ++ []))
      (.obj (referral ++ clutter ++ [])) := by
    refine .ignored referral [] named ?_ ?_
    · exact fun member inside => List.mem_singleton.mp inside ▸ ignored
    · intro member inside form isForm
      obtain rfl := List.mem_singleton.mp inside
      obtain rfl := Option.some.inj isForm
      exact typed
  rwa [List.append_nil, List.append_nil, List.append_nil] at edit

private theorem edit_person :
    Json.Edit (.record .node) person (.obj (personal ++ [("$defs", .null)])) := by
  have edit : Json.Edit (.record .node) (.obj (personal ++ [("$defs", .obj [])] ++ []))
      (.obj (personal ++ [("$defs", .null)] ++ [])) :=
    .unknown rfl personal [] (by decide)
  rw [List.append_nil, List.append_nil] at edit
  exact edit

private theorem edits : Relation.ReflTransGen DocumentEdit document editedDocument := by
  have turned : DocumentEdit document (.obj [("$defs", .obj [("Person", person)]),
      ("types", .arr [.obj referral]), ("_tag", .str "Union")]) :=
    .node (.reorder rfl (by decide) (List.reverse_perm _).symm) rfl
  have filled : DocumentEdit
      (.obj [("$defs", .obj [("Person", person)]), ("types", .arr [.obj referral]),
        ("_tag", .str "Union")])
      (.obj [("$defs", .obj [("Person", person)]), ("types", .arr [.obj (referral ++ clutter)]),
        ("_tag", .str "Union")]) :=
    .node (.member rfl [_] [_] (.item [] [] edit_referral)) rfl
  have first : ∀ member ∈ ([] : List (String × Json)), member.1 ≠ "$defs" := nofun
  have changed : DocumentEdit
      (.obj [("$defs", .obj [("Person", person)]), ("types", .arr [.obj (referral ++ clutter)]),
        ("_tag", .str "Union")]) editedDocument :=
    .definition first [] [] "Person" edit_person
  exact ((Relation.ReflTransGen.single turned).tail filled).tail changed

private theorem depth_editedDocument : editedDocument.depth ≤ nestingLimit := by
  cbv

/-- The document is decoded into the same schema after the edits. -/
theorem edits_not_noticed :
    decode document = .ok schema ∧ Relation.ReflTransGen DocumentEdit document editedDocument ∧
    editedDocument.depth ≤ nestingLimit ∧
    ∃ result, decode editedDocument = .ok result ∧ Same findNone schema result ∧
      result = schema.referring (tableOf editedDocument) ∧
      (tableOf editedDocument = tableOf document → result = schema) :=
  ⟨decode_document, edits, depth_editedDocument,
    decode_of_edits findNone decode_document edits depth_editedDocument⟩

end Schema.Friends

end SchemaOutline
