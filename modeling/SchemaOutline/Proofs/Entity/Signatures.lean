import SchemaOutline.Entity.Signature
import SchemaOutline.Proofs.Entity.Spine
import SchemaOutline.Proofs.Path.Formatting

/-! The signatures of a stamped schema name the fields of its spine, each once. -/

set_option autoImplicit false
set_option relaxedAutoImplicit false

namespace SchemaOutline

open List (Forall₂)
open Traversal

/-! ### Texts of paths -/

namespace Signature

/-- The text of a path in signatures. Keys in front that are empty leave nothing behind. -/
def pathText (texts : List String) : String := Path.format (texts.dropWhile String.isEmpty)

theorem extend_pathText (texts : List String) (key : String) :
    extend (pathText texts) key = pathText (texts ++ [key]) := by
  unfold extend pathText
  rw [List.dropWhile_append]
  cases rest : texts.dropWhile String.isEmpty with
  | nil =>
    by_cases empty : key = ""
    · subst empty
      rfl
    · have there : key.isEmpty = false := by simpa using empty
      rw [List.isEmpty_nil, if_pos rfl, List.dropWhile_cons, there]
      exact String.intercalate_singleton.symm
  | cons first others =>
    have there : first ≠ "" := by
      have kept := List.head?_dropWhile_not String.isEmpty texts
      rw [rest] at kept
      simpa using kept
    have written := Path.format_ne_empty others there
    have notEmpty : (Path.format (first :: others)).isEmpty = false := by simpa using written
    rw [notEmpty, List.isEmpty_cons]
    show Path.format (first :: others) ++ "." ++ key = Path.format (first :: others ++ [key])
    rw [Path.format, Path.format, String.intercalate_append_of_ne_nil (by simp) (by simp),
      String.intercalate_singleton]

theorem pathText_cons_empty (texts : List String) : pathText ("" :: texts) = pathText texts := rfl

theorem pathText_cons_of_ne {first : String} (texts : List String) (there : first ≠ "") :
    pathText (first :: texts) = Path.format (first :: texts) := by
  have notEmpty : first.isEmpty = false := by simpa using there
  rw [pathText, List.dropWhile_cons, notEmpty]
  rfl

private theorem length_format_cons_empty {texts : List String} (more : texts ≠ []) :
    (Path.format ("" :: texts)).length = (Path.format texts).length + 1 := by
  rw [Path.format, String.intercalate_cons_of_ne_nil more, String.length_append,
    String.length_append]
  exact Nat.add_comm 1 _

theorem length_pathText_le (texts : List String) :
    (pathText texts).length ≤ (Path.format texts).length := by
  induction texts with
  | nil => exact Nat.le_refl _
  | cons first texts ih =>
    by_cases empty : first = ""
    · subst empty
      by_cases more : texts = []
      · subst more
        exact Nat.zero_le _
      · have longer := length_format_cons_empty more
        rw [pathText_cons_empty]
        omega
    · rw [pathText_cons_of_ne texts empty]

/-- The first segment of a path has no text, and there are others behind it. -/
def Hollow (texts : List String) : Prop := ∃ rest, rest ≠ [] ∧ texts = "" :: rest

theorem length_pathText_lt {texts : List String} (hollow : Hollow texts) :
    (pathText texts).length < (Path.format texts).length := by
  obtain ⟨rest, more, rfl⟩ := hollow
  have longer := length_format_cons_empty more
  have shorter := length_pathText_le rest
  rw [pathText_cons_empty]
  omega

theorem pathText_of_not_hollow {texts : List String} (solid : ¬ Hollow texts) :
    pathText texts = Path.format texts := by
  cases texts with
  | nil => rfl
  | cons first texts =>
    by_cases empty : first = ""
    · subst empty
      by_cases more : texts = []
      · subst more
        rfl
      · exact absurd ⟨texts, more, rfl⟩ solid
    · exact pathText_cons_of_ne texts empty

private theorem length_text (path kind marker : String) :
    (text path kind marker).length = path.length + (":" ++ kind ++ ":" ++ marker).length := by
  simp only [text, String.length_append]
  omega

theorem length_text_le {path other : String} (shorter : path.length ≤ other.length)
    (kind marker : String) :
    (text path kind marker).length ≤ (text other kind marker).length := by
  rw [length_text, length_text]
  omega

theorem length_text_lt {path other : String} (shorter : path.length < other.length)
    (kind marker : String) :
    (text path kind marker).length < (text other kind marker).length := by
  rw [length_text, length_text]
  omega

end Signature

/-! ### Signatures by recursion -/

namespace Schema

theorem weight_type_lt {schema : Schema} {field : Field Schema} (inside : field ∈ schema.fields) :
    field.type.weight < schema.weight := by
  have types := schema.totalWeight_fieldTypes_lt
  rw [fieldTypes_eq, totalWeight_map] at types
  have single := @weight_le_totalWeight_of_mem _ (fun field => field.type.weight) _ _ inside
  omega

theorem induct_fields {motive : Schema → Prop}
    (step : ∀ schema, (∀ field ∈ schema.fields, motive field.type) → motive schema)
    (schema : Schema) : motive schema :=
  step schema fun field _ => induct_fields step field.type
termination_by schema.weight
decreasing_by exact weight_type_lt ‹_›

/-- The signatures of a schema at a path, by recursion on the types of its fields. -/
def signaturesAt (path : String) (schema : Schema) : List String :=
  Signature.here path schema ++ schema.fields.attach.flatMap fun field =>
    signaturesAt (Signature.extend path field.1.key.text) field.1.type
termination_by schema.weight
decreasing_by exact weight_type_lt field.2

theorem signaturesAt_eq (path : String) (schema : Schema) :
    schema.signaturesAt path = Signature.here path schema ++ schema.fields.flatMap fun field =>
      field.type.signaturesAt (Signature.extend path field.key.text) := by
  rw [signaturesAt]
  exact congrArg _ (flatMap_attach schema.fields fun field =>
    field.type.signaturesAt (Signature.extend path field.key.text))

open Signature in
private theorem descendInto_visit (signatures : Array String) (path : String) (schema : Schema) :
    descendInto Located.weight visit signatures ⟨path, schema⟩ =
      signatures ++ (schema.signaturesAt path).toArray := by
  induction schema using induct_fields generalizing signatures path with
  | step schema ih =>
    have below (fields : List (Field Schema)) (among : fields ⊆ schema.fields)
        (before : Array String) :
        (fields.map fun field => (⟨extend path field.key.text, field.type⟩ : Located)).foldl
          (descendInto Located.weight visit) before =
            before ++ (fields.flatMap fun field =>
              field.type.signaturesAt (extend path field.key.text)).toArray := by
      induction fields generalizing before with
      | nil => simp
      | cons field fields next =>
        obtain ⟨inside, others⟩ := List.cons_subset.mp among
        rw [List.map_cons, List.foldl_cons, ih field inside, next others]
        simp
    rw [descendInto_eq, signaturesAt_eq]
    refine (below _ (List.Subset.refl _) _).trans (Array.ext' ?_)
    simp [visit]

theorem signatures_eq (schema : Schema) : schema.signatures = schema.signaturesAt "" := by
  rw [signatures, descend_eq_foldl, List.foldl_cons, List.foldl_nil, descendInto_visit]
  simp

theorem here_stamp (entity : EntityId) {schema : Schema}
    (unmarked : schema.annotations.entityField? = none) (path : String) :
    Signature.here path (schema.stamp entity) = schema.fields.map fun field =>
      Signature.text (Signature.extend path field.key.text) Signature.fieldKind
        entity.marker.text := by
  have own : Signature.own? path (schema.stamp entity) = none := by
    have same : (schema.stamp entity).annotations.entityField? =
        schema.annotations.entityField? := by
      rw [Annotations.entityField?, Annotations.text?, get?_entityField_stamp]
      rfl
    rw [Signature.own?, same, unmarked, Option.map_none]
  have marked (field : Field Schema) (type : Schema) :
      Signature.ofField? path (field.stamped entity type) =
        some (Signature.text (Signature.extend path field.key.text) Signature.fieldKind
          entity.marker.text) := by
    have written : (field.annotations.marked entity.marker).entityField? =
        some entity.marker.text := by
      rw [Annotations.entityField?, Annotations.text?, (field.annotations.get?_marked _).1]
      rfl
    show ((field.annotations.marked entity.marker).entityField?.map _) = _
    rw [written]
    rfl
  rw [Signature.here, own]
  show (schema.stamp entity).fields.filterMap (Signature.ofField? path) = _
  rw [fields_stamp, List.filterMap_map, ← List.filterMap_eq_map]
  exact List.filterMap_congr fun field _ => marked field _

theorem here_of_stamped {entity : EntityId} {schema : Schema}
    (stamped : schema.Stamped .entityField entity) (path : String) :
    Signature.here path schema = schema.fields.map fun field =>
      Signature.text (Signature.extend path field.key.text) Signature.fieldKind
        entity.marker.text := by
  obtain ⟨plain, free, rfl⟩ := stamped
  have unmarked : plain.annotations.entityField? = none := by
    rw [Annotations.entityField?, Annotations.text?, free.own]
    rfl
  rw [here_stamp entity unmarked, fields_stamp, List.map_map]
  rfl

end Schema

namespace Outline.Unfolds

section

variable {C : Type} {rule : ContextRule C} {schema : Schema} {outline : Outline C}
  (unfolds : outline.Unfolds rule schema)

include unfolds

theorem forall₂_field_texts (id : Fin outline.nodes.size) :
    Forall₂ (fun child field => (outline.get child).schema = field.type ∧
        (outline.get child).pathTexts = (outline.get id).pathTexts ++ [field.key.text])
      (outline.fieldIds id) (outline.get id).schema.fields := by
  apply (unfolds.forall₂_fieldIds id).imp
  intro child field isChild
  have schema : (outline.get child).schema = field.type := Node.schema_of_link isChild
  have path : (outline.get child).path = (outline.get id).path.child field.key.segment :=
    Node.path_of_link isChild
  exact ⟨schema, field.key.text_segment ▸ Node.pathTexts_of_path_child path⟩

variable {entity : EntityId}

theorem perm_signaturesAt {id : Fin outline.nodes.size}
    (stamped : (outline.get id).schema.Stamped .entityField entity) :
    ((outline.get id).schema.signaturesAt (Signature.pathText (outline.get id).pathTexts)).Perm
      ((outline.spineFields id).map fun other =>
        Signature.text (Signature.pathText (outline.get other).pathTexts) Signature.fieldKind
          entity.marker.text) := by
  induction id using induct_childIds with
  | step id ih =>
    let signature (other : Fin outline.nodes.size) : String :=
      Signature.text (Signature.pathText (outline.get other).pathTexts) Signature.fieldKind
        entity.marker.text
    let below (other : Fin outline.nodes.size) : List String :=
      (outline.get other).schema.signaturesAt (Signature.pathText (outline.get other).pathTexts)
    have texts := unfolds.forall₂_field_texts id
    have here : Signature.here (Signature.pathText (outline.get id).pathTexts)
        (outline.get id).schema = (outline.fieldIds id).map signature := by
      rw [Schema.here_of_stamped stamped, eq_comm]
      refine map_eq_of_forall₂ (texts.imp fun child field => ?_)
      rintro ⟨_, extended⟩
      show Signature.text (Signature.pathText (outline.get child).pathTexts) _ _ = _
      rw [extended, Signature.extend_pathText]
    have further : ((outline.get id).schema.fields.flatMap fun field => field.type.signaturesAt
        (Signature.extend (Signature.pathText (outline.get id).pathTexts) field.key.text)) =
          (outline.fieldIds id).flatMap below := by
      rw [List.flatMap_def, List.flatMap_def, eq_comm]
      refine congrArg _ (map_eq_of_forall₂ (texts.imp fun child field => ?_))
      rintro ⟨type, extended⟩
      show (outline.get child).schema.signaturesAt _ = _
      rw [type, extended, Signature.extend_pathText]
    have each (child : Fin outline.nodes.size) (inside : child ∈ outline.fieldIds id) :
        (below child).Perm ((outline.spineFields child).map signature) :=
      ih child (List.mem_of_mem_take inside) (unfolds.field_of_stamped stamped inside).1
    -- All fields are named before anything below them; in the outline each is followed by what is
    -- below it.
    calc (outline.get id).schema.signaturesAt (Signature.pathText (outline.get id).pathTexts)
      _ = (outline.fieldIds id).map signature ++ (outline.fieldIds id).flatMap below := by
        rw [Schema.signaturesAt_eq, here, further]
      List.Perm _ ((outline.fieldIds id).map signature ++
          (outline.fieldIds id).flatMap fun child => (outline.spineFields child).map signature) :=
        (List.Perm.flatMap_left _ each).append_left _
      List.Perm _ ((outline.fieldIds id).flatMap fun child =>
          signature child :: (outline.spineFields child).map signature) := by
        rw [List.map_eq_flatMap]
        exact List.flatMap_append_perm _ (fun child => [signature child]) _
      _ = (outline.spineFields id).map signature := by
        rw [spineFields_eq, List.map_flatMap]
        rfl

end

end Outline.Unfolds

private theorem not_length_lt_of_perm_map {α : Type} {items : List α} (short long : α → String)
    (le : ∀ item, (short item).length ≤ (long item).length)
    (perm : (items.map short).Perm (items.map long)) {item : α} (inside : item ∈ items) :
    ¬ (short item).length < (long item).length := by
  intro shorter
  have total := (perm.map String.length).sum_eq
  rw [List.map_map, List.map_map] at total
  have less := List.sum_lt_sum (String.length ∘ short) (String.length ∘ long)
    (fun item _ => le item) ⟨item, inside, shorter⟩
  omega

namespace Outline

/-- The signatures of a schema that is stamped, and that had no marked fields before, name the
marked fields of its outline, each once. They show the formatted paths of these fields exactly if
none of the paths has segments behind a first one without text. -/
theorem signatures_name_fields {schema : Schema} (entity : EntityId)
    (noField : schema.Free .entityField) :
    ∃ outline, build StandardContext.rule (schema.stamp entity) = .ok outline ∧
      (schema.stamp entity).signatures.Perm (outline.entityFields.map fun node =>
        Signature.text (Signature.pathText node.pathTexts) "PropertySignature"
          ("field##" ++ entity.text)) ∧
      ((schema.stamp entity).signatures.Perm (outline.entityFields.map fun node =>
          Signature.text node.path.text "PropertySignature" ("field##" ++ entity.text)) ↔
        ∀ node ∈ outline.entityFields, ¬ Signature.Hollow node.pathTexts) := by
  obtain ⟨outline, built, _⟩ := exists_build StandardContext.rule (schema.stamp entity)
  have unfolds := unfolds_of_build built
  have named : (schema.stamp entity).signatures.Perm (outline.entityFields.map fun node =>
      Signature.text (Signature.pathText node.pathTexts) "PropertySignature"
        ("field##" ++ entity.text)) := by
    have root : (outline.get ⟨0, outline.nonempty⟩).path = .root :=
      congrArg Node.path unfolds.bare_get_zero
    have spine := unfolds.perm_signaturesAt (unfolds.stamped_get_zero noField)
    rw [unfolds.schema_get_zero, Node.pathTexts, root] at spine
    rw [Schema.signatures_eq, unfolds.entityFields_eq_spineFields noField, List.map_map]
    exact spine
  refine ⟨outline, built, named, ?_⟩
  constructor
  · intro formatted node inside hollow
    have noShorter := not_length_lt_of_perm_map
      (fun node : Node StandardContext => Signature.text (Signature.pathText node.pathTexts)
        "PropertySignature" ("field##" ++ entity.text))
      (fun node => Signature.text node.path.text "PropertySignature" ("field##" ++ entity.text))
      (fun node => Signature.length_text_le (Signature.length_pathText_le node.pathTexts) _ _)
      (named.symm.trans formatted) inside
    exact noShorter (Signature.length_text_lt (Signature.length_pathText_lt hollow) _ _)
  · intro solid
    have same := List.map_congr_left fun node inside => congrArg
      (fun path => Signature.text path "PropertySignature" ("field##" ++ entity.text))
      (Signature.pathText_of_not_hollow (solid node inside))
    rw [same] at named
    exact named

namespace EmptyKey

def inner : Schema := .ofShape
  (.struct [⟨.name "b", .ofShape (.leaf (.keyword .string)), false, false, .empty⟩] [])

def schema : Schema := .ofShape (.struct [⟨.name "", inner, false, false, .empty⟩] [])

def nodes : List (Node StandardContext) :=
  unfold StandardContext.rule (.ofRoot StandardContext.rule (schema.stamp ⟨"id"⟩))

private theorem free (key : Annotations.Key) : schema.Free key := by
  have leaf : (Schema.ofShape (.leaf (.keyword .string))).Free key := .intro rfl nofun nofun
  have freeInner : inner.Free key :=
    .intro rfl (List.forall_mem_singleton.mpr rfl) (List.forall_mem_singleton.mpr leaf)
  exact .intro rfl (List.forall_mem_singleton.mpr rfl) (List.forall_mem_singleton.mpr freeInner)

private theorem signatures_stamp : (schema.stamp ⟨"id"⟩).signatures =
    [":PropertySignature:field##id", "b:PropertySignature:field##id"] := by cbv

private theorem texts_nodes :
    (nodes.filter fun node => (NodeContext.entityField? node.context).isSome).map
      (fun node => node.path.text) = ["", ".b"] := by cbv

/-- The inner field has the formatted path `.b`, but its signature says `b`. -/
theorem path_behind_empty_key_cut :
    schema.isStruct = true ∧ schema.Free .entityField ∧
    ∃ outline, build StandardContext.rule (schema.stamp ⟨"id"⟩) = .ok outline ∧
      outline.entityFields.map (fun node => node.path.text) = ["", ".b"] ∧
      (schema.stamp ⟨"id"⟩).signatures =
        [":PropertySignature:field##id", "b:PropertySignature:field##id"] ∧
      ¬ (schema.stamp ⟨"id"⟩).signatures.Perm (outline.entityFields.map fun node =>
        Signature.text node.path.text "PropertySignature" ("field##" ++ "id")) := by
  obtain ⟨outline, built, same, _⟩ := exists_build StandardContext.rule (schema.stamp ⟨"id"⟩)
  have unfolds := unfolds_of_build built
  have paths : outline.entityFields.map (fun node => node.path.text) = ["", ".b"] := by
    rw [entityFields, unfolds.walk_eq, same, List.toList_toArray]
    exact texts_nodes
  refine ⟨rfl, free _, outline, built, paths, signatures_stamp, fun perm => ?_⟩
  have formatted : (outline.entityFields.map fun node =>
      Signature.text node.path.text "PropertySignature" ("field##" ++ "id")) =
        [":PropertySignature:field##id", ".b:PropertySignature:field##id"] := by
    have texts := congrArg (List.map fun path =>
      Signature.text path "PropertySignature" ("field##" ++ "id")) paths
    rw [List.map_map] at texts
    exact texts
  rw [signatures_stamp, formatted] at perm
  have kept : "b:PropertySignature:field##id" ∈
      [":PropertySignature:field##id", ".b:PropertySignature:field##id"] :=
    perm.subset (List.mem_cons_of_mem _ List.mem_cons_self)
  simp at kept

/-- All the same, every marked field has one signature, with the path cut where it starts empty. -/
theorem signatures_name_cut_paths :
    schema.Free .entityField ∧
    ∃ outline, build StandardContext.rule (schema.stamp ⟨"id"⟩) = .ok outline ∧
      (schema.stamp ⟨"id"⟩).signatures.Perm (outline.entityFields.map fun node =>
        Signature.text (Signature.pathText node.pathTexts) "PropertySignature"
          ("field##" ++ "id")) ∧
      ((schema.stamp ⟨"id"⟩).signatures.Perm (outline.entityFields.map fun node =>
          Signature.text node.path.text "PropertySignature" ("field##" ++ "id")) ↔
        ∀ node ∈ outline.entityFields, ¬ Signature.Hollow node.pathTexts) :=
  ⟨free _, signatures_name_fields ⟨"id"⟩ (free _)⟩

end EmptyKey

end Outline

end SchemaOutline
