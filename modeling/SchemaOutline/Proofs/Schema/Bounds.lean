import SchemaOutline.Context.Standard
import SchemaOutline.Proofs.Description.Measure
import SchemaOutline.Proofs.Json.Limit
import SchemaOutline.Proofs.Outline.Locality
import SchemaOutline.Proofs.Schema.Meaning

/-! The outline of a decoded schema has no more nodes and levels than its document. -/

set_option autoImplicit false
set_option relaxedAutoImplicit false

namespace SchemaOutline

open List (Forall₂)
open Traversal

/-! ### Levels of an outline -/

private theorem foldl_max_le {heights : List Nat} {bound deepest : Nat}
    (start : deepest ≤ bound) (each : ∀ height ∈ heights, height ≤ bound) :
    heights.foldl max deepest ≤ bound := by
  induction heights generalizing deepest with
  | nil => exact start
  | cons height heights ih =>
    have here := each height List.mem_cons_self
    exact ih (Nat.max_le.mpr ⟨start, here⟩) fun other inside =>
      each other (List.mem_cons_of_mem height inside)

namespace Schema

def height (schema : Schema) : Nat :=
  (schema.catamorphism fun _ heights => (pure (1 + heights.foldl max 0) : Id Nat)).run

theorem height_eq (schema : Schema) :
    schema.height = 1 + (schema.links.map fun link : Link => link.target.height).foldl max 0 := by
  have children : (schema.links.mapM fun link : Link => link.target.catamorphism fun _ heights =>
      (pure (1 + heights.foldl max 0) : Id Nat)).run =
      schema.links.map fun link => link.target.height := by
    rw [List.idRun_mapM]
    rfl
  rw [height, catamorphism_eq, Id.run_bind, children, Id.run_pure]

theorem height_le {schema : Schema} {bound : Nat}
    (each : ∀ part ∈ schema.parts, part.height ≤ bound) : schema.height ≤ bound + 1 := by
  have below : (schema.links.map fun link => link.target.height).foldl max 0 ≤ bound := by
    apply foldl_max_le (Nat.zero_le bound)
    intro height inside
    obtain ⟨link, leads, rfl⟩ := List.mem_map.mp inside
    exact each _ (schema.map_target_links_sublist_parts.subset (List.mem_map_of_mem leads))
  rw [height_eq]
  omega

end Schema

namespace Outline

theorem Unfolds.depth_eq {C : Type} {rule : ContextRule C} {schema : Schema} {outline : Outline C}
    (unfolds : outline.Unfolds rule schema) : outline.depth = .ok schema.height := by
  have folded := outline.foldFromM_eq
    (fun node heights => (pure (1 + heights.foldl max 0) : Id Nat)) ⟨0, outline.nonempty⟩
  rw [unfolds.catamorphism_eq fun _ heights => (pure (1 + heights.foldl max 0) : Id Nat),
    unfolds.schema_get_zero] at folded
  exact congrArg Id.run folded

end Outline

/-! ### Values that mean a schema -/

namespace Json

variable {table : List (String × Json)} {value : Json} {schema : Schema}

theorem Means.parts (means : Means table value schema) :
    Forall₂ (fun part inner => Means table inner part) schema.parts value.used := by
  obtain ⟨description, isRead, converted⟩ := means
  obtain ⟨layer, schemas, found, solved, fits, rfl⟩ := Description.exists_layer_of_convert converted
  rw [Description.parts_split found] at solved
  have parts : (Schema.mk layer.1 (layer.2.refill schemas fits)).parts = schemas :=
    Shape.parts_refill layer.2 schemas fits
  rw [parts]
  exact (Description.exists_forall₂_iff.mp ⟨_, Description.used_of_read isRead,
    Description.mapM_eq_ok_iff.mp solved⟩).flip

theorem Means.two_le_depth (means : Means table value schema) : 2 ≤ value.depth := by
  obtain ⟨description, isRead, _⟩ := means
  obtain ⟨inner, inside⟩ : ∃ inner, inner ∈ value.children := by
    cases (Description.read_ok_iff value).mp ⟨description, isRead⟩ with
    | object _ tagged =>
      obtain ⟨member, inside, _⟩ := List.mem_map.mp (tagged rfl)
      exact ⟨member.2, List.mem_map_of_mem inside⟩
    | array _ _ tagged => exact List.exists_mem_of_ne_nil _ (tagged rfl)
  have below := depth_lt_of_mem_children inside
  have atLeast := inner.depth_eq
  omega

private theorem totalWeight_le_of_forall₂ {α β : Type} {weight : α → Nat} {other : β → Nat}
    {items : List α} {others : List β}
    (each : Forall₂ (fun item part => weight item ≤ other part) items others) :
    totalWeight weight items ≤ totalWeight other others := by
  induction each with
  | nil => exact Nat.le_refl 0
  | cons first _ ih => exact Nat.add_le_add first ih

theorem Means.extent_le_size (means : Means table value schema) : schema.extent ≤ value.size := by
  induction schema using Schema.induct generalizing value with
  | step schema ih =>
    have each : Forall₂ (fun part inner => Schema.extent part ≤ size inner)
        schema.parts value.used := by
      have parts := (List.forall₂_and_left _ _).mpr ⟨ih, means.parts⟩
      exact parts.imp fun _ _ related => related.1 related.2
    have links : Link.extents schema.links ≤ totalWeight Schema.extent schema.parts := by
      rw [Link.extents, ← totalWeight_map]
      exact totalWeight_le_of_sublist schema.map_target_links_sublist_parts
    have parts := totalWeight_le_of_forall₂ each
    have whole := value.totalWeight_used_lt
    rw [Schema.extent_eq]
    omega

theorem Means.height_lt_depth (means : Means table value schema) : schema.height < value.depth := by
  induction schema using Schema.induct generalizing value with
  | step schema ih =>
    have deep := means.two_le_depth
    have bounded : schema.height ≤ value.depth - 2 + 1 := by
      apply Schema.height_le
      intro part inside
      obtain ⟨inner, uses, inner_means⟩ := Outline.exists_of_mem_forall₂ means.parts inside
      have fewer := ih part inside inner_means
      have below := (inside_of_mem_used uses).depth_lt
      omega
    omega

/-- Whatever is reached from a schema that a value of a document means is again what a value of no
more levels than the document means. -/
theorem Means.exists_of_reaches {find? : Routine → Option Schema} {document : Json}
    {target : Schema}
    (means : Means (Schema.tableOf document) value schema) (shallow : value.depth ≤ document.depth)
    (reaches : Schema.Reaches find? schema target) :
    ∃ inner, Means (Schema.tableOf document) inner target ∧ inner.depth ≤ document.depth := by
  induction reaches generalizing value with
  | refl => exact ⟨value, means, shallow⟩
  | part inside _ ih =>
    obtain ⟨inner, uses, innerMeans⟩ := Outline.exists_of_mem_forall₂ means.parts inside
    have below := (inside_of_mem_used uses).depth_lt
    exact ih innerMeans (by omega)
  | resolved suspends resolves _ ih =>
    -- The way starts anew at a definition, which stands inside the document.
    obtain ⟨_, _, converted⟩ := means
    have refers := (Schema.grounded_of_convert converted).own suspends
    obtain ⟨definition, inTable, decoded⟩ := Schema.exists_definition_of_resolve? refers resolves
    have below := Schema.depth_lt_of_mem_tableOf inTable
    exact ih (Schema.decodeUnder_eq_ok_iff.mp decoded).2 (by omega)

end Json

namespace Schema

/-- Whatever context its nodes have, the outline of a schema has no more nodes than a value has
values, and fewer levels. -/
def FitsIn (schema : Schema) (value : Json) : Prop :=
  ∀ {C : Type} (rule : ContextRule C), ∃ outline levels,
    Outline.build rule schema = .ok outline ∧ outline.size ≤ value.size ∧
    outline.depth = .ok levels ∧ levels + 1 ≤ value.depth

theorem fitsIn_of_means {table : List (String × Json)} {value : Json} {schema : Schema}
    (means : value.Means table schema) : schema.FitsIn value := by
  intro C rule
  obtain ⟨outline, built, _⟩ := Outline.exists_build rule schema
  have unfolds := Outline.unfolds_of_build built
  have size : outline.size ≤ value.size := by
    rw [Outline.size, unfolds.size_nodes]
    exact means.extent_le_size
  exact ⟨outline, schema.height, built, size, unfolds.depth_eq, means.height_lt_depth⟩

theorem tooDeep_not_mem_faults (table : List (String × Json)) (node : Json) :
    .tooDeep ∉ node.faults table := by
  induction node using Json.faults.induct with
  | case1 node ih =>
    rw [Json.faults_eq, List.mem_append, not_or]
    constructor
    · intro own
      rcases Description.Body.of_mem_faultsAs own with ⟨_, same⟩ | ⟨_, _, same⟩ | ⟨_, same⟩
      · cases same
      · cases same
      · cases same
    · intro below
      obtain ⟨inner, uses, found⟩ := List.mem_flatMap.mp below
      exact ih ⟨inner, uses⟩ found

theorem tooDeep_not_mem_formFaults (value : Json) : .tooDeep ∉ formFaults value := by
  intro inside
  obtain ⟨_, _, same⟩ := List.mem_map.mp inside
  cases same

theorem tooDeep_not_mem_tableFaults (document : Json) :
    .tooDeep ∉ tableFaults document := by
  intro inside
  unfold tableFaults at inside
  split at inside
  · cases inside
  · cases inside
  · cases List.mem_singleton.mp inside

theorem decode_ne_tooDeep {document : Json} (shallow : document.depth ≤ nestingLimit) :
    decode document ≠ .error .tooDeep := by
  intro refused
  have inside := List.mem_of_head? (((reports_decode document).error_iff _).mp refused)
  have none : depthFaults document = [] := if_pos shallow
  rw [documentFaults, none, List.nil_append] at inside
  simp only [List.mem_append, List.mem_flatMap] at inside
  rcases inside with ((form | isTable) | ⟨definition, _, form | used⟩) | used
  · exact tooDeep_not_mem_formFaults _ form
  · exact tooDeep_not_mem_tableFaults _ isTable
  · exact tooDeep_not_mem_formFaults _ form
  · exact tooDeep_not_mem_faults _ _ used
  · exact tooDeep_not_mem_faults _ _ used

/-- The outline of a decoded schema fits in its document, which does not nest too deeply; and what
is resolved from a suspension that is reached fits in the definition of that name. A text is never
refused for its depth, and every outline that is built from what it says has at most as many levels
as containers may be open in a text. -/
theorem decode_bounds_outlines (find? : Routine → Option Schema) :
    (∀ document schema, decode document = .ok schema →
      document.depth ≤ nestingLimit ∧ schema.FitsIn document ∧
      ∀ target suspension, Reaches find? schema target → target.suspension? = some suspension →
        ∃ table name definition resolved,
          document.get? "$defs" = some (.obj table) ∧ suspension.label = some name ∧
          Json.lookup? table name = some definition ∧
          suspension.resolve? find? = some resolved ∧
          resolved.FitsIn definition) ∧
    ∀ text, decodeText text ≠ .error .tooDeep ∧
      ∀ schema target, decodeText text = .ok schema → Reaches find? schema target →
        ∀ {C : Type} (rule : ContextRule C), ∃ outline levels,
          Outline.build rule target = .ok outline ∧ outline.depth = .ok levels ∧
          levels ≤ textLimit := by
  refine ⟨fun document schema ok => ⟨?shallow, ?fits, ?resolved⟩, fun text => ⟨?refused, ?deep⟩⟩
  case shallow =>
    obtain ⟨_, isDescription, _⟩ := Description.bind_eq_ok.mp ok
    exact (ofJson_eq_ok_iff.mp isDescription).1
  case fits => exact fitsIn_of_means (decode_eq_ok_iff.mp ok).2.2.2
  case resolved =>
    intro target suspension reaches suspends
    obtain ⟨grounded, decodes⟩ := grounded_of_decode ok
    obtain ⟨name, definition, known, rfl⟩ := (grounded.of_reaches reaches).own suspends
    obtain ⟨resolved, decoded⟩ := decodes (name, definition) (Members.mem_of_lookup known)
    refine ⟨tableOf document, name, definition, resolved, get?_of_lookup?_tableOf known, rfl, known,
      ?_, fitsIn_of_means (decodeUnder_eq_ok_iff.mp decoded).2⟩
    rw [resolve?_of_lookup? known, decoded]
    rfl
  case refused =>
    unfold decodeText
    split
    · nofun
    · rename_i document read
      have levels := Json.depth_le_of_ofTextWithin? read
      apply decode_ne_tooDeep
      exact Nat.le_trans levels (by decide)
  case deep =>
    intro schema target ok reaches C rule
    unfold decodeText at ok
    split at ok
    · cases ok
    · rename_i document read
      have levels := Json.depth_le_of_ofTextWithin? read
      obtain ⟨inner, means, shallow⟩ :=
        (decode_eq_ok_iff.mp ok).2.2.2.exists_of_reaches (Nat.le_refl _) reaches
      obtain ⟨outline, count, built, _, depth, fewer⟩ := fitsIn_of_means means rule
      exact ⟨outline, count, built, depth, by omega⟩

namespace Friends

def text : String := "[\"NeverKeyword\"]"

def never : Schema := .ofShape (.leaf (.keyword .never))

open Json.Token in
private theorem scan?_text :
    scan? text = some #[.openBracket, .scalar (.str "NeverKeyword"), .closeBracket] := by
  have name : string? [] ['N', 'e', 'v', 'e', 'r', 'K', 'e', 'y', 'w', 'o', 'r', 'd', '"', ']'] =
      some ("NeverKeyword", [']']) := by cbv
  have chars : text.toList = '[' :: '"' ::
      ['N', 'e', 'v', 'e', 'r', 'K', 'e', 'y', 'w', 'o', 'r', 'd', '"', ']'] := by cbv
  rw [scan?, chars, scanFrom?, scanFrom?]
  split
  · rename_i failed
    rw [name] at failed
    cases failed
  · rename_i read
    rw [name] at read
    cases read
    rw [scanFrom?, scanFrom?]
    rfl

private theorem decodeText_text : decodeText text = .ok never := by
  have read : Json.ofTextWithin? (some textLimit) text = some (.arr [.str "NeverKeyword"]) := by
    rw [Json.ofTextWithin?, scan?_text]
    rfl
  rw [decodeText, read]
  cbv

/-- Around the circle, the person that is resolved fits in the definition of a person. -/
theorem person_fits_in_definition :
    (decode document = .ok schema ∧ Reaches findNone schema suspended ∧
      suspended.suspension? = some reference ∧ document.depth ≤ nestingLimit ∧
      schema.FitsIn document ∧
      ∃ table name definition resolved,
        document.get? "$defs" = some (.obj table) ∧ reference.label = some name ∧
        Json.lookup? table name = some definition ∧
        reference.resolve? findNone = some resolved ∧
        resolved.FitsIn definition) ∧
    decodeText text = .ok never ∧ Reaches findNone never never ∧
      ∃ outline levels, Outline.build StandardContext.rule never = .ok outline ∧
        outline.depth = .ok levels ∧ levels ≤ textLimit := by
  have documents := (decode_bounds_outlines findNone).1 document schema decode_document
  have texts :=
    ((decode_bounds_outlines findNone).2 text).2 never never decodeText_text (.refl never)
      StandardContext.rule
  obtain ⟨shallow, fits, resolved⟩ := documents
  have circle := resolved suspended reference reaches_suspended rfl
  exact ⟨⟨decode_document, reaches_suspended, rfl, shallow, fits, circle⟩, decodeText_text,
    .refl never, texts⟩

end Friends

end Schema

end SchemaOutline
