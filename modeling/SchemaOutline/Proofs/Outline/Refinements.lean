import SchemaOutline.Proofs.Outline.Kinship
import SchemaOutline.Proofs.Outline.Locality
import SchemaOutline.Proofs.Outline.Lookup
import SchemaOutline.Proofs.Path.Formatting
import SchemaOutline.Proofs.Schema.Links

/-! Legible paths are shared by a node with its refinements only. -/

set_option autoImplicit false
set_option relaxedAutoImplicit false

namespace SchemaOutline.Outline

open Relation (ReflTransGen)

variable {C : Type}

def Refinement (outline : Outline C) (id base : Fin outline.nodes.size) : Prop :=
  (outline.get id).kind = .refinement ∧ base ∈ outline.childIds id

/-- A node is reached from another one through refinements only. -/
def Refines (outline : Outline C) : Fin outline.nodes.size → Fin outline.nodes.size → Prop :=
  ReflTransGen outline.Refinement

def isBase (outline : Outline C) (node : Node C) : Bool :=
  (node.parent.bind outline.node?).any fun parent => parent.kind == .refinement

theorem Refines.le {outline : Outline C} {id other : Fin outline.nodes.size}
    (refines : outline.Refines id other) : id ≤ other := by
  induction refines with
  | refl => exact Nat.le_refl _
  | tail _ step ih => exact Nat.le_trans ih (Nat.le_of_lt (lt_of_mem_childIds step.2))

theorem Refines.eq_of_kind {outline : Outline C} {id other : Fin outline.nodes.size}
    (refines : outline.Refines id other) (unrefined : (outline.get id).kind ≠ .refinement) :
    other = id := by
  rcases ReflTransGen.cases_head refines with same | ⟨_, step, _⟩
  · exact same.symm
  · exact absurd step.1 unrefined

namespace Unfolds

variable {rule : ContextRule C} {schema : Schema} {outline : Outline C}
  (unfolds : outline.Unfolds rule schema)

include unfolds

theorem isBase_iff (child : Fin outline.nodes.size) :
    outline.isBase (outline.get child) = true ↔ ∃ id, outline.Refinement id child := by
  have among (id : Fin outline.nodes.size) (inside : child ∈ outline.childIds id) :
      outline.isBase (outline.get child) = ((outline.get id).kind == .refinement) := by
    have found : outline.node? id.1 = some (outline.get id) := Array.getElem?_eq_getElem id.2
    rw [isBase, unfolds.parent_of_mem_childIds inside, Option.bind_some, found]
    rfl
  constructor
  · intro isBase
    by_cases first : child.1 = 0
    · rw [Outline.isBase, (unfolds.parent_eq_none_iff child).mpr first] at isBase
      cases isBase
    · obtain ⟨id, inside⟩ := unfolds.exists_parent first
      rw [among id inside] at isBase
      exact ⟨id, eq_of_beq isBase, inside⟩
  · rintro ⟨id, refinement, inside⟩
    rw [among id inside, refinement]
    rfl

theorem eq_of_refinement {id base other : Fin outline.nodes.size}
    (isBase : outline.Refinement id base) (isOther : outline.Refinement id other) :
    base = other := by
  have count : (outline.childIds id).length = 1 := by
    rw [(unfolds.forall₂_childIds id).length_eq, ← List.length_map Link.segment,
      Schema.map_segment_links, Schema.segments_of_refinement isBase.1]
    rfl
  obtain ⟨only, same⟩ := List.length_eq_one_iff.mp count
  have isBase := isBase.2
  have isOther := isOther.2
  rw [same, List.mem_singleton] at isBase isOther
  rw [isBase, isOther]

theorem refines_total {first id other : Fin outline.nodes.size}
    (refines : outline.Refines first id) (refinesOther : outline.Refines first other) :
    outline.Refines id other ∨ outline.Refines other id :=
  ReflTransGen.total_of_right_unique (fun _ _ _ => unfolds.eq_of_refinement) refines refinesOther

theorem path_cases {id child : Fin outline.nodes.size} (inside : child ∈ outline.childIds id) :
    (outline.Refinement id child ∧ (outline.get child).path = (outline.get id).path) ∨
      ((outline.get id).kind ≠ .refinement ∧
        ∃ link ∈ (outline.get id).schema.links, ∃ segment, link.segment = some segment ∧
          (outline.get child).path = (outline.get id).path.child segment) := by
  obtain ⟨link, leads, isChild⟩ := unfolds.exists_link_of_mem inside
  have path : (outline.get child).path = (outline.get id).path.step link.segment :=
    Node.path_of_link isChild
  obtain ⟨position, isLink⟩ := List.mem_iff_getElem?.mp leads
  have isNone := Schema.segment_eq_none_iff (Schema.getElem?_links_eq_some_iff.mp isLink)
  cases isSegment : link.segment with
  | none =>
    rw [isSegment] at path
    exact .inl ⟨⟨isNone.mp isSegment, inside⟩, path⟩
  | some segment =>
    rw [isSegment] at path isNone
    exact .inr ⟨fun refinement => Option.some_ne_none _ (isNone.mpr refinement), link, leads,
      segment, isSegment, path⟩

theorem path_of_refines {id other : Fin outline.nodes.size} (refines : outline.Refines id other) :
    (outline.get id).path = (outline.get other).path := by
  induction refines with
  | refl => rfl
  | tail _ step ih =>
    rcases unfolds.path_cases step.2 with ⟨_, same⟩ | ⟨unrefined, _⟩
    · exact ih.trans same.symm
    · exact absurd step.1 unrefined

theorem pathTexts_of_refines {id other : Fin outline.nodes.size}
    (refines : outline.Refines id other) :
    (outline.get id).pathTexts = (outline.get other).pathTexts := by
  rw [Node.pathTexts, unfolds.path_of_refines refines]
  rfl

theorem exists_first (id : Fin outline.nodes.size) :
    ∃ first, outline.Refines first id ∧ outline.isBase (outline.get first) = false := by
  induction id using unfolds.induct_nodes with
  | root =>
    refine ⟨_, .refl, Bool.eq_false_iff.mpr fun isBase => ?_⟩
    obtain ⟨id, _, inside⟩ := (unfolds.isBase_iff _).mp isBase
    exact absurd (lt_of_mem_childIds inside) (Nat.not_lt_zero _)
  | child id ih child inside =>
    by_cases refinement : (outline.get id).kind = .refinement
    · obtain ⟨first, refines, outermost⟩ := ih
      exact ⟨first, refines.tail ⟨refinement, inside⟩, outermost⟩
    · refine ⟨child, .refl, Bool.eq_false_iff.mpr fun isBase => ?_⟩
      obtain ⟨above, isRefinement, among⟩ := (unfolds.isBase_iff child).mp isBase
      rw [unfolds.eq_of_mem_childIds inside among] at isRefinement
      exact refinement isRefinement

theorem pathTexts_get_zero : (outline.get ⟨0, outline.nonempty⟩).pathTexts = [] := by
  rw [Node.pathTexts, unfolds.path_get_zero]
  rfl

theorem outermost_cases {first : Fin outline.nodes.size}
    (outermost : outline.isBase (outline.get first) = false) :
    first = ⟨0, outline.nonempty⟩ ∨ ∃ (id : Fin outline.nodes.size) (segment : Segment),
      first ∈ outline.childIds id ∧ (outline.get id).kind ≠ .refinement ∧
        (outline.get first).pathTexts = (outline.get id).pathTexts ++ [segment.text] := by
  by_cases isRoot : first.1 = 0
  · exact .inl (Fin.ext isRoot)
  · obtain ⟨id, inside⟩ := unfolds.exists_parent isRoot
    rcases unfolds.path_cases inside with ⟨step, _⟩ | ⟨unrefined, _, _, segment, _, longer⟩
    · have isBase := (unfolds.isBase_iff first).mpr ⟨id, step⟩
      rw [outermost] at isBase
      cases isBase
    · exact .inr ⟨id, segment, inside, unrefined, Node.pathTexts_of_path_child longer⟩

theorem find?_listing {test : Node C → Bool} {first : Fin outline.nodes.size}
    (passes : test (outline.get first) = true)
    (others : ∀ id, test (outline.get id) = true → first ≤ id) :
    outline.listing.find? test = some (outline.get first) := by
  rw [← unfolds.nodes_eq_listing]
  refine List.find?_eq_some_iff_getElem.mpr ⟨passes, first.1, first.2, rfl, ?_⟩
  intro position earlier
  by_contra passed
  have early := others ⟨position, Nat.lt_trans earlier first.2⟩ (by simpa [get] using passed)
  exact absurd earlier (Nat.not_lt.mpr early)

variable (legible : schema.Legible)

include legible

theorem legible_get (id : Fin outline.nodes.size) : (outline.get id).schema.Legible := by
  induction id using unfolds.induct_nodes with
  | root => rwa [unfolds.schema_get_zero]
  | child id ih child inside =>
    obtain ⟨link, leads, isChild⟩ := unfolds.exists_link_of_mem inside
    have target : (outline.get child).schema = link.target := Node.schema_of_link isChild
    rw [target]
    exact ih.target leads

theorem plain_pathTexts (id : Fin outline.nodes.size) :
    ∀ text ∈ (outline.get id).pathTexts, Path.Plain text := by
  induction id using unfolds.induct_nodes with
  | root =>
    rw [unfolds.pathTexts_get_zero]
    exact List.forall_mem_nil _
  | child id ih child inside =>
    rcases unfolds.path_cases inside with ⟨_, same⟩ | ⟨_, link, leads, segment, isSegment, longer⟩
    · rwa [Node.pathTexts, same]
    · rw [Node.pathTexts_of_path_child longer, List.forall_mem_append]
      have plain := (unfolds.legible_get legible id).plain leads isSegment
      exact ⟨ih, List.forall_mem_singleton.mpr plain⟩

theorem eq_of_pathTexts_eq {id child other : Fin outline.nodes.size}
    (inside : child ∈ outline.childIds id) (insideOther : other ∈ outline.childIds id)
    (same : (outline.get child).pathTexts = (outline.get other).pathTexts) : child = other := by
  let texts (text : Option String) : List String := (outline.get id).pathTexts ++ text.toList
  have injective : Function.Injective texts := fun text other same =>
    by simpa using congrArg List.head? (List.append_cancel_left same)
  have listed : (outline.childIds id).map (fun child => (outline.get child).pathTexts) =
      ((outline.get id).schema.links.map fun link => link.segment.map Segment.text).map texts := by
    rw [List.map_map]
    refine map_eq_of_forall₂ ((unfolds.forall₂_childIds id).imp fun child link isChild => ?_)
    have path : (outline.get child).path = (outline.get id).path.step link.segment :=
      Node.path_of_link isChild
    rw [Node.pathTexts, path, Path.segments_step, List.map_append, ← Option.toList_map]
    rfl
  have distinct := (unfolds.legible_get legible id).nodup_texts.map injective
  rw [← listed] at distinct
  exact List.inj_on_of_nodup_map distinct inside insideOther same

theorem exists_first_of_pathTexts_eq {id other : Fin outline.nodes.size}
    (same : (outline.get id).pathTexts = (outline.get other).pathTexts) :
    ∃ first, outline.Refines first id ∧ outline.Refines first other := by
  induction id using unfolds.induct_nodes generalizing other with
  | root =>
    obtain ⟨first, refines, outermost⟩ := unfolds.exists_first other
    rcases unfolds.outermost_cases outermost with rfl | ⟨id, segment, _, _, longer⟩
    · exact ⟨_, .refl, refines⟩
    · rw [← unfolds.pathTexts_of_refines refines, unfolds.pathTexts_get_zero] at same
      cases (List.append_eq_nil_iff.mp (same.trans longer).symm).2
  | child id ih child inside =>
    rcases unfolds.path_cases inside with ⟨step, kept⟩ | ⟨unrefined, _, _, segment, _, longer⟩
    · have above : (outline.get id).pathTexts = (outline.get other).pathTexts := by
        rw [← same, Node.pathTexts, Node.pathTexts, kept]
      obtain ⟨first, refines, refinesOther⟩ := ih above
      exact ⟨first, refines.tail step, refinesOther⟩
    · -- The outermost refinement of the other node is a child of the same node.
      obtain ⟨first, refines, outermost⟩ := unfolds.exists_first other
      have texts : (outline.get id).pathTexts ++ [segment.text] =
          (outline.get first).pathTexts := by
        rw [← Node.pathTexts_of_path_child longer, same, unfolds.pathTexts_of_refines refines]
      rcases unfolds.outermost_cases outermost with rfl | ⟨above, _, among, open', continued⟩
      · rw [unfolds.pathTexts_get_zero] at texts
        cases List.append_eq_nil_iff.mp texts |>.2
      · obtain ⟨sameAbove, _⟩ := List.append_inj' (texts.trans continued) rfl
        obtain ⟨top, toId, toAbove⟩ := ih sameAbove
        have sameId : above = id := by
          rcases unfolds.refines_total toId toAbove with down | up
          · exact down.eq_of_kind unrefined
          · exact (up.eq_of_kind open').symm
        rw [sameId] at among
        have isFirst : child = first := unfolds.eq_of_pathTexts_eq legible inside among
          ((Node.pathTexts_of_path_child longer).trans texts)
        exact ⟨child, .refl, isFirst ▸ refines⟩

theorem text_eq_iff (id other : Fin outline.nodes.size) :
    (outline.get id).path.text = (outline.get other).path.text ↔
      (outline.get id).path = (outline.get other).path := by
  constructor
  · intro same
    have texts := Path.eq_of_format_eq (unfolds.plain_pathTexts legible id)
      (unfolds.plain_pathTexts legible other) same
    obtain ⟨first, refines, refinesOther⟩ := unfolds.exists_first_of_pathTexts_eq legible texts
    exact (unfolds.path_of_refines refines).symm.trans (unfolds.path_of_refines refinesOther)
  · exact congrArg Path.text

theorem path_eq_iff (id other : Fin outline.nodes.size) :
    (outline.get id).path = (outline.get other).path ↔
      outline.Refines id other ∨ outline.Refines other id := by
  constructor
  · intro same
    obtain ⟨first, refines, refinesOther⟩ := unfolds.exists_first_of_pathTexts_eq legible
      (congrArg (fun path => path.segments.map Segment.text) same)
    exact unfolds.refines_total refines refinesOther
  · rintro (refines | refines)
    · exact unfolds.path_of_refines refines
    · exact (unfolds.path_of_refines refines).symm

theorem refines_of_text_eq {first id : Fin outline.nodes.size}
    (outermost : outline.isBase (outline.get first) = false)
    (same : (outline.get id).path.text = (outline.get first).path.text) :
    outline.Refines first id := by
  have path := (unfolds.text_eq_iff legible id first).mp same
  rcases (unfolds.path_eq_iff legible id first).mp path with refines | refines
  · rcases ReflTransGen.cases_tail refines with rfl | ⟨above, _, step⟩
    · exact .refl
    · have isBase := (unfolds.isBase_iff first).mpr ⟨above, step⟩
      rw [outermost] at isBase
      cases isBase
  · exact refines

theorem find?_listing_text {first id : Fin outline.nodes.size}
    (refines : outline.Refines first id)
    (outermost : outline.isBase (outline.get first) = false) :
    (outline.listing.find? fun node => node.path.text == (outline.get id).path.text) =
      some (outline.get first) := by
  have same := unfolds.path_of_refines refines
  apply unfolds.find?_listing
  · rw [same]
    exact beq_self_eq_true _
  · intro other found
    rw [← same] at found
    exact (unfolds.refines_of_text_eq legible outermost (eq_of_beq found)).le

theorem size_paths [NodeContext C] :
    (OutlineIndex.ofNodes outline.nodes.toList).paths.size =
      outline.walk.countP fun node => !outline.isBase node := by
  let outermost : List (Fin outline.nodes.size) :=
    (List.finRange outline.nodes.size).filter fun id => !outline.isBase (outline.get id)
  have isOutermost (id : Fin outline.nodes.size) :
      id ∈ outermost ↔ outline.isBase (outline.get id) = false := by
    simp [outermost]
  have distinct : (outermost.map fun id => (outline.get id).path.text).Nodup := by
    refine List.Nodup.map_on ?_ ((List.nodup_finRange _).filter _)
    intro id isFirst other isOther same
    have down := unfolds.refines_of_text_eq legible ((isOutermost other).mp isOther) same
    have up := unfolds.refines_of_text_eq legible ((isOutermost id).mp isFirst) same.symm
    exact Fin.le_antisymm up.le down.le
  have listed : (OutlineIndex.ofNodes outline.nodes.toList).paths.keys.Perm
      (outermost.map fun id => (outline.get id).path.text) := by
    refine (List.perm_ext_iff_of_nodup Std.HashMap.nodup_keys distinct).mpr fun text => ?_
    rw [Std.HashMap.mem_keys, Std.HashMap.mem_iff_isSome_getElem?,
      OutlineIndex.getElem?_paths_ofNodes, unfolds.nodes_eq_listing, Option.isSome_map,
      List.find?_isSome, List.mem_map]
    constructor
    · rintro ⟨node, inside, found⟩
      obtain ⟨id, _, rfl⟩ := List.mem_map.mp inside
      obtain ⟨first, refines, isFirst⟩ := unfolds.exists_first id
      refine ⟨first, (isOutermost first).mpr isFirst, ?_⟩
      rw [unfolds.path_of_refines refines]
      exact eq_of_beq found
    · rintro ⟨id, _, rfl⟩
      refine ⟨outline.get id, ?_, beq_self_eq_true _⟩
      rw [listing, unfolds.preorder_zero]
      exact List.mem_map_of_mem (List.mem_finRange id)
  rw [← Std.HashMap.length_keys, listed.length_eq, List.length_map, walk_eq_listing, listing,
    unfolds.preorder_zero, List.countP_map, List.countP_eq_length_filter]
  rfl

end Unfolds

/-- Where a schema is legible, nodes have the same formatted path only if they have the same path,
and then one of them is reached from the other through refinements. The formatted path of a node
leads to the outermost of its refinements, and an index has as many paths as there are nodes that
are not the child of a refinement. -/
theorem formatted_paths_identify [NodeContext C] (rule : ContextRule C) {schema : Schema}
    (legible : schema.Legible) :
    ∃ outline index, build rule schema = .ok outline ∧ outline.indexed.index = some index ∧
      (∀ id other, (outline.get id).path.text = (outline.get other).path.text ↔
        (outline.get id).path = (outline.get other).path) ∧
      (∀ id other, (outline.get id).path = (outline.get other).path ↔
        outline.Refines id other ∨ outline.Refines other id) ∧
      (∀ id, ∃ first, outline.Refines first id ∧ outline.isBase (outline.get first) = false ∧
        (outline.get first).path = (outline.get id).path ∧
        outline.nodeAt? (outline.get id).path = some (outline.get first) ∧
        outline.indexed.nodeAt? (outline.get id).path = some (outline.get first)) ∧
      index.paths.size = outline.walk.countP fun node => !outline.isBase node := by
  obtain ⟨outline, built, _, unindexed⟩ := exists_build rule schema
  have unfolds := unfolds_of_build built
  refine ⟨outline, .ofNodes outline.nodes.toList, built, rfl, unfolds.text_eq_iff legible,
    unfolds.path_eq_iff legible, ?lookups, unfolds.size_paths legible⟩
  case lookups =>
    intro id
    obtain ⟨first, refines, outermost⟩ := unfolds.exists_first id
    have found := unfolds.find?_listing_text legible refines outermost
    refine ⟨first, refines, outermost, unfolds.path_of_refines refines, ?plain, ?indexed⟩
    case plain =>
      rw [nodeAt?, nodeAtPath?_of_unindexed unindexed]
      exact found
    case indexed =>
      rw [nodeAt?, unfolds.nodeAtPath?_indexed]
      exact found

namespace Refined

def number : Schema := .ofShape (.leaf (.keyword .number))

def age : Schema := .ofShape (.refinement (some "Small") (.ofShape (.refinement none number)))

def schema : Schema :=
  .ofShape (.struct [⟨.name "age", age, false, false, .empty⟩,
    ⟨.symbol "size", number, true, false, .empty⟩] [⟨.ofShape (.leaf (.keyword .string)), number⟩])

def nodes : List (Node StandardContext) :=
  unfold StandardContext.rule (.ofRoot StandardContext.rule schema)

private theorem legible_schema : schema.Legible := by
  have legibleNumber : number.Legible := .intro nofun nofun nofun
  have legibleAge : age.Legible := .intro nofun nofun (List.forall_mem_singleton.mpr
    (.intro nofun nofun (List.forall_mem_singleton.mpr legibleNumber)))
  have keys : ∀ field ∈ schema.fields, Path.Plain field.key.text :=
    List.forall_mem_cons.mpr ⟨by decide, List.forall_mem_singleton.mpr (by decide)⟩
  have texts : schema.links.map (fun link => link.segment.map Segment.text) =
      [some "age", some "size", some "index_0"] := by cbv
  refine .intro keys (fun _ => by rw [texts]; decide) ?_
  exact List.forall_mem_cons.mpr
    ⟨legibleAge,
      List.forall_mem_cons.mpr ⟨legibleNumber, List.forall_mem_singleton.mpr legibleNumber⟩⟩

private theorem countP_nodes : (nodes.countP fun node =>
    !(node.parent.bind fun id => nodes.toArray[id]?).any fun parent =>
      parent.kind == .refinement) = 4 := by cbv

/-- The two refinements and their base share a path; that of each other node is its own. -/
theorem refined_field_has_one_path :
    schema.Legible ∧ ∃ outline index, build StandardContext.rule schema = .ok outline ∧
      outline.indexed.index = some index ∧ outline.nodes.size = 6 ∧ index.paths.size = 4 := by
  obtain ⟨outline, index, built, indexed, _, _, _, size⟩ :=
    formatted_paths_identify StandardContext.rule legible_schema
  have unfolds := unfolds_of_build built
  have same : outline.nodes = nodes.toArray := unfolds
  refine ⟨legible_schema, outline, index, built, indexed, ?_, ?_⟩
  · rw [unfolds.size_nodes]
    cbv
  · rw [size, unfolds.walk_eq]
    unfold isBase node?
    rw [same]
    exact countP_nodes

end Refined

end SchemaOutline.Outline
