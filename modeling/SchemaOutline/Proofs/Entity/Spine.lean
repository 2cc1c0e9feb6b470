import SchemaOutline.Proofs.Entity.Stamping
import SchemaOutline.Proofs.Outline.Lookup

/-! Which nodes of the outline of a stamped schema are marked. -/

set_option autoImplicit false
set_option relaxedAutoImplicit false

namespace SchemaOutline

open List (Forall₂)
open Traversal

variable {C : Type}

structure Node.Free (key : Annotations.Key) (node : Node C) : Prop where
  own : node.annotations.get? key = none
  schema : node.schema.Free key

private theorem Node.free_of_link {rule : ContextRule C} {key : Annotations.Key}
    {parent child : Node C} {id : NodeId} {link : Link}
    (isChild : child.bare = .ofLink rule parent.bare id link)
    (free : link.annotations.get? key = none ∧ link.target.Free key) : child.Free key := by
  obtain ⟨ofLink, target⟩ := free
  refine ⟨?own, ?schema⟩
  case own =>
    rw [annotations_of_link isChild, Annotations.get?_merged, ofLink, target.own, Option.none_or]
  case schema => rwa [schema_of_link isChild]

namespace Outline

def fieldIds (outline : Outline C) (id : Fin outline.nodes.size) : List (Fin outline.nodes.size) :=
  (outline.childIds id).take (outline.get id).schema.fields.length

def otherIds (outline : Outline C) (id : Fin outline.nodes.size) : List (Fin outline.nodes.size) :=
  (outline.childIds id).drop (outline.get id).schema.fields.length

theorem fieldIds_append_otherIds (outline : Outline C) (id : Fin outline.nodes.size) :
    outline.fieldIds id ++ outline.otherIds id = outline.childIds id :=
  List.take_append_drop _ _

/-- The structs from a node on down that are reached through fields of structs only, in
pre-order. -/
def spine (outline : Outline C) (id : Fin outline.nodes.size) : List (Fin outline.nodes.size) :=
  if (outline.get id).schema.isStruct then
    id :: (outline.fieldIds id).attach.flatMap fun child => spine outline child.1
  else []
termination_by outline.nodes.size - id
decreasing_by
  have := lt_of_mem_childIds (List.mem_of_mem_take child.2)
  omega

/-- The fields of the structs from a node on down that are reached through fields of structs only,
in pre-order. -/
def spineFields (outline : Outline C) (id : Fin outline.nodes.size) :
    List (Fin outline.nodes.size) :=
  (outline.fieldIds id).attach.flatMap fun child => child.1 :: spineFields outline child.1
termination_by outline.nodes.size - id
decreasing_by
  have := lt_of_mem_childIds (List.mem_of_mem_take child.2)
  omega

theorem spine_eq (outline : Outline C) (id : Fin outline.nodes.size) :
    outline.spine id = if (outline.get id).schema.isStruct then
      id :: (outline.fieldIds id).flatMap outline.spine else [] := by
  rw [spine, flatMap_attach]

theorem spineFields_eq (outline : Outline C) (id : Fin outline.nodes.size) :
    outline.spineFields id =
      (outline.fieldIds id).flatMap fun child => child :: outline.spineFields child := by
  rw [spineFields]
  exact flatMap_attach _ fun child => child :: outline.spineFields child

namespace Unfolds

section

variable {rule : ContextRule C} {schema : Schema} {outline : Outline C}
  (unfolds : outline.Unfolds rule schema)

include unfolds

theorem free_of_below {key : Annotations.Key} {id other : Fin outline.nodes.size}
    (free : (outline.get id).Free key) (below : outline.Below id other) :
    (outline.get other).Free key := by
  induction below with
  | refl => exact free
  | tail _ inside ih =>
    obtain ⟨link, leads, isChild⟩ := unfolds.exists_link_of_mem inside
    exact Node.free_of_link isChild (ih.schema.link leads)

theorem forall₂_fieldIds (id : Fin outline.nodes.size) :
    Forall₂ (fun child field =>
        (outline.get child).bare = .ofLink rule (outline.get id).bare child.1 (.ofField field))
      (outline.fieldIds id) (outline.get id).schema.fields := by
  have children := List.forall₂_take (outline.get id).schema.fields.length
    (unfolds.forall₂_childIds id)
  rw [Schema.links_eq, List.take_left' (List.length_map _)] at children
  exact List.forall₂_map_right_iff.mp children

theorem forall₂_otherIds (id : Fin outline.nodes.size) :
    Forall₂ (fun child link =>
        (outline.get child).bare = .ofLink rule (outline.get id).bare child.1 link)
      (outline.otherIds id) (outline.get id).schema.otherLinks :=
  List.forall₂_drop _ (unfolds.forall₂_childIds id)

variable {key : Annotations.Key} {entity : EntityId} {id child : Fin outline.nodes.size}

theorem field_of_stamped (stamped : (outline.get id).schema.Stamped key entity)
    (inside : child ∈ outline.fieldIds id) :
    (outline.get child).schema.Stamped key entity ∧
      ∃ link : Annotations, link.get? key = none ∧ (outline.get child).annotations =
        (outline.get child).schema.annotations.merged (link.marked entity.marker) := by
  obtain ⟨plain, free, same⟩ := stamped
  obtain ⟨field, isField, isChild⟩ := exists_of_mem_forall₂ (unfolds.forall₂_fieldIds id) inside
  rw [same, Schema.fields_stamp] at isField
  obtain ⟨old, isOld, rfl⟩ := List.mem_map.mp isField
  have schema : (outline.get child).schema = old.type.stamp entity := Node.schema_of_link isChild
  obtain ⟨ofField, type⟩ := free.field isOld
  refine ⟨⟨old.type, type, schema⟩, old.annotations, ofField, ?_⟩
  rw [schema]
  exact Node.annotations_of_link isChild

theorem other_of_stamped (stamped : (outline.get id).schema.Stamped key entity)
    (inside : child ∈ outline.otherIds id) : (outline.get child).Free key := by
  obtain ⟨plain, free, same⟩ := stamped
  obtain ⟨link, leads, isChild⟩ := exists_of_mem_forall₂ (unfolds.forall₂_otherIds id) inside
  rw [same, Schema.otherLinks_stamp] at leads
  exact Node.free_of_link isChild (free.other leads)

theorem entityField?_of_mem_fieldIds (stamped : (outline.get id).schema.Stamped key entity)
    (inside : child ∈ outline.fieldIds id) :
    (outline.get child).annotations.entityField? = some entity.marker.text := by
  obtain ⟨_, link, _, annotations⟩ := unfolds.field_of_stamped stamped inside
  rw [annotations]
  exact Annotations.text?_merged_of_some (link.get?_marked _).1

theorem get?_entityType_of_mem_fieldIds
    (stamped : (outline.get id).schema.Stamped .entityType entity)
    (inside : child ∈ outline.fieldIds id) :
    (outline.get child).annotations.get? .entityType =
      (outline.get child).schema.annotations.get? .entityType := by
  obtain ⟨_, link, absent, annotations⟩ := unfolds.field_of_stamped stamped inside
  rw [annotations, Annotations.get?_merged, (link.get?_marked _).2, absent, Option.none_or]

/-! ### Marked nodes in pre-order -/

private theorem filter_preorder_of_free (free : (outline.get id).Free key) :
    (outline.preorder id).filter (fun other =>
      ((outline.get other).annotations.text? key).isSome) = [] := by
  rw [List.filter_eq_nil_iff]
  intro other inside
  have absent := (unfolds.free_of_below free (mem_preorder_iff.mp inside)).own
  rw [Annotations.text?, absent]
  exact Bool.false_ne_true

private theorem filter_childIds (stamped : (outline.get id).schema.Stamped key entity) :
    ((outline.childIds id).flatMap outline.preorder).filter
      (fun other => ((outline.get other).annotations.text? key).isSome) =
        (outline.fieldIds id).flatMap fun child => (outline.preorder child).filter
          fun other => ((outline.get other).annotations.text? key).isSome := by
  have others : (outline.otherIds id).flatMap (fun child => (outline.preorder child).filter
      fun other => ((outline.get other).annotations.text? key).isSome) = [] := by
    rw [List.flatMap_eq_nil_iff]
    intro child inside
    exact unfolds.filter_preorder_of_free (unfolds.other_of_stamped stamped inside)
  rw [← outline.fieldIds_append_otherIds, List.flatMap_append, List.filter_append,
    List.filter_flatMap, List.filter_flatMap, others, List.append_nil]

theorem filter_entityField (stamped : (outline.get id).schema.Stamped .entityField entity) :
    ((outline.childIds id).flatMap outline.preorder).filter
      (fun other => (outline.get other).annotations.entityField?.isSome) =
        outline.spineFields id := by
  induction id using induct_childIds with
  | step id ih =>
    refine (unfolds.filter_childIds stamped).trans ?_
    rw [spineFields_eq]
    apply List.flatMap_congr
    intro child inside
    have marked := unfolds.entityField?_of_mem_fieldIds stamped inside
    have type := (unfolds.field_of_stamped stamped inside).1
    have below := ih child (List.mem_of_mem_take inside) type
    rw [preorder_eq, ← below]
    exact List.filter_cons_of_pos (congrArg Option.isSome marked)

theorem filter_entityType (stamped : (outline.get id).schema.Stamped .entityType entity)
    (own : (outline.get id).annotations.get? .entityType =
      (outline.get id).schema.annotations.get? .entityType) :
    (outline.preorder id).filter
      (fun other => (outline.get other).annotations.entityType?.isSome) = outline.spine id := by
  induction id using induct_childIds with
  | step id ih =>
    have said := own.trans stamped.get?_entityType
    rw [spine_eq]
    cases isStruct : (outline.get id).schema.isStruct with
    | false =>
      rw [isStruct] at said
      exact unfolds.filter_preorder_of_free ⟨said, stamped.free isStruct⟩
    | true =>
      rw [isStruct] at said
      have isEntity : (outline.get id).annotations.entityType? = some entity.text := by
        rw [Annotations.entityType?, Annotations.text?, said]
        rfl
      have below : ((outline.childIds id).flatMap outline.preorder).filter
          (fun other => (outline.get other).annotations.entityType?.isSome) =
            (outline.fieldIds id).flatMap outline.spine := by
        refine (unfolds.filter_childIds stamped).trans ?_
        apply List.flatMap_congr
        intro child inside
        exact ih child (List.mem_of_mem_take inside) (unfolds.field_of_stamped stamped inside).1
          (unfolds.get?_entityType_of_mem_fieldIds stamped inside)
      rw [preorder_eq, if_pos rfl, ← below]
      exact List.filter_cons_of_pos (congrArg Option.isSome isEntity)

theorem entityField?_of_mem_spineFields
    (stamped : (outline.get id).schema.Stamped key entity) {other : Fin outline.nodes.size}
    (inside : other ∈ outline.spineFields id) :
    (outline.get other).annotations.entityField? = some entity.marker.text := by
  induction id using induct_childIds with
  | step id ih =>
    rw [spineFields_eq] at inside
    obtain ⟨child, isField, among⟩ := List.mem_flatMap.mp inside
    rcases List.mem_cons.mp among with rfl | below
    · exact unfolds.entityField?_of_mem_fieldIds stamped isField
    · exact ih child (List.mem_of_mem_take isField) (unfolds.field_of_stamped stamped isField).1
        below

theorem entityType?_of_mem_spine
    (stamped : (outline.get id).schema.Stamped .entityType entity)
    (own : (outline.get id).annotations.get? .entityType =
      (outline.get id).schema.annotations.get? .entityType)
    {other : Fin outline.nodes.size} (inside : other ∈ outline.spine id) :
    (outline.get other).annotations.entityType? = some entity.text := by
  induction id using induct_childIds with
  | step id ih =>
    rw [spine_eq] at inside
    split at inside
    · rename_i isStruct
      rcases List.mem_cons.mp inside with rfl | among
      · rw [Annotations.entityType?, Annotations.text?, own, stamped.get?_entityType,
          if_pos isStruct]
        rfl
      · obtain ⟨child, isField, below⟩ := List.mem_flatMap.mp among
        exact ih child (List.mem_of_mem_take isField) (unfolds.field_of_stamped stamped isField).1
          (unfolds.get?_entityType_of_mem_fieldIds stamped isField) below
    · cases inside

end

/-! ### Contexts -/

section

variable {rule : ContextRule C} {schema : Schema} {outline : Outline C}
  (unfolds : outline.Unfolds rule schema)

include unfolds

theorem context_get_zero : (outline.get ⟨0, outline.nonempty⟩).context =
    rule schema schema.annotations .root none :=
  congrArg Node.context unfolds.bare_get_zero

theorem exists_context (id : Fin outline.nodes.size) :
    ∃ parent, (outline.get id).context =
      rule (outline.get id).schema (outline.get id).annotations (outline.get id).path parent := by
  induction id using unfolds.induct_nodes with
  | root =>
    rw [unfolds.context_get_zero, unfolds.annotations_get_zero, unfolds.schema_get_zero,
      unfolds.path_get_zero]
    exact ⟨none, rfl⟩
  | child id _ child inside =>
    obtain ⟨link, _, isChild⟩ := unfolds.exists_link_of_mem inside
    exact ⟨some (outline.get id).bare, Node.context_of_link isChild⟩

end

section

variable {schema : Schema} {outline : Outline StandardContext}
  (unfolds : outline.Unfolds StandardContext.rule schema)

include unfolds

theorem context_get (id : Fin outline.nodes.size) :
    (outline.get id).context.entity = (outline.get id).annotations.entityType? ∧
      (outline.get id).context.entityField = (outline.get id).annotations.entityField? := by
  obtain ⟨parent, context⟩ := unfolds.exists_context id
  rw [context]
  exact ⟨rfl, rfl⟩

theorem parentEntity_get_zero :
    (outline.get ⟨0, outline.nonempty⟩).context.parentEntity = none := by
  rw [unfolds.context_get_zero]
  rfl

theorem parentEntity_of_mem_childIds {id child : Fin outline.nodes.size}
    (inside : child ∈ outline.childIds id) :
    (outline.get child).context.parentEntity = (outline.get id).context.nearestEntity := by
  obtain ⟨link, _, isChild⟩ := unfolds.exists_link_of_mem inside
  rw [Node.context_of_link isChild]
  rfl

end

/-! ### Stamped schemas -/

section

variable {C : Type} {rule : ContextRule C} {schema : Schema} {entity : EntityId}
  {outline : Outline C} (unfolds : outline.Unfolds rule (schema.stamp entity))

include unfolds

theorem stamped_get_zero {key : Annotations.Key} (free : schema.Free key) :
    (outline.get ⟨0, outline.nonempty⟩).schema.Stamped key entity :=
  ⟨schema, free, unfolds.schema_get_zero⟩

theorem get?_entityType_get_zero :
    (outline.get ⟨0, outline.nonempty⟩).annotations.get? .entityType =
      (outline.get ⟨0, outline.nonempty⟩).schema.annotations.get? .entityType := by
  rw [unfolds.annotations_get_zero, unfolds.schema_get_zero]

theorem entityField?_get_zero (free : schema.Free .entityField) :
    (outline.get ⟨0, outline.nonempty⟩).annotations.entityField? = none := by
  rw [unfolds.annotations_get_zero, Annotations.entityField?, Annotations.text?,
    Schema.get?_entityField_stamp, free.own]
  rfl

theorem listing_entityField (free : schema.Free .entityField) :
    outline.listing.filter (fun node => node.annotations.entityField?.isSome) =
      (outline.spineFields ⟨0, outline.nonempty⟩).map outline.get := by
  have root := unfolds.entityField?_get_zero free
  rw [listing, List.filter_map, preorder_eq, List.filter_cons_of_neg]
  · exact congrArg _ (unfolds.filter_entityField (unfolds.stamped_get_zero free))
  · show ¬ (outline.get _).annotations.entityField?.isSome = true
    rw [root]
    exact Bool.false_ne_true

theorem listing_entityType (free : schema.Free .entityType) :
    outline.listing.filter (fun node => node.annotations.entityType?.isSome) =
      (outline.spine ⟨0, outline.nonempty⟩).map outline.get := by
  rw [listing, List.filter_map]
  exact congrArg _ (unfolds.filter_entityType (unfolds.stamped_get_zero free)
    unfolds.get?_entityType_get_zero)

end

private theorem exists_of_filter_listing {C : Type} {rule : ContextRule C} {schema : Schema}
    {outline : Outline C} (unfolds : outline.Unfolds rule schema) {test : Node C → Bool}
    {ids : List (Fin outline.nodes.size)} (same : outline.listing.filter test = ids.map outline.get)
    (id : Fin outline.nodes.size) (passes : test (outline.get id) = true) :
    ∃ other ∈ ids, outline.get other = outline.get id := by
  have listed : outline.get id ∈ outline.listing := by
    rw [listing, unfolds.preorder_zero]
    exact List.mem_map_of_mem (List.mem_finRange id)
  have among := List.mem_filter.mpr ⟨listed, passes⟩
  rw [same] at among
  exact List.mem_map.mp among

section

variable {schema : Schema} {entity : EntityId} {outline : Outline StandardContext}
  (unfolds : outline.Unfolds StandardContext.rule (schema.stamp entity))

include unfolds

theorem entities_eq_spine (noEntity : schema.Free .entityType) :
    outline.entities = (outline.spine ⟨0, outline.nonempty⟩).map outline.get := by
  rw [← unfolds.listing_entityType noEntity, entities, walk_eq_listing, listing, List.filter_map,
    List.filter_map]
  refine congrArg _ (List.filter_congr fun id _ => ?_)
  exact congrArg Option.isSome (unfolds.context_get id).1

theorem entityFields_eq_spineFields (noField : schema.Free .entityField) :
    outline.entityFields = (outline.spineFields ⟨0, outline.nonempty⟩).map outline.get := by
  rw [← unfolds.listing_entityField noField, entityFields, walk_eq_listing, listing,
    List.filter_map, List.filter_map]
  refine congrArg _ (List.filter_congr fun id _ => ?_)
  exact congrArg Option.isSome (unfolds.context_get id).2

theorem entity_of_some (noEntity : schema.Free .entityType) {id : Fin outline.nodes.size}
    {other : String} (named : (outline.get id).context.entity = some other) :
    other = entity.text := by
  rw [(unfolds.context_get id).1] at named
  obtain ⟨inner, onSpine, same⟩ := exists_of_filter_listing unfolds
    (unfolds.listing_entityType noEntity) id (congrArg Option.isSome named)
  have said := unfolds.entityType?_of_mem_spine (unfolds.stamped_get_zero noEntity)
    unfolds.get?_entityType_get_zero onSpine
  rw [same, named] at said
  exact Option.some.inj said

theorem entityField_of_some (noField : schema.Free .entityField) {id : Fin outline.nodes.size}
    {other : String} (marked : (outline.get id).context.entityField = some other) :
    other = entity.marker.text := by
  rw [(unfolds.context_get id).2] at marked
  obtain ⟨inner, onSpine, same⟩ := exists_of_filter_listing unfolds
    (unfolds.listing_entityField noField) id (congrArg Option.isSome marked)
  have said := unfolds.entityField?_of_mem_spineFields (unfolds.stamped_get_zero noField) onSpine
  rw [same, marked] at said
  exact Option.some.inj said

variable (isStruct : schema.isStruct = true) (noEntity : schema.Free .entityType)

include isStruct noEntity

theorem entity_get_zero :
    (outline.get ⟨0, outline.nonempty⟩).context.entity = some entity.text := by
  have said := (unfolds.stamped_get_zero noEntity).get?_entityType
  rw [unfolds.schema_get_zero, Schema.isStruct_stamp, if_pos isStruct] at said
  rw [(unfolds.context_get _).1, unfolds.annotations_get_zero, Annotations.entityType?,
    Annotations.text?, said]
  rfl

theorem nearestEntity_get (id : Fin outline.nodes.size) :
    (outline.get id).context.nearestEntity = some entity.text := by
  induction id using unfolds.induct_nodes with
  | root =>
    rw [StandardContext.nearestEntity, unfolds.entity_get_zero isStruct noEntity]
    rfl
  | child id ih child inside =>
    have above := unfolds.parentEntity_of_mem_childIds inside
    rw [ih] at above
    rw [StandardContext.nearestEntity, above]
    cases named : (outline.get child).context.entity with
    | none => rfl
    | some other =>
      rw [unfolds.entity_of_some noEntity named]
      rfl

end

end Unfolds

/-- The outline of a struct that is stamped, and that had no marks before, has them where it should:
the entities are the structs that are reached through fields of structs only, the marked fields are
the fields of these, and every other node is below the entity. The entity is found at the root. -/
theorem stamp_marks_spine {schema : Schema} (entity : EntityId) (isStruct : schema.isStruct = true)
    (noEntity : schema.Free .entityType) (noField : schema.Free .entityField) :
    ∃ outline, build StandardContext.rule (schema.stamp entity) = .ok outline ∧
      outline.entities = (outline.spine ⟨0, outline.nonempty⟩).map outline.get ∧
      outline.entityFields = (outline.spineFields ⟨0, outline.nonempty⟩).map outline.get ∧
      (∀ id other, (outline.get id).context.entity = some other → other = entity.text) ∧
      (∀ id other, (outline.get id).context.entityField = some other →
        other = "field##" ++ entity.text) ∧
      (∀ id : Fin outline.nodes.size, (outline.get id).context.parentEntity =
        if id.1 = 0 then none else some entity.text) ∧
      outline.entity? entity.text = some outline.root ∧
      outline.indexed.entity? entity.text = some outline.root := by
  obtain ⟨outline, built, _, unindexed⟩ := exists_build StandardContext.rule (schema.stamp entity)
  have unfolds := unfolds_of_build built
  have first : firstEntity entity.text outline.listing = some outline.root := by
    have isRoot : (outline.get ⟨0, outline.nonempty⟩).isEntity entity.text = true :=
      beq_iff_eq.mpr (unfolds.entity_get_zero isStruct noEntity)
    rw [listing, preorder_eq, List.map_cons, firstEntity]
    simp only [List.takeWhile_cons, List.find?_cons, isRoot, Bool.not_true]
    rfl
  refine ⟨outline, built, unfolds.entities_eq_spine noEntity,
    unfolds.entityFields_eq_spineFields noField, fun _ _ => unfolds.entity_of_some noEntity,
    fun _ _ => unfolds.entityField_of_some noField, ?above, ?walked, ?indexed⟩
  case above =>
    intro id
    induction id using unfolds.induct_nodes with
    | root => exact unfolds.parentEntity_get_zero
    | child id _ child inside =>
      have later := lt_of_mem_childIds inside
      rw [unfolds.parentEntity_of_mem_childIds inside,
        unfolds.nearestEntity_get isStruct noEntity, if_neg (by omega)]
  case walked => rw [entity?_of_unindexed unindexed, first]
  case indexed => rw [unfolds.entity?_indexed, first]

namespace Household

def text : Schema := .ofShape (.leaf (.keyword .string))

def home : Schema := .ofShape (.struct [⟨.name "street", text, false, false, .empty⟩] [])

def schema : Schema :=
  .ofShape (.struct [⟨.name "home", home, false, false, .empty⟩,
    ⟨.name "other", .ofShape (.union [home]), false, false, .empty⟩] [])

private theorem free (key : Annotations.Key) : schema.Free key := by
  have freeText : text.Free key := .intro rfl nofun nofun
  have freeHome : home.Free key :=
    .intro rfl (List.forall_mem_singleton.mpr rfl) (List.forall_mem_singleton.mpr freeText)
  have freeUnion : (Schema.ofShape (.union [home])).Free key :=
    .intro rfl (List.forall_mem_singleton.mpr rfl) (List.forall_mem_singleton.mpr freeHome)
  exact .intro rfl (List.forall_mem_cons.mpr ⟨rfl, List.forall_mem_singleton.mpr rfl⟩)
    (List.forall_mem_cons.mpr ⟨freeHome, List.forall_mem_singleton.mpr freeUnion⟩)

/-- A household that is stamped is found under its name, at the root. -/
theorem stamped_household :
    schema.isStruct = true ∧ schema.Free .entityType ∧ schema.Free .entityField ∧
    ∃ outline, build StandardContext.rule (schema.stamp ⟨"h"⟩) = .ok outline ∧
      outline.entities = (outline.spine ⟨0, outline.nonempty⟩).map outline.get ∧
      outline.entityFields = (outline.spineFields ⟨0, outline.nonempty⟩).map outline.get ∧
      (∀ id other, (outline.get id).context.entity = some other → other = "h") ∧
      (∀ id other, (outline.get id).context.entityField = some other → other = "field##" ++ "h") ∧
      (∀ id : Fin outline.nodes.size, (outline.get id).context.parentEntity =
        if id.1 = 0 then none else some "h") ∧
      outline.entity? "h" = some outline.root ∧
      outline.indexed.entity? "h" = some outline.root :=
  ⟨rfl, free _, free _, stamp_marks_spine ⟨"h"⟩ rfl (free _) (free _)⟩

end Household

end Outline

end SchemaOutline
