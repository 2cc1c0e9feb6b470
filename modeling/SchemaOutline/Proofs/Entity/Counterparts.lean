import SchemaOutline.Proofs.Entity.Spine

/-! The outline of a stamped schema has a counterpart for every node of the original outline. -/

set_option autoImplicit false
set_option relaxedAutoImplicit false

namespace SchemaOutline

open Traversal

variable {C D : Type}

namespace Annotations

def stampKeys : List Key := [.entityType, .identifier, .entityField]

theorem without_stamped (annotations : Annotations) (entity : EntityId) :
    (annotations.stamped entity).without stampKeys = annotations.without stampKeys := by
  rw [stamped, without_insert (by decide), without_insert (by decide)]

theorem without_marked (annotations : Annotations) (marker : FieldMarker) :
    (annotations.marked marker).without stampKeys = annotations.without stampKeys :=
  without_insert (by decide) _ _

end Annotations

/-! ### Links of stamped schemas -/

namespace Link

theorem extents_eq_sum (links : List Link) :
    extents links = (links.map fun link => link.target.extent).sum := by
  induction links with
  | nil => rfl
  | cons link links ih => rw [extents_cons, ih, List.map_cons, List.sum_cons]

theorem starts_congr {links others : List Link}
    (same : links.map (fun link => link.target.extent) =
      others.map fun link => link.target.extent) (first : NodeId) :
    starts first links = starts first others := by
  induction links generalizing others first with
  | nil =>
    obtain rfl := List.map_eq_nil_iff.mp same.symm
    rfl
  | cons link links ih =>
    obtain ⟨other, others', rfl, extent, rest⟩ := List.map_eq_cons_iff.mp same.symm
    rw [starts, starts, ih rest.symm, extent]

end Link

namespace Schema

theorem kind_stamp (schema : Schema) (entity : EntityId) :
    (schema.stamp entity).kind = schema.kind := by
  rcases schema.stamp_cases entity with ⟨_, same⟩ | ⟨_, fields, signatures, isShape, stamped⟩
  · rw [same]
  · rw [stamped, kind, kind, isShape]
    rfl

theorem without_annotations_stamp (schema : Schema) (entity : EntityId) :
    (schema.stamp entity).annotations.without Annotations.stampKeys =
      schema.annotations.without Annotations.stampKeys := by
  rcases schema.stamp_cases entity with ⟨_, same⟩ | ⟨_, _, _, _, stamped⟩
  · rw [same]
  · rw [stamped]
    exact schema.annotations.without_stamped entity

theorem links_stamp (schema : Schema) (entity : EntityId) :
    (schema.stamp entity).links =
      (schema.fields.map fun field =>
        Link.ofField (field.stamped entity (field.type.stamp entity))) ++ schema.otherLinks := by
  rw [links_eq, fields_stamp, otherLinks_stamp, List.map_map]
  rfl

private theorem map_extent_links_stamp {schema : Schema} {entity : EntityId}
    (fields : ∀ field ∈ schema.fields,
      (field.type.stamp entity).extent = field.type.extent) :
    (schema.stamp entity).links.map (fun link => link.target.extent) =
      schema.links.map fun link => link.target.extent := by
  rw [links_stamp, links_eq schema, List.map_append, List.map_append, List.map_map, List.map_map]
  exact congrArg (· ++ _) (List.map_congr_left fields)

theorem extent_stamp (schema : Schema) (entity : EntityId) :
    (schema.stamp entity).extent = schema.extent := by
  induction schema using induct_links with
  | step schema ih =>
    have fields : ∀ field ∈ schema.fields,
        (field.type.stamp entity).extent = field.type.extent := by
      intro field inside
      apply ih (.ofField field)
      rw [links_eq]
      exact List.mem_append_left _ (List.mem_map_of_mem inside)
    rw [extent_eq, extent_eq, Link.extents_eq_sum, Link.extents_eq_sum,
      map_extent_links_stamp fields]

theorem starts_links_stamp (schema : Schema) (entity : EntityId) (first : NodeId) :
    Link.starts first (schema.stamp entity).links = Link.starts first schema.links :=
  Link.starts_congr (map_extent_links_stamp fun field _ => field.type.extent_stamp entity) first

theorem links_stamp_cases {schema : Schema} {entity : EntityId} {position : Nat}
    {link other : Link} (isLink : schema.links[position]? = some link)
    (isOther : (schema.stamp entity).links[position]? = some other) :
    (position < schema.fields.length ∧ ∃ field, link = .ofField field ∧
      other = .ofField (field.stamped entity (field.type.stamp entity))) ∨ other = link := by
  rw [links_eq] at isLink
  rw [links_stamp] at isOther
  by_cases within : position < schema.fields.length
  · rw [List.getElem?_append_left (by simpa using within), List.getElem?_map,
      List.getElem?_eq_getElem within] at isLink isOther
    exact .inl ⟨within, _, (Option.some.inj isLink).symm, (Option.some.inj isOther).symm⟩
  · have beyond := Nat.le_of_not_lt within
    rw [List.getElem?_append_right (by simpa using beyond), List.length_map] at isLink isOther
    exact .inr (Option.some.inj (isOther.symm.trans isLink))

end Schema

structure Link.Alike (link other : Link) : Prop where
  segment : other.segment = link.segment
  annotations : other.annotations.without Annotations.stampKeys =
    link.annotations.without Annotations.stampKeys
  kind : other.target.kind = link.target.kind
  own : other.target.annotations.without Annotations.stampKeys =
    link.target.annotations.without Annotations.stampKeys

theorem Link.Alike.refl (link : Link) : link.Alike link := ⟨rfl, rfl, rfl, rfl⟩

theorem Link.alike_stamped (field : Field Schema) (entity : EntityId) :
    (ofField field).Alike (ofField (field.stamped entity (field.type.stamp entity))) where
  segment := rfl
  annotations := field.annotations.without_marked entity.marker
  kind := field.type.kind_stamp entity
  own := field.type.without_annotations_stamp entity

/-! ### Counterparts -/

/-- Two nodes have their place in common, and all that they say apart from what stamps say. -/
structure Node.Counterpart (node : Node C) (other : Node D) : Prop where
  id : other.id = node.id
  parent : other.parent = node.parent
  children : other.children = node.children
  path : other.path = node.path
  kind : other.kind = node.kind
  annotations : other.annotations.without Annotations.stampKeys =
    node.annotations.without Annotations.stampKeys

theorem Node.counterpart_of_alike {rule : ContextRule C} {otherRule : ContextRule D}
    {parent child : Node C} {otherParent other : Node D} {id : NodeId} {link otherLink : Link}
    (above : parent.Counterpart otherParent)
    (isChild : child.bare = .ofLink rule parent.bare id link)
    (isOther : other.bare = .ofLink otherRule otherParent.bare id otherLink)
    (alike : link.Alike otherLink) (children : other.children = child.children) :
    child.Counterpart other := by
  refine ⟨?id, ?parent, children, ?path, ?kind, ?annotations⟩
  case id => rw [id_of_link isChild, id_of_link isOther]
  case parent => rw [parent_of_link isChild, parent_of_link isOther, above.id]
  case path => rw [path_of_link isChild, path_of_link isOther, above.path, alike.segment]
  case kind =>
    rw [kind, kind, schema_of_link isChild, schema_of_link isOther]
    exact alike.kind
  case annotations =>
    rw [annotations_of_link isChild, annotations_of_link isOther]
    exact Annotations.without_merged alike.own alike.annotations

namespace Outline

theorem mem_spine_self {outline : Outline C} {id : Fin outline.nodes.size}
    (isStruct : (outline.get id).schema.isStruct = true) : id ∈ outline.spine id := by
  rw [spine_eq, if_pos isStruct]
  exact List.mem_cons_self

theorem field_of_mem_spine {outline : Outline C} {top id child : Fin outline.nodes.size}
    (onSpine : id ∈ outline.spine top) (isField : child ∈ outline.fieldIds id) :
    child ∈ outline.spineFields top ∧
      ((outline.get child).schema.isStruct = true → child ∈ outline.spine top) := by
  induction top using induct_childIds with
  | step top ih =>
    rw [spine_eq] at onSpine
    split at onSpine
    · next isStruct =>
      rw [spineFields_eq, spine_eq, if_pos isStruct]
      rcases List.mem_cons.mp onSpine with rfl | below
      · refine ⟨List.mem_flatMap.mpr ⟨child, isField, List.mem_cons_self⟩, fun inner => ?_⟩
        exact List.mem_cons_of_mem _ (List.mem_flatMap.mpr ⟨child, isField, mem_spine_self inner⟩)
      · obtain ⟨field, ofTop, inside⟩ := List.mem_flatMap.mp below
        obtain ⟨amongFields, onward⟩ := ih field (List.mem_of_mem_take ofTop) inside
        refine ⟨List.mem_flatMap.mpr ⟨field, ofTop, List.mem_cons_of_mem _ amongFields⟩,
          fun inner => ?_⟩
        exact List.mem_cons_of_mem _ (List.mem_flatMap.mpr ⟨field, ofTop, onward inner⟩)
    · cases onSpine

theorem mem_fieldIds_of_lt {outline : Outline C} {id : Fin outline.nodes.size} {position : Nat}
    (within : position < (outline.childIds id).length)
    (among : position < (outline.get id).schema.fields.length) :
    (outline.childIds id)[position] ∈ outline.fieldIds id := by
  apply List.mem_of_getElem? (i := position)
  rw [fieldIds, List.getElem?_take_of_lt among, List.getElem?_eq_getElem within]

/-- A node stands for another one in the outline of a stamped schema. Where the schema of the other
one is stamped it is a struct of the spine, and where its annotations differ it is one or the field
of one. -/
structure Kept (entity : EntityId) (outline : Outline C) (id : Fin outline.nodes.size)
    (node : Node D) : Prop where
  counterpart : (outline.get id).Counterpart node
  schema : node.schema = (outline.get id).schema ∨
    node.schema = (outline.get id).schema.stamp entity ∧
      id ∈ outline.spine ⟨0, outline.nonempty⟩
  annotations : node.annotations = (outline.get id).annotations ∨
    id ∈ outline.spine ⟨0, outline.nonempty⟩ ∨ id ∈ outline.spineFields ⟨0, outline.nonempty⟩

namespace Unfolds

variable {rule : ContextRule C} {otherRule : ContextRule D} {schema : Schema} {entity : EntityId}
  {outline : Outline C} {stamped : Outline D} (unfolds : outline.Unfolds rule schema)
  (others : stamped.Unfolds otherRule (schema.stamp entity))

include unfolds others

private theorem children_kept {id : Fin outline.nodes.size} {other : Fin stamped.nodes.size}
    (number : other.1 = id.1)
    (schemas : (stamped.get other).schema = (outline.get id).schema ∨
      (stamped.get other).schema = (outline.get id).schema.stamp entity) :
    (stamped.get other).children = (outline.get id).children := by
  rw [unfolds.children_get, others.children_get, number]
  rcases schemas with same | marked
  · rw [same]
  · rw [marked, Schema.starts_links_stamp]

private theorem kept_zero :
    Kept entity outline ⟨0, outline.nonempty⟩ (stamped.get ⟨0, stamped.nonempty⟩) := by
  have ofPlain := unfolds.schema_get_zero
  have ofStamped := others.schema_get_zero
  have either : schema.stamp entity = schema ∨
      ⟨0, outline.nonempty⟩ ∈ outline.spine ⟨0, outline.nonempty⟩ := by
    cases isStruct : schema.isStruct with
    | false => exact .inl (Schema.stamp_of_not_isStruct entity isStruct)
    | true => exact .inr (mem_spine_self (by rw [ofPlain, isStruct]))
  refine ⟨⟨?id, ?parent, ?children, ?path, ?kind, ?without⟩, ?schema, ?annotations⟩
  case id => rw [unfolds.id_get, others.id_get]
  case parent => rw [unfolds.parent_get_zero, others.parent_get_zero]
  case children =>
    exact children_kept unfolds others rfl (.inr (by rw [ofPlain, ofStamped]))
  case path => rw [unfolds.path_get_zero, others.path_get_zero]
  case kind => rw [Node.kind, Node.kind, ofPlain, ofStamped, Schema.kind_stamp]
  case without =>
    rw [unfolds.annotations_get_zero, others.annotations_get_zero,
      Schema.without_annotations_stamp]
  case schema =>
    rw [ofPlain, ofStamped]
    exact either.imp_right fun onSpine => ⟨rfl, onSpine⟩
  case annotations =>
    rw [unfolds.annotations_get_zero, others.annotations_get_zero]
    exact either.imp (congrArg Schema.annotations) .inl

omit unfolds others in
private theorem link_kept {id : Fin outline.nodes.size} {other : Node D}
    (kept : Kept entity outline id other) {position : Nat}
    (within : position < (outline.childIds id).length) {link otherLink : Link}
    (isLink : (outline.get id).schema.links[position]? = some link)
    (isOther : other.schema.links[position]? = some otherLink) :
    otherLink = link ∨
      ∃ field, link = .ofField field ∧
        otherLink = .ofField (field.stamped entity (field.type.stamp entity)) ∧
        (outline.childIds id)[position] ∈ outline.spineFields ⟨0, outline.nonempty⟩ ∧
        ((outline.get (outline.childIds id)[position]).schema.isStruct = true →
          (outline.childIds id)[position] ∈ outline.spine ⟨0, outline.nonempty⟩) := by
  rcases kept.schema with same | ⟨marked, onSpine⟩
  · rw [same] at isOther
    exact .inl (Option.some.inj (isOther.symm.trans isLink))
  · rw [marked] at isOther
    rcases Schema.links_stamp_cases isLink isOther with ⟨among, field, isField, isStamped⟩ | same
    · have isFieldId := mem_fieldIds_of_lt within among
      exact .inr ⟨field, isField, isStamped, field_of_mem_spine onSpine isFieldId⟩
    · exact .inl same

private theorem kept_child {id : Fin outline.nodes.size} {other : Fin stamped.nodes.size}
    (kept : Kept entity outline id (stamped.get other)) {child : Fin outline.nodes.size}
    (inside : child ∈ outline.childIds id) :
    ∃ otherChild, Kept entity outline child (stamped.get otherChild) := by
  obtain ⟨position, within, rfl⟩ := List.getElem_of_mem inside
  have children : (stamped.get other).children =
      (outline.get id).children.map fun child => child := by
    rw [kept.counterpart.children, List.map_id']
  obtain ⟨withinOther, number⟩ := exists_childIds_at children within
  obtain ⟨link, isLink, isChild⟩ := unfolds.exists_link within
  obtain ⟨otherLink, isOtherLink, isOther⟩ := others.exists_link withinOther
  have schema := Node.schema_of_link isChild
  have otherSchema := Node.schema_of_link isOther
  rw [number] at isOther
  refine ⟨(stamped.childIds other)[position], ?_⟩
  rcases link_kept kept within isLink isOtherLink with
    rfl | ⟨field, rfl, rfl, ofSpine, onSpine⟩
  · have same := otherSchema.trans schema.symm
    refine ⟨?_, .inl same, .inl ?_⟩
    · exact Node.counterpart_of_alike kept.counterpart isChild isOther (.refl _)
        (children_kept unfolds others number (.inl same))
    · rw [Node.annotations_of_link isChild, Node.annotations_of_link isOther]
  · have marked : (stamped.get (stamped.childIds other)[position]).schema =
        (outline.get (outline.childIds id)[position]).schema.stamp entity := by
      rw [otherSchema, schema]
      rfl
    refine ⟨?_, ?_, .inr (.inr ofSpine)⟩
    · exact Node.counterpart_of_alike kept.counterpart isChild isOther
        (Link.alike_stamped field entity) (children_kept unfolds others number (.inr marked))
    · cases isStruct : (outline.get (outline.childIds id)[position]).schema.isStruct with
      | true => exact .inr ⟨marked, onSpine isStruct⟩
      | false => exact .inl (by rw [marked, Schema.stamp_of_not_isStruct entity isStruct])

theorem exists_kept (id : Fin outline.nodes.size) :
    ∃ other, Kept entity outline id (stamped.get other) := by
  induction id using unfolds.induct_nodes with
  | root => exact ⟨_, kept_zero unfolds others⟩
  | child id ih child inside =>
    obtain ⟨other, kept⟩ := ih
    exact kept_child unfolds others kept inside

end Unfolds

/-- Stamping changes nothing in the outline of a schema but annotations. The nodes are as many, and
under each number there is a node of the same kind, with the same parent, children and path. Apart
from what the stamp says, its annotations hold the same entries in the same order; they are the same
altogether unless the node is a struct of the spine or the field of one. -/
theorem stamp_keeps_outline (rule : ContextRule C) (otherRule : ContextRule D) (schema : Schema)
    (entity : EntityId) :
    ∃ outline stamped, build rule schema = .ok outline ∧
      build otherRule (schema.stamp entity) = .ok stamped ∧
      stamped.size = outline.size ∧
      ∀ id : Fin outline.nodes.size, ∃ node, stamped.node? id = some node ∧
        (outline.get id).Counterpart node ∧
        (id ∉ outline.spine ⟨0, outline.nonempty⟩ →
          id ∉ outline.spineFields ⟨0, outline.nonempty⟩ →
          node.annotations = (outline.get id).annotations) := by
  obtain ⟨outline, built, _⟩ := exists_build rule schema
  obtain ⟨stamped, stampedBuilt, _⟩ := exists_build otherRule (schema.stamp entity)
  have unfolds := unfolds_of_build built
  have others := unfolds_of_build stampedBuilt
  refine ⟨outline, stamped, built, stampedBuilt, ?size, fun id => ?node⟩
  case size => rw [size, size, unfolds.size_nodes, others.size_nodes, Schema.extent_stamp]
  case node =>
    obtain ⟨other, kept⟩ := Unfolds.exists_kept unfolds others id
    have number : other.1 = id.1 := by
      rw [← others.id_get other, kept.counterpart.id, unfolds.id_get]
    refine ⟨stamped.get other, ?_, kept.counterpart, fun offSpine noField => ?_⟩
    · rw [← number]
      exact Array.getElem?_eq_getElem other.2
    · exact kept.annotations.resolve_right (not_or.mpr ⟨offSpine, noField⟩)

end Outline

end SchemaOutline
