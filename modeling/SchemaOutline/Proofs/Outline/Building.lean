import SchemaOutline.Proofs.Annotations.Merging
import SchemaOutline.Proofs.Outline.Unfolding
import SchemaOutline.Proofs.Schema.Links

/-! Each node of a built outline, from the link that leads to it and the node it leads from. -/

set_option autoImplicit false
set_option relaxedAutoImplicit false

namespace SchemaOutline

theorem Link.getElem?_starts {first : NodeId} {links : List Link} {position : Nat}
    (inside : position < links.length) :
    (starts first links)[position]? = some (first + extents (links.take position)) := by
  induction links generalizing first position with
  | nil => cases inside
  | cons link links ih =>
    cases position with
    | zero => rfl
    | succ position =>
      rw [starts, List.getElem?_cons_succ, ih (Nat.lt_of_succ_lt_succ inside), List.take_succ_cons,
        extents_cons, Nat.add_assoc]

namespace Node

variable {C : Type}

/-- A node is the first one of the outline of a schema. -/
structure IsRoot (rule : ContextRule C) (node : Node C) (whole : Schema) : Prop where
  id : node.id = 0
  parent : node.parent = none
  schema : node.schema = whole
  path : node.path.segments = []
  annotations : node.annotations = whole.annotations
  context : node.context = rule node.schema node.annotations node.path none

/-- A node is what a link leads to from the node above, which had no children yet when the context
was computed. -/
structure IsChild (rule : ContextRule C) (node above : Node C) (link : Link) : Prop where
  parent : node.parent = some above.id
  schema : node.schema = link.target
  path : node.path.segments = above.path.segments ++ link.segment.toList
  keys : node.annotations.keys = link.target.annotations.keys ++
    link.annotations.keys.filter (· ∉ link.target.annotations.keys)
  values : ∀ key, node.annotations.get? key =
    (link.annotations.get? key).or (link.target.annotations.get? key)
  context : node.context = rule node.schema node.annotations node.path
    (some { above with children := [] })

theorem isRoot_of_ofRoot {rule : ContextRule C} {whole : Schema} {node : Node C}
    (isRoot : node.bare = .ofRoot rule whole) : IsRoot rule node whole where
  id := congrArg Node.id isRoot
  parent := congrArg Node.parent isRoot
  schema := congrArg Node.schema isRoot
  path := congrArg (fun node => node.path.segments) isRoot
  annotations := congrArg Node.annotations isRoot
  context := by
    have schema : node.schema = whole := congrArg Node.schema isRoot
    have annotations : node.annotations = whole.annotations := congrArg Node.annotations isRoot
    have path : node.path = .root := congrArg Node.path isRoot
    rw [annotations, path, schema]
    exact congrArg Node.context isRoot

theorem isChild_of_ofLink {rule : ContextRule C} {parent child : Node C} {id : NodeId}
    {link : Link} (isChild : child.bare = .ofLink rule parent.bare id link) :
    IsChild rule child parent link where
  parent := parent_of_link isChild
  schema := schema_of_link isChild
  path := by
    rw [path_of_link isChild, Path.segments_step]
  keys := by
    rw [annotations_of_link isChild, Annotations.keys_merged]
  values key := by
    rw [annotations_of_link isChild, Annotations.get?_merged]
  context := context_of_link isChild

end Node

namespace Outline

variable {C : Type}

/-- Building an outline never fails. All tasks are performed, the root that is found has the first
number, and the nodes are the unfolding of the schema, numbered in pre-order. Every node has one
child for every link: its number follows those of all nodes below the links before, and it is what
the link leads to. -/
theorem build_unfolds (rule : ContextRule C) (schema : Schema) :
    ∃ outline arena, build rule schema = .ok outline ∧
      run rule [.enter (.root schema)] .empty = .ok arena ∧ arena.nodes = outline.nodes ∧
      arena.root = some 0 ∧ arena.root = some outline.rootId ∧
      outline.nodes.toList = unfold rule (.ofRoot rule schema) ∧
      outline.size = schema.extent ∧
      outline.root.bare = .ofRoot rule schema ∧ Node.IsRoot rule outline.root schema ∧
      outline.node? outline.rootId = some outline.root ∧
      (∀ id, id < outline.size ↔ ∃ node, outline.node? id = some node) ∧
      ∀ id node, outline.node? id = some node →
        node.id = id ∧ node.children.length = node.schema.links.length ∧
        (∀ position link, node.schema.links[position]? = some link ↔
          node.schema.Leads position link) ∧
        ∀ position link, node.schema.Leads position link →
          (link.segment = none ↔ node.kind = .refinement) ∧
          ∃ (child : NodeId) (inner : Node C), node.children[position]? = some child ∧
            child = id + 1 + Link.extents (node.schema.links.take position) ∧
            outline.node? child = some inner ∧ inner.id = child ∧
            inner.bare = .ofLink rule node.bare child link ∧ Node.IsChild rule inner node link := by
  obtain ⟨outline, built, nodes, _⟩ := exists_build rule schema
  have first : outline.node? outline.rootId = some outline.root :=
    Array.getElem?_eq_getElem outline.nonempty
  have isRoot : outline.root.bare = .ofRoot rule schema := by
    have unfolded := first
    rw [node?, nodes, List.getElem?_toArray, unfold] at unfolded
    rw [← Option.some.inj unfolded]
    rfl
  refine ⟨outline, _, built, run_root rule schema, nodes.symm, rfl, rfl, by rw [nodes], ?_, isRoot,
    Node.isRoot_of_ofRoot isRoot, first, ?_, ?_⟩
  · rw [size, nodes, List.size_toArray, length_unfold]
    rfl
  · intro id
    rw [node?, ← Option.isSome_iff_exists, isSome_getElem?, size]
  · intro id node found
    rw [node?, nodes, List.getElem?_toArray] at found
    have member := List.mem_of_getElem? found
    have number := getElem?_unfold found
    have children := ((starts_both rule).1 _ node member).1
    refine ⟨number, by rw [children, Link.length_starts],
      fun _ _ => Schema.getElem?_links_eq_some_iff, ?_⟩
    intro position link leads
    have isLink := Schema.getElem?_links_eq_some_iff.mpr leads
    have inside := (List.getElem?_eq_some_iff.mp isLink).1
    obtain ⟨child, inner, isChild, here, isInner⟩ := exists_child member isLink
    -- The children are numbered like the starts of what the links lead to.
    have place : child = id + 1 + Link.extents (node.schema.links.take position) := by
      rw [children, Link.getElem?_starts inside, number] at isChild
      exact (Option.some.inj isChild).symm
    refine ⟨Schema.segment_eq_none_iff leads, child, inner, isChild, place, ?_,
      Node.id_of_link isInner, isInner, Node.isChild_of_ofLink isInner⟩
    rw [node?, nodes, List.getElem?_toArray, here]

end Outline

end SchemaOutline
