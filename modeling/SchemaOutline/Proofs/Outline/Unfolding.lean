import SchemaOutline.Outline.Build

/-! Building through tasks gives the nodes of the plain recursion, numbered in pre-order. -/

set_option autoImplicit false
set_option relaxedAutoImplicit false

namespace SchemaOutline

open Traversal

theorem Schema.weight_target_lt {schema : Schema} {link : Link}
    (member : link ∈ schema.links) : link.target.weight < schema.weight := by
  have total := schema.totalWeight_links_lt
  have single := @weight_le_totalWeight_of_mem _ (fun link => Schema.weight link.target) _ _ member
  omega

namespace Schema

theorem induct_links {motive : Schema → Prop}
    (step : ∀ schema, (∀ link ∈ schema.links, motive link.target) → motive schema)
    (schema : Schema) : motive schema :=
  step schema fun link _ => induct_links step link.target
termination_by schema.weight
decreasing_by exact weight_target_lt ‹_›

/-- The number of places that links lead to from a schema, its own included. -/
def extent (schema : Schema) : Nat :=
  1 + totalWeight (fun link => extent link.1.target) schema.links.attach
termination_by schema.weight
decreasing_by exact weight_target_lt link.2

end Schema

namespace Link

def extents (links : List Link) : Nat := totalWeight (fun link => link.target.extent) links

/-- The numbers of the targets of links, if the first target has the given one. -/
def starts (first : NodeId) : List Link → List NodeId
  | [] => []
  | link :: links => first :: starts (first + link.target.extent) links

@[simp] theorem extents_nil : extents [] = 0 := rfl

@[simp] theorem extents_cons (link : Link) (links : List Link) :
    extents (link :: links) = link.target.extent + extents links := rfl

@[simp] theorem length_starts (first : NodeId) (links : List Link) :
    (starts first links).length = links.length := by
  induction links generalizing first with
  | nil => rfl
  | cons link links ih => simp [starts, ih]

end Link

theorem Schema.extent_eq (schema : Schema) : schema.extent = 1 + Link.extents schema.links := by
  rw [extent, Link.extents]
  exact congrArg (1 + ·) (totalWeight_attach (fun link : Link => link.target.extent) _)

namespace Node

variable {C : Type}

def bare (node : Node C) : Node C := { node with children := [] }

def ofLink (rule : ContextRule C) (parent : Node C) (id : NodeId) (link : Link) : Node C :=
  let path := parent.path.step link.segment
  let annotations := link.target.annotations.merged link.annotations
  { id, parent := some parent.id, path, schema := link.target, annotations
    context := rule link.target annotations path (some parent), children := [] }

def ofRoot (rule : ContextRule C) (schema : Schema) : Node C :=
  { id := 0, parent := none, path := .root, schema, annotations := schema.annotations
    context := rule schema schema.annotations .root none, children := [] }

section

variable {rule : ContextRule C} {parent child : Node C} {id : NodeId} {link : Link}
  (isChild : child.bare = .ofLink rule parent.bare id link)

include isChild

theorem id_of_link : child.id = id := congrArg Node.id isChild

theorem parent_of_link : child.parent = some parent.id := congrArg Node.parent isChild

theorem path_of_link : child.path = parent.path.step link.segment := congrArg Node.path isChild

theorem schema_of_link : child.schema = link.target := congrArg Node.schema isChild

theorem annotations_of_link :
    child.annotations = link.target.annotations.merged link.annotations :=
  congrArg Node.annotations isChild

theorem context_of_link :
    child.context = rule child.schema child.annotations child.path (some parent.bare) := by
  rw [schema_of_link isChild, annotations_of_link isChild, path_of_link isChild]
  exact congrArg Node.context isChild

end

end Node

namespace Outline

variable {C : Type}

mutual

/-- The nodes from a given one on down, in pre-order. -/
def unfold (rule : ContextRule C) (own : Node C) : List (Node C) :=
  { own with children := Link.starts (own.id + 1) own.schema.links } ::
    unfoldLinks rule own.bare (own.id + 1) own.schema.links
termination_by (own.schema.weight, 0)
decreasing_by
  apply Prod.Lex.left
  exact own.schema.totalWeight_links_lt

/-- The nodes that links lead to from a node, and everything below them, numbered from `first`
on. -/
def unfoldLinks (rule : ContextRule C) (parent : Node C) (first : NodeId) :
    List Link → List (Node C)
  | [] => []
  | link :: links =>
    unfold rule (.ofLink rule parent first link) ++
      unfoldLinks rule parent (first + link.target.extent) links
termination_by links => (totalWeight (fun link => Schema.weight link.target) links, links.length)
decreasing_by
  all_goals
    simp only [totalWeight_cons, Prod.lex_def]
    simp [Node.ofLink]
    omega

end

theorem unfoldLinks_nil (rule : ContextRule C) (parent : Node C) (first : NodeId) :
    unfoldLinks rule parent first [] = [] := by
  rw [unfoldLinks]

theorem unfoldLinks_cons (rule : ContextRule C) (parent : Node C) (first : NodeId) (link : Link)
    (links : List Link) : unfoldLinks rule parent first (link :: links) =
      unfold rule (.ofLink rule parent first link) ++
        unfoldLinks rule parent (first + link.target.extent) links := by
  rw [unfoldLinks]

private theorem map_id_both (rule : ContextRule C) :
    (∀ own : Node C, (unfold rule own).map Node.id = List.range' own.id own.schema.extent) ∧
      ∀ (parent : Node C) (first : NodeId) (links : List Link),
        (unfoldLinks rule parent first links).map Node.id =
          List.range' first (Link.extents links) := by
  apply unfold.mutual_induct rule
  case case1 =>
    intro own below
    rw [unfold, List.map_cons, below, Schema.extent_eq, Nat.add_comm 1, List.range'_succ]
  case case2 =>
    intro parent first
    rw [unfoldLinks_nil]
    rfl
  case case3 =>
    intro parent first link links head tail
    rw [unfoldLinks_cons, List.map_append, head, tail, Link.extents_cons]
    exact List.range'_append_1

theorem map_id_unfold (rule : ContextRule C) (own : Node C) :
    (unfold rule own).map Node.id = List.range' own.id own.schema.extent :=
  (map_id_both rule).1 own

@[simp] theorem length_unfold (rule : ContextRule C) (own : Node C) :
    (unfold rule own).length = own.schema.extent := by
  have ids := congrArg List.length (map_id_unfold rule own)
  simpa using ids

theorem getElem?_unfold {rule : ContextRule C} {schema : Schema} {id : NodeId}
    {node : Node C} (found : (unfold rule (.ofRoot rule schema))[id]? = some node) :
    node.id = id := by
  have numbers := congrArg (fun ids => ids[id]?) (map_id_unfold rule (.ofRoot rule schema))
  simp only [List.getElem?_map, found, Option.map_some] at numbers
  obtain ⟨_, number⟩ := List.getElem?_eq_some_iff.mp numbers.symm
  simpa [Node.ofRoot] using number.symm

/-! ### Tasks -/

private theorem modify_eq_setIfInBounds {α : Type} {items : Array α} {place : Nat} {item : α}
    (found : items[place]? = some item) (change : α → α) :
    items.modify place change = items.setIfInBounds place (change item) := by
  obtain ⟨inside, here⟩ := Array.getElem?_eq_some_iff.mp found
  apply Array.ext_getElem?
  intro other
  rw [Array.getElem?_modify, Array.getElem?_setIfInBounds]
  by_cases same : place = other
  · subst same
    simp [inside, here]
  · simp [same]

private theorem getElem?_push_append {α : Type} (items others : Array α) (item : α) :
    (items.push item ++ others)[items.size]? = some item := by
  rw [Array.getElem?_append_left (by simp), Array.getElem?_push_size]

private theorem modify_push_append {α : Type} (items others : Array α) (item : α)
    (change : α → α) :
    (items.push item ++ others).modify items.size change = items.push (change item) ++ others := by
  rw [modify_eq_setIfInBounds (getElem?_push_append items others item),
    Array.setIfInBounds_append_left (by simp), Array.setIfInBounds_def]
  simp [Array.set_push]

private theorem push_append_toArray {α : Type} (items : Array α) (item : α) (others : List α) :
    items.push item ++ others.toArray = items ++ (item :: others).toArray := by
  cases items
  simp

private theorem push_append_replicate {α : Type} (items : Array α) (item : α) (count : Nat) :
    items.push item ++ Array.replicate count item = items ++ Array.replicate (1 + count) item := by
  rw [Nat.add_comm, ← List.toArray_replicate, ← List.toArray_replicate, push_append_toArray,
    List.replicate_succ]

@[simp] theorem size_fillSlot (slots : Array (List (Option NodeId))) (id : NodeId)
    (slot : Option Slot) : (fillSlot slots id slot).size = slots.size := by
  cases slot with
  | none => rfl
  | some slot => simp [fillSlot]

theorem fillSlot_next {slots : Array (List (Option NodeId))} {parent : NodeId}
    {filled later : List (Option NodeId)} {unfilled : Option NodeId}
    (found : slots[parent]? = some (filled ++ unfilled :: later)) (id : NodeId) :
    fillSlot slots id (some ⟨parent, filled.length⟩) =
      slots.setIfInBounds parent (filled ++ some id :: later) := by
  rw [fillSlot, modify_eq_setIfInBounds found]
  simp

theorem childrenFrom_map_some (node : NodeId) (position : Nat) (children : List NodeId) :
    childrenFrom node position (children.map some) = .ok children := by
  induction children generalizing position with
  | nil => rfl
  | cons child children ih =>
    rw [List.map_cons, childrenFrom, ih]
    rfl

theorem run_cons {rule : ContextRule C} {task : Task} {rest following : List Task}
    {arena next : Arena C} (performed : perform rule rest arena task = .ok (following, next)) :
    run rule (task :: rest) arena = run rule following next := by
  rw [run]
  split
  · next failed =>
    rw [performed] at failed
    cases failed
  · next other =>
    rw [performed] at other
    cases other
    rfl

private theorem run_leave (rule : ContextRule C) (rest : List Task) (root : Option NodeId)
    {nodes : Array (Node C)} {slots : Array (List (Option NodeId))} {own : Node C}
    (number : own.id = nodes.size) (sizes : slots.size = nodes.size) (below : Array (Node C))
    (children : List NodeId) (extent : Nat) :
    run rule (.leave own.id :: rest)
        ⟨nodes.push own ++ below, slots.push (children.map some) ++ Array.replicate extent [],
          root⟩ =
      run rule rest
        ⟨nodes.push { own with children } ++ below, slots.push [] ++ Array.replicate extent [],
          if own.parent.isNone then some own.id else root⟩ := by
  have told : (slots.push (children.map some) ++ Array.replicate extent [])[own.id]? =
      some (children.map some) := by
    rw [number, ← sizes, getElem?_push_append]
  have entered : (nodes.push own ++ below)[own.id]? = some own := by
    rw [number, getElem?_push_append]
  have completed : (nodes.push own ++ below).modify own.id (fun node => { node with children }) =
      nodes.push { own with children } ++ below := by
    rw [number, modify_push_append, number]
  have emptied : (slots.push (children.map some) ++ Array.replicate extent []).modify own.id
      (fun _ => []) = slots.push [] ++ Array.replicate extent [] := by
    rw [number, ← sizes, modify_push_append]
  apply run_cons
  simp only [perform, told, Option.getD_some, childrenFrom_map_some, bind, Except.bind, entered,
    completed, emptied]
  rfl

/-- Entering a place whose node is the given one appends the unfolding of that node, tells its
number to its parent, and keeps no numbers of children for what is below. -/
def Enters (rule : ContextRule C) (own : Node C) : Prop :=
  ∀ (pending : Pending) (rest : List Task) (nodes : Array (Node C))
    (slots : Array (List (Option NodeId))) (root : Option NodeId),
    slots.size = nodes.size → pending.node rule nodes = own →
    run rule (.enter pending :: rest) ⟨nodes, slots, root⟩ =
      run rule rest
        ⟨nodes ++ (unfold rule own).toArray,
          fillSlot slots own.id pending.slot ++ Array.replicate own.schema.extent [],
          if own.parent.isNone then some own.id else root⟩

/-- Following the links that remain of a parent, whose list of numbers is filled up to the first of
them, appends their unfolding and fills the list. -/
def Follows (rule : ContextRule C) (parent : Node C) (first : NodeId) (links : List Link) : Prop :=
  ∀ (pending : Pending) (filled : List (Option NodeId)) (rest : List Task)
    (nodes : Array (Node C)) (slots : Array (List (Option NodeId))) (root : Option NodeId),
    slots.size = nodes.size → nodes.size = first →
    nodes[parent.id]? = some parent → parent.path = pending.path →
    slots[parent.id]? = some (filled ++ List.replicate links.length none) →
    run rule ((pending.followFrom parent.id filled.length links).map .enter ++ rest)
        ⟨nodes, slots, root⟩ =
      run rule rest
        ⟨nodes ++ (unfoldLinks rule parent first links).toArray,
          slots.setIfInBounds parent.id (filled ++ (Link.starts first links).map some) ++
            Array.replicate (Link.extents links) [],
          root⟩

private theorem enters_of_follows {rule : ContextRule C} {own : Node C}
    (below : Follows rule own.bare (own.id + 1) own.schema.links) : Enters rule own := by
  intro pending rest nodes slots root sizes place
  have number : own.id = nodes.size := by
    subst place
    rfl
  have path : own.path = pending.path := by
    subst place
    rfl
  have schema : own.schema = pending.schema := by
    subst place
    rfl
  have isBare : own.bare = own := by
    subst place
    rfl
  let told := fillSlot slots own.id pending.slot
  have toldSize : told.size = nodes.size := by
    rw [size_fillSlot, sizes]
  let unfilled : List (Option NodeId) := List.replicate own.schema.links.length none
  have entered : perform rule rest ⟨nodes, slots, root⟩ (.enter pending) =
      .ok ((pending.followFrom own.id 0 own.schema.links).map .enter ++ .leave own.id :: rest,
        ⟨nodes.push own, told.push unfilled, root⟩) := by
    simp only [perform, Pending.next, place, number, schema, told, unfilled]
  rw [isBare] at below
  -- All children are entered before the node is left.
  have children := below pending [] (.leave own.id :: rest) (nodes.push own)
    (told.push unfilled) root (by simp [toldSize]) (by simp [number]) (by simp [number]) path
    (by rw [number, ← toldSize, Array.getElem?_push_size]; rfl)
  have filled : (told.push unfilled).setIfInBounds own.id
      ((Link.starts (own.id + 1) own.schema.links).map some) =
        told.push ((Link.starts (own.id + 1) own.schema.links).map some) := by
    rw [number, ← toldSize, Array.setIfInBounds_def]
    simp [Array.set_push]
  rw [List.nil_append, filled] at children
  rw [run_cons entered]
  refine children.trans ?_
  rw [run_leave rule rest root number toldSize, unfold, isBare, Schema.extent_eq,
    push_append_toArray, push_append_replicate]

private theorem follows_nil (rule : ContextRule C) (parent : Node C) (first : NodeId) :
    Follows rule parent first [] := by
  intro pending filled rest nodes slots root sizes size found path unfilled
  have same : slots.setIfInBounds parent.id filled = slots := by
    obtain ⟨inside, here⟩ := Array.getElem?_eq_some_iff.mp unfilled
    have kept : slots[parent.id] = filled := by simpa using here
    rw [Array.setIfInBounds_def, dif_pos inside, ← kept, Array.set_getElem_self]
  rw [unfoldLinks_nil]
  simp [Pending.followFrom, Link.starts, same]

private theorem follows_cons {rule : ContextRule C} {parent : Node C} {first : NodeId}
    {link : Link} {links : List Link} (head : Enters rule (.ofLink rule parent first link))
    (tail : Follows rule parent (first + link.target.extent) links) :
    Follows rule parent first (link :: links) := by
  intro pending filled rest nodes slots root sizes size found path unfilled
  rw [List.length_cons, List.replicate_succ] at unfilled
  obtain ⟨within, _⟩ := Array.getElem?_eq_some_iff.mp found
  have inside : parent.id < slots.size := sizes ▸ within
  let own := Node.ofLink rule parent first link
  have place : (pending.follow parent.id link filled.length).node rule nodes = own := by
    simp only [Pending.node, Pending.follow, Pending.annotations, own, Node.ofLink, size, path,
      Option.bind_some, found]
  let numbers := filled ++ some first :: List.replicate links.length none
  have told : fillSlot slots own.id (pending.follow parent.id link filled.length).slot =
      slots.setIfInBounds parent.id numbers := fillSlot_next unfilled first
  have child := head (pending.follow parent.id link filled.length)
    ((pending.followFrom parent.id (filled.length + 1) links).map .enter ++ rest) nodes slots root
    sizes place
  rw [told] at child
  -- The first target has told its number, so the other links start one position later.
  have others := tail pending (filled ++ [some first]) rest
    (nodes ++ (unfold rule own).toArray)
    (slots.setIfInBounds parent.id numbers ++ Array.replicate link.target.extent []) root
    (by simp [sizes, own, Node.ofLink])
    (by simp only [Array.size_append, size, List.size_toArray, length_unfold, own, Node.ofLink])
    (by rw [Array.getElem?_append_left within, found])
    path
    (by
      rw [Array.getElem?_append_left (by simpa using inside),
        Array.getElem?_setIfInBounds_self_of_lt inside]
      simp [numbers])
  rw [List.length_append, List.length_singleton] at others
  rw [Pending.followFrom, List.map_cons, List.cons_append]
  refine child.trans (others.trans ?_)
  rw [Array.setIfInBounds_append_left (by simpa using inside), Array.setIfInBounds_setIfInBounds,
    unfoldLinks_cons, Link.starts, Link.extents_cons]
  simp [own]

theorem enters (rule : ContextRule C) (own : Node C) : Enters rule own := by
  have both : (∀ own, Enters rule own) ∧
      ∀ parent first links, Follows rule parent first links := by
    apply unfold.mutual_induct rule
    case case1 =>
      intro own below
      exact enters_of_follows below
    case case2 =>
      intro parent first
      exact follows_nil rule parent first
    case case3 =>
      intro parent first link links head tail
      exact follows_cons head tail
  exact both.1 own

theorem run_root (rule : ContextRule C) (schema : Schema) :
    run rule [.enter (.root schema)] .empty =
      .ok ⟨(unfold rule (.ofRoot rule schema)).toArray, Array.replicate schema.extent [],
        some 0⟩ := by
  have place : (Pending.root schema).node rule #[] = Node.ofRoot rule schema := rfl
  have performed := enters rule _ (.root schema) [] #[] #[] none rfl place
  rw [Array.empty_append] at performed
  refine performed.trans ?_
  rw [run]
  simp [Pending.root, fillSlot, Node.ofRoot]

/-! ### Completeness -/

private theorem gapAfter_starts {size previous first : NodeId} (position : Nat) {links : List Link}
    (before : previous < first) (inside : first + Link.extents links ≤ size) :
    gapAfter size previous position links.length (Link.starts first links) = none := by
  induction links generalizing previous first position with
  | nil => rfl
  | cons link links ih =>
    rw [Link.extents_cons] at inside
    have positive : 0 < link.target.extent := by rw [Schema.extent_eq]; omega
    rw [List.length_cons, Link.starts, gapAfter, if_pos ⟨before, by lia⟩]
    exact ih (position + 1) (by lia) (by lia)

theorem starts_both (rule : ContextRule C) :
    (∀ own : Node C, ∀ node ∈ unfold rule own,
      node.children = Link.starts (node.id + 1) node.schema.links ∧
        node.id + node.schema.extent ≤ own.id + own.schema.extent) ∧
    ∀ (parent : Node C) (first : NodeId) (links : List Link),
      ∀ node ∈ unfoldLinks rule parent first links,
        node.children = Link.starts (node.id + 1) node.schema.links ∧
          node.id + node.schema.extent ≤ first + Link.extents links := by
  apply unfold.mutual_induct rule
  case case1 =>
    intro own below node member
    rw [unfold] at member
    rcases List.mem_cons.mp member with rfl | deeper
    · exact ⟨rfl, Nat.le_refl _⟩
    · obtain ⟨children, bound⟩ := below node deeper
      refine ⟨children, ?_⟩
      rw [own.schema.extent_eq]
      lia
  case case2 =>
    intro parent first node member
    rw [unfoldLinks_nil] at member
    cases member
  case case3 =>
    intro parent first link links head tail node member
    rw [unfoldLinks_cons] at member
    rw [Link.extents_cons]
    rcases List.mem_append.mp member with inHead | inTail
    · obtain ⟨children, bound⟩ := head node inHead
      refine ⟨children, ?_⟩
      simp only [Node.ofLink] at bound
      lia
    · obtain ⟨children, bound⟩ := tail node inTail
      exact ⟨children, by lia⟩

theorem gap?_unfold (rule : ContextRule C) (schema : Schema) :
    gap? (unfold rule (.ofRoot rule schema)).toArray = none := by
  rw [gap?, List.findSome?_eq_none_iff]
  intro id _
  rw [List.getElem?_toArray]
  cases found : (unfold rule (.ofRoot rule schema))[id]? with
  | none => rfl
  | some node =>
    obtain ⟨children, bound⟩ := (starts_both rule).1 _ node (List.mem_of_getElem? found)
    have number := getElem?_unfold found
    rw [Option.bind_some, children, number, List.size_toArray, length_unfold,
      gapAfter_starts 0 (Nat.lt_succ_self id)]
    · rfl
    · rw [number, Schema.extent_eq] at bound
      simp only [Node.ofRoot] at bound
      simp only [Node.ofRoot]
      lia

/-! ### Links -/

private theorem exists_ofLink (rule : ContextRule C) (parent : Node C) {first : NodeId}
    {links : List Link} {position : Nat} {link : Link} {child : NodeId}
    (isLink : links[position]? = some link)
    (isChild : (Link.starts first links)[position]? = some child) :
    ∃ node ∈ unfoldLinks rule parent first links,
      node.bare = .ofLink rule parent child link := by
  induction links generalizing first position with
  | nil => cases isLink
  | cons other links ih =>
    rw [unfoldLinks_cons]
    cases position with
    | zero =>
      obtain rfl : other = link := Option.some.inj isLink
      obtain rfl : first = child := Option.some.inj isChild
      rw [unfold]
      exact ⟨_, List.mem_append_left _ List.mem_cons_self, rfl⟩
    | succ position =>
      obtain ⟨node, member, isNode⟩ := @ih (first + other.target.extent) position isLink isChild
      exact ⟨node, List.mem_append_right _ member, isNode⟩

private theorem links_both (rule : ContextRule C) :
    (∀ own : Node C, ∀ node ∈ unfold rule own, ∀ (position : Nat) (link : Link) (child : NodeId),
      node.schema.links[position]? = some link → node.children[position]? = some child →
      ∃ inner ∈ unfold rule own, inner.bare = .ofLink rule node.bare child link) ∧
    ∀ (parent : Node C) (first : NodeId) (links : List Link),
      ∀ node ∈ unfoldLinks rule parent first links,
        ∀ (position : Nat) (link : Link) (child : NodeId),
        node.schema.links[position]? = some link → node.children[position]? = some child →
        ∃ inner ∈ unfoldLinks rule parent first links,
          inner.bare = .ofLink rule node.bare child link := by
  apply unfold.mutual_induct rule
  case case1 =>
    intro own below node member position link child isLink isChild
    rw [unfold] at member ⊢
    rcases List.mem_cons.mp member with rfl | deeper
    · obtain ⟨inner, inside, isInner⟩ := exists_ofLink rule own.bare isLink isChild
      exact ⟨inner, List.mem_cons_of_mem _ inside, isInner⟩
    · obtain ⟨inner, inside, isInner⟩ := below node deeper position link child isLink isChild
      exact ⟨inner, List.mem_cons_of_mem _ inside, isInner⟩
  case case2 =>
    intro parent first node member
    rw [unfoldLinks_nil] at member
    cases member
  case case3 =>
    intro parent first link links head tail node member
    rw [unfoldLinks_cons] at member ⊢
    intro position inside child isLink isChild
    rcases List.mem_append.mp member with inHead | inTail
    · obtain ⟨inner, found, isInner⟩ := head node inHead position inside child isLink isChild
      exact ⟨inner, List.mem_append_left _ found, isInner⟩
    · obtain ⟨inner, found, isInner⟩ := tail node inTail position inside child isLink isChild
      exact ⟨inner, List.mem_append_right _ found, isInner⟩

/-! ### Building -/

private theorem exists_ofNodes {nodes : Array (Node C)} (nonempty : 0 < nodes.size)
    (complete : gap? nodes = none) :
    ∃ outline, ofNodes nodes = .ok outline ∧ outline.nodes = nodes ∧ outline.index = none := by
  unfold ofNodes
  rw [dif_pos nonempty]
  split
  · next gap =>
    rw [complete] at gap
    cases gap
  · exact ⟨_, rfl, rfl, rfl⟩

theorem exists_build (rule : ContextRule C) (schema : Schema) :
    ∃ outline, build rule schema = .ok outline ∧
      outline.nodes = (unfold rule (.ofRoot rule schema)).toArray ∧ outline.index = none := by
  have nonempty : 0 < (unfold rule (.ofRoot rule schema)).toArray.size := by
    rw [List.size_toArray, length_unfold, Schema.extent_eq]
    omega
  rw [build, run_root]
  exact exists_ofNodes nonempty (gap?_unfold rule schema)

theorem exists_child {rule : ContextRule C} {schema : Schema} {node : Node C}
    (member : node ∈ unfold rule (.ofRoot rule schema)) {position : Nat} {link : Link}
    (isLink : node.schema.links[position]? = some link) :
    ∃ (child : NodeId) (inner : Node C), node.children[position]? = some child ∧
      (unfold rule (.ofRoot rule schema))[child]? = some inner ∧
      inner.bare = .ofLink rule node.bare child link := by
  have children := ((starts_both rule).1 _ node member).1
  have inside : position < node.children.length := by
    rw [children, Link.length_starts]
    exact (List.getElem?_eq_some_iff.mp isLink).1
  have isChild := List.getElem?_eq_getElem inside
  obtain ⟨inner, found, isInner⟩ :=
    (links_both rule).1 _ node member position link _ isLink isChild
  obtain ⟨place, here⟩ := List.mem_iff_getElem?.mp found
  have number : inner.id = node.children[position] := Node.id_of_link isInner
  have samePlace : place = node.children[position] := (getElem?_unfold here).symm.trans number
  exact ⟨_, inner, isChild, samePlace ▸ here, isInner⟩

end Outline

end SchemaOutline
