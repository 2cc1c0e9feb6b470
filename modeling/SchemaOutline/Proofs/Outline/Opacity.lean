import SchemaOutline.Outline.Prompt
import SchemaOutline.Outline.Query
import SchemaOutline.Proofs.Outline.Folding
import SchemaOutline.Proofs.Schema.Suspensions

/-! Outlines, queries, folds and prompts do not show what suspensions stand for. -/

set_option autoImplicit false
set_option relaxedAutoImplicit false

namespace SchemaOutline

open List (Forall₂)

variable {C : Type} {table : List (String × Json)}

def Node.referring (table : List (String × Json)) (node : Node C) : Node C :=
  { node with schema := node.schema.referring table }

/-- A rule for contexts that makes no difference between what suspensions stand for. -/
def BlindTo (table : List (String × Json)) (rule : ContextRule C) : Prop :=
  ∀ schema annotations path parent,
    rule (schema.referring table) annotations path (parent.map (Node.referring table)) =
      rule schema annotations path parent

theorem StandardContext.blindTo_rule (table : List (String × Json)) :
    BlindTo table StandardContext.rule := by
  intro schema annotations path parent
  simp only [StandardContext.rule, Schema.kind_referring, Option.bind_map]
  rfl

namespace Node

@[simp] theorem id_referring (node : Node C) : (node.referring table).id = node.id := rfl

@[simp] theorem path_referring (node : Node C) : (node.referring table).path = node.path := rfl

@[simp] theorem annotations_referring (node : Node C) :
    (node.referring table).annotations = node.annotations := rfl

@[simp] theorem context_referring (node : Node C) :
    (node.referring table).context = node.context := rfl

@[simp] theorem children_referring (node : Node C) :
    (node.referring table).children = node.children := rfl

@[simp] theorem kind_referring (node : Node C) : (node.referring table).kind = node.kind :=
  node.schema.kind_referring

theorem semanticType_referring [NodeContext C] (node : Node C) :
    (node.referring table).semanticType = node.semanticType := by
  simp only [semanticType, annotations_referring, context_referring, kind_referring]

theorem ofLink_referring {rule : ContextRule C} (blind : BlindTo table rule) (parent : Node C)
    (id : NodeId) (link : Link) :
    ofLink rule (parent.referring table) id (link.referring table) =
      (ofLink rule parent id link).referring table := by
  have context := blind link.target (link.target.annotations.merged link.annotations)
    (parent.path.step link.segment) (some parent)
  simp only [ofLink, Link.referring, Schema.annotations_referring, path_referring, id_referring]
  exact congrArg (fun context => Node.mk id _ _ _ _ context []) context

theorem ofRoot_referring {rule : ContextRule C} (blind : BlindTo table rule) (schema : Schema) :
    ofRoot rule (schema.referring table) = (ofRoot rule schema).referring table := by
  have context := blind schema schema.annotations .root none
  simp only [ofRoot, Schema.annotations_referring]
  exact congrArg (fun context => Node.mk 0 _ _ _ _ context []) context

end Node

namespace Outline

private theorem referring_both {rule : ContextRule C} (blind : BlindTo table rule) :
    (∀ own : Node C, unfold rule (own.referring table) =
        (unfold rule own).map (Node.referring table)) ∧
      ∀ (parent : Node C) (first : NodeId) (links : List Link),
        unfoldLinks rule (parent.referring table) first (links.map (Link.referring table)) =
          (unfoldLinks rule parent first links).map (Node.referring table) := by
  apply unfold.mutual_induct rule
  case case1 =>
    intro own below
    have links : (own.referring table).schema.links =
        own.schema.links.map (Link.referring table) := own.schema.links_referring
    rw [unfold, unfold, List.map_cons, ← below, links, Schema.starts_referring]
    rfl
  case case2 =>
    intro parent first
    rw [List.map_nil, unfoldLinks_nil, unfoldLinks_nil, List.map_nil]
  case case3 =>
    intro parent first link links head tail
    have extent : (link.referring table).target.extent = link.target.extent :=
      link.target.extent_referring
    rw [List.map_cons, unfoldLinks_cons, unfoldLinks_cons, Node.ofLink_referring blind, head,
      List.map_append, ← tail, extent]

theorem unfold_referring {rule : ContextRule C} (blind : BlindTo table rule) (schema : Schema) :
    unfold rule (.ofRoot rule (schema.referring table)) =
      (unfold rule (.ofRoot rule schema)).map (Node.referring table) := by
  rw [Node.ofRoot_referring blind]
  exact (referring_both blind).1 _

def referring (table : List (String × Json)) (outline : Outline C) : Outline C where
  nodes := outline.nodes.map (Node.referring table)
  nonempty := by simpa using outline.nonempty
  ascending id inside := by simpa using outline.ascending id (by simpa using inside)
  closed id inside := by simpa using outline.closed id (by simpa using inside)
  index := outline.index

/-! ### Walks and look-ups -/

section

variable (outline : Outline C)

theorem node?_referring (id : NodeId) :
    (outline.referring table).node? id = (outline.node? id).map (Node.referring table) :=
  Array.getElem?_map

theorem node?_referring_of_some {id : NodeId} {node : Node C}
    (found : outline.node? id = some node) :
    (outline.referring table).node? id = some (node.referring table) := by
  rw [node?_referring, found]
  rfl

theorem root_referring : (outline.referring table).root = outline.root.referring table :=
  Array.getElem_map ..

theorem next?_referring (pending : List NodeId) : (outline.referring table).next? pending =
    (outline.next? pending).map fun next => (next.1.referring table, next.2) := by
  fun_induction outline.next? pending with
  | case1 => rfl
  | case2 id pending node found =>
    rw [next?, node?_referring, found]
    rfl
  | case3 id pending absent ih =>
    rw [next?, node?_referring, absent]
    exact ih

theorem walkOn_referring (visited : Array (Node C)) (pending : List NodeId) :
    (outline.referring table).walkOn (visited.map (Node.referring table)) pending =
      (outline.walkOn visited pending).map (Node.referring table) := by
  fun_induction outline.walkOn visited pending with
  | case1 visited pending ended =>
    have stops : (outline.referring table).next? pending = none := by
      rw [next?_referring, ended]
      rfl
    rw [walkOn]
    split
    · rfl
    · next found => cases stops.symm.trans found
  | case2 visited pending next found ih =>
    have goes : (outline.referring table).next? pending =
        some (next.1.referring table, next.2) := by
      rw [next?_referring, found]
      rfl
    rw [walkOn]
    split
    · next ended => cases ended.symm.trans goes
    · next other same =>
      obtain rfl := Option.some.inj (same.symm.trans goes)
      rw [← ih, Array.map_push]

theorem walkFrom_referring (start : NodeId) :
    (outline.referring table).walkFrom start =
      (outline.walkFrom start).map (Node.referring table) := by
  have walked : (outline.referring table).walkOn #[] [start] =
      (outline.walkOn #[] [start]).map (Node.referring table) := by
    rw [← walkOn_referring, Array.map_empty]
  rw [walkFrom, walkFrom, ← Array.toList_map, ← walked]

theorem walk_referring :
    (outline.referring table).walk = outline.walk.map (Node.referring table) :=
  outline.walkFrom_referring outline.rootId

theorem filter_walk_referring {test : Node C → Bool}
    (blind : ∀ node, test (node.referring table) = test node) :
    (outline.referring table).walk.filter test =
      (outline.walk.filter test).map (Node.referring table) := by
  rw [walk_referring, List.filter_map]
  exact congrArg _ (List.filter_congr fun node _ => blind node)

theorem childrenOf_referring (node : Node C) :
    (outline.referring table).childrenOf (node.referring table) =
      (outline.childrenOf node).map (Node.referring table) := by
  simp only [childrenOf, Node.children_referring, List.map_filterMap]
  exact List.filterMap_congr fun id _ => outline.node?_referring id

theorem nodeAtPath?_referring (text : String) : (outline.referring table).nodeAtPath? text =
    (outline.nodeAtPath? text).map (Node.referring table) := by
  cases isIndex : outline.index with
  | none =>
    have noIndex : (outline.referring table).index = none := isIndex
    rw [nodeAtPath?, nodeAtPath?, isIndex, noIndex]
    dsimp only
    rw [walk_referring, List.find?_map]
    rfl
  | some index =>
    have same : (outline.referring table).index = some index := isIndex
    rw [nodeAtPath?, nodeAtPath?, isIndex, same]
    dsimp only
    rw [Option.map_bind]
    exact Option.bind_congr fun id _ => outline.node?_referring id

end

section

variable [NodeContext C] (outline : Outline C)

theorem indexed_referring :
    (outline.referring table).indexed = outline.indexed.referring table := by
  have located : (outline.referring table).nodes.toList =
      outline.nodes.toList.map (Node.referring table) := Array.toList_map
  have index : OutlineIndex.ofNodes (outline.referring table).nodes.toList =
      OutlineIndex.ofNodes outline.nodes.toList := by
    rw [located]
    simp only [OutlineIndex.ofNodes, List.map_map]
    rfl
  rw [indexed, index]
  rfl

theorem nodeByKey?_referring (key : String) : (outline.referring table).nodeByKey? key =
    (outline.nodeByKey? key).map (Node.referring table) := by
  cases isIndex : outline.index with
  | none =>
    have noIndex : (outline.referring table).index = none := isIndex
    rw [nodeByKey?, nodeByKey?, isIndex, noIndex]
    dsimp only
    rw [walk_referring, List.find?_map]
    rfl
  | some index =>
    have same : (outline.referring table).index = some index := isIndex
    rw [nodeByKey?, nodeByKey?, isIndex, same]
    dsimp only
    rw [Option.map_bind]
    exact Option.bind_congr fun id _ => outline.node?_referring id

theorem entity?_referring (entity : String) : (outline.referring table).entity? entity =
    (outline.entity? entity).map (Node.referring table) := by
  rw [entity?, nodeByKey?_referring, Option.filter_map]
  rfl

private theorem numberedBlocks_referring (start : Nat) (children : List (Node C)) :
    numberedBlocks start (children.map (Node.referring table)) =
      numberedBlocks start children := by
  rw [numberedBlocks, List.zipIdx_map, List.map_map]
  rfl

theorem promptFor_referring (node : Node C) :
    (outline.referring table).promptFor (node.referring table) = outline.promptFor node := by
  have blocks : numberedBlocks 1 ((outline.referring table).childrenOf (node.referring table)) =
      numberedBlocks 1 (outline.childrenOf node) := by
    rw [childrenOf_referring, numberedBlocks_referring]
  rw [promptFor, blocks]
  rfl

theorem prompt_referring (path : Option String) :
    (outline.referring table).prompt path = outline.prompt path := by
  have shown : (path.bind (outline.referring table).nodeAtPath?).getD
      (outline.referring table).root =
        ((path.bind outline.nodeAtPath?).getD outline.root).referring table := by
    rw [root_referring, ← Option.getD_map (Node.referring table), Option.map_bind]
    exact congrArg (Option.getD · _) (Option.bind_congr fun text _ =>
      outline.nodeAtPath?_referring text)
  rw [prompt, shown, promptFor_referring]
  rfl

end

/-! ### Folds -/

section

variable {γ : Type} {m : Type → Type} [Monad m] (outline : Outline C)
  (algebra : Node C → List γ → m γ)

theorem run_referring (tasks : List Folding.Task) (results : Folding.Results γ) :
    Folding.run (outline.referring table) algebra tasks results =
      Folding.run outline (fun node => algebra (node.referring table)) tasks results := by
  fun_induction Folding.run outline (fun node => algebra (node.referring table)) tasks results with
  | case1 results => rw [Folding.run]
  | case2 results id rest absent =>
    have unknown : (outline.referring table).node? id = none := by
      rw [node?_referring, absent]
      rfl
    rw [Folding.run]
    split
    · rfl
    · next found => cases unknown.symm.trans found
  | case3 results id rest node found ih =>
    rw [Folding.run_visit_of_found (outline.node?_referring_of_some found)]
    exact ih
  | case4 results id rest absent =>
    rw [Folding.run, node?_referring, absent]
    rfl
  | case5 results id rest node found cause collected =>
    rw [Folding.run, outline.node?_referring_of_some found]
    dsimp only [Node.children_referring]
    rw [collected]
  | case6 results id rest node found values left collected ih =>
    rw [Folding.run_combine_of_collect (outline.node?_referring_of_some found) collected]
    exact bind_congr ih

theorem foldFromM_referring (start : NodeId) :
    (outline.referring table).foldFromM start algebra =
      outline.foldFromM start fun node => algebra (node.referring table) := by
  rw [foldFromM, foldFromM, run_referring]

end

theorem count_referring (outline : Outline C) : (outline.referring table).count = outline.count :=
  congrArg Id.run (outline.foldFromM_referring _ _)

theorem depth_referring (outline : Outline C) : (outline.referring table).depth = outline.depth :=
  congrArg Id.run (outline.foldFromM_referring _ _)

end Outline

/-! ### Outlines that agree -/

/-- Two nodes show the same, and their schemas differ at most in what suspensions stand for. -/
structure Node.Agrees (node other : Node C) : Prop where
  id : other.id = node.id
  parent : other.parent = node.parent
  children : other.children = node.children
  path : other.path = node.path
  kind : other.kind = node.kind
  annotations : other.annotations = node.annotations
  context : other.context = node.context
  schema : other.schema.referring [] = node.schema.referring []

theorem Node.agrees_of_referring_eq {node other : Node C}
    (same : other.referring [] = node.referring []) : node.Agrees other where
  id := (congrArg Node.id same :)
  parent := (congrArg Node.parent same :)
  children := (congrArg Node.children same :)
  path := (congrArg Node.path same :)
  kind := by rw [← other.kind_referring, same, node.kind_referring]
  annotations := (congrArg Node.annotations same :)
  context := (congrArg Node.context same :)
  schema := (congrArg Node.schema same :)

namespace Outline

/-- Two outlines have nodes that agree, and all questions about them have answers that agree. -/
structure Agrees [NodeContext C] (outline other : Outline C) : Prop where
  size : other.size = outline.size
  root : outline.root.Agrees other.root
  node? : ∀ id, Option.Rel Node.Agrees (outline.node? id) (other.node? id)
  walkFrom : ∀ start, Forall₂ Node.Agrees (outline.walkFrom start) (other.walkFrom start)
  leaves : Forall₂ Node.Agrees outline.leaves other.leaves
  ofSemanticType : ∀ label,
    Forall₂ Node.Agrees (outline.ofSemanticType label) (other.ofSemanticType label)
  entities : Forall₂ Node.Agrees outline.entities other.entities
  entityFields : Forall₂ Node.Agrees outline.entityFields other.entityFields
  nodeAtPath? : ∀ text, Option.Rel Node.Agrees (outline.nodeAtPath? text) (other.nodeAtPath? text)
  nodeAt? : ∀ path, Option.Rel Node.Agrees (outline.nodeAt? path) (other.nodeAt? path)
  nodeByKey? : ∀ key, Option.Rel Node.Agrees (outline.nodeByKey? key) (other.nodeByKey? key)
  entity? : ∀ entity, Option.Rel Node.Agrees (outline.entity? entity) (other.entity? entity)
  contextAt? : ∀ texts, other.contextAt? texts = outline.contextAt? texts
  prompt : ∀ path, other.prompt path = outline.prompt path
  foldFromM : ∀ {γ : Type} {m : Type → Type} [Monad m] (algebra : Kind → List γ → m γ)
    (start : NodeId), (other.foldFromM start fun node => algebra node.kind) =
      outline.foldFromM start fun node => algebra node.kind
  count : other.count = outline.count
  depth : other.depth = outline.depth

private theorem forall₂_agrees {nodes others : List (Node C)}
    (same : others.map (Node.referring []) = nodes.map (Node.referring [])) :
    Forall₂ Node.Agrees nodes others := by
  have related := List.forall₂_eq_eq_eq.symm ▸ same.symm
  rw [List.forall₂_map_left_iff, List.forall₂_map_right_iff] at related
  exact related.imp fun _ _ same => Node.agrees_of_referring_eq same.symm

private theorem rel_agrees {found other : Option (Node C)}
    (same : other.map (Node.referring []) = found.map (Node.referring [])) :
    Option.Rel Node.Agrees found other := by
  cases found <;> cases other
  · exact .none
  · cases same
  · cases same
  · exact .some (Node.agrees_of_referring_eq (Option.some.inj same))

private theorem filtered {outline other : Outline C}
    (same : other.referring [] = outline.referring []) {test : Node C → Bool}
    (blind : ∀ node : Node C, test (node.referring []) = test node) :
    Forall₂ Node.Agrees (outline.walk.filter test) (other.walk.filter test) := by
  apply forall₂_agrees
  rw [← filter_walk_referring _ blind, same, filter_walk_referring _ blind]

private theorem found {outline other : Outline C}
    (same : other.referring [] = outline.referring []) (text : String) :
    (other.nodeAtPath? text).map (Node.referring []) =
      (outline.nodeAtPath? text).map (Node.referring []) := by
  rw [← nodeAtPath?_referring, same, nodeAtPath?_referring]

theorem agrees_of_referring_eq [NodeContext C] {outline other : Outline C}
    (same : other.referring [] = outline.referring []) : outline.Agrees other where
  size := by
    have sizes := congrArg size same
    simpa [size, referring] using sizes
  root := by
    apply Node.agrees_of_referring_eq
    rw [← root_referring, same, root_referring]
  node? id := by
    apply rel_agrees
    rw [← node?_referring, same, node?_referring]
  walkFrom start := by
    apply forall₂_agrees
    rw [← walkFrom_referring, same, walkFrom_referring]
  leaves := filtered same fun node => rfl
  ofSemanticType label := filtered same fun node => by rw [Node.semanticType_referring]
  entities := filtered same fun node => rfl
  entityFields := filtered same fun node => rfl
  nodeAtPath? text := rel_agrees (found same text)
  nodeAt? path := rel_agrees (found same path.text)
  nodeByKey? key := by
    apply rel_agrees
    rw [← nodeByKey?_referring, same, nodeByKey?_referring]
  entity? entity := by
    apply rel_agrees
    rw [← entity?_referring, same, entity?_referring]
  contextAt? texts := by
    have contexts := congrArg (Option.map Node.context) (found same (Path.format texts))
    rw [Option.map_map, Option.map_map] at contexts
    exact contexts
  prompt path := by
    rw [← other.prompt_referring, same, outline.prompt_referring]
  foldFromM algebra start := by
    have folds := congrArg
      (fun outline => outline.foldFromM start fun node => algebra node.kind) same
    simpa only [foldFromM_referring, Node.kind_referring] using folds
  count := by rw [← other.count_referring, same, outline.count_referring]
  depth := by rw [← other.depth_referring, same, outline.depth_referring]

private theorem eq_of_nodes {outline other : Outline C} (nodes : outline.nodes = other.nodes)
    (index : outline.index = other.index) : outline = other := by
  cases outline
  cases other
  cases nodes
  cases index
  rfl

theorem exists_build_referring_eq {rule : ContextRule C} (blind : BlindTo table rule)
    {schema other : Schema} (same : other.referring table = schema.referring table) :
    ∃ outline others, build rule schema = .ok outline ∧ build rule other = .ok others ∧
      others.referring table = outline.referring table := by
  obtain ⟨outline, built, nodes, unindexed⟩ := exists_build rule schema
  obtain ⟨others, builtOthers, otherNodes, otherUnindexed⟩ := exists_build rule other
  refine ⟨outline, others, built, builtOthers, eq_of_nodes ?_ (otherUnindexed.trans unindexed.symm)⟩
  show others.nodes.map _ = outline.nodes.map _
  rw [otherNodes, nodes, List.map_toArray, List.map_toArray, ← unfold_referring blind,
    ← unfold_referring blind, same]

end Outline

namespace Schema

/-- Two schemas are the same but for what their suspensions stand for. -/
def AlikeButSuspended (schema other : Schema) : Prop := other.referring [] = schema.referring []

structure Agrees (schema other : Schema) : Prop where
  outlines : ∃ outline others, Outline.build StandardContext.rule schema = .ok outline ∧
    Outline.build StandardContext.rule other = .ok others ∧
    outline.Agrees others ∧ outline.indexed.Agrees others.indexed
  signatures : other.signatures = schema.signatures
  signatureSet : other.signatureSet = schema.signatureSet
  fingerprint : other.fingerprint = schema.fingerprint
  entity? : other.entity? = schema.entity?
  isEntity : other.isEntity = schema.isEntity

theorem AlikeButSuspended.agrees {schema other : Schema} (alike : schema.AlikeButSuspended other) :
    schema.Agrees other := by
  have signatures : other.signatures = schema.signatures := by
    rw [← other.signatures_referring, alike, schema.signatures_referring]
  have set : other.signatureSet = schema.signatureSet := congrArg SignatureSet.ofList signatures
  have annotations : other.annotations = schema.annotations := by
    rw [← other.annotations_referring, alike, schema.annotations_referring]
  have entity : other.entity? = schema.entity? := by rw [entity?, entity?, annotations]
  refine ⟨?outlines, signatures, set, congrArg Fingerprint.ofSet set, entity, ?isEntity⟩
  case outlines =>
    obtain ⟨outline, others, built, builtOthers, same⟩ :=
      Outline.exists_build_referring_eq (StandardContext.blindTo_rule []) alike
    refine ⟨outline, others, built, builtOthers, Outline.agrees_of_referring_eq same,
      Outline.agrees_of_referring_eq ?_⟩
    rw [← Outline.indexed_referring, same, Outline.indexed_referring]
  case isEntity =>
    have isStruct : other.isStruct = schema.isStruct := by
      rw [← other.isStruct_referring, alike, schema.isStruct_referring]
    rw [isEntity, isEntity, isStruct, entity]

/-- Nothing but resolving a suspension depends on what it stands for: schemas that are the same
otherwise have outlines in which all nodes, look-ups, folds and prompts agree, and the same
signatures, also once they are stamped. Stamping leaves what their suspensions stand for. -/
theorem suspensions_are_opaque {schema other : Schema} (alike : schema.AlikeButSuspended other) :
    schema.Agrees other ∧ ∀ entity, (schema.stamp entity).Agrees (other.stamp entity) ∧
      (schema.stamp entity).suspensions = schema.suspensions ∧
      (other.stamp entity).suspensions = other.suspensions := by
  refine ⟨alike.agrees, fun entity => ⟨AlikeButSuspended.agrees ?_,
    schema.suspensions_stamp entity, other.suspensions_stamp entity⟩⟩
  rw [AlikeButSuspended, ← stamp_referring, alike, stamp_referring]

namespace Chain

def description : Json :=
  .obj [("_tag", .str "Struct"), ("fields", .arr [.obj [("name", .str "next"),
    ("type", .obj [("_tag", .str "Suspend"), ("ref", .str "Link")])]])]

def link (label : Option String) (resolution : Resolution) : Schema :=
  .ofShape (.struct [⟨.name "next", .ofShape (.suspend ⟨label, resolution⟩), false, false,
    .empty⟩] [])

def circle : Resolution := .definition [("Link", description)] "Link"

def endless : Schema := link (some "Link") circle

/-- An endless chain again, where a routine finds the next link and no link has a name. -/
def nameless : Schema := link none (.routine ⟨0⟩)

def missing (label : Option String) : Schema := link label (.routine ⟨1⟩)

def find? (routine : Routine) : Option Schema :=
  if routine = ⟨0⟩ then some nameless else none

private theorem referring_link (label : Option String) (resolution : Resolution) :
    (link label resolution).referring [] = link label (.definition [] (label.getD "")) := by
  have next : (ofShape (.suspend ⟨label, resolution⟩)).referring [] =
      ofShape (.suspend ⟨label, .definition [] (label.getD "")⟩) := referring_suspend _ _
  unfold link
  rw [← next]
  exact referring_struct _ _ _

private theorem alike_link (label : Option String) (resolution other : Resolution) :
    (link label resolution).AlikeButSuspended (link label other) :=
  (referring_link label other).trans (referring_link label resolution).symm

private theorem resolve?_circle :
    Suspension.resolve? find? ⟨some "Link", circle⟩ = some endless := by cbv

/-- Chains without end and such whose second link is missing have outlines that agree. -/
theorem endless_like_missing :
    (Suspension.resolve? find? ⟨some "Link", circle⟩ = some endless ∧
      (missing (some "Link")).AlikeButSuspended endless ∧
      (missing (some "Link")).Agrees endless ∧
      ∀ entity, ((missing (some "Link")).stamp entity).Agrees (endless.stamp entity) ∧
        ((missing (some "Link")).stamp entity).suspensions = (missing (some "Link")).suspensions ∧
        (endless.stamp entity).suspensions = endless.suspensions) ∧
    Suspension.resolve? find? ⟨none, .routine ⟨0⟩⟩ = some nameless ∧
    Suspension.resolve? find? ⟨none, .routine ⟨1⟩⟩ = none ∧
    (missing none).AlikeButSuspended nameless ∧
    (missing none).Agrees nameless ∧
    ∀ entity, ((missing none).stamp entity).Agrees (nameless.stamp entity) ∧
      ((missing none).stamp entity).suspensions = (missing none).suspensions ∧
      (nameless.stamp entity).suspensions = nameless.suspensions := by
  have labelled := alike_link (some "Link") (.routine ⟨1⟩) circle
  have unlabelled := alike_link none (.routine ⟨1⟩) (.routine ⟨0⟩)
  exact ⟨⟨resolve?_circle, labelled, suspensions_are_opaque labelled⟩, rfl, rfl, unlabelled,
    suspensions_are_opaque unlabelled⟩

end Chain

end Schema

end SchemaOutline
