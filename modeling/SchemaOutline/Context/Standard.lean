import SchemaOutline.Context.Basic
import SchemaOutline.Outline.Node

/-! The standard context: well-known annotations of a node, and the nearest entity above it. -/

set_option autoImplicit false

namespace SchemaOutline

namespace StandardContext

structure Naming where
  title : Option String
  description : Option String
  identifier : Option String
deriving DecidableEq, Repr, Inhabited

structure Provenance where
  source : Option String
  comment : Option String
deriving DecidableEq, Repr, Inhabited

/-- The well-known annotations in groups; a group without members is absent. -/
structure Groups where
  core : Option Naming
  role : Option String
  semantic : Option String
  provenance : Option Provenance
deriving DecidableEq, Repr, Inhabited

end StandardContext

/-- The well-known annotations of a node with the entity that it is below. -/
structure StandardContext where
  entity : Option String
  entityField : Option String
  parentEntity : Option String
  identifier : Option String
  title : Option String
  description : Option String
  semanticType : String
  groups : StandardContext.Groups
deriving DecidableEq, Repr, Inhabited

namespace StandardContext

def Naming.of? (annotations : Annotations) : Option Naming :=
  let naming := ⟨annotations.title?, annotations.description?, annotations.identifier?⟩
  if naming.title.isSome || naming.description.isSome || naming.identifier.isSome then some naming
  else none

def Provenance.of? (annotations : Annotations) : Option Provenance :=
  let provenance := ⟨annotations.source?, annotations.comment?⟩
  if provenance.source.isSome || provenance.comment.isSome then some provenance else none

/-- The entity that a child of a node with this context is below. -/
def nearestEntity (context : StandardContext) : Option String :=
  context.entity.or context.parentEntity

def rule : ContextRule StandardContext := fun schema annotations _ parent =>
  { entity := annotations.entityType?
    entityField := annotations.entityField?
    parentEntity := parent.bind fun node => node.context.nearestEntity
    identifier := annotations.identifier?
    title := annotations.title?
    description := annotations.description?
    semanticType := annotations.semanticType?.getD schema.kind.label
    groups :=
      { core := Naming.of? annotations
        role := annotations.role?
        semantic := annotations.semanticType?
        provenance := Provenance.of? annotations } }

instance : NodeContext StandardContext where
  entity? context := context.entity
  entityField? context := context.entityField
  parentEntity? context := context.parentEntity
  identifier? context := context.identifier
  title? context := context.title
  description? context := context.description
  semanticType? context := some context.semanticType
  role? context := context.groups.role
  source? context := context.groups.provenance.bind Provenance.source
  comment? context := context.groups.provenance.bind Provenance.comment

end StandardContext

end SchemaOutline
