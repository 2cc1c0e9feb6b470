import SchemaOutline.Proofs.Entity.Spine
import SchemaOutline.Proofs.Outline.Kinship

/-! Inherited contexts tell the nearest entity among the ancestors of a node. -/

set_option autoImplicit false
set_option relaxedAutoImplicit false

namespace SchemaOutline.Outline

open List (Forall₂)

variable {C : Type}

/-- The nodes above a node, nearest first. -/
def ancestors (outline : Outline C) (id : Fin outline.nodes.size) :
    List (Fin outline.nodes.size) :=
  match (outline.get id).parent with
  | some above =>
    if earlier : above < id.1 then
      ⟨above, Nat.lt_trans earlier id.2⟩ :: ancestors outline ⟨above, Nat.lt_trans earlier id.2⟩
    else []
  | none => []
termination_by id.1

theorem ancestors_of_parent_none {outline : Outline C} {id : Fin outline.nodes.size}
    (none : (outline.get id).parent = none) : outline.ancestors id = [] := by
  rw [ancestors, none]

theorem ancestors_of_parent_some {outline : Outline C} {id above : Fin outline.nodes.size}
    (parent : (outline.get id).parent = some above.1) (earlier : above < id) :
    outline.ancestors id = above :: outline.ancestors above := by
  have before : above.1 < id.1 := earlier
  rw [ancestors, parent]
  simp only [before, dite_true]

namespace Unfolds

section

variable {rule : ContextRule C} {schema : Schema} {outline : Outline C}
  (unfolds : outline.Unfolds rule schema)

include unfolds

theorem ancestors_zero : outline.ancestors ⟨0, outline.nonempty⟩ = [] :=
  ancestors_of_parent_none unfolds.parent_get_zero

theorem ancestors_of_mem_childIds {id child : Fin outline.nodes.size}
    (inside : child ∈ outline.childIds id) :
    outline.ancestors child = id :: outline.ancestors id :=
  ancestors_of_parent_some (unfolds.parent_of_mem_childIds inside) (lt_of_mem_childIds inside)

end

section

variable {schema : Schema} {outline : Outline StandardContext}
  (unfolds : outline.Unfolds StandardContext.rule schema)

include unfolds

end

end Unfolds

end SchemaOutline.Outline
