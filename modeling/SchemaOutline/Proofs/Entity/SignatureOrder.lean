import SchemaOutline.Proofs.Entity.Signatures

/-! The order of signatures, by the places of the spine. -/

set_option autoImplicit false
set_option relaxedAutoImplicit false

namespace SchemaOutline

open Traversal

inductive Schema.OnSpine : Schema → Schema → Prop
  | refl (schema : Schema) : OnSpine schema schema
  | field {schema inner : Schema} {field : Field Schema} (inside : field ∈ schema.fields)
      (further : OnSpine field.type inner) : OnSpine schema inner

namespace Signature.Located

theorem weight_lt_of_mem_next {located inner : Located} (inside : inner ∈ located.next) :
    inner.weight < located.weight :=
  Nat.lt_of_le_of_lt (weight_le_totalWeight_of_mem inside) located.totalWeight_next_lt

private theorem mem_next_of_mem_zipIdx {located : Located} {entry : Located × Nat}
    (inside : entry ∈ located.next.zipIdx) : entry.1 ∈ located.next :=
  List.mem_of_getElem? (List.mem_zipIdx_iff_getElem?.mp inside)

def places (located : Located) : List (List Nat) :=
  [] :: located.next.zipIdx.attach.flatMap fun entry =>
    (places entry.1.1).map (entry.1.2 :: ·)
termination_by located.weight
decreasing_by exact weight_lt_of_mem_next (mem_next_of_mem_zipIdx entry.2)

end Signature.Located

namespace Schema

end Schema

end SchemaOutline
