import SchemaOutline.Description.Content
import SchemaOutline.Proofs.Schema.Refilling

/-! Traversing a shape gives what refilling it with the results of its parts gives. -/

set_option autoImplicit false
set_option relaxedAutoImplicit false

namespace SchemaOutline

variable {α β ε : Type}

namespace Shape

private theorem parameter_mem {signatures : List (IndexSignature α)} {signature : IndexSignature α}
    (member : signature ∈ signatures) :
    signature.parameter ∈ signatures.flatMap IndexSignature.parts :=
  List.mem_flatMap_of_mem member (by simp [IndexSignature.parts])

private theorem type_mem {signatures : List (IndexSignature α)} {signature : IndexSignature α}
    (member : signature ∈ signatures) :
    signature.type ∈ signatures.flatMap IndexSignature.parts :=
  List.mem_flatMap_of_mem member (by simp [IndexSignature.parts])

/-- The same shape with everything in the places of schemas worked out in its own place, from left
to right. -/
def traverse (shape : Shape α) (solve : (part : α) → part ∈ shape.parts → Except ε β) :
    Except ε (Shape β) :=
  match shape, solve with
  | struct fields signatures, solve => do
    let typed ← fields.attach.mapM fun field => do
      let type ← solve field.1.type
        (List.mem_append_left _ (List.mem_map_of_mem field.2))
      return field.1.withType type
    let ruled ← signatures.attach.mapM fun signature => do
      let parameter ← solve signature.1.parameter
        (List.mem_append_right _ (parameter_mem signature.2))
      let type ← solve signature.1.type
        (List.mem_append_right _ (type_mem signature.2))
      return ⟨parameter, type⟩
    return struct typed ruled
  | union members, solve => do
    let members ← members.attach.mapM fun member => solve member.1 member.2
    return union members
  | tuple elements rest, solve => do
    let first ← elements.attach.mapM fun element => do
      let type ← solve element.1.type
        (List.mem_append_left _ (List.mem_map_of_mem element.2))
      return element.1.withType type
    let others ← rest.attach.mapM fun element => do
      let type ← solve element.1.type
        (List.mem_append_right _ (List.mem_map_of_mem element.2))
      return element.1.withType type
    return tuple first others
  | refinement name base, solve => do
    let base ← solve base (by simp [parts])
    return refinement name base
  | transformation source target, solve => do
    let source ← solve source (by simp [parts])
    let target ← solve target (by simp [parts])
    return transformation source target
  | declaration name parameters, solve => do
    let parameters ← parameters.attach.mapM fun parameter => solve parameter.1 parameter.2
    return declaration name parameters
  | suspend suspension, _ => return suspend suspension
  | .leaf content, _ => return .leaf content

theorem mapM_attach (items : List α) (solve : α → Except ε β) :
    (items.attach.mapM fun item => solve item.1) = items.mapM solve := by
  simp

private theorem mapM_put {γ δ : Type} (view : γ → α) (put : γ → β → δ) (items : List γ)
    (solve : α → Except ε β) :
    (items.mapM fun item => do
      let result ← solve (view item)
      return put item result) = List.zipWith put items <$> (items.map view).mapM solve := by
  induction items with
  | nil => rfl
  | cons item items ih =>
    rw [List.mapM_cons, ih, List.map_cons, List.mapM_cons]
    cases solve (view item) with
    | error cause => rfl
    | ok result =>
      cases (items.map view).mapM solve with
      | error cause => rfl
      | ok results => rfl

private theorem mapM_signature (signatures : List (IndexSignature α)) (solve : α → Except ε β) :
    (signatures.mapM fun signature => do
      let parameter ← solve signature.parameter
      let type ← solve signature.type
      return (⟨parameter, type⟩ : IndexSignature β)) =
      IndexSignature.ofParts <$> (signatures.flatMap IndexSignature.parts).mapM solve := by
  induction signatures with
  | nil => rfl
  | cons signature signatures ih =>
    rw [List.mapM_cons, ih, List.flatMap_cons, IndexSignature.parts, List.cons_append,
      List.cons_append, List.nil_append, List.mapM_cons, List.mapM_cons]
    cases solve signature.parameter with
    | error cause => rfl
    | ok parameter =>
      cases solve signature.type with
      | error cause => rfl
      | ok type =>
        cases (signatures.flatMap IndexSignature.parts).mapM solve with
        | error cause => rfl
        | ok types => rfl

theorem length_of_mapM {items : List α} {solve : α → Except ε β} {results : List β}
    (solved : items.mapM solve = .ok results) : results.length = items.length := by
  induction items generalizing results with
  | nil =>
    obtain rfl := Except.ok.inj solved
    rfl
  | cons item items ih =>
    rw [List.mapM_cons] at solved
    obtain ⟨first, _, solved⟩ := Description.bind_eq_ok.mp solved
    obtain ⟨others, areOthers, rfl⟩ := Description.bind_pure_eq_ok.mp solved
    rw [List.length_cons, List.length_cons, ih areOthers]

private theorem traverse_struct (fields : List (Field α)) (signatures : List (IndexSignature α))
    (solve : α → Except ε β) :
    (struct fields signatures).traverse (fun part _ => solve part) = do
      let types ← (fields.map Field.type).mapM solve
      let rules ← (signatures.flatMap IndexSignature.parts).mapM solve
      return struct (List.zipWith Field.withType fields types) (IndexSignature.ofParts rules) := by
  rw [traverse, mapM_attach fields fun field => do
      let type ← solve field.type
      return field.withType type, mapM_put Field.type Field.withType,
    mapM_attach signatures fun signature => do
      let parameter ← solve signature.parameter
      let type ← solve signature.type
      return (⟨parameter, type⟩ : IndexSignature β), mapM_signature]
  cases (fields.map Field.type).mapM solve with
  | error cause => rfl
  | ok types =>
    cases (signatures.flatMap IndexSignature.parts).mapM solve with
    | error cause => rfl
    | ok rules => rfl

private theorem traverse_tuple (elements rest : List (Element α)) (solve : α → Except ε β) :
    (tuple elements rest).traverse (fun part _ => solve part) = do
      let types ← (elements.map Element.type).mapM solve
      let others ← (rest.map Element.type).mapM solve
      return tuple (List.zipWith Element.withType elements types)
        (List.zipWith Element.withType rest others) := by
  have put (elements : List (Element α)) :=
    (mapM_attach elements fun element => do
      let type ← solve element.type
      return element.withType type).trans (mapM_put Element.type Element.withType elements solve)
  rw [traverse, put elements, put rest]
  cases (elements.map Element.type).mapM solve with
  | error cause => rfl
  | ok types =>
    cases (rest.map Element.type).mapM solve with
    | error cause => rfl
    | ok others => rfl

private theorem mapM_one (part : α) (solve : α → Except ε β) :
    [part].mapM solve = (fun result => [result]) <$> solve part := by
  rw [List.mapM_cons, List.mapM_nil]
  cases solve part with
  | error cause => rfl
  | ok result => rfl

theorem exists_of_mem_mapM {items : List α} {solve : α → Except ε β} {results : List β}
    {result : β} (solved : items.mapM solve = .ok results) (inside : result ∈ results) :
    ∃ item ∈ items, solve item = .ok result := by
  induction items generalizing results with
  | nil =>
    obtain rfl := Except.ok.inj solved
    cases inside
  | cons item items ih =>
    rw [List.mapM_cons] at solved
    obtain ⟨first, isFirst, solved⟩ := Description.bind_eq_ok.mp solved
    obtain ⟨others, areOthers, rfl⟩ := Description.bind_pure_eq_ok.mp solved
    rcases List.mem_cons.mp inside with rfl | later
    · exact ⟨item, List.mem_cons_self, isFirst⟩
    · obtain ⟨other, isItem, isLater⟩ := ih areOthers later
      exact ⟨other, List.mem_cons_of_mem item isItem, isLater⟩

/-- Working out the parts of a shape in their places is working them out one after the other and
refilling the shape. -/
theorem traverse_eq_ok {shape : Shape α} {solve : α → Except ε β} {results : List β}
    (solved : shape.parts.mapM solve = .ok results)
    (fits : results.length = shape.parts.length) :
    shape.traverse (fun part _ => solve part) = .ok (shape.refill results fits) := by
  cases shape with
  | struct fields signatures =>
    rw [parts, List.mapM_append] at solved
    obtain ⟨types, areTypes, solved⟩ := Description.bind_eq_ok.mp solved
    obtain ⟨rules, areRules, rfl⟩ := Description.bind_pure_eq_ok.mp solved
    have count : types.length = fields.length := by
      rw [length_of_mapM areTypes, List.length_map]
    rw [traverse_struct, areTypes, areRules, refill_struct count]
    rfl
  | tuple elements rest =>
    rw [parts, List.mapM_append] at solved
    obtain ⟨types, areTypes, solved⟩ := Description.bind_eq_ok.mp solved
    obtain ⟨others, areOthers, rfl⟩ := Description.bind_pure_eq_ok.mp solved
    have count : types.length = elements.length := by
      rw [length_of_mapM areTypes, List.length_map]
    rw [traverse_tuple, areTypes, areOthers, refill_tuple count]
    rfl
  | union members =>
    rw [traverse, mapM_attach members solve]
    rw [parts] at solved
    rw [solved]
    rfl
  | declaration name parameters =>
    rw [traverse, mapM_attach parameters solve]
    rw [parts] at solved
    rw [solved]
    rfl
  | refinement name base =>
    rw [parts, List.mapM_cons] at solved
    obtain ⟨base', isBase, solved⟩ := Description.bind_eq_ok.mp solved
    obtain rfl := Except.ok.inj solved
    rw [traverse, isBase]
    rfl
  | transformation source target =>
    rw [parts, List.mapM_cons] at solved
    obtain ⟨source', isSource, solved⟩ := Description.bind_eq_ok.mp solved
    obtain ⟨others, areOthers, solved⟩ := Description.bind_eq_ok.mp solved
    rw [List.mapM_cons] at areOthers
    obtain ⟨target', isTarget, areOthers⟩ := Description.bind_eq_ok.mp areOthers
    obtain rfl := Except.ok.inj areOthers
    obtain rfl := Except.ok.inj solved
    rw [traverse, isSource, isTarget]
    rfl
  | suspend suspension => rfl
  | leaf content => rfl

theorem traverse_eq_error {shape : Shape α} {solve : α → Except ε β} {cause : ε}
    (failed : shape.parts.mapM solve = .error cause) :
    shape.traverse (fun part _ => solve part) = .error cause := by
  cases shape with
  | struct fields signatures =>
    rw [parts, List.mapM_append] at failed
    rw [traverse_struct]
    cases typed : (fields.map Field.type).mapM solve with
    | error first =>
      rw [typed] at failed
      exact congrArg Except.error (Except.error.inj failed)
    | ok types =>
      cases ruled : (signatures.flatMap IndexSignature.parts).mapM solve with
      | error first =>
        rw [typed, ruled] at failed
        exact congrArg Except.error (Except.error.inj failed)
      | ok rules =>
        rw [typed, ruled] at failed
        cases failed
  | tuple elements rest =>
    rw [parts, List.mapM_append] at failed
    rw [traverse_tuple]
    cases typed : (elements.map Element.type).mapM solve with
    | error first =>
      rw [typed] at failed
      exact congrArg Except.error (Except.error.inj failed)
    | ok types =>
      cases others : (rest.map Element.type).mapM solve with
      | error first =>
        rw [typed, others] at failed
        exact congrArg Except.error (Except.error.inj failed)
      | ok rules =>
        rw [typed, others] at failed
        cases failed
  | union members =>
    rw [traverse, mapM_attach members solve]
    rw [parts] at failed
    rw [failed]
    rfl
  | declaration name parameters =>
    rw [traverse, mapM_attach parameters solve]
    rw [parts] at failed
    rw [failed]
    rfl
  | refinement name base =>
    rw [parts, mapM_one] at failed
    rw [traverse]
    cases isBase : solve base with
    | error first =>
      rw [isBase] at failed
      exact congrArg Except.error (Except.error.inj failed)
    | ok base' =>
      rw [isBase] at failed
      cases failed
  | transformation source target =>
    rw [parts, List.mapM_cons, mapM_one] at failed
    rw [traverse]
    cases isSource : solve source with
    | error first =>
      rw [isSource] at failed
      exact congrArg Except.error (Except.error.inj failed)
    | ok source' =>
      cases isTarget : solve target with
      | error first =>
        rw [isSource, isTarget] at failed
        exact congrArg Except.error (Except.error.inj failed)
      | ok target' =>
        rw [isSource, isTarget] at failed
        cases failed
  | suspend suspension => cases failed
  | leaf content => cases failed

end Shape

end SchemaOutline
