import SchemaOutline.Schema.Shape

/-! Refilling a shape twice, and with its own parts. -/

set_option autoImplicit false
set_option relaxedAutoImplicit false

namespace SchemaOutline

variable {α β γ : Type}

namespace Shape

private theorem zipWith_append_of_length {δ : Type} (put : γ → α → δ) {items : List γ}
    {filling : List α} (fits : filling.length = items.length) (more : List α) :
    List.zipWith put items (filling ++ more) = List.zipWith put items filling := by
  induction items generalizing filling with
  | nil => simp
  | cons item items ih =>
    cases filling with
    | nil => cases fits
    | cons first filling => simp [ih (Nat.succ.inj fits)]

private theorem zipWith_zipWith {δ ε : Type} (put : γ → α → δ) (again : δ → β → ε)
    (only : γ → β → ε)
    (forgets : ∀ item first later, again (put item first) later = only item later)
    {items : List γ} {filling : List α} (fits : items.length ≤ filling.length)
    (others : List β) :
    List.zipWith again (List.zipWith put items filling) others =
      List.zipWith only items others := by
  induction items generalizing filling others with
  | nil => simp
  | cons item items ih =>
    cases filling with
    | nil => simp at fits
    | cons first filling =>
      cases others with
      | nil => simp
      | cons other others =>
        rw [List.length_cons, List.length_cons, Nat.add_le_add_iff_right] at fits
        simp [ih fits, forgets]

private theorem zipWith_map_self {put : γ → α → γ} {view : γ → α}
    (same : ∀ item, put item (view item) = item) (items : List γ) :
    List.zipWith put items (items.map view) = items := by
  induction items with
  | nil => rfl
  | cons item items ih => simp [ih, same]

private theorem ofParts_parts (signatures : List (IndexSignature α)) :
    IndexSignature.ofParts (signatures.flatMap IndexSignature.parts) = signatures := by
  induction signatures with
  | nil => rfl
  | cons signature signatures ih =>
    rw [List.flatMap_cons, IndexSignature.parts, List.cons_append, List.cons_append,
      List.nil_append, IndexSignature.ofParts, ih]

theorem refill_congr (shape : Shape α) {filling others : List β} (same : filling = others)
    (fits : filling.length = shape.parts.length) :
    shape.refill filling fits = shape.refill others (same ▸ fits) := by
  subst same
  rfl

theorem refill_struct {fields : List (Field α)} {signatures : List (IndexSignature α)}
    {types : List β} (count : types.length = fields.length) (rules : List β)
    (fits : (types ++ rules).length = (struct fields signatures).parts.length) :
    (struct fields signatures).refill (types ++ rules) fits =
      struct (List.zipWith Field.withType fields types) (IndexSignature.ofParts rules) := by
  simp only [refill]
  rw [zipWith_append_of_length _ count, List.drop_left' count]

theorem refill_tuple {elements rest : List (Element α)} {types : List β}
    (count : types.length = elements.length) (others : List β)
    (fits : (types ++ others).length = (tuple elements rest).parts.length) :
    (tuple elements rest).refill (types ++ others) fits =
      tuple (List.zipWith Element.withType elements types)
        (List.zipWith Element.withType rest others) := by
  simp only [refill]
  rw [zipWith_append_of_length _ count, List.drop_left' count]

theorem refill_parts (shape : Shape α) : shape.refill shape.parts rfl = shape := by
  cases shape with
  | struct fields signatures =>
    have types : List.zipWith Field.withType fields (fields.map Field.type) = fields :=
      zipWith_map_self (fun _ => rfl) fields
    simp only [parts]
    rw [refill_struct (List.length_map _), types, ofParts_parts]
  | tuple elements rest =>
    have types (elements : List (Element α)) :
        List.zipWith Element.withType elements (elements.map Element.type) = elements :=
      zipWith_map_self (fun _ => rfl) elements
    simp only [parts]
    rw [refill_tuple (List.length_map _), types, types]
  | _ => rfl

theorem refill_refill (shape : Shape α) (filling : List β) (later : List γ)
    (fits : filling.length = shape.parts.length)
    (fitsLater : later.length = (shape.refill filling fits).parts.length) :
    (shape.refill filling fits).refill later fitsLater =
      shape.refill later (by rw [fitsLater, parts_refill, fits]) := by
  have length : later.length = filling.length := by rw [fitsLater, parts_refill]
  match shape, filling, fits, later, length with
  | struct fields signatures, filling, fits, later, length =>
    have enough : fields.length ≤ filling.length := by
      rw [fits, parts, List.length_append, List.length_map]
      exact Nat.le_add_right _ _
    have types : List.zipWith Field.withType (List.zipWith Field.withType fields filling) later =
        List.zipWith Field.withType fields later := by
      apply zipWith_zipWith Field.withType _ _ _ enough
      intro field first later
      rfl
    simp only [refill]
    rw [types, List.length_zipWith, Nat.min_eq_left enough]
  | union _, filling, _, _, _ => rfl
  | tuple elements rest, filling, fits, later, length =>
    have count : filling.length = elements.length + rest.length := by
      rw [fits, parts, List.length_append, List.length_map, List.length_map]
    have types {elements : List (Element α)} {filling : List β}
        (enough : elements.length ≤ filling.length) (later : List γ) :
        List.zipWith Element.withType (List.zipWith Element.withType elements filling) later =
          List.zipWith Element.withType elements later := by
      apply zipWith_zipWith Element.withType _ _ _ enough
      intro element first later
      rfl
    have enough : elements.length ≤ filling.length := by omega
    have others : rest.length ≤ (filling.drop elements.length).length := by
      rw [List.length_drop]
      omega
    simp only [refill]
    rw [types enough, types others, List.length_zipWith, Nat.min_eq_left enough]
  | refinement name _, [_], _, [_], _ => rfl
  | transformation _ _, [_, _], _, [_, _], _ => rfl
  | declaration name _, filling, _, _, _ => rfl
  | suspend suspension, _, _, _, _ => rfl
  | .leaf content, _, _, _, _ => rfl

end Shape

end SchemaOutline
