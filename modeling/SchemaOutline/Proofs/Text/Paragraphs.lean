import Mathlib

/-! Lines, labels and paragraphs can be read off a text. -/

set_option autoImplicit false
set_option relaxedAutoImplicit false

namespace SchemaOutline.Text

def OneLine (text : String) : Prop := '\n' ∉ text.toList

instance (text : String) : Decidable (OneLine text) := inferInstanceAs (Decidable (_ ∉ _))

theorem OneLine.append {text other : String} (single : OneLine text) (otherSingle : OneLine other) :
    OneLine (text ++ other) := by
  rw [OneLine, String.toList_append, List.mem_append, not_or]
  exact ⟨single, otherSingle⟩

theorem oneLine_toString (number : Nat) : OneLine (toString number) := by
  intro inside
  have digit := Nat.isDigit_of_mem_toDigits (by decide) (by decide)
    (show '\n' ∈ Nat.toDigits 10 number by simpa using inside)
  exact absurd digit (by decide)

/-! ### Lines and paragraphs -/

def lines (text : String) : List String := (text.toList.splitOn '\n').map String.ofList

def paragraphs (text : String) : List (List String) := (lines text).splitOn ""

theorem lines_intercalate {parts : List String} (single : ∀ part ∈ parts, OneLine part)
    (some : parts ≠ []) : lines ("\n".intercalate parts) = parts := by
  have split : ("\n".intercalate parts).toList.splitOn '\n' = parts.map String.toList := by
    rw [String.toList_intercalate]
    refine List.splitOn_intercalate '\n' ?_ (by simpa using some)
    intro chars inside
    obtain ⟨part, isPart, rfl⟩ := List.mem_map.mp inside
    exact single part isPart
  rw [lines, split, List.map_map]
  simp [Function.comp_def]

/-- Lines that can be read as one paragraph. -/
structure IsParagraph (group : List String) : Prop where
  nonempty : group ≠ []
  filled : "" ∉ group
  single : ∀ line ∈ group, OneLine line

private theorem intercalate_ne_nil {groups : List (List String)}
    (each : ∀ group ∈ groups, group ≠ []) (some : groups ≠ []) :
    [""].intercalate groups ≠ [] := by
  cases groups with
  | nil => exact absurd rfl some
  | cons group groups =>
    have filled := each group List.mem_cons_self
    cases groups with
    | nil => rwa [List.intercalate_singleton]
    | cons next groups => simp

private theorem mem_intercalate {groups : List (List String)} {line : String}
    (inside : line ∈ [""].intercalate groups) :
    line = "" ∨ ∃ group ∈ groups, line ∈ group := by
  induction groups with
  | nil => cases inside
  | cons group groups ih =>
    cases groups with
    | nil =>
      rw [List.intercalate_singleton] at inside
      exact .inr ⟨group, List.mem_cons_self, inside⟩
    | cons next groups =>
      rw [List.intercalate_cons_cons, List.append_assoc, List.mem_append,
        List.singleton_append, List.mem_cons] at inside
      rcases inside with here | empty | later
      · exact .inr ⟨group, List.mem_cons_self, here⟩
      · exact .inl empty
      · rcases ih later with empty | ⟨other, isOther, found⟩
        · exact .inl empty
        · exact .inr ⟨other, List.mem_cons_of_mem _ isOther, found⟩

theorem intercalate_groups {groups : List (List String)}
    (each : ∀ group ∈ groups, group ≠ []) :
    "\n\n".intercalate (groups.map ("\n".intercalate ·)) =
      "\n".intercalate ([""].intercalate groups) := by
  induction groups with
  | nil => rfl
  | cons group groups ih =>
    obtain ⟨some, others⟩ := List.forall_mem_cons.mp each
    have rest := ih others
    cases groups with
    | nil => simp
    | cons next groups =>
      have later := intercalate_ne_nil others (List.cons_ne_nil next groups)
      have two : "\n\n" = "\n" ++ "\n" := rfl
      rw [List.map_cons, List.map_cons, String.intercalate_cons_cons, ← List.map_cons, rest,
        List.intercalate_cons_cons, List.append_assoc, List.singleton_append,
        String.intercalate_append_of_ne_nil some (List.cons_ne_nil _ _),
        String.intercalate_cons_of_ne_nil later, String.empty_append, two]
      simp only [String.append_assoc]

/-- Paragraphs can be read off the text that they form. -/
theorem paragraphs_intercalate {groups : List (List String)}
    (each : ∀ group ∈ groups, IsParagraph group) (some : groups ≠ []) :
    paragraphs ("\n\n".intercalate (groups.map ("\n".intercalate ·))) = groups := by
  have filled : ∀ group ∈ groups, group ≠ [] := fun group inside => (each group inside).nonempty
  have single : ∀ line ∈ [""].intercalate groups, OneLine line := by
    intro line inside
    rcases mem_intercalate inside with rfl | ⟨group, isGroup, here⟩
    · exact List.not_mem_nil
    · exact (each group isGroup).single line here
  rw [paragraphs, intercalate_groups filled,
    lines_intercalate single (intercalate_ne_nil filled some)]
  exact List.splitOn_intercalate "" (fun group inside => (each group inside).filled) some

/-! ### Labels -/

def labelled (label value : String) : String := label ++ ": " ++ value

private theorem takeWhile_labelled {label : String} (plain : ':' ∉ label.toList)
    (value : String) : (labelled label value).toList.takeWhile (· != ':') = label.toList := by
  have before : ∀ char ∈ label.toList, (char != ':') = true := by
    intro char inside
    rw [bne_iff_ne]
    rintro rfl
    exact plain inside
  have chars : (labelled label value).toList = label.toList ++ ':' :: ' ' :: value.toList := by
    simp [labelled]
  rw [chars, List.takeWhile_append_of_pos before]
  simp

theorem labelled_inj {label other value text : String} (plain : ':' ∉ label.toList)
    (otherPlain : ':' ∉ other.toList) (same : labelled label value = labelled other text) :
    label = other ∧ value = text := by
  have labels : label = other := by
    rw [← String.toList_inj, ← takeWhile_labelled plain value, same,
      takeWhile_labelled otherPlain text]
  subst labels
  exact ⟨rfl, (String.append_right_inj _).mp same⟩

def labelledLines (items : List (String × Option String)) : List String :=
  items.filterMap fun item => item.2.map fun value => item.1 ++ ": " ++ value

theorem mem_labelledLines_iff {items : List (String × Option String)} {line : String} :
    line ∈ labelledLines items ↔
      ∃ label value, (label, some value) ∈ items ∧ labelled label value = line := by
  rw [labelledLines, List.mem_filterMap]
  constructor
  · rintro ⟨⟨label, value⟩, inside, shown⟩
    obtain ⟨value, rfl, rfl⟩ := Option.map_eq_some_iff.mp shown
    exact ⟨label, value, inside, rfl⟩
  · rintro ⟨label, value, inside, rfl⟩
    exact ⟨(label, some value), inside, rfl⟩

theorem mem_of_labelled_mem {items : List (String × Option String)}
    (plain : ∀ item ∈ items, ':' ∉ item.1.toList) {label value : String}
    (labelPlain : ':' ∉ label.toList) (inside : labelled label value ∈ labelledLines items) :
    (label, some value) ∈ items := by
  obtain ⟨other, text, isItem, same⟩ := mem_labelledLines_iff.mp inside
  obtain ⟨rfl, rfl⟩ := labelled_inj (plain _ isItem) labelPlain same
  exact isItem

theorem eq_of_labelledLines_eq {items others : List (String × Option String)}
    (labels : items.map Prod.fst = others.map Prod.fst) (distinct : (items.map Prod.fst).Nodup)
    (plain : ∀ label ∈ items.map Prod.fst, ':' ∉ label.toList)
    (same : labelledLines items = labelledLines others) : items = others := by
  induction items generalizing others with
  | nil => exact (List.map_eq_nil_iff.mp labels.symm).symm
  | cons item items ih =>
    cases others with
    | nil => cases labels
    | cons other others =>
      obtain ⟨label, value⟩ := item
      obtain ⟨otherLabel, text⟩ := other
      obtain ⟨isLabel, further⟩ := List.cons.inj labels
      obtain rfl : label = otherLabel := isLabel
      obtain ⟨unique, distinctRest⟩ := List.nodup_cons.mp distinct
      obtain ⟨labelPlain, restPlain⟩ := List.forall_mem_cons.mp plain
      -- No other item has this label, so its line is not among those of the other items.
      have absent {rest : List (String × Option String)}
          (restLabels : rest.map Prod.fst = items.map Prod.fst) (value : String)
          {lines : List String} : labelled label value :: lines ≠ labelledLines rest := by
        intro isRest
        have inside := isRest ▸ List.mem_cons_self
        have found := mem_of_labelled_mem (fun item isItem =>
          restPlain item.1 (restLabels ▸ List.mem_map_of_mem isItem)) labelPlain inside
        exact unique (restLabels ▸ List.mem_map.mpr ⟨_, found, rfl⟩)
      cases value with
      | none =>
        cases text with
        | none => rw [ih further distinctRest restPlain same]
        | some text => exact absurd same.symm (absent rfl text)
      | some value =>
        cases text with
        | none => exact absurd same (absent further.symm value)
        | some text =>
          obtain ⟨first, rest⟩ := List.cons.inj same
          obtain ⟨_, rfl⟩ := labelled_inj labelPlain labelPlain first
          rw [ih further distinctRest restPlain rest]

end SchemaOutline.Text
