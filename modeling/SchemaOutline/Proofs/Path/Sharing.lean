import Mathlib.Data.Finset.Dedup
import Mathlib.Data.Finset.Range
import Mathlib.Logic.Relation
import SchemaOutline.Path.Hashing
import SchemaOutline.Path.Linked

/-! Whatever cells paths share, all that is asked of them depends on their segments. -/

set_option autoImplicit false
set_option relaxedAutoImplicit false

namespace SchemaOutline.Path

/-! ### Making paths -/

structure Made where
  linked : Linked
  segments : List Segment

def Chain (live : List Made) (cells : List Cell) : Prop :=
  ∃ made ∈ live, cells <:+ made.linked.cells

def Free (live : List Made) (address : Nat) : Prop :=
  ∀ made ∈ live, ∀ cell ∈ made.linked.cells, cell.address ≠ address

instance (live : List Made) (address : Nat) : Decidable (Free live address) :=
  inferInstanceAs (Decidable (∀ made ∈ live, ∀ cell ∈ made.linked.cells, cell.address ≠ address))

/-- What can be done with the paths at hand. -/
inductive Step : List Made → List Made → Prop
  | root (live : List Made) : Step live (⟨.root, []⟩ :: live)
  | child {live : List Made} {made : Made} (atHand : made ∈ live) {address : Nat}
      (free : Free live address) (segment : Segment) :
      Step live (⟨made.linked.child address segment, made.segments ++ [segment]⟩ :: live)
  | collect {live : List Made} {cells : List Cell} (free : ∀ cell ∈ cells, Free live cell.address)
      (distinct : (cells.map Cell.address).Nodup) :
      Step live (⟨.ofCells cells, cells.map Cell.segment⟩ :: live)
  | keep {live kept : List Made} (known : kept ⊆ live) : Step live kept

/-! ### Addresses -/

/-- A path has been made as it was asked for, and one address stands for one cell, always with the
same cells before it. -/
structure Sound (live : List Made) : Prop where
  path : ∀ made ∈ live, made.linked.path = .ofSegments made.segments
  one : ∀ {cell other : Cell} {before otherBefore : List Cell}, Chain live (cell :: before) →
    Chain live (other :: otherBefore) → cell.address = other.address →
      cell :: before = other :: otherBefore

variable {live kept : List Made} {made other : Made} {address : Nat}

theorem Free.ne_of_chain (free : Free live address) {cell : Cell} {before : List Cell}
    (chain : Chain live (cell :: before)) : cell.address ≠ address := by
  obtain ⟨made, atHand, suffix⟩ := chain
  exact free made atHand cell (suffix.subset List.mem_cons_self)

theorem ofSegments_append (segments : List Segment) (segment : Segment) :
    ofSegments (segments ++ [segment]) = (ofSegments segments).child segment := by
  rw [ofSegments, List.foldl_append]
  rfl

namespace Sound

theorem nil : Sound [] where
  path := nofun
  one := nofun

theorem keep (sound : Sound live) (known : kept ⊆ live) : Sound kept where
  path made atHand := sound.path made (known atHand)
  one := by
    rintro cell other before otherBefore ⟨made, atHand, suffix⟩ ⟨made', atHand', suffix'⟩ same
    exact sound.one ⟨made, known atHand, suffix⟩ ⟨made', known atHand', suffix'⟩ same

theorem root (sound : Sound live) : Sound (⟨.root, []⟩ :: live) where
  path := List.forall_mem_cons.mpr ⟨rfl, sound.path⟩
  one := by
    have old {cell : Cell} {before : List Cell}
        (chain : Chain (⟨.root, []⟩ :: live) (cell :: before)) : Chain live (cell :: before) := by
      obtain ⟨made, atHand, suffix⟩ := chain
      rcases List.mem_cons.mp atHand with rfl | atHand
      · cases List.suffix_nil.mp suffix
      · exact ⟨made, atHand, suffix⟩
    intro cell other before otherBefore chain otherChain same
    exact sound.one (old chain) (old otherChain) same

theorem child (sound : Sound live) (atHand : made ∈ live) (free : Free live address)
    (segment : Segment) :
    Sound (⟨made.linked.child address segment, made.segments ++ [segment]⟩ :: live) where
  path := by
    refine List.forall_mem_cons.mpr ⟨?_, sound.path⟩
    rw [Linked.path_child, sound.path made atHand, ofSegments_append]
  one := by
    -- Only the new cell is added: the cells before it are cells of the path that it is added to.
    have cases {cell : Cell} {before : List Cell}
        (chain : Chain (⟨made.linked.child address segment, made.segments ++ [segment]⟩ :: live)
          (cell :: before)) :
        cell :: before = ⟨address, segment⟩ :: made.linked.cells ∨ Chain live (cell :: before) := by
      obtain ⟨holder, isHolder, suffix⟩ := chain
      rcases List.mem_cons.mp isHolder with rfl | isHolder
      · rcases List.suffix_cons_iff.mp suffix with whole | below
        · exact .inl whole
        · exact .inr ⟨made, atHand, below⟩
      · exact .inr ⟨holder, isHolder, suffix⟩
    intro cell other before otherBefore chain otherChain same
    rcases cases chain with new | old <;> rcases cases otherChain with otherNew | otherOld
    · rw [new, otherNew]
    · obtain ⟨rfl, rfl⟩ := List.cons.inj new
      exact absurd same.symm (free.ne_of_chain otherOld)
    · obtain ⟨rfl, rfl⟩ := List.cons.inj otherNew
      exact absurd same (free.ne_of_chain old)
    · exact sound.one old otherOld same

theorem extend {cells : List Cell} (sound : Sound (made :: live))
    (free : ∀ cell ∈ cells, Free (made :: live) cell.address)
    (distinct : (cells.map Cell.address).Nodup) :
    Sound (⟨cells.foldl (fun linked cell => linked.child cell.address cell.segment) made.linked,
      made.segments ++ cells.map Cell.segment⟩ :: live) := by
  induction cells generalizing made with
  | nil =>
    rw [List.map_nil, List.append_nil]
    exact sound
  | cons cell cells ih =>
    obtain ⟨absent, distinct⟩ := List.nodup_cons.mp distinct
    obtain ⟨freeHere, freeLater⟩ := List.forall_mem_cons.mp free
    -- The path without the cell is dropped again, and its cells go on as those of the longer one.
    have longer := (sound.child List.mem_cons_self freeHere cell.segment).keep
      (List.cons_subset_cons _ (List.subset_cons_self made live))
    have stillFree : ∀ later ∈ cells, Free
        (⟨made.linked.child cell.address cell.segment, made.segments ++ [cell.segment]⟩ :: live)
        later.address := by
      intro later inside
      have differs : cell.address ≠ later.address := fun same =>
        absent (same ▸ List.mem_map_of_mem inside)
      obtain ⟨here, others⟩ := List.forall_mem_cons.mp (freeLater later inside)
      exact List.forall_mem_cons.mpr ⟨List.forall_mem_cons.mpr ⟨differs, here⟩, others⟩
    have extended := ih longer stillFree distinct
    rw [List.append_assoc] at extended
    exact extended

/-- Whatever is done with the paths at hand, one address stands for one cell. -/
theorem step (sound : Sound live) (step : Step live kept) : Sound kept := by
  cases step with
  | root => exact sound.root
  | child atHand free segment => exact sound.child atHand free segment
  | collect free distinct =>
    exact sound.root.extend
      (fun cell inside => List.forall_mem_cons.mpr ⟨nofun, free cell inside⟩) distinct
  | keep known => exact sound.keep known

theorem of_steps (steps : Relation.ReflTransGen Step [] live) : Sound live := by
  induction steps with
  | refl => exact nil
  | tail _ step ih => exact ih.step step

theorem beq_iff (sound : Sound live) (atHand : made ∈ live) (otherAtHand : other ∈ live) :
    (made.linked == other.linked) = true ↔ made.linked.path = other.linked.path := by
  have shared {cell otherCell : Cell} {before otherBefore : List Cell}
      (suffix : cell :: before <:+ made.linked.cells)
      (otherSuffix : otherCell :: otherBefore <:+ other.linked.cells)
      (same : (cell.address == otherCell.address) = true) :
      (cell :: before).map Cell.segment = (otherCell :: otherBefore).map Cell.segment :=
    congrArg (List.map Cell.segment)
      (sound.one ⟨made, atHand, suffix⟩ ⟨other, otherAtHand, otherSuffix⟩ (beq_iff_eq.mp same))
  change (made.linked.length == other.linked.length &&
    agree _ Cell.segment made.linked.cells other.linked.cells) ↔ _
  rw [made.linked.length_eq, other.linked.length_eq, length_and_agree_iff shared]
  exact ⟨fun same => eq_of_reversed_eq same, congrArg Path.reversed⟩

end Sound

theorem exists_collect (live : List Made) (segments : List Segment) :
    ∃ made, made.segments = segments ∧ Step live (made :: live) := by
  obtain ⟨bound, below⟩ :=
    (live.flatMap fun made => made.linked.cells.map Cell.address).toFinset.exists_nat_subset_range
  have used {made : Made} (atHand : made ∈ live) {cell : Cell} (inside : cell ∈ made.linked.cells) :
      cell.address < bound := by
    refine Finset.mem_range.mp (below (List.mem_toFinset.mpr ?_))
    exact List.mem_flatMap.mpr ⟨made, atHand, List.mem_map_of_mem inside⟩
  let cells := (segments.zipIdx bound).map fun (segment, address) => Cell.mk address segment
  have addresses : cells.map Cell.address = List.range' bound segments.length := by
    rw [List.map_map]
    exact List.zipIdx_map_snd bound segments
  have kept : cells.map Cell.segment = segments := by
    rw [List.map_map]
    exact List.zipIdx_map_fst bound segments
  refine ⟨_, kept, .collect (fun cell inside made atHand old isOld => ?_) ?_⟩
  · have new : cell.address ∈ List.range' bound segments.length :=
      addresses ▸ List.mem_map_of_mem inside
    exact ((used atHand isOld).trans_le (List.mem_range'_1.mp new).1).ne
  · rw [addresses]
    exact List.nodup_range'

/-- Whichever cells the paths at hand have in common, each path answers for the segments that it was
made for: it has these segments in their order, as many of them, and the same last one, and it gives
them backwards from there. Two paths are equal, with a look at the addresses of their cells or
without one, exactly if they were made for the same segments; then they are fed to a hasher in the
same pieces and have the same text. A path can be made for any segments. -/
theorem shared_paths_tell_segments (steps : Relation.ReflTransGen Step [] live) :
    (∀ segments, ∃ made, made.segments = segments ∧ Step live (made :: live)) ∧
    (∀ made ∈ live,
      made.linked.path = .ofSegments made.segments ∧
      made.linked.path.segments = made.segments ∧
      made.linked.path.length = made.segments.length ∧
      made.linked.path.last? = made.segments.getLast? ∧
      made.linked.path.reversed = made.segments.reverse) ∧
    ∀ made ∈ live, ∀ other ∈ live,
      ((made.linked == other.linked) = true ↔ made.segments = other.segments) ∧
      (made.linked.path == other.linked.path) = (made.linked == other.linked) ∧
      ((made.linked == other.linked) = true →
        made.linked.path.hashParts = other.linked.path.hashParts ∧
        made.linked.path.text = other.linked.path.text) := by
  have sound := Sound.of_steps steps
  refine ⟨exists_collect live, fun made atHand => ?one, fun made atHand other otherAtHand => ?two⟩
  case one =>
    have segments : made.linked.path.segments = made.segments := by
      rw [sound.path made atHand, segments_ofSegments]
    have reversed : made.linked.path.reversed = made.segments.reverse :=
      List.reverse_eq_iff.mp segments
    refine ⟨sound.path made atHand, segments, ?_, ?_, reversed⟩
    · rw [← segments, length_segments]
    · rw [last?, reversed, List.head?_reverse]
  case two =>
    have same := sound.beq_iff atHand otherAtHand
    refine ⟨?_, ?_, fun equal => by rw [same.mp equal]; exact ⟨rfl, rfl⟩⟩
    · rw [same, sound.path made atHand, sound.path other otherAtHand]
      exact ⟨fun equal => by simpa using congrArg segments equal, congrArg ofSegments⟩
    · rw [Bool.eq_iff_iff, same, beq_iff_eq]

/-! ### Siblings -/

namespace Siblings

def parent : Made := ⟨Linked.root.child 0 (.key "a"), [.key "a"]⟩

def first : Made := ⟨parent.linked.child 1 (.key "b"), [.key "a", .key "b"]⟩

def second : Made := ⟨parent.linked.child 2 (.key "b"), [.key "a", .key "b"]⟩

def later : Made := ⟨parent.linked.child 1 (.key "c"), [.key "a", .key "c"]⟩

def apart : Made := ⟨.ofCells [⟨3, .key "a"⟩, ⟨4, .key "b"⟩], [.key "a", .key "b"]⟩

private theorem steps : Relation.ReflTransGen Step [] [apart, later, second, parent] := by
  have isParent : Step [⟨.root, []⟩] [parent, ⟨.root, []⟩] :=
    .child List.mem_cons_self (by decide) (.key "a")
  have isFirst : Step [parent, ⟨.root, []⟩] [first, parent, ⟨.root, []⟩] :=
    .child List.mem_cons_self (by decide) (.key "b")
  have isSecond : Step [first, parent, ⟨.root, []⟩] [second, first, parent, ⟨.root, []⟩] :=
    .child (List.mem_cons_of_mem _ List.mem_cons_self) (by decide) (.key "b")
  have dropped : Step [second, first, parent, ⟨.root, []⟩] [second, parent] := .keep (by simp)
  have isLater : Step [second, parent] [later, second, parent] :=
    .child (List.mem_cons_of_mem _ List.mem_cons_self) (by decide) (.key "c")
  have isApart : Step [later, second, parent] [apart, later, second, parent] :=
    .collect (by decide) (by decide)
  exact (((((Relation.ReflTransGen.single (.root [])).tail isParent).tail isFirst).tail
    isSecond).tail dropped).tail isLater |>.tail isApart

/-- Paths of the same segments are equal without a cell in common, and paths with a cell in common
are not equal for that. -/
theorem equal_by_segments :
    Relation.ReflTransGen Step [] [apart, later, second, parent] ∧
      (apart.linked == second.linked) = true ∧ (later.linked == second.linked) = false ∧
      apart.linked.path.hashParts = second.linked.path.hashParts := by
  obtain ⟨_, _, pairs⟩ := shared_paths_tell_segments steps
  obtain ⟨same, _, pieces⟩ := pairs apart (by simp) second (by simp)
  obtain ⟨sameLater, _⟩ := pairs later (by simp) second (by simp)
  have equal := same.mpr rfl
  refine ⟨steps, equal, ?_, (pieces equal).1⟩
  rw [Bool.eq_false_iff, ne_eq, sameLater]
  decide

end Siblings

end SchemaOutline.Path
