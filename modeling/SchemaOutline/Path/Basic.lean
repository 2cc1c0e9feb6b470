import SchemaOutline.Path.Segment

/-! Paths, with the last segment first in memory, so that a child shares the path of its parent. -/

set_option autoImplicit false

namespace SchemaOutline

/-- The way from the root to a node. -/
@[ext]
structure Path where
  /-- The segments from the last one back to the root. -/
  reversed : List Segment
  length : Nat
  length_eq : length = reversed.length

namespace Path

def root : Path := ⟨[], 0, rfl⟩

instance : Inhabited Path := ⟨root⟩

def child (path : Path) (segment : Segment) : Path :=
  ⟨segment :: path.reversed, path.length + 1, by simp [path.length_eq]⟩

/-- The path reached by a segment, or the same path without one. -/
def step (path : Path) : Option Segment → Path
  | some segment => path.child segment
  | none => path

def ofSegments (segments : List Segment) : Path := segments.foldl child root

def segments (path : Path) : List Segment := path.reversed.reverse

def isRoot (path : Path) : Bool := path.length == 0

def last? (path : Path) : Option Segment := path.reversed.head?

def format (texts : List String) : String := ".".intercalate texts

def text (path : Path) : String := format (path.segments.map Segment.text)

def spelled (path : Path) : String :=
  "Path([" ++ ", ".intercalate (path.segments.map Segment.spelled) ++ "])"

/-- Compares two paths from their last cells on. Two cells that are one and the same have the same
cells before them, and where a path has no more cells nothing has been found to differ. -/
def agree {Cell : Type} (same : Cell → Cell → Bool) (segment : Cell → Segment) :
    List Cell → List Cell → Bool
  | cell :: cells, other :: others =>
    if same cell other then true
    else if segment cell != segment other then false
    else agree same segment cells others
  | _, _ => true

/-- Paths are equal if they have as many segments and the segments agree. Here nothing tells which
cells are the same. -/
instance : BEq Path := ⟨fun path other =>
  path.length == other.length && agree (fun _ _ => false) id path.reversed other.reversed⟩

@[simp] theorem segments_root : root.segments = [] := rfl

@[simp] theorem segments_child (path : Path) (segment : Segment) :
    (path.child segment).segments = path.segments ++ [segment] := by
  simp [segments, child]

theorem segments_step (path : Path) (segment : Option Segment) :
    (path.step segment).segments = path.segments ++ segment.toList := by
  cases segment with
  | none => simp [step]
  | some segment => simp [step]

@[simp] theorem segments_ofSegments (segments : List Segment) :
    (ofSegments segments).segments = segments := by
  have appended : ∀ path : Path,
      (segments.foldl child path).segments = path.segments ++ segments := by
    induction segments with
    | nil => simp
    | cons segment segments ih => intro path; simp [ih]
  exact appended root

@[simp] theorem length_segments (path : Path) : path.segments.length = path.length := by
  simp [segments, path.length_eq]

theorem eq_of_reversed_eq {path other : Path} (same : path.reversed = other.reversed) :
    path = other := by
  ext1
  · exact same
  · rw [path.length_eq, other.length_eq, same]

section

variable {Cell : Type} {same : Cell → Cell → Bool} {segment : Cell → Segment}
  {cells others : List Cell}

theorem agree_iff (length : cells.length = others.length)
    (sound : ∀ {cell other before otherBefore}, cell :: before <:+ cells →
      other :: otherBefore <:+ others → same cell other →
      (cell :: before).map segment = (other :: otherBefore).map segment) :
    agree same segment cells others ↔ cells.map segment = others.map segment := by
  induction cells generalizing others with
  | nil =>
    obtain rfl := List.length_eq_zero_iff.mp length.symm
    simp [agree]
  | cons cell cells ih =>
    cases others with
    | nil => cases length
    | cons other others =>
      rw [agree]
      by_cases one : same cell other
      · rw [if_pos one]
        exact ⟨fun _ => sound List.suffix_rfl List.suffix_rfl one, fun _ => rfl⟩
      · rw [if_neg one]
        by_cases equal : segment cell = segment other
        · rw [if_neg (by simp [equal]), List.map_cons, List.map_cons, equal, List.cons_inj_right]
          exact ih (Nat.succ.inj length) fun suffix otherSuffix =>
            sound (suffix.trans (List.suffix_cons _ _)) (otherSuffix.trans (List.suffix_cons _ _))
        · simp [equal]

theorem length_and_agree_iff
    (sound : ∀ {cell other before otherBefore}, cell :: before <:+ cells →
      other :: otherBefore <:+ others → same cell other →
      (cell :: before).map segment = (other :: otherBefore).map segment) :
    (cells.length == others.length && agree same segment cells others) ↔
      cells.map segment = others.map segment := by
  rw [Bool.and_eq_true, beq_iff_eq]
  constructor
  · rintro ⟨length, agrees⟩
    exact (agree_iff length sound).mp agrees
  · intro segments
    have length : cells.length = others.length := by simpa using congrArg List.length segments
    exact ⟨length, (agree_iff length sound).mpr segments⟩

end

private theorem beq_iff {path other : Path} :
    (path == other) = true ↔ path.reversed = other.reversed := by
  change (path.length == other.length && agree _ id path.reversed other.reversed) ↔ _
  rw [path.length_eq, other.length_eq, length_and_agree_iff, List.map_id, List.map_id]
  intro _ _ _ _ _ _ one
  cases one

instance : LawfulBEq Path where
  eq_of_beq same := eq_of_reversed_eq (beq_iff.mp same)
  rfl := beq_iff.mpr rfl

end Path

end SchemaOutline
