import SchemaOutline.Annotations.Key
import SchemaOutline.Json.Basic

/-! Annotation dictionaries: ordered entries under distinct keys, and the merging of two. -/

set_option autoImplicit false

namespace SchemaOutline

/-- Metadata of a schema, a field or a tuple element. -/
@[ext]
structure Annotations where
  entries : List (Annotations.Key × Json)
  distinct : (entries.map Prod.fst).Nodup

namespace Annotations

/-- Writes a value into a list of entries: in place if the key is there, at the end otherwise. -/
def place (key : Key) (value : Json) : List (Key × Json) → List (Key × Json)
  | [] => [(key, value)]
  | entry :: rest => if entry.1 = key then (key, value) :: rest else entry :: place key value rest

theorem keys_place (key : Key) (value : Json) (entries : List (Key × Json)) :
    (place key value entries).map Prod.fst =
      if key ∈ entries.map Prod.fst then entries.map Prod.fst
      else entries.map Prod.fst ++ [key] := by
  induction entries with
  | nil => simp [place]
  | cons entry rest ih =>
    by_cases same : entry.1 = key
    · simp [place, same]
    · have other : ¬ key = entry.1 := fun h => same h.symm
      simp only [place, if_neg same, List.map_cons, ih, List.mem_cons, other, false_or]
      split <;> simp

theorem nodup_keys_place (key : Key) (value : Json) {entries : List (Key × Json)}
    (distinct : (entries.map Prod.fst).Nodup) :
    ((place key value entries).map Prod.fst).Nodup := by
  rw [keys_place]
  split
  · exact distinct
  · next absent =>
    rw [List.nodup_append]
    refine ⟨distinct, by simp, ?_⟩
    intro a member b single same
    rw [List.mem_singleton] at single
    subst single
    exact absent (same ▸ member)

theorem lookup_place (key other : Key) (value : Json) (entries : List (Key × Json)) :
    (place key value entries).lookup other =
      if other = key then some value else entries.lookup other := by
  induction entries with
  | nil =>
    by_cases same : other = key
    · simp [place, same]
    · have different : (other == key) = false := by simpa using same
      simp [place, List.lookup_cons, same, different]
  | cons entry rest ih =>
    obtain ⟨first, old⟩ := entry
    by_cases here : first = key
    · subst here
      by_cases same : other = first
      · simp [place, same]
      · have different : (other == first) = false := by simpa using same
        simp [place, List.lookup_cons, same, different]
    · by_cases same : other = first
      · subst same
        simp [place, here]
      · have different : (other == first) = false := by simpa using same
        simp [place, here, List.lookup_cons, different, ih]

def empty : Annotations := ⟨[], List.nodup_nil⟩

instance : Inhabited Annotations := ⟨empty⟩

instance : EmptyCollection Annotations := ⟨empty⟩

def size (annotations : Annotations) : Nat := annotations.entries.length

def isEmpty (annotations : Annotations) : Bool := annotations.entries.isEmpty

def keys (annotations : Annotations) : List Key := annotations.entries.map Prod.fst

def get? (annotations : Annotations) (key : Key) : Option Json := annotations.entries.lookup key

def contains (annotations : Annotations) (key : Key) : Bool := (annotations.get? key).isSome

def insert (annotations : Annotations) (key : Key) (value : Json) : Annotations :=
  ⟨place key value annotations.entries, nodup_keys_place key value annotations.distinct⟩

def exchange (annotations : Annotations) (key : Key) (value : Json) : Option Json × Annotations :=
  (annotations.get? key, annotations.insert key value)

def insertAll (annotations : Annotations) (entries : List (Key × Json)) : Annotations :=
  entries.foldl (fun written entry => written.insert entry.1 entry.2) annotations

/-- The dictionary of a list of entries: of several with one key, the first position and the last
value count. -/
def ofList (entries : List (Key × Json)) : Annotations := empty.insertAll entries

def ofMembers (members : List (String × Json)) : Annotations :=
  ofList (members.map fun member => (Key.ofName member.1, member.2))

/-- The entries of a dictionary, overridden by those of another. -/
def merged (annotations overrides : Annotations) : Annotations :=
  annotations.insertAll overrides.entries

/-- Whether two dictionaries hold equal values for the same keys, in whatever order. -/
def equivalent (annotations others : Annotations) : Bool :=
  annotations.size == others.size &&
    annotations.entries.all fun entry =>
      match others.get? entry.1 with
      | some value => entry.2.equivalent value
      | none => false

def text? (annotations : Annotations) (key : Key) : Option String :=
  (annotations.get? key).bind Json.str?

def title? (annotations : Annotations) : Option String := annotations.text? .title

def description? (annotations : Annotations) : Option String := annotations.text? .description

def identifier? (annotations : Annotations) : Option String := annotations.text? .identifier

def semanticType? (annotations : Annotations) : Option String := annotations.text? .semanticType

def role? (annotations : Annotations) : Option String := annotations.text? .role

def source? (annotations : Annotations) : Option String := annotations.text? .source

def comment? (annotations : Annotations) : Option String := annotations.text? .comment

def entityType? (annotations : Annotations) : Option String := annotations.text? .entityType

/-- The marker that a field of an entity carries. -/
def entityField? (annotations : Annotations) : Option String := annotations.text? .entityField

theorem get?_insert (annotations : Annotations) (key other : Key) (value : Json) :
    (annotations.insert key value).get? other =
      if other = key then some value else annotations.get? other :=
  lookup_place key other value annotations.entries

theorem keys_insert (annotations : Annotations) (key : Key) (value : Json) :
    (annotations.insert key value).keys =
      if key ∈ annotations.keys then annotations.keys else annotations.keys ++ [key] :=
  keys_place key value annotations.entries

theorem get?_insertAll (annotations : Annotations) {entries : List (Key × Json)}
    (distinct : (entries.map Prod.fst).Nodup) (key : Key) :
    (annotations.insertAll entries).get? key = (entries.lookup key).or (annotations.get? key) := by
  induction entries generalizing annotations with
  | nil => rfl
  | cons entry entries ih =>
    obtain ⟨first, value⟩ := entry
    obtain ⟨absent, distinct⟩ := List.nodup_cons.mp distinct
    rw [insertAll, List.foldl_cons]
    have later := ih (annotations.insert first value) distinct
    rw [insertAll, get?_insert] at later
    rw [later, List.lookup_cons]
    by_cases same : key = first
    · subst same
      have unwritten : entries.lookup key = none := by
        rw [List.lookup_eq_none_iff]
        intro other inside
        have differs : key ≠ other.1 := by
          rintro rfl
          exact absent (List.mem_map.mpr ⟨other, inside, rfl⟩)
        exact bne_iff_ne.mpr differs
      rw [unwritten, if_pos rfl, beq_self_eq_true]
      rfl
    · have differs : (key == first) = false := beq_eq_false_iff_ne.mpr same
      rw [if_neg same, differs]

/-- What the overriding dictionary says counts, else what the other one says. -/
theorem get?_merged (annotations overrides : Annotations) (key : Key) :
    (annotations.merged overrides).get? key = (overrides.get? key).or (annotations.get? key) :=
  get?_insertAll annotations overrides.distinct key

@[simp] theorem merged_empty (annotations : Annotations) : annotations.merged empty = annotations :=
  rfl

end Annotations

end SchemaOutline
