import SchemaOutline.Json.Reader
import SchemaOutline.Proofs.Json.Depth

/-! A reader that bounds the open containers reads no value of more levels. -/

set_option autoImplicit false
set_option relaxedAutoImplicit false

namespace SchemaOutline.Json

theorem depth_of_flat {value : Json} (flat : value.children = []) : value.depth = 1 := by
  rw [depth_eq, flat, depthItems]

/-! ### Tokens -/

namespace Token

def Flat (token : Token) : Prop := ∀ value, token = .scalar value → value.children = []

private theorem flat_push {gathered : Array Token} {token : Token}
    (flat : ∀ token ∈ gathered, token.Flat) (last : token.Flat) :
    ∀ other ∈ gathered.push token, other.Flat := by
  intro other inside
  rcases Array.mem_push.mp inside with before | rfl
  · exact flat other before
  · exact last

private theorem flat_scalar {value : Json} (empty : value.children = []) :
    (Token.scalar value).Flat := by
  intro other same
  cases same
  exact empty

theorem flat_of_scanFrom? {gathered tokens : Array Token} {cs : List Char}
    (flat : ∀ token ∈ gathered, token.Flat) (scanned : scanFrom? gathered cs = some tokens) :
    ∀ token ∈ tokens, token.Flat := by
  have bare {token : Token} (noScalar : ∀ value, token ≠ .scalar value) : token.Flat :=
    fun value same => absurd same (noScalar value)
  fun_induction scanFrom? gathered cs with
  | case1 gathered =>
    cases scanned
    exact flat
  | case2 _ _ ih | case3 _ _ ih | case4 _ _ ih | case5 _ _ ih | case6 _ _ ih | case7 _ _ ih =>
    exact ih (flat_push flat (bare nofun)) scanned
  | case8 _ _ ih | case9 _ _ ih | case10 _ _ ih =>
    exact ih (flat_push flat (flat_scalar rfl)) scanned
  | case11 => cases scanned
  | case12 _ _ _ _ _ ih => exact ih (flat_push flat (flat_scalar rfl)) scanned
  | case13 =>
    rename_i ih
    exact ih flat scanned
  | case14 => cases scanned
  | case15 => cases scanned
  | case16 =>
    rename_i ih
    exact ih (flat_push flat (flat_scalar rfl)) scanned

end Token

/-! ### Open containers -/

def Open.values : Open → List Json
  | .array items => items
  | .object members => members.map Prod.snd
  | .member members _ => members.map Prod.snd

/-- No more containers are open than the limit, and what one of them holds has as many levels at
most as the limit leaves inside it. -/
def Open.Fits (limit : Nat) : List Open → Prop
  | [] => True
  | container :: outer =>
    outer.length < limit ∧ (∀ value ∈ container.values, value.depth + outer.length ≤ limit) ∧
      Open.Fits limit outer

theorem Open.Fits.length_le {limit : Nat} {stack : List Open} (fits : Open.Fits limit stack) :
    stack.length ≤ limit := by
  cases stack with
  | nil => exact Nat.zero_le limit
  | cons container outer => exact fits.1

namespace ReaderState

structure Fits (limit : Nat) (state : ReaderState) : Prop where
  level : state.level = state.stack.length
  stack : Open.Fits limit state.stack
  finished : ∀ value, state.expected = .finished value → value.depth ≤ limit + 1

theorem fits_start (limit : Nat) : Fits limit start where
  level := rfl
  stack := trivial
  finished := nofun

private theorem fits_complete {limit : Nat} {stack : List Open} {level : Nat} {value : Json}
    (counted : level = stack.length) (fits : Open.Fits limit stack)
    (small : value.depth + stack.length ≤ limit + 1) :
    Fits limit (complete stack level value) := by
  cases stack with
  | nil =>
    refine ⟨counted, trivial, ?_⟩
    intro read same
    cases same
    exact small
  | cons container outer =>
    obtain ⟨room, inside, around⟩ := fits
    rw [List.length_cons] at small
    have atMost : value.depth + outer.length ≤ limit := by omega
    have more (values : List Json) (held : ∀ other ∈ values, other.depth + outer.length ≤ limit) :
        ∀ other ∈ value :: values, other.depth + outer.length ≤ limit := by
      intro other among
      rcases List.mem_cons.mp among with rfl | before
      · exact atMost
      · exact held other before
    cases container with
    | array items => exact ⟨counted, ⟨room, more items inside, around⟩, nofun⟩
    | object members => exact ⟨counted, ⟨room, inside, around⟩, nofun⟩
    | member members name => exact ⟨counted, ⟨room, more _ inside, around⟩, nofun⟩

private theorem fits_enter {limit : Nat} {state entered : ReaderState} {container : Open}
    {expected : Expectation} (fits : Fits limit state) (empty : container.values = [])
    (unread : ∀ value, expected ≠ .finished value)
    (enters : enter (some limit) state container expected = some entered) :
    Fits limit entered := by
  rw [enter] at enters
  split at enters
  · rename_i room
    cases enters
    have counted := fits.level
    refine ⟨?_, ⟨by omega, ?_, fits.stack⟩, ?_⟩
    · show state.level + 1 = state.stack.length + 1
      omega
    · intro value inside
      rw [empty] at inside
      cases inside
    · intro value same
      exact absurd same (unread value)
  · cases enters

private theorem snd_mem_of_mem_insertMember {members : List (String × Json)} {name : String}
    {value other : Json} (inside : other ∈ (insertMember members name value).map Prod.snd) :
    other = value ∨ other ∈ members.map Prod.snd := by
  obtain ⟨member, among, rfl⟩ := List.mem_map.mp inside
  rw [insertMember] at among
  split at among
  · obtain ⟨before, old, rfl⟩ := List.mem_map.mp among
    split
    · exact .inl rfl
    · exact .inr (List.mem_map_of_mem old)
  · rcases List.mem_append.mp among with old | new
    · exact .inr (List.mem_map_of_mem old)
    · exact .inl (by rw [List.mem_singleton.mp new])

private theorem snd_mem_of_mem_gather {members : List (String × Json)} {value : Json}
    (inside : value ∈ (gather members).map Prod.snd) : value ∈ members.map Prod.snd := by
  induction members with
  | nil => exact inside
  | cons member members ih =>
    rw [gather, List.foldr_cons] at inside
    rcases snd_mem_of_mem_insertMember inside with rfl | before
    · exact List.mem_cons_self
    · exact List.mem_cons_of_mem _ (ih before)

private theorem fits_complete_of_children {limit : Nat} {container : Open} {outer : List Open}
    {level : Nat} {value : Json} (counted : level = (container :: outer).length)
    (fits : Open.Fits limit (container :: outer))
    (held : ∀ child ∈ value.children, child ∈ container.values) :
    Fits limit (complete outer (level - 1) value) := by
  obtain ⟨room, inside, around⟩ := fits
  have bound : value.depth ≤ limit - outer.length + 1 := by
    apply depth_le_of_children
    intro child among
    have fitting := inside child (held child among)
    omega
  rw [List.length_cons] at counted
  exact fits_complete (by omega) around (by omega)

private theorem fits_close {limit : Nat} {state closed : ReaderState} {token : Token}
    (fits : Fits limit state) (closes : close state token = some closed) : Fits limit closed := by
  obtain ⟨stack, level, expected⟩ := state
  cases token with
  | closeBracket =>
    rcases stack with _ | ⟨items | members | ⟨members, name⟩, outer⟩
    · cases closes
    · cases closes
      exact fits_complete_of_children fits.level fits.stack fun child among =>
        List.mem_reverse.mp among
    · cases closes
    · cases closes
  | closeBrace =>
    rcases stack with _ | ⟨items | members | ⟨members, name⟩, outer⟩
    · cases closes
    · cases closes
    · cases closes
      exact fits_complete_of_children fits.level fits.stack fun child among =>
        snd_mem_of_mem_gather among
    · cases closes
  | _ => cases closes

private theorem fits_readValue {limit : Nat} {state next : ReaderState} {token : Token}
    (fits : Fits limit state) (flat : token.Flat)
    (reads : readValue (some limit) state token = some next) : Fits limit next := by
  cases token with
  | scalar value =>
    cases reads
    have single : value.depth = 1 := depth_of_flat (flat value rfl)
    have room := fits.stack.length_le
    exact fits_complete fits.level fits.stack (by omega)
  | openBracket => exact fits_enter fits rfl (by nofun) reads
  | openBrace => exact fits_enter fits rfl (by nofun) reads
  | _ => cases reads

private theorem fits_readName {limit : Nat} {state next : ReaderState} {token : Token}
    (fits : Fits limit state) (reads : readName state token = some next) : Fits limit next := by
  obtain ⟨stack, level, expected⟩ := state
  obtain ⟨counted, held, -⟩ := fits
  unfold readName at reads
  split at reads
  · rcases stack with _ | ⟨items | members | ⟨members, name⟩, outer⟩
    · cases reads
    · cases reads
    · cases reads
      exact ⟨counted, held, nofun⟩
    · cases reads
  · cases reads

private theorem fits_readComma {limit : Nat} {state next : ReaderState}
    (fits : Fits limit state) (reads : readComma state = some next) : Fits limit next := by
  obtain ⟨stack, level, expected⟩ := state
  obtain ⟨counted, held, -⟩ := fits
  rcases stack with _ | ⟨items | members | ⟨members, name⟩, outer⟩
  · cases reads
  · cases reads
    exact ⟨counted, held, nofun⟩
  · cases reads
    exact ⟨counted, held, nofun⟩
  · cases reads

/-- Every token keeps the open containers and what they hold within the limit. -/
theorem fits_step {limit : Nat} {state next : ReaderState} {token : Token}
    (fits : Fits limit state) (flat : token.Flat)
    (steps : step (some limit) state token = some next) : Fits limit next := by
  unfold step at steps
  split at steps
  · exact fits_readValue fits flat steps
  · exact fits_close fits steps
  · exact fits_readValue fits flat steps
  · exact fits_close fits steps
  · exact fits_readName fits steps
  · exact fits_readName fits steps
  · cases steps
    exact ⟨fits.level, fits.stack, nofun⟩
  · cases steps
  · exact fits_readComma fits steps
  · exact fits_close fits steps
  · cases steps

theorem fits_run {limit : Nat} {tokens : List Token} {state last : ReaderState}
    (fits : Fits limit state) (flat : ∀ token ∈ tokens, token.Flat)
    (runs : tokens.foldlM (step (some limit)) state = some last) : Fits limit last := by
  induction tokens generalizing state with
  | nil =>
    cases runs
    exact fits
  | cons token tokens ih =>
    rw [List.foldlM_cons] at runs
    obtain ⟨next, first, later⟩ := Option.bind_eq_some_iff.mp runs
    have kept := fits_step fits (flat token List.mem_cons_self) first
    exact ih kept (fun other inside => flat other (List.mem_cons_of_mem token inside)) later

end ReaderState

/-- A value that has been read with at most `limit` containers open at a time has one level more at
most. -/
theorem depth_le_of_ofTextWithin? {limit : Nat} {text : String} {value : Json}
    (read : ofTextWithin? (some limit) text = some value) : value.depth ≤ limit + 1 := by
  rw [ofTextWithin?] at read
  obtain ⟨tokens, scanned, read⟩ := Option.bind_eq_some_iff.mp read
  obtain ⟨last, runs, read⟩ := Option.bind_eq_some_iff.mp read
  have flat : ∀ token ∈ tokens, token.Flat := Token.flat_of_scanFrom? (by simp) scanned
  rw [← Array.foldlM_toList] at runs
  have fits := ReaderState.fits_run (ReaderState.fits_start limit)
    (fun token inside => flat token (Array.mem_toList_iff.mp inside)) runs
  split at read
  · rename_i finished ended
    cases read
    exact fits.finished value ended
  · cases read

end SchemaOutline.Json
