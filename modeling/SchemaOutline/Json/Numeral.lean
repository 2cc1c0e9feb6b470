import SchemaOutline.Json.Basic

/-! Number tokens of JSON text, and their rounding to integers and doubles. -/

set_option autoImplicit false

namespace SchemaOutline.Json

structure Numeral.Exponent where
  negative : Bool
  digits : List Nat

/-- A number token, taken apart. -/
structure Numeral where
  negative : Bool
  whole : List Nat
  fraction : Option (List Nat)
  exponent : Option Numeral.Exponent

namespace Numeral

def spanDigits (cs : List Char) : List Nat × List Char :=
  ((cs.takeWhile Char.isDigit).map fun c => c.toNat - '0'.toNat, cs.dropWhile Char.isDigit)

def scanFraction : List Char → Option (Option (List Nat) × List Char)
  | '.' :: rest =>
    match spanDigits rest with
    | ([], _) => none
    | (digits, others) => some (some digits, others)
  | rest => some (none, rest)

def scanExponentDigits (negative : Bool) (rest : List Char) :
    Option (Option Exponent × List Char) :=
  match spanDigits rest with
  | ([], _) => none
  | (digits, others) => some (some ⟨negative, digits⟩, others)

def scanExponent : List Char → Option (Option Exponent × List Char)
  | c :: rest =>
    if c = 'e' ∨ c = 'E' then
      match rest with
      | '-' :: digits => scanExponentDigits true digits
      | '+' :: digits => scanExponentDigits false digits
      | digits => scanExponentDigits false digits
    else some (none, c :: rest)
  | [] => some (none, [])

def wellStarted : List Nat → Bool
  | [] => false
  | [_] => true
  | first :: _ => first != 0

def scanUnsigned (negative : Bool) (cs : List Char) : Option (Numeral × List Char) :=
  match spanDigits cs with
  | (whole, afterWhole) =>
    if wellStarted whole then
      match scanFraction afterWhole with
      | none => none
      | some (fraction, afterFraction) =>
        match scanExponent afterFraction with
        | none => none
        | some (exponent, rest) => some (⟨negative, whole, fraction, exponent⟩, rest)
    else none

def scan : List Char → Option (Numeral × List Char)
  | '-' :: rest => scanUnsigned true rest
  | cs => scanUnsigned false cs

theorem length_spanDigits (cs : List Char) :
    (spanDigits cs).1.length + (spanDigits cs).2.length = cs.length := by
  have split := congrArg List.length (List.takeWhile_append_dropWhile (p := Char.isDigit) (l := cs))
  simp only [List.length_append] at split
  simpa [spanDigits] using split

theorem length_le_of_scanFraction {cs rest : List Char} {fraction : Option (List Nat)}
    (read : scanFraction cs = some (fraction, rest)) : rest.length ≤ cs.length := by
  unfold scanFraction at read
  split at read
  · rename_i digits
    have split := length_spanDigits digits
    split at read
    · simp at read
    · rename_i others _ found
      simp only [Option.some.injEq, Prod.mk.injEq] at read
      simp only [found] at split
      simp only [← read.2, List.length_cons]
      omega
  · simp only [Option.some.injEq, Prod.mk.injEq] at read
    exact Nat.le_of_eq (congrArg List.length read.2.symm)

theorem length_le_of_scanExponentDigits {negative : Bool} {cs rest : List Char}
    {exponent : Option Exponent}
    (read : scanExponentDigits negative cs = some (exponent, rest)) : rest.length ≤ cs.length := by
  have split := length_spanDigits cs
  unfold scanExponentDigits at read
  split at read
  · simp at read
  · rename_i found
    simp only [Option.some.injEq, Prod.mk.injEq] at read
    simp only [found] at split
    rw [← read.2]
    omega

theorem length_le_of_scanExponent {cs rest : List Char} {exponent : Option Exponent}
    (read : scanExponent cs = some (exponent, rest)) : rest.length ≤ cs.length := by
  unfold scanExponent at read
  split at read
  · split at read
    · split at read
      all_goals
        have := length_le_of_scanExponentDigits read
        simp only [List.length_cons] at *
        omega
    · simp only [Option.some.injEq, Prod.mk.injEq] at read
      exact Nat.le_of_eq (congrArg List.length read.2.symm)
  · simp only [Option.some.injEq, Prod.mk.injEq] at read
    exact Nat.le_of_eq (congrArg List.length read.2.symm)

theorem length_lt_of_scanUnsigned {negative : Bool} {cs rest : List Char} {numeral : Numeral}
    (read : scanUnsigned negative cs = some (numeral, rest)) : rest.length < cs.length := by
  have split := length_spanDigits cs
  unfold scanUnsigned at read
  split at read
  rename_i whole afterWhole found
  simp only [found] at split
  split at read
  · rename_i started
    have nonempty : 0 < whole.length := by
      cases whole with
      | nil => simp [wellStarted] at started
      | cons => simp
    split at read
    · simp at read
    · rename_i readFraction
      split at read
      · simp at read
      · rename_i readExponent
        have := length_le_of_scanFraction readFraction
        have := length_le_of_scanExponent readExponent
        simp only [Option.some.injEq, Prod.mk.injEq] at read
        rw [← read.2]
        omega
  · simp at read

theorem length_lt_of_scan {cs rest : List Char} {numeral : Numeral}
    (read : scan cs = some (numeral, rest)) : rest.length < cs.length := by
  unfold scan at read
  split at read
  · have := length_lt_of_scanUnsigned read
    simp only [List.length_cons]
    omega
  · exact length_lt_of_scanUnsigned read

/-- A significand of at most 64 bits, and the decimal exponent that goes with it. -/
structure Scaled where
  significand : Nat
  exponent : Int
  complete : Bool

/-- Takes in one more digit. The first digit that does not fit, and all after it, are dropped: each
of them adds `dropped` to the exponent, while a digit that fits adds `kept`. -/
def Scaled.push (kept dropped : Int) (s : Scaled) (digit : Nat) : Scaled :=
  let next := s.significand * 10 + digit
  if s.complete && next < Nat.pow 2 64 then ⟨next, s.exponent + kept, true⟩
  else ⟨s.significand, s.exponent + dropped, false⟩

def wholeScaled (numeral : Numeral) : Scaled :=
  numeral.whole.foldl (Scaled.push 0 1) ⟨0, 0, true⟩

def mantissa (numeral : Numeral) : Scaled :=
  let whole := numeral.wholeScaled
  (numeral.fraction.getD []).foldl (Scaled.push (-1) 0) { whole with complete := true }

def clampExponent (e : Int) : Int :=
  max (-(Int.pow 2 31)) (min (Int.pow 2 31 - 1) e)

def powerOfTen (n : Nat) : Float := Float.ofScientific 1 false n

/-- Scales a double by a power of ten, or fails if it overflows. Powers below `10 ^ -308` are
divided out in several steps. -/
def scaleByTen? (f : Float) (exponent : Int) : Option Float :=
  if exponent.natAbs ≤ 308 then
    if 0 ≤ exponent then
      let product := f * powerOfTen exponent.toNat
      if product.isInf then none else some product
    else some (f / powerOfTen (-exponent).toNat)
  else if f == 0.0 then some f
  else if 0 ≤ exponent then none
  else scaleByTen? (f / powerOfTen 308) (exponent + 308)
termination_by exponent.natAbs
decreasing_by omega

/-- The double that a significand and a decimal exponent stand for, with the sign of the numeral. -/
def signedDouble? (negative : Bool) (significand : Nat) (exponent : Int) : Option Number :=
  (scaleByTen? (Float.ofNat significand) exponent).map fun f =>
    .float (.ofFloat (if negative then -f else f))

def Exponent.value? (e : Exponent) : Option Int :=
  let magnitude : Nat := e.digits.foldl (fun n d => n * 10 + d) 0
  if Nat.pow 2 31 ≤ magnitude then none
  else some (if e.negative then -(magnitude : Int) else magnitude)

/-- The value of a numeral; `none` if it is too large for a double. -/
def value? (numeral : Numeral) : Option Number :=
  match numeral.fraction, numeral.exponent with
  | none, none =>
    let whole := numeral.wholeScaled
    if !whole.complete then signedDouble? numeral.negative whole.significand whole.exponent
    else if !numeral.negative then some (.int whole.significand)
    else if whole.significand ≠ 0 ∧ whole.significand ≤ Nat.pow 2 63 then
      some (.int (-(whole.significand : Int)))
    else signedDouble? true whole.significand 0
  | _, none =>
    let m := numeral.mantissa
    signedDouble? numeral.negative m.significand m.exponent
  | _, some e =>
    let m := numeral.mantissa
    match e.value? with
    | some shift =>
      signedDouble? numeral.negative m.significand (clampExponent (m.exponent + shift))
    | none =>
      if m.significand ≠ 0 ∧ !e.negative then none
      else signedDouble? numeral.negative 0 0

end Numeral

end SchemaOutline.Json
