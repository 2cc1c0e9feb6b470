import SchemaOutline.Numeric.Binary64

/-! Shortest decimal text of double-precision numbers, by exact integers. -/

set_option autoImplicit false

namespace SchemaOutline.Decimal

/-- A positive double without its sign, as significand times a power of two. -/
structure Magnitude where
  significand : Nat
  exponent : Int
  /-- Whether the gap to the next smaller double is half the gap to the next larger one. -/
  narrowBelow : Bool

def Magnitude.ofBinary64 (x : Binary64) : Magnitude :=
  let e := x.exponentField
  let f := x.fractionField
  if e = 0 then ⟨f, -1074, false⟩ else ⟨Nat.pow 2 52 + f, (e : Int) - 1075, f == 0 && e > 1⟩

structure Scaled where
  digits : Nat
  exponent : Int
deriving DecidableEq, Repr

def compareScaled (a : Nat) (ten : Int) (b : Nat) (two : Int) : Ordering :=
  compare (a * Nat.pow 10 ten.toNat * Nat.pow 2 (-two).toNat)
    (b * Nat.pow 2 two.toNat * Nat.pow 10 (-ten).toNat)

/-- Whether a decimal lies among the numbers that are nearer to this double than to any other. The
ends of that interval belong to it when the significand is even. -/
def Magnitude.readsBack (x : Magnitude) (d : Scaled) : Bool :=
  let low := if x.narrowBelow then 4 * x.significand - 1 else 4 * x.significand - 2
  let high := 4 * x.significand + 2
  let closed := x.significand % 2 == 0
  let aboveLow := compareScaled d.digits d.exponent low (x.exponent - 2)
  let belowHigh := compareScaled d.digits d.exponent high (x.exponent - 2)
  (aboveLow == .gt || (closed && aboveLow == .eq)) &&
    (belowHigh == .lt || (closed && belowHigh == .eq))

def Magnitude.scale (x : Magnitude) : Int :=
  let estimate := ((x.significand.log2 : Int) + x.exponent) * 1233 / 4096 - 1
  let candidates := [estimate, estimate + 1, estimate + 2, estimate + 3]
  (candidates.find? fun k => compareScaled 1 k x.significand x.exponent == .gt).getD (estimate + 4)

/-- The nearest decimal with the given exponent among the two neighbours of the number, if one reads
back; of two equally near ones, the even one. -/
def Magnitude.onGrid? (x : Magnitude) (exponent : Int) : Option Scaled :=
  let numerator := x.significand * Nat.pow 2 x.exponent.toNat * Nat.pow 10 (-exponent).toNat
  let denominator := Nat.pow 2 (-x.exponent).toNat * Nat.pow 10 exponent.toNat
  let floor := numerator / denominator
  let below : Scaled := ⟨floor, exponent⟩
  let above : Scaled := ⟨floor + 1, exponent⟩
  match x.readsBack below, x.readsBack above with
  | true, true =>
    match compare (2 * numerator) ((2 * floor + 1) * denominator) with
    | .lt => some below
    | .gt => some above
    | .eq => some (if floor % 2 = 0 then below else above)
  | true, false => some below
  | false, true => some above
  | false, false => none

def Scaled.strip (d : Scaled) : Scaled :=
  if 0 < d.digits ∧ d.digits % 10 = 0 then strip ⟨d.digits / 10, d.exponent + 1⟩ else d
termination_by d.digits
decreasing_by omega

def Magnitude.exact (x : Magnitude) : Scaled :=
  ⟨x.significand * Nat.pow 2 x.exponent.toNat * Nat.pow 5 (-x.exponent).toNat,
    -((-x.exponent).toNat : Int)⟩

/-- The shortest decimal that reads back, on the first grid of 1, 2, … 17 digits that has one. -/
def Magnitude.shortest (x : Magnitude) : Scaled :=
  let scale := x.scale
  (((List.range 17).findSome? fun (n : Nat) => x.onGrid? (scale - (n + 1))).getD x.exact).strip

/-- How decimal digits are laid out. -/
structure Layout where
  positionalFrom : Int
  positionalBelow : Int
  plusSign : Bool

def Layout.place (style : Layout) (d : Scaled) : String :=
  let digits := (toString d.digits).toList
  let count : Int := digits.length
  let leading := d.exponent + count - 1
  if style.positionalFrom ≤ leading ∧ leading < style.positionalBelow then
    if 0 ≤ d.exponent then
      String.ofList (digits ++ List.replicate d.exponent.toNat '0') ++ ".0"
    else if 0 ≤ leading then
      let whole := (leading + 1).toNat
      String.ofList (digits.take whole) ++ "." ++ String.ofList (digits.drop whole)
    else
      "0." ++ String.ofList (List.replicate (-leading - 1).toNat '0' ++ digits)
  else
    let point := if digits.length = 1 then "" else "."
    let sign := if style.plusSign && 0 ≤ leading then "+" else ""
    String.ofList (digits.take 1) ++ point ++ String.ofList (digits.drop 1) ++ "e" ++ sign ++
      toString leading

def Layout.render (style : Layout) (x : Binary64) : String :=
  let sign := if x.isNegative then "-" else ""
  if x.isZero then sign ++ "0.0"
  else sign ++ style.place (Magnitude.ofBinary64 x).shortest

end SchemaOutline.Decimal
