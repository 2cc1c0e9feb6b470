import SchemaOutline.Numeric.Hex

/-! Double-precision numbers as bit patterns. -/

set_option autoImplicit false

namespace SchemaOutline

/-- A double-precision number, given by its bits: sign, eleven of exponent, 52 of fraction. -/
structure Binary64 where
  bits : UInt64
deriving DecidableEq, Repr, Inhabited

namespace Binary64

def ofFloat (x : Float) : Binary64 := ⟨x.toBits⟩

/-- The double nearest to an integer; of two equally near ones, the one with an even fraction. -/
def ofInt (n : Int) : Binary64 := ofFloat (Float.ofInt n)

def zero : Binary64 := ⟨0⟩

def isNegative (x : Binary64) : Bool := x.bits >>> 63 == 1

def exponentField (x : Binary64) : Nat := ((x.bits >>> 52) &&& 0x7FF).toNat

def fractionField (x : Binary64) : Nat := (x.bits &&& 0xFFFFFFFFFFFFF).toNat

def isFinite (x : Binary64) : Bool := x.exponentField != 0x7FF

def isNaN (x : Binary64) : Bool := x.exponentField == 0x7FF && x.fractionField != 0

def isZero (x : Binary64) : Bool := x.exponentField == 0 && x.fractionField == 0

def agrees (x y : Binary64) : Bool :=
  !x.isNaN && (x == y || (x.isZero && y.isZero))

def hex (x : Binary64) : String := Hex.ofWord x.bits

end Binary64

end SchemaOutline
