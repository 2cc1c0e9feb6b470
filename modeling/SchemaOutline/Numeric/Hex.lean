/-! Sixteen hexadecimal digits for a 64-bit word, most significant digit first. -/

set_option autoImplicit false

namespace SchemaOutline.Hex

def digit (value : Nat) : Char :=
  if value < 10 then Char.ofNat ('0'.toNat + value) else Char.ofNat ('a'.toNat + (value - 10))

def value? (c : Char) : Option Nat :=
  if '0' ≤ c ∧ c ≤ '9' then some (c.toNat - '0'.toNat)
  else if 'a' ≤ c ∧ c ≤ 'f' then some (c.toNat - 'a'.toNat + 10)
  else if 'A' ≤ c ∧ c ≤ 'F' then some (c.toNat - 'A'.toNat + 10)
  else none

def ofDigits? (digits : List Char) : Option Nat :=
  digits.foldlM (fun number c => (value? c).map (16 * number + ·)) 0

def ofNat (number : Nat) : List Char :=
  if number < 16 then [digit number] else ofNat (number / 16) ++ [digit (number % 16)]

def ofWord (word : UInt64) : String :=
  let digits := ofNat word.toNat
  String.ofList (List.replicate (16 - digits.length) '0' ++ digits)

def word? (text : String) : Option UInt64 :=
  if text.isEmpty || text.length > 16 then none
  else (ofDigits? text.toList).map UInt64.ofNat

end SchemaOutline.Hex
