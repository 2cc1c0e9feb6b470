import SchemaOutline.Entity.SignatureSet
import SchemaOutline.Numeric.Hex

/-! Fingerprints of signature sets: a 64-bit hash of their texts in ascending order. -/

set_option autoImplicit false

namespace SchemaOutline

/-- A hash of a signature set. -/
structure Fingerprint where
  value : UInt64
deriving DecidableEq, Repr, Inhabited

namespace Fingerprint

def multiplier : UInt64 := 0xf1357aea2e62a9c5

def seeds : UInt64 × UInt64 := (0x243f6a8885a308d3, 0x13198a2e03707344)

def blockMask : UInt64 := 0xa4093822299f31d0

def add (state word : UInt64) : UInt64 := (state + word) * multiplier

/-- The low half of a 128-bit product, combined with the high half. -/
def mix (x y : UInt64) : UInt64 :=
  let product := x.toNat * y.toNat
  UInt64.ofNat product ^^^ UInt64.ofNat (product >>> 64)

def byteAt (bytes : ByteArray) (position : Nat) : UInt64 :=
  if inside : position < bytes.size then (bytes[position]).toUInt64 else 0

/-- The number that `count` bytes from a position on stand for, least significant byte first. -/
def wordAt (bytes : ByteArray) (position : Nat) : (count : Nat) → UInt64
  | 0 => 0
  | count + 1 => byteAt bytes position ||| (wordAt bytes (position + 1) count <<< 8)

def addBlocks (bytes : ByteArray) (halves : UInt64 × UInt64) (position : Nat) :
    (blocks : Nat) → UInt64 × UInt64
  | 0 => halves
  | blocks + 1 =>
    let mixed := mix (halves.1 ^^^ wordAt bytes position 8)
      (blockMask ^^^ wordAt bytes (position + 8) 8)
    addBlocks bytes (halves.2, mixed) (position + 16) blocks

/-- The two halves after the whole of a text. -/
def halves (bytes : ByteArray) : UInt64 × UInt64 :=
  let size := bytes.size
  let (first, second) := seeds
  if size = 0 then (first, second)
  else if size < 4 then
    (first ^^^ byteAt bytes 0,
      second ^^^ ((byteAt bytes (size - 1) <<< 8) ||| byteAt bytes (size / 2)))
  else if size < 8 then
    (first ^^^ wordAt bytes 0 4, second ^^^ wordAt bytes (size - 4) 4)
  else if size ≤ 16 then
    (first ^^^ wordAt bytes 0 8, second ^^^ wordAt bytes (size - 8) 8)
  else
    let (left, right) := addBlocks bytes seeds 0 ((size - 1) / 16)
    (left ^^^ wordAt bytes (size - 16) 8, right ^^^ wordAt bytes (size - 8) 8)

def ofBytes (bytes : ByteArray) : UInt64 :=
  let (left, right) := halves bytes
  mix left right ^^^ UInt64.ofNat bytes.size

def addText (state : UInt64) (text : String) : UInt64 :=
  add (add state (ofBytes text.toUTF8)) 0xff

def turn (word : UInt64) : UInt64 := (word <<< 26) ||| (word >>> 38)

/-- The fingerprint of a set. -/
def ofSet (set : SignatureSet) : Fingerprint :=
  ⟨turn (set.signatures.foldl addText (add 0 (UInt64.ofNat set.size)))⟩

def hex (fingerprint : Fingerprint) : String := Hex.ofWord fingerprint.value

end Fingerprint

end SchemaOutline
