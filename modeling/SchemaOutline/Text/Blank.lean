/-! Unicode white space, and trimming. -/

set_option autoImplicit false

namespace SchemaOutline.Text

def isBlank (c : Char) : Bool :=
  let code := c.toNat
  (0x09 ≤ code && code ≤ 0x0D) || code == 0x20 || code == 0x85 || code == 0xA0 || code == 0x1680 ||
    (0x2000 ≤ code && code ≤ 0x200A) || code == 0x2028 || code == 0x2029 || code == 0x202F ||
    code == 0x205F || code == 0x3000

def trimFront (chars : List Char) : List Char := chars.dropWhile isBlank

def trim (text : String) : String :=
  String.ofList (trimFront (trimFront text.toList).reverse).reverse

/-- The text with the letters A to Z in lower case; other letters stay as they are. -/
def lowerAscii (text : String) : String := String.ofList (text.toList.map Char.toLower)

end SchemaOutline.Text
