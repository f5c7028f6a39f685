/-! # White space

A text is trimmed, and a setting is judged blank, by the Unicode property `White_Space`, which
holds of twenty-five characters. Core's `Char.isWhitespace` knows only the ASCII ones.
-/

namespace DriverCompat.Text

/-- The characters that have the Unicode property `White_Space`. -/
def isBlank (c : Char) : Bool :=
  let n := c.toNat
  (0x09 ≤ n && n ≤ 0x0D) || n == 0x20 || n == 0x85 || n == 0xA0 || n == 0x1680 ||
    (0x2000 ≤ n && n ≤ 0x200A) || n == 0x2028 || n == 0x2029 || n == 0x202F || n == 0x205F ||
    n == 0x3000

/-- A text of white space alone, the empty text included. -/
def isBlankText (text : String) : Bool := text.toList.all isBlank

/-- The text without the white space at its two ends. -/
def trim (text : List Char) : List Char :=
  ((text.dropWhile isBlank).reverse.dropWhile isBlank).reverse

end DriverCompat.Text
