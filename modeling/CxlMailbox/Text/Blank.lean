/-
# CxlMailbox.Text.Blank — white space and trimming

The class is the White_Space property of Unicode, twenty-five code points. It separates the
tokens of a hexadecimal payload and is trimmed off firmware revision texts.
-/

namespace CxlMailbox.Text

set_option autoImplicit false

/-- The code points with the White_Space property, as closed ranges. -/
def blankRanges : List (Nat × Nat) :=
  [(0x09, 0x0d), (0x20, 0x20), (0x85, 0x85), (0xa0, 0xa0), (0x1680, 0x1680), (0x2000, 0x200a),
    (0x2028, 0x2029), (0x202f, 0x202f), (0x205f, 0x205f), (0x3000, 0x3000)]

/-- Whether a code point lies in one of the ranges. -/
def inRanges (ranges : List (Nat × Nat)) (code : Nat) : Bool :=
  ranges.any fun range => range.1 ≤ code && code ≤ range.2

/-- Whether a character is white space. -/
def isBlank (c : Char) : Bool := inRanges blankRanges c.toNat

/-- Twenty-five characters are white space. -/
example : (blankRanges.map fun range => range.2 + 1 - range.1).foldl (· + ·) 0 = 25 := by decide

/-- `chars` without the characters at its end that satisfy `p`. -/
def dropEndWhile (p : Char → Bool) (chars : List Char) : List Char :=
  (chars.reverse.dropWhile p).reverse

/-- A text without white space at its end. -/
def trimEnd (chars : List Char) : List Char := dropEndWhile isBlank chars

/-- A text without white space at either end. -/
def trim (chars : List Char) : List Char := trimEnd (chars.dropWhile isBlank)

example : trim "\u00a0 v1.2\u2028".toList = "v1.2".toList := by decide
example : trim "\u200bx".toList = "\u200bx".toList := by decide

end CxlMailbox.Text
