/-!
# White space and blank text

Two classes of white space are in use.

* `isWhiteSpace` is the Unicode property of that name. It is dropped around numbers.
* `isBlankChar` also holds the four information separators U+001C to U+001F. A text filter made
  only of these characters counts as not given.
-/

namespace ChargingReport

/-- The code points with the property `White_Space`, as closed ranges. -/
def whiteSpaceRanges : List (Nat × Nat) :=
  [(0x0009, 0x000D), (0x0020, 0x0020), (0x0085, 0x0085), (0x00A0, 0x00A0), (0x1680, 0x1680),
    (0x2000, 0x200A), (0x2028, 0x2029), (0x202F, 0x202F), (0x205F, 0x205F), (0x3000, 0x3000)]

/-- The Unicode property `White_Space`. -/
def isWhiteSpace (c : Char) : Bool :=
  whiteSpaceRanges.any fun range => range.1 ≤ c.toNat && c.toNat ≤ range.2

/-- White space, or one of the information separators U+001C to U+001F. -/
def isBlankChar (c : Char) : Bool :=
  isWhiteSpace c || (0x001C ≤ c.toNat && c.toNat ≤ 0x001F)

/-- Whether no character of the text is visible. The empty text is blank. -/
def isBlank (s : String) : Bool := s.toList.all isBlankChar

/-- Drops the characters of a class at both ends. -/
def trimChars (drop : Char → Bool) (cs : List Char) : List Char :=
  ((cs.dropWhile drop).reverse.dropWhile drop).reverse

end ChargingReport
