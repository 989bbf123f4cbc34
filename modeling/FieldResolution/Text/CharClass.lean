/-!
# Classes of characters

The blank characters, the trimming that uses them, and the decimal digits.  `isWhiteSpace` is the
Unicode property `White_Space`; `isBlank` adds the four information separators.  `trim p s` removes
the characters of a class from both ends of `s` and touches nothing between.  Every decimal notation
has its ten digits in a row, so the table of digits holds the zeros only.
-/

namespace FieldResolution

namespace Text

/-- The Unicode property `White_Space`. -/
def isWhiteSpace (c : Char) : Bool :=
  let n := c.toNat
  (0x09 ≤ n && n ≤ 0x0D) || n == 0x20 || n == 0x85 || n == 0xA0 || n == 0x1680 ||
    (0x2000 ≤ n && n ≤ 0x200A) || n == 0x2028 || n == 0x2029 || n == 0x202F || n == 0x205F ||
    n == 0x3000

/-- White space or one of the information separators U+001C to U+001F. -/
def isBlank (c : Char) : Bool :=
  isWhiteSpace c || (0x1C ≤ c.toNat && c.toNat ≤ 0x1F)

/-- Removes the leading characters of a class. -/
def trimStart (p : Char → Bool) (s : List Char) : List Char := s.dropWhile p

/-- Removes the trailing characters of a class. -/
def trimEnd (p : Char → Bool) (s : List Char) : List Char := (s.reverse.dropWhile p).reverse

/-- Removes the characters of a class from both ends. -/
def trim (p : Char → Bool) (s : List Char) : List Char := trimEnd p (trimStart p s)

theorem length_trimStart_le (p : Char → Bool) (s : List Char) :
    (trimStart p s).length ≤ s.length :=
  (List.dropWhile_sublist p).length_le

theorem length_trimEnd_le (p : Char → Bool) (s : List Char) :
    (trimEnd p s).length ≤ s.length := by
  simpa [trimEnd] using (List.dropWhile_sublist p (l := s.reverse)).length_le

theorem length_trim_le (p : Char → Bool) (s : List Char) : (trim p s).length ≤ s.length :=
  Nat.le_trans (length_trimEnd_le p _) (length_trimStart_le p s)

/-- The zeros of the decimal notations. -/
def decimalZeros : List Nat :=
  [0x30, 0x660, 0x6F0, 0x7C0, 0x966, 0x9E6, 0xA66, 0xAE6, 0xB66, 0xBE6, 0xC66, 0xCE6, 0xD66,
    0xDE6, 0xE50, 0xED0, 0xF20, 0x1040, 0x1090, 0x17E0, 0x1810, 0x1946, 0x19D0, 0x1A80, 0x1A90,
    0x1B50, 0x1BB0, 0x1C40, 0x1C50, 0xA620, 0xA8D0, 0xA900, 0xA9D0, 0xA9F0, 0xAA50, 0xABF0,
    0xFF10, 0x104A0, 0x10D30, 0x11066, 0x110F0, 0x11136, 0x111D0, 0x112F0, 0x11450, 0x114D0,
    0x11650, 0x116C0, 0x11730, 0x118E0, 0x11950, 0x11C50, 0x11D50, 0x11DA0, 0x16A60, 0x16AC0,
    0x16B50, 0x1D7CE, 0x1D7D8, 0x1D7E2, 0x1D7EC, 0x1D7F6, 0x1E140, 0x1E2F0, 0x1E950, 0x1FBF0]

/-- Is this a digit of a decimal notation? -/
def isDecimalDigit (c : Char) : Bool :=
  decimalZeros.any fun n => decide (n ≤ c.toNat) && decide (c.toNat < n + 10)

end Text

end FieldResolution
