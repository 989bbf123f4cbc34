import FieldResolution.Document.Basic
import FieldResolution.Number.Shortest

/-!
# Texts and documents inside messages

How a value is shown in an error message.  `literal` quotes every text; `plain` shows a text that
stands alone as it is.

A quoted text stands between two equal marks: apostrophes, unless it holds an apostrophe and no
double quote.  The mark and the backslash are escaped, the usual line characters have short escapes,
and the other control characters, the no-break space and the soft hyphen are written with two
hexadecimal digits.
-/

namespace FieldResolution

namespace Text

/-- The mark around a quoted text. -/
def quoteMark (s : List Char) : Char :=
  if s.contains '\x27' && !s.contains '\x22' then '\x22' else '\x27'

/-- Characters that are shown by their number. -/
def isHidden (c : Char) : Bool :=
  c.toNat < 0x20 || (0x7F ≤ c.toNat && c.toNat ≤ 0xA0) || c.toNat == 0xAD

/-- A character inside the given marks. -/
def escapeChar (mark c : Char) : List Char :=
  if c == mark || c == '\\' then ['\\', c]
  else if c == '\n' then ['\\', 'n']
  else if c == '\r' then ['\\', 'r']
  else if c == '\t' then ['\\', 't']
  else if isHidden c then
    ['\\', 'x', Nat.digitChar (c.toNat / 16), Nat.digitChar (c.toNat % 16)]
  else [c]

/-- The text between its marks. -/
def quotedChars (s : List Char) : List Char :=
  quoteMark s :: s.flatMap (escapeChar (quoteMark s)) ++ [quoteMark s]

/-- The text between its marks. -/
def quoted (s : String) : String := String.ofList (quotedChars s.toList)

end Text

namespace Scalar

/-- The scalar as a message shows it, texts quoted. -/
def literal : Scalar → String
  | .null => "None"
  | .bool b => if b then "True" else "False"
  | .int n => toString n
  | .real x => x.text
  | .text s => Text.quoted s

end Scalar

namespace Document

mutual

/-- The document as a message shows it, texts quoted. -/
def literal : Document → String
  | .scalar s => s.literal
  | .list items => "[" ++ ", ".intercalate (literals items) ++ "]"
  | .mapping entries => "\x7b" ++ ", ".intercalate (entryLiterals entries) ++ "\x7d"

/-- The literals of the items of a list. -/
def literals : List Document → List String
  | [] => []
  | d :: rest => d.literal :: literals rest

/-- The literals of the entries of a mapping. -/
def entryLiterals : List (Scalar × Document) → List String
  | [] => []
  | (k, d) :: rest => (k.literal ++ ": " ++ d.literal) :: entryLiterals rest

end

/-- The document as a message shows it, a text that stands alone as it is. -/
def plain : Document → String
  | .scalar (.text s) => s
  | d => d.literal

end Document

end FieldResolution
