import FieldResolution.Text.CharClass

/-!
# Integers written as texts

The integer that a text spells.  A spelling is made plain in five steps: white space around it, a
plus sign, leading zeros, a fraction of zeros, and low lines between digits are removed, in this
order.  A plain spelling is a zero, or a digit from 1 to 9 and more digits, with a minus sign where
the integer is negative.  Low lines among leading zeros go with the zeros, whatever their number.
One minus sign may stand before the leading zeros or behind them; in the second case no more zeros
may lead behind it.
-/

namespace FieldResolution

namespace IntegerText

/-- Removes a plus sign; one that a minus sign follows is refused. -/
def dropPlus? : List Char → Option (List Char)
  | '+' :: '-' :: _ => none
  | '+' :: rest => some rest
  | s => some s

/-- A digit that is no zero. -/
def isLeading (c : Char) : Bool := c.isDigit && c != '0'

/-- What follows some leading zeros and low lines, the last of which is given.  It stays where
nothing or a fraction follows. -/
def afterZeros? (last : Char) : List Char → Option (List Char)
  | [] => some [last]
  | c :: rest =>
    if c == '0' || c == '_' then afterZeros? c rest
    else if isLeading c || c == '-' then some (c :: rest)
    else if c == '.' then some (last :: c :: rest)
    else none

/-- Removes leading zeros from a text that begins with a digit. -/
def dropZeros? : List Char → Option (List Char)
  | [] => none
  | c :: rest =>
    if c == '0' then afterZeros? c rest else if isLeading c then some (c :: rest) else none

/-- Removes leading zeros behind a minus sign, if there is one. -/
def dropSignedZeros? : List Char → Option (List Char)
  | '-' :: rest => (dropZeros? rest).map ('-' :: ·)
  | s => dropZeros? s

/-- Removes a point with nothing but zeros, and at least one, behind it. -/
def dropZeroFraction (s : List Char) : List Char :=
  match s.dropWhile (· != '.') with
  | _ :: '0' :: zeros => if zeros.all (· == '0') then s.takeWhile (· != '.') else s
  | _ => s

/-- Do two low lines stand side by side? -/
def hasDoubledLine : List Char → Bool
  | a :: b :: rest => (a == '_' && b == '_') || hasDoubledLine (b :: rest)
  | _ => false

/-- Removes single low lines between other characters. -/
def dropLines? (s : List Char) : Option (List Char) :=
  if s.head? = some '_' ∨ s.getLast? = some '_' ∨ hasDoubledLine s = true then none
  else some (s.filter (· != '_'))

/-- The plain spelling of the integer that a trimmed text spells, where it spells one. -/
def plain? (s : List Char) : Option (List Char) :=
  (dropPlus? s).bind fun s => (dropSignedZeros? s).bind fun s => dropLines? (dropZeroFraction s)

/-- The natural number of a plain spelling. -/
def natOfPlain? : List Char → Option Nat
  | ['0'] => some 0
  | [] => none
  | c :: rest =>
    if isLeading c && rest.all Char.isDigit then
      some ((c :: rest).foldl (fun n d => 10 * n + (d.toNat - 0x30)) 0)
    else none

/-- The integer of a plain spelling. -/
def intOfPlain? : List Char → Option Int
  | '-' :: digits => (natOfPlain? digits).map fun n => -(n : Int)
  | digits => (natOfPlain? digits).map Int.ofNat

/-- The number of digits that an integer may have. -/
def maxDigits : Nat := 4300

/-- Does a text begin with a plain spelling of too many digits? -/
def isOversized (s : List Char) : Bool :=
  let digits := (if s.head? = some '-' then s.tail else s).takeWhile Char.isDigit
  digits.head?.any isLeading && decide (maxDigits < digits.length)

/-- What a text spells. -/
inductive Spelled where
  | integer (value : Int)
  | oversized
  | unreadable
  deriving DecidableEq, Repr

/-- Reads a text as an integer.  A text that itself begins with too many digits is too large,
whatever follows them; one that has too many only when it has been made plain is not read. -/
def read (s : String) : Spelled :=
  if isOversized s.toList then .oversized
  else
    match (plain? (Text.trim Text.isWhiteSpace s.toList)).filter fun t => !isOversized t with
    | none => .unreadable
    | some t => ((intOfPlain? t).map Spelled.integer).getD .unreadable

example : read " 007 " = .integer 7 ∧ read "-1_000.00" = .integer (-1000) ∧
    read "+00__7" = .integer 7 ∧ read "0-1" = .integer (-1) ∧ read "-00" = .integer 0 := by
  decide +kernel

example : read "1__0" = .unreadable ∧ read "5." = .unreadable ∧ read ".0" = .unreadable ∧
    read "-_1" = .unreadable ∧ read "1._0" = .unreadable ∧ read "0-01" = .unreadable := by
  decide +kernel

end IntegerText

end FieldResolution
