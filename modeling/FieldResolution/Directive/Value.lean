import FieldResolution.Directive.IntegerText
import FieldResolution.Directive.Violation

/-!
# Reading single values

Readers of truth values, integers and texts.  A truth value may be written as a word or as a
number that is zero or one, and an integer as a text that spells it or as a number with nothing
after its point.
-/

namespace FieldResolution

namespace Checked

/-- The words for a truth value, in any case of their ASCII letters. -/
def boolOfWord? (s : String) : Option Bool :=
  let word := s.map Char.toLower
  if ["0", "off", "f", "false", "n", "no"].contains word then some false
  else if ["1", "on", "t", "true", "y", "yes"].contains word then some true
  else none

/-- A truth value that is given by an integer. -/
def boolOfInt (n : Int) : Checked Bool :=
  if n = 0 then accepted false
  else if n = 1 then accepted true
  else if isWordSized n then refuse .unreadableBool
  else refuse .notBool

/-- The integer that a number written with a point stands for: one that is strictly between the
least number of 64 bits and the first that is too large. -/
def intOfReal (x : Binary64) : Checked Int :=
  match x.integral? with
  | none => refuse .fractionalInt
  | some n => if -wordBound < n ∧ n < wordBound then accepted n else refuse .oversizedInt

def bool : Document → Checked Bool
  | .scalar (.bool b) => accepted b
  | .scalar (.int n) => boolOfInt n
  | .scalar (.real x) =>
    match intOfReal x with
    | accepted n => boolOfInt n
    | refused _ => refuse .notBool
  | .scalar (.text s) =>
    match boolOfWord? s with
    | some b => accepted b
    | none => refuse .unreadableBool
  | _ => refuse .notBool

def int : Document → Checked Int
  | .scalar (.int n) => accepted n
  | .scalar (.bool b) => accepted (if b then 1 else 0)
  | .scalar (.real x) => intOfReal x
  | .scalar (.text s) =>
    match IntegerText.read s with
    | .integer n => accepted n
    | .oversized => refuse .oversizedInt
    | .unreadable => refuse .unreadableInt
  | _ => refuse .notInt

def text : Document → Checked String
  | .scalar (.text s) => accepted s
  | _ => refuse .notText

end Checked

end FieldResolution
