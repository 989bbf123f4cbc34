import FieldResolution.Document.Basic

/-!
# Reading JSON

`Document.parse?` reads one document in JSON notation and keeps the order of its keys.  A number
is an integer exactly when it is written with neither a point nor an exponent.  The text is first
cut into tokens, then the tokens are read as one value with nothing left over.
-/

namespace FieldResolution

namespace Document

/-- The words of the JSON notation. -/
inductive Token where
  | openList
  | closeList
  | openMapping
  | closeMapping
  | comma
  | colon
  | scalar (value : Scalar)

/-! ## Numbers -/

/-- The value of a row of decimal digits. -/
def digitsValue (s : List Char) : Nat := s.foldl (fun n c => 10 * n + (c.toNat - 0x30)) 0

/-- The exponent of a number: nothing, or `e`, a sign and digits. -/
def exponent? : List Char → Option Int
  | [] => some 0
  | e :: rest =>
    if e == 'e' || e == 'E' then
      let (negative, digits) := match rest with
        | '-' :: r => (true, r)
        | '+' :: r => (false, r)
        | r => (false, r)
      if digits.isEmpty || !digits.all Char.isDigit then none
      else some (if negative then -(digitsValue digits : Int) else digitsValue digits)
    else none

/-- A number in JSON notation. -/
def number? (word : List Char) : Option Scalar :=
  let (negative, digits) := match word with
    | '-' :: r => (true, r)
    | r => (false, r)
  let real (n : Nat) (exponent : Int) := (Binary64.ofDecimal? negative n exponent).map Scalar.real
  let whole := digits.takeWhile Char.isDigit
  if whole.isEmpty || (whole.length > 1 && whole.head? == some '0') then none
  else
    match digits.dropWhile Char.isDigit with
    | [] =>
      let n : Int := digitsValue whole
      some (.int (if negative then -n else n))
    | '.' :: rest =>
      let fraction := rest.takeWhile Char.isDigit
      if fraction.isEmpty then none
      else (exponent? (rest.dropWhile Char.isDigit)).bind fun e =>
        real (digitsValue (whole ++ fraction)) (e - fraction.length)
    | rest => (exponent? rest).bind (real (digitsValue whole))

/-- A number or one of the three literal names. -/
def word? (word : List Char) : Option Scalar :=
  if word == "null".toList then some .null
  else if word == "true".toList then some (.bool true)
  else if word == "false".toList then some (.bool false)
  else number? word

/-! ## Texts -/

/-- The value of a hexadecimal digit. -/
def hexValue? (c : Char) : Option Nat :=
  if c.isDigit then some (c.toNat - 0x30)
  else if 'a' ≤ c && c ≤ 'f' then some (c.toNat - 0x61 + 10)
  else if 'A' ≤ c && c ≤ 'F' then some (c.toNat - 0x41 + 10)
  else none

/-- The character that a backslash and a letter stand for. -/
def shortEscape? : Char → Option Nat
  | '\x22' => some 0x22
  | '\\' => some 0x5C
  | '/' => some 0x2F
  | 'b' => some 0x08
  | 'f' => some 0x0C
  | 'n' => some 0x0A
  | 'r' => some 0x0D
  | 't' => some 0x09
  | _ => none

/-- The code units up to the closing mark of a text, and what follows the mark. -/
def textUnits : List Char → Option (List Nat × List Char)
  | [] => none
  | '\x22' :: rest => some ([], rest)
  | '\\' :: 'u' :: a :: b :: c :: d :: rest => do
    let unit := 4096 * (← hexValue? a) + 256 * (← hexValue? b) + 16 * (← hexValue? c) +
      (← hexValue? d)
    let (units, after) ← textUnits rest
    some (unit :: units, after)
  | '\\' :: c :: rest => do
    let unit ← shortEscape? c
    let (units, after) ← textUnits rest
    some (unit :: units, after)
  | c :: rest =>
    if c.toNat < 0x20 || c == '\\' then none
    else do
      let (units, after) ← textUnits rest
      some (c.toNat :: units, after)

/-- Characters from code units: a high and a low surrogate in a row are one character, and a
surrogate that stands alone is the replacement character. -/
def joinUnits : List Nat → List Char
  | [] => []
  | [u] => [if 0xD800 ≤ u && u ≤ 0xDFFF then '\uFFFD' else Char.ofNat u]
  | u :: v :: rest =>
    if 0xD800 ≤ u && u ≤ 0xDBFF && 0xDC00 ≤ v && v ≤ 0xDFFF then
      Char.ofNat (0x10000 + 0x400 * (u - 0xD800) + (v - 0xDC00)) :: joinUnits rest
    else
      (if 0xD800 ≤ u && u ≤ 0xDFFF then '\uFFFD' else Char.ofNat u) :: joinUnits (v :: rest)

theorem length_of_textUnits {s after : List Char} {units : List Nat}
    (h : textUnits s = some (units, after)) : after.length < s.length := by
  fun_induction textUnits s generalizing units after with
  | case1 => simp at h
  | case2 rest => simp at h; simp [h.2]
  | case3 a b c d rest ih =>
    simp only [Option.bind_eq_bind, Option.bind_eq_some_iff, Option.some.injEq,
      Prod.mk.injEq] at h
    obtain ⟨_, _, _, _, _, _, _, _, ⟨us, r⟩, hr, _, rfl⟩ := h
    have := ih hr
    simp only [List.length_cons]
    omega
  | case4 c rest _ ih =>
    simp only [Option.bind_eq_bind, Option.bind_eq_some_iff, Option.some.injEq,
      Prod.mk.injEq] at h
    obtain ⟨_, _, ⟨us, r⟩, hr, _, rfl⟩ := h
    have := ih hr
    simp only [List.length_cons]
    omega
  | case5 => simp at h
  | case6 c rest _ _ _ _ ih =>
    simp only [Option.bind_eq_bind, Option.bind_eq_some_iff, Option.some.injEq,
      Prod.mk.injEq] at h
    obtain ⟨⟨us, r⟩, hr, _, rfl⟩ := h
    have := ih hr
    simp only [List.length_cons]
    omega

/-! ## Tokens -/

/-- The token of a punctuation character. -/
def punctuation? : Char → Option Token
  | '[' => some .openList
  | ']' => some .closeList
  | '\x7b' => some .openMapping
  | '\x7d' => some .closeMapping
  | ',' => some .comma
  | ':' => some .colon
  | _ => none

/-- Characters that may stand in a number or a literal name. -/
def isWordChar (c : Char) : Bool := c.isAlphanum || c == '-' || c == '+' || c == '.'

/-- The tokens of a text, if every part of it is one. -/
def tokens? (s : List Char) : Option (List Token) :=
  match s with
  | [] => some []
  | c :: rest =>
    if c == ' ' || c == '\n' || c == '\r' || c == '\t' then tokens? rest
    else
      match punctuation? c with
      | some t => (tokens? rest).map (t :: ·)
      | none =>
        if c == '\x22' then
          match h : textUnits rest with
          | some (units, after) =>
            have := length_of_textUnits h
            (tokens? after).map (.scalar (.text (String.ofList (joinUnits units))) :: ·)
          | none => none
        else
          have := (List.dropWhile_sublist isWordChar (l := rest)).length_le
          match word? (c :: rest.takeWhile isWordChar) with
          | some value => (tokens? (rest.dropWhile isWordChar)).map (.scalar value :: ·)
          | none => none
termination_by s.length
decreasing_by all_goals (simp_wf <;> omega)

/-! ## Values -/

mutual

/-- The value at the head of some tokens, and the tokens after it.  The number bounds the nesting
and the length of what is read. -/
def readValue : Nat → List Token → Option (Document × List Token)
  | 0, _ => none
  | _ + 1, .scalar s :: rest => some (.scalar s, rest)
  | _ + 1, .openList :: .closeList :: rest => some (.list [], rest)
  | _ + 1, .openMapping :: .closeMapping :: rest => some (.mapping [], rest)
  | bound + 1, .openList :: rest => do
    let (items, after) ← readItems bound rest
    some (.list items, after)
  | bound + 1, .openMapping :: rest => do
    let (entries, after) ← readEntries bound rest
    some (.ofEntries entries, after)
  | _ + 1, _ => none

/-- The remaining items of a list, through its closing bracket. -/
def readItems : Nat → List Token → Option (List Document × List Token)
  | 0, _ => none
  | bound + 1, tokens => do
    let (item, after) ← readValue bound tokens
    match after with
    | .closeList :: rest => some ([item], rest)
    | .comma :: rest =>
      let (items, last) ← readItems bound rest
      some (item :: items, last)
    | _ => none

/-- The remaining entries of a mapping, through its closing brace. -/
def readEntries : Nat → List Token → Option (List (Scalar × Document) × List Token)
  | bound + 1, .scalar (.text key) :: .colon :: tokens => do
    let (value, after) ← readValue bound tokens
    match after with
    | .closeMapping :: rest => some ([(.text key, value)], rest)
    | .comma :: rest =>
      let (entries, last) ← readEntries bound rest
      some ((.text key, value) :: entries, last)
    | _ => none
  | _, _ => none

end

/-- The document that a text in JSON notation holds. -/
def parse? (s : String) : Option Document :=
  match tokens? s.toList with
  | none => none
  | some tokens =>
    match readValue (2 * tokens.length + 2) tokens with
    | some (d, []) => some d
    | _ => none

end Document

end FieldResolution
