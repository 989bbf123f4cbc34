import FieldResolution.Command.Usage
import FieldResolution.Text.CharClass

/-!
# The words of a command line

`Word.ofText` tells what a word is to a command: an option it knows, in full, shortened to where
it is still the only one, or with more text attached; an option it does not know; or a plain word.
`Scan.ofWords` then gives every option its value and keeps what nobody claims.
-/

namespace FieldResolution

/-- What a word is to a command.  The text that is attached to an option stands behind an equals
sign, or directly behind the letter of a spelling with one dash. -/
inductive Word where
  | plain (text : String)
  | separator
  | known (spec : OptionSpec) (spelling : String) (attached : Option String)
  | stranger (text : String)
  deriving DecidableEq, Repr

namespace Word

/-- The option of a spelling. -/
def specOf? (specs : List OptionSpec) (spelling : String) : Option OptionSpec :=
  specs.find? fun o => o.spellings.contains spelling

/-- The part before the first equals sign, and the text behind it. -/
def cut (word : String) : String × Option String :=
  let cs := word.toList
  let front := String.ofList (cs.takeWhile (· != '='))
  match cs.dropWhile (· != '=') with
  | [] => (front, none)
  | _ :: value => (front, some (String.ofList value))

/-- Is this a row of decimal digits, or one with a point before its last digits? -/
def isUnsignedNumber (s : List Char) : Bool :=
  match s.dropWhile Text.isDecimalDigit with
  | [] => !s.isEmpty
  | '.' :: fraction => !fraction.isEmpty && fraction.all Text.isDecimalDigit
  | _ => false

/-- Does a word look like a negative number?  A line break at its end is not looked at. -/
def isNegativeNumber : List Char → Bool
  | '-' :: s => isUnsignedNumber (if s.getLast? = some '\n' then s.dropLast else s)
  | _ => false

/-- The options that a shortened word may stand for. -/
def candidates (specs : List OptionSpec) (word : String) : List Word :=
  let spellings := specs.flatMap fun o => o.spellings.map fun s => (o, s)
  if word.toList.take 2 = ['-', '-'] then
    let (front, attached) := cut word
    (spellings.filter fun e => front.toList.isPrefixOf e.2.toList).map fun e =>
      .known e.1 e.2 attached
  else
    let short := String.ofList (word.toList.take 2)
    (spellings.filter fun e => e.2 = short).map fun e =>
      .known e.1 e.2 (some (String.ofList (word.toList.drop 2)))

/-- The spelling by which a word was understood. -/
def spelling : Word → String
  | plain text => text
  | separator => "--"
  | known _ s _ => s
  | stranger text => text

/-- What a word is to a command with the given options. -/
def ofText (specs : List OptionSpec) (word : String) : Except UsageFault Word :=
  match word.toList with
  | [] => .ok (.plain word)
  | ['-'] => .ok (.plain word)
  | c :: _ =>
    if c != '-' then .ok (.plain word)
    else
      match specOf? specs (cut word).1 with
      | some o => .ok (.known o (cut word).1 (cut word).2)
      | none => shortened
where
  /-- A word that is no spelling of an option. -/
  shortened : Except UsageFault Word :=
    match candidates specs word with
    | [w] => .ok w
    | [] =>
      if isNegativeNumber word.toList || word.toList.contains ' ' then .ok (.plain word)
      else .ok (.stranger word)
    | ws => .error (.ambiguous word (ws.map spelling))

/-- What the words of a command line are; after two dashes every word is plain. -/
def ofTexts (specs : List OptionSpec) : List String → Except UsageFault (List Word)
  | [] => .ok []
  | word :: rest =>
    if word = "--" then .ok (.separator :: rest.map .plain)
    else do
      let w ← ofText specs word
      let ws ← ofTexts specs rest
      return w :: ws

end Word

/-- The options that were given with their values, newest last, and the words that nobody
claims. -/
structure Scan where
  given : List (String × Option String) := []
  unclaimed : List String := []

namespace Scan

/-- The options that stand together behind one dash, from one that takes no value on.  Every letter
behind it must be the spelling of another one. -/
def cluster (specs : List OptionSpec) (o : OptionSpec) :
    List Char → Except UsageFault (List OptionSpec)
  | [] => .ok [o]
  | c :: cs =>
    match Word.specOf? (specs.filter fun x => !x.takesValue) (String.ofList ['-', c]) with
    | some next => (cluster specs next cs).map (o :: ·)
    | none => .error (.unexpectedValue o.label (String.ofList (c :: cs)))

/-- An option that takes no value with those that stand together with it. -/
def switches (specs : List OptionSpec) (o : OptionSpec) (spelling : String) :
    Option String → Except UsageFault (List OptionSpec)
  | none => .ok [o]
  | some text =>
    if text = "" ∨ spelling.toList.take 2 = ['-', '-'] then
      .error (.unexpectedValue o.label text)
    else cluster specs o text.toList

/-- The value that an option takes: none if two dashes stand in its place. -/
def chosen (o : OptionSpec) (value : String) : Except UsageFault (Option String) :=
  if value = "--" then .ok none
  else
    match o.choices with
    | none => .ok (some value)
    | some choices =>
      if choices.contains value then .ok (some value)
      else .error (.invalidChoice o.label value choices)

/-- One more option. -/
def give (s : Scan) (o : OptionSpec) (value : Option String) : Scan :=
  { s with given := s.given ++ [(o.label, value)] }

/-- Was an option given? -/
def has (s : Scan) (label : String) : Bool := (s.given.lookup label).isSome

/-- The value of an option; the last time it was given counts. -/
def value? (s : Scan) (label : String) : Option String := (s.given.reverse.lookup label).join

/-- Gives every option its value and keeps the words that nobody claims. -/
def ofWords (specs : List OptionSpec) (s : Scan) : List Word → Except UsageFault Scan
  | [] => .ok s
  | .plain text :: rest => ofWords specs { s with unclaimed := s.unclaimed ++ [text] } rest
  | .separator :: rest => ofWords specs { s with unclaimed := s.unclaimed ++ ["--"] } rest
  | .stranger text :: rest => ofWords specs { s with unclaimed := s.unclaimed ++ [text] } rest
  | .known o spelling attached :: rest =>
    if o.takesValue then
      match attached, rest with
      | some value, rest | none, .plain value :: rest => do
        let value ← chosen o value
        ofWords specs (s.give o value) rest
      | none, _ => .error (.expectedValue o.label)
    else do
      let os ← switches specs o spelling attached
      let s := os.foldl (fun s o => s.give o none) s
      if os.any OptionSpec.isLast then return s else ofWords specs s rest

/-- The required options that were not given. -/
def missing (specs : List OptionSpec) (s : Scan) : List String :=
  (specs.filter fun o => o.required && !s.has o.label).map OptionSpec.label

end Scan

end FieldResolution
