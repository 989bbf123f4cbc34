import FieldResolution.Command.Words

/-!
# Invocations

The two commands and their options.  `resolve` prints the fields of a resource, `columns` the
headers of its listing; both need the model document and the name of the resource.
-/

namespace FieldResolution

/-- How the fields of a resource are printed. -/
inductive OutputFormat where
  | table
  | json
  deriving DecidableEq, Repr

/-- What a command prints. -/
inductive Action where
  | resolve (format : OutputFormat)
  | columns (wide : Bool)
  deriving DecidableEq, Repr

/-- What a command line asks for. -/
structure Invocation where
  verbose : Bool := false
  shapes : String
  config : Option String := none
  resource : String
  action : Action
  deriving DecidableEq, Repr

namespace Invocation

def program : String := "fieldgen"

def commands : List String := ["resolve", "columns"]

def helpOption : OptionSpec :=
  { spellings := ["-h", "--help"], takesValue := false, isLast := true }

def verboseOption : OptionSpec := { spellings := ["--verbose", "-v"], takesValue := false }

def shapesOption : OptionSpec := { spellings := ["--shapes"], required := true }

def configOption : OptionSpec := { spellings := ["--config"] }

def resourceOption : OptionSpec := { spellings := ["--resource"], required := true }

def formatOption : OptionSpec := { spellings := ["--format"], choices := some ["json", "table"] }

def wideOption : OptionSpec := { spellings := ["--wide"], takesValue := false }

/-- The options before the command. -/
def globalOptions : List OptionSpec := [helpOption, verboseOption]

/-- The options after a command. -/
def commandOptions (command : String) : List OptionSpec :=
  [helpOption, shapesOption, configOption, resourceOption] ++
    if command = "resolve" then [formatOption] else [wideOption]

/-- Is a word an option or what looks like one? -/
def isOption : Word → Bool
  | .known _ _ _ | .stranger _ => true
  | .plain _ | .separator => false

/-- What a command is to print. -/
def actionOf (command : String) (s : Scan) : Action :=
  if command = "resolve" then
    .resolve (if s.value? formatOption.label = some "json" then .json else .table)
  else .columns (s.has wideOption.label)

/-- A fault in the words of the program or of one of its commands. -/
def blame {α : Type} (command : String) : Except UsageFault α → Except UsageError α
  | .ok a => .ok a
  | .error fault => .error ⟨command, fault⟩

/-- The words after a command. -/
def ofCommand (before : Scan) (command : String) (words : List String) :
    Except UsageError (Option Invocation) := do
  let name := program ++ " " ++ command
  let specs := commandOptions command
  let s ← blame name (Word.ofTexts specs words >>= Scan.ofWords specs {})
  if s.has helpOption.label then return none
  match s.missing specs with
  | [] =>
    match before.unclaimed ++ s.unclaimed with
    | [] =>
      return some
        { verbose := before.has verboseOption.label
          shapes := (s.value? shapesOption.label).getD ""
          config := s.value? configOption.label
          resource := (s.value? resourceOption.label).getD ""
          action := actionOf command s }
    | words => throw ⟨program, .unrecognized words⟩
  | labels => throw ⟨name, .missing labels⟩

/-- What a command line asks for, or nothing if it asks for help. -/
def ofArguments (arguments : List String) : Except UsageError (Option Invocation) := do
  let words ← blame program (Word.ofTexts globalOptions arguments)
  let before ← blame program (Scan.ofWords globalOptions {} (words.takeWhile isOption))
  if before.has helpOption.label then return none
  match arguments.drop (words.takeWhile isOption).length with
  | [] => throw ⟨program, .missing ["command"]⟩
  | ["--"] => throw ⟨program, .missing ["command"]⟩
  | command :: rest =>
    if commands.contains command then ofCommand before command rest
    else throw ⟨program, .invalidChoice "command" command commands⟩

end Invocation

end FieldResolution
