import FieldResolution.Document.Literal

/-!
# Options and their faults

What options a command knows, and what can be wrong with the words that are given to it.
-/

namespace FieldResolution

/-- An option: its spellings, whether a value follows it, which values it takes if not all, and
whether nothing after it is looked at. -/
structure OptionSpec where
  spellings : List String
  takesValue : Bool := true
  required : Bool := false
  choices : Option (List String) := none
  isLast : Bool := false
  deriving DecidableEq, Repr

/-- How an option is named in a message. -/
def OptionSpec.label (o : OptionSpec) : String := "/".intercalate o.spellings

/-- What can be wrong with the words of a command line. -/
inductive UsageFault where
  | ambiguous (word : String) (candidates : List String)
  | expectedValue (label : String)
  | unexpectedValue (label value : String)
  | invalidChoice (label value : String) (choices : List String)
  | missing (labels : List String)
  | unrecognized (words : List String)
  deriving DecidableEq, Repr

def UsageFault.message : UsageFault → String
  | ambiguous word candidates =>
    "ambiguous option: " ++ word ++ " could match " ++ ", ".intercalate candidates
  | expectedValue label => "argument " ++ label ++ ": expected one argument"
  | unexpectedValue label value =>
    "argument " ++ label ++ ": ignored explicit argument " ++ Text.quoted value
  | invalidChoice label value choices =>
    "argument " ++ label ++ ": invalid choice: " ++ Text.quoted value ++ " (choose from " ++
      ", ".intercalate (choices.map Text.quoted) ++ ")"
  | missing labels => "the following arguments are required: " ++ ", ".intercalate labels
  | unrecognized words => "unrecognized arguments: " ++ " ".intercalate words

/-- A fault in the words of a command. -/
structure UsageError where
  command : String
  fault : UsageFault
  deriving DecidableEq, Repr

def UsageError.message (e : UsageError) : String := e.command ++ ": error: " ++ e.fault.message

end FieldResolution
