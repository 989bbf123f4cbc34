import FieldResolution.Directive.Violation

/-!
# Reading records and dictionaries

A record has declared fields: one may be required, may be absent, or may be absent or null.  After
the fields in their declared order comes a violation for every key that no field claims, in the
order of the document.  A dictionary maps any text to a value of one kind; the value under a key
that is no text is read all the same.
-/

namespace FieldResolution

namespace Checked

/-- A field that has to be there. -/
def required {α : Type} (entries : List (Scalar × Document)) (key : String)
    (read : Document → Checked α) : Checked α :=
  inside (.key key) <|
    match Document.lookup entries key with
    | some d => read d
    | none => refuse .missing

/-- A field with a value for when it is absent. -/
def withDefault {α : Type} (entries : List (Scalar × Document)) (key : String) (default : α)
    (read : Document → Checked α) : Checked α :=
  match Document.lookup entries key with
  | some d => inside (.key key) (read d)
  | none => accepted default

/-- A value that may be null. -/
def orNull {α : Type} (read : Document → Checked α) : Document → Checked (Option α)
  | .scalar .null => accepted none
  | d => (read d).map some

/-- A field that may be absent or null. -/
def optional {α : Type} (entries : List (Scalar × Document)) (key : String)
    (read : Document → Checked α) : Checked (Option α) :=
  withDefault entries key none (orNull read)

/-- What is wrong with the key of a record whose fields are declared. -/
def strangerAt (declared : List String) : Scalar → List Violation
  | .text s => if declared.contains s then [] else [⟨[.key s], .unknownKey⟩]
  | k => [⟨[Step.ofKey k], .keyNotText⟩]

/-- What is wrong with the keys of a record whose fields are declared. -/
def strangers (declared : List String) (entries : List (Scalar × Document)) : List Violation :=
  entries.flatMap fun e => strangerAt declared e.1

/-- A value, unless something else is wrong. -/
def also {α : Type} (c : Checked α) (vs : List Violation) : Checked α :=
  match c, vs with
  | accepted a, [] => accepted a
  | accepted _, vs => refused vs
  | refused ws, vs => refused (ws ++ vs)

/-- A record: its fields, then the keys that none of them claims. -/
def record {α : Type} (model : String) (declared : List (Scalar × Document) → List String)
    (read : List (Scalar × Document) → Checked α) : Document → Checked α
  | .mapping entries => (read entries).also (strangers (declared entries) entries)
  | _ => refuse (.notRecord model)

/-- An entry of a dictionary: its key, then its value. -/
def entry {α : Type} (read : Document → Checked α) (e : Scalar × Document) :
    Checked (String × α) :=
  let value := inside (Step.ofKey e.1) (read e.2)
  match e.1 with
  | .text s => value.map fun a => (s, a)
  | k =>
    both (refused [⟨[Step.ofKey k, .key "[key]"], .notText⟩]) value

/-- A dictionary, its entries in order. -/
def dictionary {α : Type} (read : Document → Checked α) :
    Document → Checked (List (String × α))
  | .mapping entries => all (entries.map (entry read))
  | _ => refuse .notDictionary

end Checked

end FieldResolution
