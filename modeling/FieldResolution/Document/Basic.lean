import FieldResolution.Number.Binary64

/-!
# Documents

A parsed document: scalars, lists and mappings.  A mapping keeps the order in which its keys were
written, and its keys may be any scalar.  Keys that are equal as numbers are one key (`1`, `1.0`
and `true`); `Document.ofEntries` lets the last value of a key stand at the place of the first.
-/

namespace FieldResolution

/-- A value without parts. -/
inductive Scalar where
  | null
  | bool (value : Bool)
  | int (value : Int)
  | real (value : Binary64)
  | text (value : String)
  deriving DecidableEq, Repr

namespace Scalar

/-- The integer a scalar counts as when keys are compared. -/
def integral? : Scalar → Option Int
  | .bool b => some (if b then 1 else 0)
  | .int n => some n
  | .real x => x.integral?
  | _ => none

/-- Two scalars are one key if they are equal, or equal as numbers. -/
def sameKey (a b : Scalar) : Bool :=
  match a.integral?, b.integral? with
  | some m, some n => m == n
  | _, _ => a == b

/-- Null, false, zero and the empty text count as absent. -/
def truthy : Scalar → Bool
  | .null => false
  | .bool b => b
  | .int n => n != 0
  | .real x => !x.isZero
  | .text s => s != ""

end Scalar

/-- A parsed document. -/
inductive Document where
  | scalar (value : Scalar)
  | list (items : List Document)
  | mapping (entries : List (Scalar × Document))

namespace Document

abbrev null : Document := .scalar .null
abbrev bool (b : Bool) : Document := .scalar (.bool b)
abbrev int (n : Int) : Document := .scalar (.int n)
abbrev text (s : String) : Document := .scalar (.text s)

instance : Inhabited Document := ⟨null⟩

/-- Null, false, zero, the empty text, the empty list and the empty mapping count as absent. -/
def truthy : Document → Bool
  | .scalar s => s.truthy
  | .list items => !items.isEmpty
  | .mapping entries => !entries.isEmpty

/-- The document itself, unless it counts as absent. -/
def present? (d : Document) : Option Document := if d.truthy then some d else none

/-- The value under a text key. -/
def lookup (entries : List (Scalar × Document)) (key : String) : Option Document :=
  (entries.find? fun e => e.1 == .text key).map Prod.snd

/-- Puts a value under a key: at the place of an equal key, or else at the end. -/
def insertEntry (entries : List (Scalar × Document)) (key : Scalar) (value : Document) :
    List (Scalar × Document) :=
  match entries with
  | [] => [(key, value)]
  | e :: rest =>
    if e.1.sameKey key then (e.1, value) :: rest else e :: insertEntry rest key value

/-- The mapping with the given entries, each key once. -/
def ofEntries (entries : List (Scalar × Document)) : Document :=
  .mapping (entries.foldl (fun done e => insertEntry done e.1 e.2) [])

/-- A mapping with text keys. -/
def record (fields : List (String × Document)) : Document :=
  .mapping (fields.map fun f => (.text f.1, f.2))

theorem lookup_cons (key : String) (e : Scalar × Document) (rest : List (Scalar × Document)) :
    lookup (e :: rest) key = if e.1 = .text key then some e.2 else lookup rest key := by
  by_cases h : e.1 = .text key <;> simp [lookup, h]

theorem lookup_record_cons (key name : String) (d : Document) (rest : List (String × Document)) :
    lookup ((((name, d) :: rest).map fun f => (Scalar.text f.1, f.2))) key =
      if name = key then some d else lookup (rest.map fun f => (Scalar.text f.1, f.2)) key := by
  simp [lookup_cons]

end Document

end FieldResolution
