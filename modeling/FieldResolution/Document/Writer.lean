import FieldResolution.Document.Literal

/-!
# Writing JSON

`Document.render` writes a document in JSON notation with one item a line, two spaces for each
level, and the keys of every mapping in ascending order of their characters.  Only ASCII is
written: any other character is given by its UTF-16 units.
-/

namespace FieldResolution

namespace Document

/-- A UTF-16 unit with four hexadecimal digits. -/
def unitEscape (u : Nat) : List Char :=
  ['\\', 'u', Nat.digitChar (u / 4096 % 16), Nat.digitChar (u / 256 % 16),
    Nat.digitChar (u / 16 % 16), Nat.digitChar (u % 16)]

/-- A character inside a JSON text. -/
def writeChar (c : Char) : List Char :=
  if c == '\x22' || c == '\\' then ['\\', c]
  else if c == '\n' then ['\\', 'n']
  else if c == '\r' then ['\\', 'r']
  else if c == '\t' then ['\\', 't']
  else if c == '\x08' then ['\\', 'b']
  else if c == '\x0c' then ['\\', 'f']
  else if 0x20 ≤ c.toNat && c.toNat ≤ 0x7E then [c]
  else if c.toNat < 0x10000 then unitEscape c.toNat
  else
    let n := c.toNat - 0x10000
    unitEscape (0xD800 + n / 0x400) ++ unitEscape (0xDC00 + n % 0x400)

/-- A text in JSON notation. -/
def writeText (s : String) : String :=
  String.ofList ('\x22' :: s.toList.flatMap writeChar ++ ['\x22'])

/-- A scalar in JSON notation. -/
def writeScalar : Scalar → String
  | .null => "null"
  | .bool b => if b then "true" else "false"
  | .int n => toString n
  | .real x => x.text
  | .text s => writeText s

/-- The text of a key. -/
def keyText : Scalar → String
  | .text s => s
  | s => writeScalar s

/-- Parts between brackets, one a line, at the given level. -/
def bracketed (opening closing : String) (level : Nat) (parts : List String) : String :=
  if parts.isEmpty then opening ++ closing
  else
    let line := "\n" ++ String.ofList (List.replicate (2 * level) ' ')
    opening ++ ",".intercalate (parts.map fun p => line ++ "  " ++ p) ++ line ++ closing

mutual

/-- The document in JSON notation, at the given level. -/
def renderAt (level : Nat) : Document → String
  | .scalar s => writeScalar s
  | .list items => bracketed "[" "]" level (renderItems (level + 1) items)
  | .mapping entries =>
    bracketed "\x7b" "\x7d" level
      (((renderEntries (level + 1) entries).mergeSort fun a b => decide (a.1 ≤ b.1)).map
        fun e => writeText e.1 ++ ": " ++ e.2)

/-- The items of a list in JSON notation. -/
def renderItems (level : Nat) : List Document → List String
  | [] => []
  | d :: rest => d.renderAt level :: renderItems level rest

/-- The keys of a mapping with their values in JSON notation. -/
def renderEntries (level : Nat) : List (Scalar × Document) → List (String × String)
  | [] => []
  | (k, d) :: rest => (keyText k, d.renderAt level) :: renderEntries level rest

end

/-- The document in JSON notation. -/
def render (d : Document) : String := d.renderAt 0

end Document

end FieldResolution
