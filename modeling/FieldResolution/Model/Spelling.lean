import FieldResolution.Model.Basic
import FieldResolution.Text.CharClass

/-!
# Type spellings

`MemberType.parse` reads the spelling of a type over a list of shape names, and
`MemberType.spell` writes it.  Blanks around a spelling, and around the inner text of a container,
are ignored.  A text of the form `list<…>` or `map<…>` is always a container, even where a shape
has that very name; a primitive hides a shape of its name, and a later shape an earlier one.
-/

namespace FieldResolution

/-- What follows the container name and `<` at the head of a text. -/
def containerOpening? : List Char → Option (Container × List Char)
  | 'l' :: 'i' :: 's' :: 't' :: '<' :: rest => some (.list, rest)
  | 'm' :: 'a' :: 'p' :: '<' :: rest => some (.map, rest)
  | _ => none

/-- The container and the inner text of `list<…>` or `map<…>`, where the inner text is one line
and not empty. -/
def containerForm? (s : List Char) : Option (Container × List Char) :=
  match containerOpening? s with
  | none => none
  | some (c, rest) =>
    if rest.getLast? = some '>' ∧ rest.dropLast ≠ [] ∧ '\n' ∉ rest.dropLast then
      some (c, rest.dropLast)
    else none

/-- A container form written out. -/
def containerText (c : Container) (inner : List Char) : List Char :=
  c.name.toList ++ '<' :: inner ++ ['>']

theorem containerOpening?_eq_some_iff {s rest : List Char} {c : Container} :
    containerOpening? s = some (c, rest) ↔ s = c.name.toList ++ '<' :: rest := by
  constructor
  · intro h
    unfold containerOpening? at h
    split at h
    · simp only [Option.some.injEq, Prod.mk.injEq] at h
      obtain ⟨rfl, rfl⟩ := h
      rfl
    · simp only [Option.some.injEq, Prod.mk.injEq] at h
      obtain ⟨rfl, rfl⟩ := h
      rfl
    · simp at h
  · rintro rfl
    cases c <;> rfl

theorem containerForm?_eq_some_iff {s inner : List Char} {c : Container} :
    containerForm? s = some (c, inner) ↔
      s = containerText c inner ∧ inner ≠ [] ∧ '\n' ∉ inner := by
  constructor
  · intro h
    unfold containerForm? at h
    split at h
    · simp at h
    · rename_i c' rest hs
      split at h
      · rename_i hc
        obtain ⟨hlast, hne, hline⟩ := hc
        simp only [Option.some.injEq, Prod.mk.injEq] at h
        obtain ⟨rfl, rfl⟩ := h
        refine ⟨?_, hne, hline⟩
        obtain ⟨front, rfl⟩ := List.getLast?_eq_some_iff.1 hlast
        rw [containerOpening?_eq_some_iff.1 hs]
        simp [containerText]
      · simp at h
  · rintro ⟨rfl, hne, hline⟩
    have h : containerOpening? (containerText c inner) = some (c, inner ++ ['>']) :=
      containerOpening?_eq_some_iff.2 (by simp [containerText])
    simp [containerForm?, h, hne, hline]

theorem length_of_containerForm? {s inner : List Char} {c : Container}
    (h : containerForm? s = some (c, inner)) : inner.length < s.length := by
  rw [(containerForm?_eq_some_iff.1 h).1]
  simp [containerText]
  omega

namespace MemberType

/-- The type that a text without containers names. -/
def ofName? (shapes : List String) (s : String) : Option MemberType :=
  match Primitive.ofName? s with
  | some p => some (.primitive p)
  | none => (lastIndex? shapes s).map .shape

/-- The type that a spelling stands for, or the innermost text that names none. -/
def parseChars (shapes : List String) (s : List Char) : Except String MemberType :=
  match h : containerForm? (Text.trim Text.isBlank s) with
  | some (c, inner) =>
    have := length_of_containerForm? h
    have := Text.length_trim_le Text.isBlank s
    (parseChars shapes inner).map (.container c)
  | none =>
    let name := String.ofList (Text.trim Text.isBlank s)
    match ofName? shapes name with
    | some t => .ok t
    | none => .error name
termination_by s.length

/-- The type that a spelling stands for, or the innermost text that names none. -/
def parse (shapes : List String) (s : String) : Except String MemberType :=
  parseChars shapes s.toList

/-- The spelling of a type over a list of shape names. -/
def spell (shapes : List String) : MemberType → String
  | .primitive p => p.name
  | .shape i => (shapes[i]?).getD ""
  | .container c element => c.name ++ "<" ++ spell shapes element ++ ">"

end MemberType

/-- The spelling of a type of a model. -/
def Model.spell (m : Model) (t : MemberType) : String := t.spell m.shapeNames

end FieldResolution
