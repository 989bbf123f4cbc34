import FieldResolution.Model.Spelling
import Mathlib.Data.List.DropRight

/-!
# Spellings of types

`Spells` gives the rules by which a text spells a type, and the reader of spellings finds just what
they say (`parseChars_eq_ok_iff`).  A type that some text spells is spelled by the text that is
written for it too (`Spells.spell`): what was trimmed away on the way in was not part of a name, no
line break can have come into a container, and only a shape without a name would be lost in one.
-/

namespace FieldResolution

/-! ## Trimmed texts -/

namespace Text

variable {p : Char → Bool} {s : List Char}

theorem trim_eq_rdropWhile (p : Char → Bool) (s : List Char) :
    trim p s = (s.dropWhile p).rdropWhile p := rfl

theorem mem_of_mem_trim {c : Char} (h : c ∈ trim p s) : c ∈ s := by
  rw [trim_eq_rdropWhile] at h
  exact (List.dropWhile_sublist p).subset ((List.rdropWhile_prefix p _).subset h)

theorem trim_trim (p : Char → Bool) (s : List Char) : trim p (trim p s) = trim p s := by
  have front : (trim p s).dropWhile p = trim p s := by
    rw [List.dropWhile_eq_self_iff]
    intro filled
    have part : trim p s <+: s.dropWhile p := List.rdropWhile_prefix p _
    rw [part.getElem filled]
    exact List.dropWhile_get_zero_not p s (filled.trans_le part.length_le)
  rw [trim_eq_rdropWhile, front]
  exact List.rdropWhile_idempotent p _

/-- A text that begins and ends with characters of another class is not trimmed. -/
theorem trim_cons_append {a b : Char} (ha : p a = false) (hb : p b = false) (mid : List Char) :
    trim p (a :: (mid ++ [b])) = a :: (mid ++ [b]) := by
  have front : (a :: (mid ++ [b])).dropWhile p = a :: (mid ++ [b]) := by simp [ha]
  rw [trim_eq_rdropWhile, front, ← List.cons_append, List.rdropWhile_concat_neg]
  simp [hb]

end Text

namespace MemberType

/-! ## The reader, case by case -/

theorem parseChars_of_container {names : List String} {s inner : List Char}
    {c : Container} (h : containerForm? (Text.trim Text.isBlank s) = some (c, inner)) :
    parseChars names s = (parseChars names inner).map (.container c) := by
  rw [parseChars]
  split
  · rename_i hs
    cases h.symm.trans hs
    rfl
  · rename_i hs
    cases h.symm.trans hs

theorem parseChars_of_no_container {names : List String} {s : List Char}
    (h : containerForm? (Text.trim Text.isBlank s) = none) :
    parseChars names s =
      match ofName? names (String.ofList (Text.trim Text.isBlank s)) with
      | some t => .ok t
      | none => .error (String.ofList (Text.trim Text.isBlank s)) := by
  rw [parseChars]
  split
  · rename_i hs
    cases h.symm.trans hs
  · rfl

end MemberType

/-! ## The rules -/

/-- A text of the form `list<…>` or `map<…>` with one line that is not empty inside. -/
def IsContainerText (s : List Char) : Prop :=
  ∃ c inner, s = containerText c inner ∧ inner ≠ [] ∧ '\n' ∉ inner

/-- The text `s` spells a type over the names of the shapes.  Blanks around it do not matter; the
form of a container comes before the name of a primitive, and that before the name of a shape. -/
inductive Spells (names : List String) : List Char → MemberType → Prop
  | container {s inner : List Char} {c : Container} {element : MemberType}
      (form : Text.trim Text.isBlank s = containerText c inner) (filled : inner ≠ [])
      (line : '\n' ∉ inner) (spelled : Spells names inner element) :
      Spells names s (.container c element)
  | primitive {s : List Char} {p : Primitive}
      (plain : ¬ IsContainerText (Text.trim Text.isBlank s)) (known : p ∈ Primitive.all)
      (named : Text.trim Text.isBlank s = p.name.toList) : Spells names s (.primitive p)
  | shape {s : List Char} {name : String} {i : Nat}
      (plain : ¬ IsContainerText (Text.trim Text.isBlank s))
      (free : ∀ p ∈ Primitive.all, p.name ≠ name)
      (named : Text.trim Text.isBlank s = name.toList) (found : lastIndex? names name = some i) :
      Spells names s (.shape i)

theorem containerForm?_eq_none_iff {s : List Char} :
    containerForm? s = none ↔ ¬ IsContainerText s := by
  constructor
  · rintro h ⟨c, inner, form⟩
    rw [containerForm?_eq_some_iff.2 form] at h
    cases h
  · intro h
    cases hs : containerForm? s with
    | none => rfl
    | some found => exact absurd ⟨found.1, found.2, containerForm?_eq_some_iff.1 hs⟩ h

theorem Primitive.ofName?_eq_some_iff {s : String} {p : Primitive} :
    ofName? s = some p ↔ p ∈ all ∧ p.name = s := by
  constructor
  · intro h
    exact ⟨List.mem_of_find?_eq_some h, by simpa using List.find?_some h⟩
  · rintro ⟨known, rfl⟩
    exact ofName?_name p known

theorem Primitive.ofName?_eq_none_iff {s : String} :
    ofName? s = none ↔ ∀ p ∈ all, p.name ≠ s := by
  simp [ofName?, List.find?_eq_none]

namespace MemberType

variable {names : List String} {s : List Char} {t : MemberType}

theorem spells_of_ofName? (plain : ¬ IsContainerText (Text.trim Text.isBlank s))
    (h : ofName? names (String.ofList (Text.trim Text.isBlank s)) = some t) : Spells names s t := by
  unfold ofName? at h
  split at h
  · rename_i p hp
    cases h
    obtain ⟨known, named⟩ := Primitive.ofName?_eq_some_iff.1 hp
    exact .primitive plain known (by rw [named, String.toList_ofList])
  · rename_i free
    obtain ⟨i, found, rfl⟩ := Option.map_eq_some_iff.1 h
    exact .shape plain (Primitive.ofName?_eq_none_iff.1 free) String.toList_ofList.symm found

/-- A text is read as the type that it spells. -/
theorem parseChars_eq_ok_iff : parseChars names s = .ok t ↔ Spells names s t := by
  constructor
  · intro h
    fun_induction parseChars names s generalizing t with
    | case1 s c inner form _ _ ih =>
      obtain ⟨text, filled, line⟩ := containerForm?_eq_some_iff.1 form
      cases hInner : parseChars names inner with
      | error unknown =>
        rw [hInner] at h
        cases h
      | ok element =>
        rw [hInner] at h
        cases h
        exact .container text filled line (ih hInner)
    | case2 s plain name t' =>
      rename_i named
      cases h
      exact spells_of_ofName? (containerForm?_eq_none_iff.1 plain) named
    | case3 => cases h
  · intro h
    induction h with
    | container form filled line _ ih =>
      rw [parseChars_of_container (containerForm?_eq_some_iff.2 ⟨form, filled, line⟩), ih]
      rfl
    | primitive plain known named =>
      rw [parseChars_of_no_container (containerForm?_eq_none_iff.2 plain), named,
        String.ofList_toList, ofName?, Primitive.ofName?_name _ known]
    | shape plain free named found =>
      rw [parseChars_of_no_container (containerForm?_eq_none_iff.2 plain), named,
        String.ofList_toList, ofName?, Primitive.ofName?_eq_none_iff.2 free, found]
      rfl

theorem parse_eq_ok_iff {spelling : String} :
    parse names spelling = .ok t ↔ Spells names spelling.toList t := parseChars_eq_ok_iff

/-! ## Written spellings -/

theorem toList_spell_container (names : List String) (c : Container) (t : MemberType) :
    (spell names (.container c t)).toList = containerText c (spell names t).toList := by
  simp [spell, containerText]

theorem spell_shape {name : String} {i : Nat} (found : lastIndex? names name = some i) :
    spell names (.shape i) = name := by
  rw [spell, getElem?_of_lastIndex? found]
  rfl

theorem trim_containerText (c : Container) (inner : List Char) :
    Text.trim Text.isBlank (containerText c inner) = containerText c inner := by
  have last : Text.isBlank '>' = false := by decide
  cases c with
  | list => exact Text.trim_cons_append (by decide) last ('i' :: 's' :: 't' :: '<' :: inner)
  | map => exact Text.trim_cons_append (by decide) last ('a' :: 'p' :: '<' :: inner)

end MemberType

theorem lt_of_lastIndex? {names : List String} {s : String} {i : Nat}
    (h : lastIndex? names s = some i) : i < names.length :=
  (List.getElem?_eq_some_iff.1 (getElem?_of_lastIndex? h)).1

namespace Spells

variable {names : List String} {s : List Char} {t : MemberType}

theorem shape?_lt (h : Spells names s t) : ∀ i, t.shape? = some i → i < names.length := by
  induction h with
  | container _ _ _ _ ih => exact ih
  | primitive => exact nofun
  | shape _ _ _ found =>
    rintro i ⟨⟩
    exact lt_of_lastIndex? found

theorem spell_ne_nil (h : Spells names s t) (named : "" ∉ names) :
    (t.spell names).toList ≠ [] := by
  cases h with
  | container => simp [MemberType.toList_spell_container, containerText]
  | primitive plain known _ =>
    have filled : ∀ p ∈ Primitive.all, p.name.toList ≠ [] := by decide
    exact filled _ known
  | @shape _ name i _ _ _ found =>
    rw [MemberType.spell_shape found]
    intro empty
    have unnamed : name = "" := String.toList_eq_nil_iff.1 empty
    exact named (unnamed ▸ List.mem_of_getElem? (getElem?_of_lastIndex? found))

theorem line_spell (h : Spells names s t) (line : '\n' ∉ s) :
    '\n' ∉ (t.spell names).toList := by
  induction h with
  | @container _ inner c element _ _ inside _ ih =>
    have own : '\n' ∉ c.name.toList := by cases c <;> decide
    rw [MemberType.toList_spell_container]
    simp [containerText, own, ih inside]
  | primitive _ _ named =>
    rw [MemberType.spell, ← named]
    exact fun h => line (Text.mem_of_mem_trim h)
  | shape _ _ named found =>
    rw [MemberType.spell_shape found, ← named]
    exact fun h => line (Text.mem_of_mem_trim h)

/-- A type that is spelled at all is spelled by the text that is written for it. -/
theorem spell (h : Spells names s t) (named : "" ∉ names) :
    Spells names (t.spell names).toList t := by
  induction h with
  | container _ _ line spelled ih =>
    refine .container ?_ (spelled.spell_ne_nil named) (spelled.line_spell line) ih
    rw [MemberType.toList_spell_container, MemberType.trim_containerText]
  | @primitive s p plain known written =>
    -- a name that was read is what trimming left, so trimming it again changes nothing
    have trimmed : Text.trim Text.isBlank p.name.toList = p.name.toList := by
      rw [← written, Text.trim_trim]
    refine .primitive ?_ known trimmed
    rwa [MemberType.spell, trimmed, ← written]
  | @shape s name i plain free written found =>
    have trimmed : Text.trim Text.isBlank name.toList = name.toList := by
      rw [← written, Text.trim_trim]
    rw [MemberType.spell_shape found]
    refine .shape ?_ free trimmed found
    rwa [trimmed, ← written]

end Spells

end FieldResolution
