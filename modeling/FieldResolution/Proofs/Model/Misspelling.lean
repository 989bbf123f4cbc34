import FieldResolution.Model.OfDocument
import FieldResolution.Proofs.Model.Spelling

/-!
# Texts that spell no type

The reader of spellings takes container after container off a text (`Encloses`).  Each of them costs
at least five characters (`length_le_of_encloses`), so it comes to a last one on every text, however
its brackets stand.  What is inside that is a name, or else the reader reports it (`StuckAt`,
`parseChars_eq_error_iff`).  So a text either spells a type or is refused for one text inside it.
-/

namespace FieldResolution

/-- The text `core` stands inside the `depth` outermost containers of the text `s`. -/
inductive Encloses : Nat → List Char → List Char → Prop
  | here (s : List Char) : Encloses 0 s s
  | inside {depth : Nat} {s inner core : List Char} {c : Container}
      (form : Text.trim Text.isBlank s = containerText c inner) (filled : inner ≠ [])
      (line : '\n' ∉ inner) (deeper : Encloses depth inner core) : Encloses (depth + 1) s core

/-- No rule reads the text: it is not the form of a container, no primitive and no shape. -/
structure NamesNothing (names : List String) (s : List Char) : Prop where
  plain : ¬ IsContainerText s
  primitive : ∀ p ∈ Primitive.all, p.name.toList ≠ s
  shape : ∀ name ∈ names, name.toList ≠ s

/-- Inside all containers of the text `s` stands a text that names nothing, once trimmed. -/
def StuckAt (names : List String) (s unknown : List Char) : Prop :=
  ∃ depth core, Encloses depth s core ∧ unknown = Text.trim Text.isBlank core ∧
    NamesNothing names unknown

/-! ## How deep a text goes -/

theorem length_containerText (c : Container) (inner : List Char) :
    inner.length + 5 ≤ (containerText c inner).length := by
  cases c <;> simp [containerText, Container.name]

/-- Every container costs its name and its two brackets. -/
theorem length_le_of_encloses {depth : Nat} {s core : List Char} (h : Encloses depth s core) :
    5 * depth + core.length ≤ s.length := by
  induction h with
  | here => simp
  | @inside depth s inner core c form _ _ _ ih =>
    have shorter := length_containerText c inner
    have trimmed := Text.length_trim_le Text.isBlank s
    rw [form] at trimmed
    omega

/-! ## What the reader reports -/

namespace MemberType

variable {names : List String} {s : List Char}

theorem ofName?_eq_none_iff {name : String} :
    ofName? names name = none ↔ (∀ p ∈ Primitive.all, p.name ≠ name) ∧ name ∉ names := by
  unfold ofName?
  cases h : Primitive.ofName? name with
  | none =>
    have free := Primitive.ofName?_eq_none_iff.1 h
    simpa [lastIndex?_eq_none_iff] using fun _ => free
  | some p =>
    obtain ⟨known, named⟩ := Primitive.ofName?_eq_some_iff.1 h
    simp only [reduceCtorEq, false_iff, not_and]
    intro free
    exact absurd named (free p known)

theorem namesNothing_iff :
    NamesNothing names s ↔ containerForm? s = none ∧ ofName? names (String.ofList s) = none := by
  have same (name : String) : name.toList = s ↔ name = String.ofList s := by
    rw [← String.toList_inj, String.toList_ofList]
  rw [containerForm?_eq_none_iff, ofName?_eq_none_iff]
  constructor
  · rintro ⟨plain, primitive, shape⟩
    refine ⟨plain, fun p known => ?_, fun known => ?_⟩
    · exact mt (same p.name).2 (primitive p known)
    · exact shape _ known String.toList_ofList
  · rintro ⟨plain, primitive, shape⟩
    refine ⟨plain, fun p known => ?_, fun name known written => ?_⟩
    · exact mt (same p.name).1 (primitive p known)
    · apply shape
      rw [← (same name).1 written]
      exact known

/-- A text is refused for what is left inside all its containers, if that names nothing. -/
theorem parseChars_eq_error_iff {unknown : String} :
    parseChars names s = .error unknown ↔ StuckAt names s unknown.toList := by
  constructor
  · intro h
    fun_induction parseChars names s generalizing unknown with
    | case1 s c inner form _ _ ih =>
      obtain ⟨text, filled, line⟩ := containerForm?_eq_some_iff.1 form
      have refused : parseChars names inner = .error unknown := by
        cases hInner : parseChars names inner with
        | error e =>
          rw [hInner] at h
          cases h
          rfl
        | ok element =>
          rw [hInner] at h
          cases h
      obtain ⟨depth, core, deeper, left, nothing⟩ := ih refused
      exact ⟨depth + 1, core, .inside text filled line deeper, left, nothing⟩
    | case2 => cases h
    | case3 s plain name =>
      rename_i unnamed
      cases h
      refine ⟨0, s, .here s, String.toList_ofList, ?_⟩
      rw [String.toList_ofList]
      exact namesNothing_iff.2 ⟨plain, unnamed⟩
  · rintro ⟨depth, core, encloses, left, nothing⟩
    induction encloses with
    | here s =>
      rw [left] at nothing
      obtain ⟨plain, unnamed⟩ := namesNothing_iff.1 nothing
      rw [parseChars_of_no_container plain, unnamed, ← left, String.ofList_toList]
    | inside form filled line _ ih =>
      rw [parseChars_of_container (containerForm?_eq_some_iff.2 ⟨form, filled, line⟩), ih left]
      rfl

/-- A text spells a type unless the reader gets stuck in it. -/
theorem exists_spells_iff : (∃ t, Spells names s t) ↔ ¬ ∃ unknown, StuckAt names s unknown := by
  constructor
  · rintro ⟨t, spelled⟩ ⟨unknown, stuck⟩
    have read := parseChars_eq_ok_iff.2 spelled
    rw [← String.toList_ofList (l := unknown), ← parseChars_eq_error_iff, read] at stuck
    cases stuck
  · intro free
    cases h : parseChars names s with
    | ok t => exact ⟨t, parseChars_eq_ok_iff.1 h⟩
    | error unknown => exact absurd ⟨_, parseChars_eq_error_iff.1 h⟩ free

end MemberType

/-- A member whose type cannot be read is refused with the text that names nothing. -/
theorem Member.ofParts_eq_error_iff {names : List String} {shape member spelling : String}
    {required : Bool} {e : ModelError} :
    Member.ofParts names shape (.scalar (.text member)) (.scalar (.text spelling)) required =
        .error e ↔
      ∃ unknown, MemberType.parse names spelling = .error unknown ∧
        e = .unknownType unknown (shape ++ "." ++ member) := by
  cases h : MemberType.parse names spelling with
  | ok t => simp [Member.ofParts, h]
  | error unknown => simp [Member.ofParts, h, eq_comm]

/-- The reader of spellings reads just what the rules spell and refuses all else.  It reports the
text inside all containers, and so does the fault of a member of such a type; it takes off no more
containers than the text has room for. -/
theorem MemberType.parse_exact (names : List String) (spelling : String) :
    (∀ t, parse names spelling = .ok t ↔ Spells names spelling.toList t) ∧
      (∀ unknown, parse names spelling = .error unknown ↔
        StuckAt names spelling.toList unknown.toList) ∧
      ((∃ t, Spells names spelling.toList t) ↔ ¬ ∃ unknown, StuckAt names spelling.toList unknown) ∧
      (∀ shape member required e,
        Member.ofParts names shape (.scalar (.text member)) (.scalar (.text spelling)) required =
            .error e ↔
          ∃ unknown, StuckAt names spelling.toList unknown.toList ∧
            e = .unknownType unknown (shape ++ "." ++ member) ∧
            e.message = "Unknown type '" ++ unknown ++ "' for " ++ (shape ++ "." ++ member)) ∧
      ∀ depth core, Encloses depth spelling.toList core →
        5 * depth + core.length ≤ spelling.toList.length := by
  refine ⟨fun t => parse_eq_ok_iff, fun unknown => parseChars_eq_error_iff, exists_spells_iff,
    fun shape member required e => ?_, fun depth core => length_le_of_encloses⟩
  rw [Member.ofParts_eq_error_iff]
  refine exists_congr fun unknown => and_congr parseChars_eq_error_iff ?_
  constructor
  · rintro rfl
    exact ⟨rfl, rfl⟩
  · exact And.left

/-- The inner bracket of `map< list<Tag>> >` is closed twice: what is left inside is no name, though
the whole of the inner text is one. -/
theorem MemberType.parse_exact_unbalanced :
    StuckAt ["Tag", "list<Tag>>"] "map< list<Tag>> >".toList "Tag>".toList ∧
      parse ["Tag", "list<Tag>>"] "map< list<Tag>> >" = .error "Tag>" ∧
      (¬ ∃ t, Spells ["Tag", "list<Tag>>"] "map< list<Tag>> >".toList t) ∧
      Encloses 2 "map< list<Tag>> >".toList "Tag>".toList ∧
      5 * 2 + "Tag>".toList.length ≤ "map< list<Tag>> >".toList.length := by
  obtain ⟨-, refused, spelled, -, room⟩ :=
    parse_exact ["Tag", "list<Tag>>"] "map< list<Tag>> >"
  have first : Text.trim Text.isBlank "map< list<Tag>> >".toList =
      containerText .map " list<Tag>> ".toList := by decide
  have second : Text.trim Text.isBlank " list<Tag>> ".toList =
      containerText .list "Tag>".toList := by decide
  have encloses : Encloses 2 "map< list<Tag>> >".toList "Tag>".toList :=
    .inside first (by decide) (by decide) (.inside second (by decide) (by decide) (.here _))
  have nothing : NamesNothing ["Tag", "list<Tag>>"] "Tag>".toList :=
    namesNothing_iff.2 ⟨by decide, by decide⟩
  have stuck : StuckAt ["Tag", "list<Tag>>"] "map< list<Tag>> >".toList "Tag>".toList :=
    ⟨2, _, encloses, by decide, nothing⟩
  exact ⟨stuck, (refused _).2 stuck, fun h => spelled.1 h ⟨_, stuck⟩, encloses, room 2 _ encloses⟩

end FieldResolution
