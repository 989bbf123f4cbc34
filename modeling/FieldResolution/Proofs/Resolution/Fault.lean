import FieldResolution.Proofs.Resolution.Settle

/-!
# Why a name is refused

What each of the five steps that settle a name answers where it refuses the name.  No step speaks of
a flag (`flag?_of_fault?`), and only the first one, where it has to take the type from occurrences
that do not agree, calls it ambiguous (`kind_fault?_eq_typeAmbiguity_iff`).
-/

namespace FieldResolution

theorem refusal?_eq_some_iff {ε α : Type} {x : Except ε α} {e : ε} :
    refusal? x = some e ↔ x = .error e := by
  cases x <;> simp [refusal?]

/-- The flag over which two fields are in conflict. -/
def FieldFault.flag? : FieldFault → Option Flag
  | .flagTaken f _ => some f
  | _ => none

def FieldError.flag? (e : FieldError) : Option Flag := e.fault.flag?

/-! ## The type -/

namespace Model

variable {m : Model} {occurrences : List Occurrence} {d : FieldDirectives} {fault : FieldFault}

theorem follows_eq_error {r : Redirect} (h : m.follows r = .error fault) :
    fault = .missingOperation r.operation ∨ fault = .unresolvedPath r.path r.operation := by
  unfold follows at h
  split at h
  · cases h
    exact Or.inl rfl
  · split at h <;> cases h
    exact Or.inr rfl

theorem exists_first_of_commonType {t : MemberType} (h : m.commonType occurrences = .ok t) :
    ∃ first rest, occurrences = first :: rest ∧ t = first.type := by
  unfold commonType at h
  split at h
  · cases h
  · rename_i first rest
    split_ifs at h
    cases h
    exact ⟨first, rest, rfl, rfl⟩

theorem commonType_eq_ok_iff {t : MemberType} :
    m.commonType occurrences = .ok t ↔
      m.Agree occurrences ∧ occurrences.head?.map Occurrence.type = some t := by
  constructor
  · intro h
    obtain ⟨first, rest, rfl, rfl⟩ := exists_first_of_commonType h
    exact ⟨((m.commonType_isOk_iff _).1 ⟨_, h⟩).2, rfl⟩
  · rintro ⟨agree, head⟩
    have occurs : occurrences ≠ [] := by
      rintro rfl
      cases head
    obtain ⟨t', ht'⟩ := (m.commonType_isOk_iff _).2 ⟨occurs, agree⟩
    obtain ⟨first, rest, rfl, rfl⟩ := exists_first_of_commonType ht'
    rw [ht', Option.some.inj head]

/-- There is no common type if there is no occurrence, or if the occurrences do not agree. -/
theorem commonType_eq_error (h : m.commonType occurrences = .error fault) :
    occurrences = [] ∧ fault = .noOccurrence ∨
      occurrences ≠ [] ∧ ¬ m.Agree occurrences ∧ ∃ readings, fault = .divergentTypes readings := by
  cases occurrences with
  | nil =>
    cases h
    exact Or.inl ⟨rfl, rfl⟩
  | cons first rest =>
    have occurs : first :: rest ≠ [] := List.cons_ne_nil _ _
    have apart : ¬ m.Agree (first :: rest) := by
      intro agree
      obtain ⟨t, ht⟩ := (m.commonType_isOk_iff _).2 ⟨occurs, agree⟩
      cases ht.symm.trans h
    unfold commonType at h
    dsimp only at h
    split_ifs at h
    cases h
    exact Or.inr ⟨occurs, apart, _, rfl⟩

/-- Without a redirect and as no attribute, a field has the type of its occurrences. -/
theorem fieldType_eq_commonType (hr : d.redirect = none) (off : d.isOn .isAttribute = false) :
    m.fieldType occurrences d = m.commonType occurrences := by
  unfold fieldType
  rw [hr, off]
  rfl

/-- The type is that at the end of a redirect, a string for an attribute, or common to all
occurrences. -/
theorem fieldType_eq_ok_iff {t : MemberType} :
    m.fieldType occurrences d = .ok t ↔
      (∃ r found, d.redirect = some r ∧ d.isOn .isAttribute = false ∧ m.follows r = .ok found ∧
        t = found.2.type) ∨
      (d.redirect = none ∧ d.isOn .isAttribute = true ∧ t = .string) ∨
      (d.redirect = none ∧ d.isOn .isAttribute = false ∧ m.commonType occurrences = .ok t) := by
  unfold fieldType
  cases d.redirect with
  | some r =>
    cases hf : m.follows r with
    | error fault => cases d.isOn .isAttribute <;> simp [hf, Except.map]
    | ok found =>
      obtain ⟨role, member⟩ := found
      cases d.isOn .isAttribute <;> simp [hf, Except.map, eq_comm]
  | none => cases d.isOn .isAttribute <;> simp [eq_comm]

theorem fieldType_eq_error (h : m.fieldType occurrences d = .error fault) :
    fault = .redirectedAttribute ∨ (∃ r, d.redirect = some r ∧ m.follows r = .error fault) ∨
      d.redirect = none ∧ d.isOn .isAttribute = false ∧
        m.commonType occurrences = .error fault := by
  unfold fieldType at h
  cases hr : d.redirect with
  | some r =>
    rw [hr] at h
    dsimp only at h
    split_ifs at h
    · cases h
      exact Or.inl rfl
    · cases hf : m.follows r with
      | ok found =>
        rw [hf] at h
        cases h
      | error e =>
        rw [hf] at h
        cases h
        exact Or.inr (Or.inl ⟨r, rfl, hf⟩)
  | none =>
    rw [hr] at h
    dsimp only at h
    split_ifs at h with unpacked
    exact Or.inr (Or.inr ⟨rfl, Bool.eq_false_iff.2 unpacked, h⟩)

end Model

/-! ## The slot and the policies -/

theorem slotFault?_eq_some {slot : Slot} {d : FieldDirectives} {fault : FieldFault}
    (h : slotFault? slot d = some fault) :
    ∃ w, fault = .ignoredWithSwitch w ∨ fault = .switchOnStatus w := by
  cases slot with
  | ignored =>
    obtain ⟨w, -, rfl⟩ := Option.map_eq_some_iff.1 h
    exact ⟨w, Or.inl rfl⟩
  | status =>
    obtain ⟨w, -, rfl⟩ := Option.map_eq_some_iff.1 h
    exact ⟨w, Or.inr rfl⟩
  | spec => cases h

namespace FieldDirectives

variable {d : FieldDirectives} {slot : Slot} {fault : FieldFault}

theorem comparison_eq_error (h : d.comparison slot = .error fault) :
    fault = .ignoredWithPolicy .compare ∨ fault = .comparisonOffWithColumn := by
  unfold comparison at h
  split at h
  · cases h
  · split_ifs at h <;> cases h <;> simp

theorem listing?_eq_error {name : String} (h : d.listing? name slot = .error fault) :
    fault = .ignoredWithPolicy .print ∨ fault = .columnWithComparisonOff := by
  unfold listing? at h
  split at h
  · cases h
  · split_ifs at h <;> cases h <;> simp

theorem backoff?_eq_error (h : d.backoff? slot = .error fault) :
    fault = .ignoredWithPolicy .lateInit ∨ fault = .lateInitOnStatus ∨
      ∃ min max, fault = .negativeBackoff min max ∨ fault = .reversedBackoff min max := by
  unfold backoff? at h
  split at h
  · cases h
  · split_ifs at h <;> cases h <;> simp

end FieldDirectives

/-! ## All five steps -/

namespace FieldCase

variable {c : FieldCase} {m : Model} {fault : FieldFault}

theorem fault?_cases (h : c.fault? m = some fault) :
    m.fieldType c.occurrences c.directives = .error fault ∨
      slotFault? c.slot.value c.directives = some fault ∨
      c.directives.comparison c.slot.value = .error fault ∨
      c.directives.listing? c.name c.slot.value = .error fault ∨
      c.directives.backoff? c.slot.value = .error fault := by
  unfold fault? at h
  simp only [Option.or_eq_some_iff, refusal?_eq_some_iff] at h
  rcases h with hType | ⟨-, hSlot | ⟨-, hCompare | ⟨-, hList | ⟨-, hBackoff⟩⟩⟩⟩
  · exact Or.inl hType
  · exact Or.inr (Or.inl hSlot)
  · exact Or.inr (Or.inr (Or.inl hCompare))
  · exact Or.inr (Or.inr (Or.inr (Or.inl hList)))
  · exact Or.inr (Or.inr (Or.inr (Or.inr hBackoff)))

/-- Only the type of a name has faults that are no conflicts and no bounds. -/
theorem fieldType_eq_error_of_fault? (h : c.fault? m = some fault)
    (hc : fault.kind ≠ .conflict) (hb : fault.kind ≠ .backoffBounds) :
    m.fieldType c.occurrences c.directives = .error fault := by
  rcases fault?_cases h with hType | hSlot | hCompare | hList | hBackoff
  · exact hType
  · obtain ⟨w, rfl | rfl⟩ := slotFault?_eq_some hSlot <;> exact absurd rfl hc
  · obtain rfl | rfl := FieldDirectives.comparison_eq_error hCompare <;> exact absurd rfl hc
  · obtain rfl | rfl := FieldDirectives.listing?_eq_error hList <;> exact absurd rfl hc
  · obtain rfl | rfl | ⟨min, max, rfl | rfl⟩ := FieldDirectives.backoff?_eq_error hBackoff
    · exact absurd rfl hc
    · exact absurd rfl hc
    · exact absurd rfl hb
    · exact absurd rfl hb

/-- No step that settles a name speaks of a flag. -/
theorem flag?_of_fault? (h : c.fault? m = some fault) : fault.flag? = none := by
  rcases fault?_cases h with hType | hSlot | hCompare | hList | hBackoff
  · rcases Model.fieldType_eq_error hType with rfl | ⟨r, -, hf⟩ | ⟨-, -, hCommon⟩
    · rfl
    · obtain rfl | rfl := Model.follows_eq_error hf <;> rfl
    · obtain ⟨-, rfl⟩ | ⟨-, -, readings, rfl⟩ := Model.commonType_eq_error hCommon <;> rfl
  · obtain ⟨w, rfl | rfl⟩ := slotFault?_eq_some hSlot <;> rfl
  · obtain rfl | rfl := FieldDirectives.comparison_eq_error hCompare <;> rfl
  · obtain rfl | rfl := FieldDirectives.listing?_eq_error hList <;> rfl
  · obtain rfl | rfl | ⟨min, max, rfl | rfl⟩ := FieldDirectives.backoff?_eq_error hBackoff <;> rfl

/-- A name has ambiguous types if its occurrences have to give the type and do not agree. -/
theorem kind_fault?_eq_typeAmbiguity_iff :
    (c.fault? m).map FieldFault.kind = some .typeAmbiguity ↔
      c.directives.redirect = none ∧ c.directives.isOn .isAttribute = false ∧
        c.occurrences ≠ [] ∧ ¬ m.Agree c.occurrences := by
  constructor
  · intro h
    obtain ⟨fault, hf, kind⟩ := Option.map_eq_some_iff.1 h
    have hType : m.fieldType c.occurrences c.directives = .error fault :=
      fieldType_eq_error_of_fault? hf (by rw [kind]; decide) (by rw [kind]; decide)
    rcases Model.fieldType_eq_error hType with rfl | ⟨r, -, hf⟩ | ⟨hr, ha, hCommon⟩
    · cases kind
    · obtain rfl | rfl := Model.follows_eq_error hf <;> cases kind
    · obtain ⟨-, rfl⟩ | ⟨occurs, apart, -⟩ := Model.commonType_eq_error hCommon
      · cases kind
      · exact ⟨hr, ha, occurs, apart⟩
  · rintro ⟨hr, ha, occurs, apart⟩
    unfold fault?
    rw [Model.fieldType_eq_commonType hr ha]
    cases hCommon : m.commonType c.occurrences with
    | ok t => exact absurd ((m.commonType_isOk_iff _).1 ⟨t, hCommon⟩).2 apart
    | error fault =>
      obtain ⟨empty, -⟩ | ⟨-, -, readings, rfl⟩ := Model.commonType_eq_error hCommon
      · exact absurd empty occurs
      · rfl

end FieldCase

end FieldResolution
