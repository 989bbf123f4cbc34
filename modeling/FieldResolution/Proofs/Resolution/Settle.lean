import FieldResolution.Proofs.Field.Roster
import FieldResolution.Resolution.Settle

/-!
# The verdict on one field

A field is settled unless one of five steps refuses it: its type, its slot, its comparison, its
listing, its late initialization.  `fault?` is the first refusal (`refusal?_settle`), and
`settle_eq_ok_iff` says what a settled field is made of.  `Admissible` collects what the directives
of a field must not say; no step refuses a field if and only if its directives are admissible and
there is something to take its type from (`fault?_eq_none_iff`).
-/

namespace FieldResolution

/-- Why an answer was refused, if it was. -/
def refusal? {ε α : Type} : Except ε α → Option ε
  | .ok _ => none
  | .error e => some e

theorem refusal?_eq_none_iff {ε α : Type} {x : Except ε α} :
    refusal? x = none ↔ ∃ a, x = .ok a := by
  cases x <;> simp [refusal?]

/-- A step and what follows it give a result if the step gives one that the rest accepts. -/
theorem bind_eq_ok_iff {ε α β : Type} {x : Except ε α} {f : α → Except ε β} {b : β} :
    (x >>= f) = .ok b ↔ ∃ a, x = .ok a ∧ f a = .ok b := by
  cases x with
  | error e => simp [bind, Except.bind]
  | ok a => simp [bind, Except.bind]

namespace FieldCase

variable {c : FieldCase} {m : Model}

/-- The field of a given type and given policies, an attribute being a string from a map. -/
def finish (c : FieldCase) (m : Model) (type : MemberType) (comparison : Comparison)
    (listing : Option Listing) (backoff : Option Backoff) : ResolvedField :=
  let field := c.build m type comparison listing backoff
  if c.directives.isOn .isAttribute then field.unpack else field

/-- The first step that refuses the field, and why. -/
def fault? (c : FieldCase) (m : Model) : Option FieldFault :=
  (refusal? (m.fieldType c.occurrences c.directives)).or <|
    (slotFault? c.slot.value c.directives).or <|
      (refusal? (c.directives.comparison c.slot.value)).or <|
        (refusal? (c.directives.listing? c.name c.slot.value)).or <|
          refusal? (c.directives.backoff? c.slot.value)

theorem refusal?_settle (c : FieldCase) (m : Model) : refusal? (c.settle m) = c.fault? m := by
  unfold settle fault?
  cases m.fieldType c.occurrences c.directives with
  | error fault => rfl
  | ok type =>
    cases slotFault? c.slot.value c.directives with
    | some fault => rfl
    | none =>
      cases c.directives.comparison c.slot.value with
      | error fault => rfl
      | ok comparison =>
        cases c.directives.listing? c.name c.slot.value with
        | error fault => rfl
        | ok listing => cases c.directives.backoff? c.slot.value <;> rfl

theorem settle_eq_ok_iff {f : ResolvedField} :
    c.settle m = .ok f ↔ ∃ type comparison listing backoff,
      m.fieldType c.occurrences c.directives = .ok type ∧
      slotFault? c.slot.value c.directives = none ∧
      c.directives.comparison c.slot.value = .ok comparison ∧
      c.directives.listing? c.name c.slot.value = .ok listing ∧
      c.directives.backoff? c.slot.value = .ok backoff ∧
      f = c.finish m type comparison listing backoff := by
  constructor
  · intro h
    obtain ⟨type, hType, h⟩ := bind_eq_ok_iff.1 h
    cases hSlot : slotFault? c.slot.value c.directives with
    | some fault =>
      rw [hSlot] at h
      cases h
    | none =>
      rw [hSlot] at h
      obtain ⟨comparison, hCompare, h⟩ := bind_eq_ok_iff.1 h
      obtain ⟨listing, hList, h⟩ := bind_eq_ok_iff.1 h
      obtain ⟨backoff, hBackoff, h⟩ := bind_eq_ok_iff.1 h
      exact ⟨type, comparison, listing, backoff, hType, rfl, hCompare, hList, hBackoff,
        (Except.ok.inj h).symm⟩
  · rintro ⟨type, comparison, listing, backoff, hType, hSlot, hCompare, hList, hBackoff, rfl⟩
    unfold settle
    rw [hType, hSlot, hCompare, hList, hBackoff]
    rfl

/-! ## Settled fields -/

variable {f : ResolvedField}

theorem name_of_settle (h : c.settle m = .ok f) : f.name = c.name := by
  obtain ⟨type, comparison, listing, backoff, -, -, -, -, -, rfl⟩ := settle_eq_ok_iff.1 h
  unfold finish
  split_ifs <;> rfl

theorem position_of_settle (h : c.settle m = .ok f) : f.position = c.position := by
  obtain ⟨type, comparison, listing, backoff, -, -, -, -, -, rfl⟩ := settle_eq_ok_iff.1 h
  unfold finish
  split_ifs <;> rfl

theorem slot_of_settle (h : c.settle m = .ok f) : f.slot = c.slot.value := by
  obtain ⟨type, comparison, listing, backoff, -, -, -, -, -, rfl⟩ := settle_eq_ok_iff.1 h
  unfold finish
  split_ifs <;> rfl

theorem type_of_settle (h : c.settle m = .ok f) :
    m.fieldType c.occurrences c.directives = .ok f.type := by
  obtain ⟨type, comparison, listing, backoff, hType, -, -, -, -, rfl⟩ := settle_eq_ok_iff.1 h
  unfold finish
  split_ifs with unpacked
  · -- an attribute that a redirect does not refuse is a string
    unfold Model.fieldType at hType ⊢
    rw [unpacked] at hType ⊢
    cases hr : c.directives.redirect with
    | none => rfl
    | some r =>
      rw [hr] at hType
      cases hType
  · exact hType

theorem isUnpacked_of_settle (h : c.settle m = .ok f) :
    f.isUnpacked = c.directives.isOn .isAttribute := by
  obtain ⟨type, comparison, listing, backoff, -, -, -, -, -, rfl⟩ := settle_eq_ok_iff.1 h
  unfold finish
  split_ifs with unpacked
  · exact unpacked.symm
  · exact (Bool.eq_false_iff.2 unpacked).symm

theorem sourceOperation_of_settle (h : c.settle m = .ok f) :
    f.sourceOperation = c.directives.redirect.map Redirect.operation := by
  obtain ⟨type, comparison, listing, backoff, -, -, -, -, -, rfl⟩ := settle_eq_ok_iff.1 h
  unfold finish
  split_ifs <;> rfl

theorem sourcePath_of_settle (h : c.settle m = .ok f) : f.sourcePath = c.sourcePath? := by
  obtain ⟨type, comparison, listing, backoff, -, -, -, -, -, rfl⟩ := settle_eq_ok_iff.1 h
  unfold finish
  split_ifs <;> rfl

theorem typeName_of_settle (h : c.settle m = .ok f) : f.typeName = m.spell f.type := by
  obtain ⟨type, comparison, listing, backoff, -, -, -, -, -, rfl⟩ := settle_eq_ok_iff.1 h
  unfold finish
  split_ifs <;> rfl

theorem isRequired_of_settle (h : c.settle m = .ok f) : f.isRequired = c.required.value := by
  obtain ⟨type, comparison, listing, backoff, -, -, -, -, -, rfl⟩ := settle_eq_ok_iff.1 h
  unfold finish
  split_ifs <;> rfl

theorem listing_of_settle (h : c.settle m = .ok f) :
    c.directives.listing? c.name c.slot.value = .ok f.listing := by
  obtain ⟨type, comparison, listing, backoff, -, -, -, hList, -, rfl⟩ := settle_eq_ok_iff.1 h
  unfold finish
  split_ifs <;> exact hList

theorem provenance_of_settle (h : c.settle m = .ok f) :
    f.provenance = [("slot", c.slot.source), ("is_required", c.required.source)] := by
  obtain ⟨type, comparison, listing, backoff, -, -, -, -, -, rfl⟩ := settle_eq_ok_iff.1 h
  unfold finish
  split_ifs <;> rfl

end FieldCase

/-! ## The five steps -/

namespace Model

/-- A redirect leads to a member: its operation exists and its path resolves there. -/
def Leads (m : Model) (r : Redirect) : Prop :=
  ∃ o, m.operation? r.operation = some o ∧ (m.locate o r.segments).isSome = true

/-- The types of all occurrences have one signature. -/
def Agree (m : Model) (occurrences : List Occurrence) : Prop :=
  ∀ x ∈ occurrences, ∀ y ∈ occurrences, m.signature x.type = m.signature y.type

theorem follows_isOk_iff (m : Model) (r : Redirect) :
    (∃ found, m.follows r = .ok found) ↔ m.Leads r := by
  unfold follows Leads
  cases m.operation? r.operation with
  | none => simp
  | some o =>
    cases h : m.locate o r.segments with
    | none => simp [h]
    | some found =>
      simp only [h, Option.some.injEq, exists_eq_left', Option.isSome_some, iff_true]
      exact ⟨found, rfl⟩

theorem alike_iff (m : Model) (a b : MemberType) :
    m.alike a b = true ↔ m.signature a = m.signature b := decide_eq_true_iff

/-- Every occurrence agrees with the first one if and only if all agree with one another. -/
theorem commonType_isOk_iff (m : Model) (occurrences : List Occurrence) :
    (∃ type, m.commonType occurrences = .ok type) ↔ occurrences ≠ [] ∧ m.Agree occurrences := by
  cases occurrences with
  | nil => simp [commonType]
  | cons first rest =>
    have all : (rest.all fun o => m.alike first.type o.type) = true ↔ m.Agree (first :: rest) := by
      simp only [List.all_eq_true, alike_iff]
      constructor
      · intro h
        have same : ∀ x ∈ first :: rest, m.signature first.type = m.signature x.type := by
          intro x hx
          rcases List.mem_cons.1 hx with rfl | hx
          · rfl
          · exact h x hx
        exact fun x hx y hy => (same x hx).symm.trans (same y hy)
      · exact fun h x hx => h first (by simp) x (by simp [hx])
    rw [← all]
    by_cases h : (rest.all fun o => m.alike first.type o.type) = true
    · simp [commonType, h]
    · simp [commonType, h]

end Model

theorem Model.fieldType_isOk_iff (m : Model) (occurrences : List Occurrence)
    (d : FieldDirectives) :
    (∃ type, m.fieldType occurrences d = .ok type) ↔
      ¬(d.redirect.isSome = true ∧ d.isAttribute = some true) ∧
      (∀ r, d.redirect = some r → m.Leads r) ∧
      (d.redirect = none → d.isAttribute ≠ some true → occurrences ≠ [] ∧ m.Agree occurrences) := by
  unfold Model.fieldType
  cases hr : d.redirect with
  | some r =>
    by_cases ha : d.isAttribute = some true
    · simp [ha, FieldDirectives.switch]
    · have follows := m.follows_isOk_iff r
      cases hf : m.follows r with
      | error fault => simpa [ha, FieldDirectives.switch, hf, Except.map] using follows
      | ok found => simpa [ha, FieldDirectives.switch, hf, Except.map] using follows
  | none =>
    by_cases ha : d.isAttribute = some true
    · simp [ha, FieldDirectives.switch]
    · simpa [ha, FieldDirectives.switch] using m.commonType_isOk_iff occurrences

theorem slotFault?_eq_none_iff (slot : Slot) (d : FieldDirectives) :
    slotFault? slot d = none ↔
      (slot = .ignored → ∀ w ∈ ignoredForbids, d.switch w ≠ some true) ∧
      (slot = .status → ∀ w ∈ statusForbids, d.switch w ≠ some true) := by
  cases slot <;> simp [slotFault?, List.find?_eq_none]

namespace FieldDirectives

variable {d : FieldDirectives} {slot : Slot}

theorem isComparisonOff_eq_true_iff :
    d.isComparisonOff = true ↔ ∃ c, d.compare = some c ∧ c.isIgnored = true := by
  unfold isComparisonOff
  cases d.compare <;> simp

theorem comparison_isOk_iff :
    (∃ comparison, d.comparison slot = .ok comparison) ↔
      (d.compare.isSome = true → slot ≠ .ignored) ∧
      ¬(d.isComparisonOff = true ∧ d.print.isSome = true) := by
  unfold comparison isComparisonOff
  cases d.compare with
  | none => simp
  | some c =>
    by_cases hs : slot = .ignored
    · simp [hs]
    · by_cases hc : c.isIgnored = true ∧ d.print.isSome = true
      · simp [hs, hc]
      · simp [hs, hc]

theorem listing?_isOk_iff {name : String} :
    (∃ listing, d.listing? name slot = .ok listing) ↔
      (d.print.isSome = true → slot ≠ .ignored) ∧
      ¬(d.isComparisonOff = true ∧ d.print.isSome = true) := by
  unfold listing?
  cases d.print with
  | none => simp
  | some p =>
    by_cases hs : slot = .ignored
    · simp [hs]
    · cases d.isComparisonOff <;> simp [hs]

theorem backoff?_isOk_iff :
    (∃ backoff, d.backoff? slot = .ok backoff) ↔
      (d.lateInit.isSome = true → slot = .spec) ∧
      ∀ l, d.lateInit = some l → 0 ≤ l.minBackoff ∧ l.minBackoff ≤ l.maxBackoff := by
  unfold backoff?
  cases d.lateInit with
  | none => simp
  | some l =>
    cases slot with
    | ignored => simp
    | status => simp
    | spec =>
      by_cases hneg : l.minBackoff < 0 ∨ l.maxBackoff < 0
      · have : ¬(0 ≤ l.minBackoff ∧ l.minBackoff ≤ l.maxBackoff) := by omega
        simpa [hneg] using this
      · by_cases hrev : l.maxBackoff < l.minBackoff
        · simp [hneg, hrev]
        · have : 0 ≤ l.minBackoff ∧ l.minBackoff ≤ l.maxBackoff := by omega
          simpa [hneg, hrev] using this

end FieldDirectives

/-! ## Admissible directives -/

/-- What the directives of a field must keep to, given where the field occurs. -/
structure Admissible (m : Model) (occurrences : List Occurrence) (d : FieldDirectives) : Prop where
  redirect_or_attribute : ¬(d.redirect.isSome = true ∧ d.isAttribute = some true)
  redirect_leads : ∀ r, d.redirect = some r → m.Leads r
  occurrences_agree : d.redirect = none → d.isAttribute ≠ some true → m.Agree occurrences
  ignored_bare : (decideSlot occurrences d).value = .ignored →
    d.compare = none ∧ d.print = none ∧ d.lateInit = none ∧ d.isPrimaryKey ≠ some true ∧
      d.isArn ≠ some true ∧ d.isOwnerAccountId ≠ some true
  status_observed : (decideSlot occurrences d).value = .status →
    d.lateInit = none ∧ d.isImmutable ≠ some true ∧ d.isRequired ≠ some true
  compared_or_unlisted : ∀ c, d.compare = some c → c.isIgnored = true → d.print = none
  backoff_ordered : ∀ l, d.lateInit = some l → 0 ≤ l.minBackoff ∧ l.minBackoff ≤ l.maxBackoff

/-- What a slot leaves no room for: the switches that it forbids and the policies that need
another slot. -/
theorem slot_admits_iff {slot : Slot} {d : FieldDirectives} :
    ((slot = .ignored → ∀ w ∈ ignoredForbids, d.switch w ≠ some true) ∧
          (slot = .status → ∀ w ∈ statusForbids, d.switch w ≠ some true)) ∧
        (d.compare.isSome = true → slot ≠ .ignored) ∧ (d.print.isSome = true → slot ≠ .ignored) ∧
        (d.lateInit.isSome = true → slot = .spec) ↔
      (slot = .ignored → d.compare = none ∧ d.print = none ∧ d.lateInit = none ∧
          d.isPrimaryKey ≠ some true ∧ d.isArn ≠ some true ∧ d.isOwnerAccountId ≠ some true) ∧
        (slot = .status →
          d.lateInit = none ∧ d.isImmutable ≠ some true ∧ d.isRequired ≠ some true) := by
  cases slot with
  | spec => simp
  | status => simp [statusForbids, FieldDirectives.switch, and_comm]
  | ignored => simp [ignoredForbids, FieldDirectives.switch, and_comm, and_left_comm, and_assoc]

/-- A listed field is compared. -/
theorem FieldDirectives.unlisted_iff {d : FieldDirectives} :
    ¬(d.isComparisonOff = true ∧ d.print.isSome = true) ↔
      ∀ c, d.compare = some c → c.isIgnored = true → d.print = none := by
  constructor
  · intro apart c hc hi
    refine Option.not_isSome_iff_eq_none.1 fun listed => apart ⟨?_, listed⟩
    exact isComparisonOff_eq_true_iff.2 ⟨c, hc, hi⟩
  · rintro unlisted ⟨off, listed⟩
    obtain ⟨c, hc, hi⟩ := isComparisonOff_eq_true_iff.1 off
    rw [unlisted c hc hi] at listed
    cases listed

/-- A field that is neither redirected nor an attribute takes its type from where it occurs. -/
theorem typed_by_occurrences_iff {m : Model} {occurrences : List Occurrence} {d : FieldDirectives} :
    (d.redirect = none → d.isAttribute ≠ some true → occurrences ≠ [] ∧ m.Agree occurrences) ↔
      (d.redirect = none → d.isAttribute ≠ some true → m.Agree occurrences) ∧
        (Roster.isSelfTyped d = true ∨ occurrences ≠ []) := by
  rw [Roster.isSelfTyped_iff]
  constructor
  · intro typed
    refine ⟨fun hr ha => (typed hr ha).2, ?_⟩
    by_cases self : d.redirect.isSome = true ∨ d.isAttribute = some true
    · exact .inl self
    · rw [not_or] at self
      exact .inr (typed (Option.not_isSome_iff_eq_none.1 self.1) self.2).1
  · rintro ⟨agree, typed⟩ hr ha
    refine ⟨?_, agree hr ha⟩
    rcases typed with (redirected | unpacked) | occurs
    · rw [hr] at redirected
      cases redirected
    · exact absurd unpacked ha
    · exact occurs

/-- A field is settled if its directives are admissible and it can be typed at all. -/
theorem FieldCase.fault?_eq_none_iff {c : FieldCase} {m : Model} :
    c.fault? m = none ↔
      Admissible m c.occurrences c.directives ∧
        (Roster.isSelfTyped c.directives = true ∨ c.occurrences ≠ []) := by
  simp only [FieldCase.fault?, FieldCase.slot, Option.or_eq_none_iff, refusal?_eq_none_iff,
    Model.fieldType_isOk_iff, slotFault?_eq_none_iff, FieldDirectives.comparison_isOk_iff,
    FieldDirectives.listing?_isOk_iff, FieldDirectives.backoff?_isOk_iff]
  constructor
  · rintro ⟨⟨apart, leads, typed⟩, forbids, ⟨compare, unlisted⟩, ⟨print, -⟩, lateInit, bounds⟩
    obtain ⟨bare, observed⟩ := slot_admits_iff.1 ⟨forbids, compare, print, lateInit⟩
    obtain ⟨agree, typed⟩ := typed_by_occurrences_iff.1 typed
    exact ⟨⟨apart, leads, agree, bare, observed, FieldDirectives.unlisted_iff.1 unlisted, bounds⟩,
      typed⟩
  · rintro ⟨h, typed⟩
    obtain ⟨forbids, compare, print, lateInit⟩ :=
      slot_admits_iff.2 ⟨h.ignored_bare, h.status_observed⟩
    have unlisted := FieldDirectives.unlisted_iff.2 h.compared_or_unlisted
    have attached := typed_by_occurrences_iff.2 ⟨h.occurrences_agree, typed⟩
    exact ⟨⟨h.redirect_or_attribute, h.redirect_leads, attached⟩, forbids,
      ⟨compare, unlisted⟩, ⟨print, unlisted⟩, lateInit, h.backoff_ordered⟩

end FieldResolution
