import FieldResolution.Proofs.Resolution.Answer

/-!
# Two fields for one flag

A run fails if the directives switch a flag on for two of its names (`not_acceptable_of_two`).  The
flags are assigned among the names that are settled, so a fault of the run says that the flag is
taken exactly if two of the names stand under admissible directives (`exists_flagTaken_iff`).  Any
other name is refused for a fault of its own (`exists_fault_of_not_admissible`), and that fault can
hide the conflict.
-/

namespace FieldResolution

/-- A list of two different items has a first and a second item. -/
theorem exists_cons_cons_of_ne {α : Type} {l : List α} {a b : α} (ha : a ∈ l) (hb : b ∈ l)
    (apart : a ≠ b) : ∃ first second rest, l = first :: second :: rest := by
  cases l with
  | nil => cases ha
  | cons first others =>
    cases others with
    | nil =>
      rw [List.mem_singleton] at ha hb
      exact absurd (ha.trans hb.symm) apart
    | cons second rest => exact ⟨first, second, rest, rfl⟩

namespace Request

variable {q : Request} {w : Switch} {name owner : String}

/-- The flag is switched on for a name of the run whose directives are admissible. -/
structure Carries (q : Request) (w : Switch) (name : String) : Prop where
  known : name ∈ q.roster.names
  on : (q.overrides.get name).isOn w = true
  admissible : Admissible q.model (q.roster.occurrences name) (q.overrides.get name)

/-- What the faults of a run have to say about a flag that is switched on for two of its names. -/
structure ReportsFlag (q : Request) (w : Switch) (errors : List FieldError) : Prop where
  taken_iff : (∃ name owner, ⟨name, .flagTaken (.switch w) owner⟩ ∈ errors) ↔
    ∃ name owner, name ≠ owner ∧ q.Carries w name ∧ q.Carries w owner
  taken : ∀ name owner, ⟨name, .flagTaken (.switch w) owner⟩ ∈ errors →
    q.Carries w name ∧ q.Carries w owner ∧ [owner, name].Sublist q.roster.names
  refused : ∀ name ∈ q.roster.names,
    ¬Admissible q.model (q.roster.occurrences name) (q.overrides.get name) →
      ∃ fault, fault.flag? = none ∧ ⟨name, fault⟩ ∈ errors

/-! ## The names that hold a flag -/

theorem mem_settledNames_iff (keyed : q.overrides.Keyed) :
    name ∈ q.settledNames ↔ name ∈ q.roster.names ∧
      Admissible q.model (q.roster.occurrences name) (q.overrides.get name) := by
  unfold settledNames
  rw [List.mem_filter, Option.isNone_iff_eq_none]
  refine and_congr_right fun known => ?_
  rw [fault?_eq_none_iff]
  exact and_iff_left ((mem_names_iff keyed).1 known).symm

theorem mem_holders_iff (keyed : q.overrides.Keyed) : name ∈ q.holders w ↔ q.Carries w name := by
  unfold holders
  rw [List.mem_filter, mem_settledNames_iff keyed]
  constructor
  · rintro ⟨⟨known, admissible⟩, on⟩
    exact ⟨known, on, admissible⟩
  · rintro ⟨known, on, admissible⟩
    exact ⟨⟨known, admissible⟩, on⟩

theorem holders_sublist_names (q : Request) (w : Switch) : (q.holders w).Sublist q.roster.names :=
  List.filter_sublist.trans List.filter_sublist

/-! ## The conflict over a flag -/

theorem conflict?_eq_some_iff {e : FieldError} :
    q.conflict? w = some e ↔
      ∃ owner name rest, q.holders w = owner :: name :: rest ∧
        e = ⟨name, .flagTaken (.switch w) owner⟩ := by
  unfold conflict?
  constructor
  · intro h
    split at h
    · rename_i owner name rest held
      cases h
      exact ⟨owner, name, rest, held, rfl⟩
    · cases h
  · rintro ⟨owner, name, rest, held, rfl⟩
    rw [held]

/-- Among the faults only those of the flags speak of a flag, and each of its own. -/
theorem flagTaken_mem_iff (hw : w ∈ singletons) :
    ⟨name, .flagTaken (.switch w) owner⟩ ∈ reportedErrors q.resolve ↔
      ∃ rest, q.holders w = owner :: name :: rest := by
  rw [reportedErrors_resolve, errors_findings, List.mem_append, List.mem_append]
  constructor
  · rintro ((unknown | refused) | conflict)
    · cases flag?_of_mem_unknownErrors unknown
    · cases flag?_of_mem_fieldErrors refused
    · obtain ⟨w', -, found⟩ := List.mem_filterMap.1 conflict
      have same : some (.switch w) = some (Flag.switch w') := flag?_of_conflict? found
      cases same
      obtain ⟨owner', name', rest, held, e⟩ := conflict?_eq_some_iff.1 found
      cases e
      exact ⟨rest, held⟩
  · rintro ⟨rest, held⟩
    have found := conflict?_eq_some_iff.2 ⟨owner, name, rest, held, rfl⟩
    exact Or.inr (List.mem_filterMap.2 ⟨w, hw, found⟩)

theorem carries_of_flagTaken (keyed : q.overrides.Keyed) (hw : w ∈ singletons)
    (taken : ⟨name, .flagTaken (.switch w) owner⟩ ∈ reportedErrors q.resolve) :
    q.Carries w name ∧ q.Carries w owner ∧ [owner, name].Sublist q.roster.names := by
  obtain ⟨rest, held⟩ := (flagTaken_mem_iff hw).1 taken
  have front : [owner, name].Sublist (q.holders w) := by
    rw [held]
    exact ((List.nil_sublist rest).cons_cons name).cons_cons owner
  have holds : ∀ n ∈ [owner, name], q.Carries w n := fun n hn =>
    (mem_holders_iff keyed).1 (front.subset hn)
  exact ⟨holds name (by simp), holds owner (by simp), front.trans (q.holders_sublist_names w)⟩

/-- A fault says that a flag is taken exactly if two names carry it. -/
theorem exists_flagTaken_iff (keyed : q.overrides.Keyed) (hw : w ∈ singletons) :
    (∃ name owner, ⟨name, .flagTaken (.switch w) owner⟩ ∈ reportedErrors q.resolve) ↔
      ∃ name owner, name ≠ owner ∧ q.Carries w name ∧ q.Carries w owner := by
  constructor
  · rintro ⟨name, owner, taken⟩
    obtain ⟨second, first, order⟩ := carries_of_flagTaken keyed hw taken
    have once := (Roster.nodup_names_ofModel q.model q.overrides keyed).sublist order
    refine ⟨name, owner, ?_, second, first⟩
    rintro rfl
    simp at once
  · rintro ⟨name, owner, apart, second, first⟩
    obtain ⟨a, b, rest, held⟩ := exists_cons_cons_of_ne ((mem_holders_iff keyed).2 second)
      ((mem_holders_iff keyed).2 first) apart
    exact ⟨b, a, (flagTaken_mem_iff hw).2 ⟨rest, held⟩⟩

/-! ## The faults of a run under two switches -/

theorem exists_fault_of_not_admissible (known : name ∈ q.roster.names)
    (against : ¬Admissible q.model (q.roster.occurrences name) (q.overrides.get name)) :
    ∃ fault, fault.flag? = none ∧ ⟨name, fault⟩ ∈ reportedErrors q.resolve := by
  have refused : q.fault? name ≠ none := fun sound => against (fault?_eq_none_iff.1 sound).1
  obtain ⟨fault, found⟩ := Option.ne_none_iff_exists'.1 refused
  refine ⟨fault, FieldCase.flag?_of_fault? found, ?_⟩
  rw [reportedErrors_resolve, errors_findings]
  exact List.mem_append_left _ (List.mem_append_right _ (mem_fieldErrors.2 ⟨known, found⟩))

theorem not_acceptable_of_two (hw : w ∈ singletons) {a b : String} (apart : a ≠ b)
    (ha : a ∈ q.roster.names) (hb : b ∈ q.roster.names)
    (aOn : (q.overrides.get a).isOn w = true) (bOn : (q.overrides.get b).isOn w = true) :
    ¬q.Acceptable := by
  intro acceptable
  have single := acceptable.flags_single w hw
  have first : a ∈ q.roster.names.filter fun n => (q.overrides.get n).isOn w :=
    List.mem_filter.2 ⟨ha, aOn⟩
  have second : b ∈ q.roster.names.filter fun n => (q.overrides.get n).isOn w :=
    List.mem_filter.2 ⟨hb, bOn⟩
  obtain ⟨_, _, _, held⟩ := exists_cons_cons_of_ne first second apart
  rw [held, List.length_cons, List.length_cons] at single
  omega

/-- A run fails if a flag is switched on for two of its names.  Its faults say that the flag is
taken exactly if two names carry it, and of each name whose directives are not admissible what is
wrong with that name. -/
theorem flag_reported_of_two (q : Request) (keyed : q.overrides.Keyed) (w : Switch)
    (hw : w ∈ singletons) (a b : String) (apart : a ≠ b)
    (ha : a ∈ q.roster.names) (hb : b ∈ q.roster.names)
    (aOn : (q.overrides.get a).isOn w = true) (bOn : (q.overrides.get b).isOn w = true) :
    ∃ failure, q.resolve = .error failure ∧ q.ReportsFlag w failure.errors := by
  have fails : ¬∃ s, q.resolve = .ok s := fun answered =>
    not_acceptable_of_two hw apart ha hb aOn bOn (q.resolve_accepts_iff.1 answered)
  cases answer : q.resolve with
  | ok s => exact absurd ⟨s, answer⟩ fails
  | error failure =>
    have errors : failure.errors = reportedErrors q.resolve := by
      rw [answer]
      rfl
    refine ⟨failure, rfl, ?_⟩
    rw [errors]
    exact
      { taken_iff := exists_flagTaken_iff keyed hw
        taken := fun _ _ => carries_of_flagTaken keyed hw
        refused := fun _ => exists_fault_of_not_admissible }

/-- The flag is switched on for three names, one of them without an occurrence, beside a name that
is refused. -/
def certificateRequest : Request where
  model :=
    { shapes := [{ name := "In", members := [⟨"Domain", .string, true⟩, ⟨"Chain", .string, false⟩,
        ⟨"Key", .string, false⟩] }]
      operations := [{ name := "CreateCertificate", input := some 0, kind := .create }] }
  resource := "Certificate"
  directives :=
    { fields :=
        [("Issuer", { isAttribute := some true, isArn := some true }),
          ("Key", { isIgnored := some true, print := some {} }),
          ("Chain", { isArn := some true }), ("Domain", { isArn := some true })] }

theorem flag_reported_of_two_certificateRequest :
    ∃ failure, certificateRequest.resolve = .error failure ∧
      failure.errors =
        [⟨"Key", .ignoredWithPolicy .print⟩, ⟨"Chain", .flagTaken (.switch .isArn) "Domain"⟩] ∧
      certificateRequest.ReportsFlag .isArn failure.errors := by
  have keyed : certificateRequest.overrides.Keyed := by decide
  have names : certificateRequest.roster.names = ["Domain", "Chain", "Key", "Issuer"] := by cbv
  have reported : reportedErrors certificateRequest.resolve =
      [⟨"Key", .ignoredWithPolicy .print⟩, ⟨"Chain", .flagTaken (.switch .isArn) "Domain"⟩] := by
    cbv
  obtain ⟨failure, answer, reports⟩ := flag_reported_of_two certificateRequest keyed .isArn
    (by decide) "Chain" "Issuer" (by decide) (by rw [names]; decide) (by rw [names]; decide)
    (by decide) (by decide)
  rw [answer] at reported
  exact ⟨failure, answer, reported, reports⟩

/-- Two names are to be the primary key, and the second also has bounds in the wrong order. -/
def sizedLabel : Request where
  model :=
    { shapes := [{ name := "In", members := [⟨"Label", .string, false⟩,
        ⟨"Size", .primitive .integer, false⟩] }]
      operations := [{ name := "CreateThing", input := some 0, kind := .create }] }
  resource := "Thing"
  directives :=
    { fields :=
        [("Label", { isPrimaryKey := some true }),
          ("Size", { isPrimaryKey := some true, lateInit := some ⟨30, 1⟩ })] }

/-- A fault of one of the two names hides that both claim the flag. -/
theorem flagTaken_hidden_by_backoff :
    (∀ name ∈ ["Label", "Size"], name ∈ sizedLabel.roster.names ∧
      (sizedLabel.overrides.get name).isOn .isPrimaryKey = true) ∧
      ∃ failure, sizedLabel.resolve = .error failure ∧
        ∀ name owner, ⟨name, .flagTaken (.switch .isPrimaryKey) owner⟩ ∉ failure.errors := by
  have names : sizedLabel.roster.names = ["Label", "Size"] := by cbv
  have reported : reportedErrors sizedLabel.resolve = [⟨"Size", .reversedBackoff 30 1⟩] := by cbv
  refine ⟨by rw [names]; decide, ?_⟩
  cases answer : sizedLabel.resolve with
  | ok s =>
    rw [answer] at reported
    cases reported
  | error failure =>
    rw [answer] at reported
    have only : failure.errors = [⟨"Size", .reversedBackoff 30 1⟩] := reported
    refine ⟨failure, rfl, fun name owner taken => ?_⟩
    rw [only, List.mem_singleton] at taken
    cases taken

end Request

end FieldResolution
