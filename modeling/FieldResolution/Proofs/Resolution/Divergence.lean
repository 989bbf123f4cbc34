import FieldResolution.Proofs.Resolution.Fault

/-!
# Types that do not agree

Where the occurrences of a field have to give its type, two of them with different structures are
enough to refuse it.  The refusal shows one occurrence for every structure among them
(`represents_distinctReadings`): the first that has it, and in the order in which the structures
appear.  No other list of occurrences does so (`Represents.unique`), and where the occurrences
disagree it has at least two entries (`Represents.two_le_length`).
-/

namespace FieldResolution

namespace Model

/-- The occurrence is the first one with the structure of its type. -/
def Introduces (m : Model) (occurrences : List Occurrence) (o : Occurrence) : Prop :=
  ∃ before after, occurrences = before ++ o :: after ∧
    ∀ x ∈ before, m.signature x.type ≠ m.signature o.type

/-- The place at which the structure of an occurrence appears first. -/
def debut (m : Model) (occurrences : List Occurrence) (o : Occurrence) : Nat :=
  (occurrences.map fun x => m.signature x.type).idxOf (m.signature o.type)

/-- The occurrences in `shown` stand for the structures among all occurrences: one for each, the
first that has it, in the order in which the structures appear. -/
structure Represents (m : Model) (occurrences shown : List Occurrence) : Prop where
  every : ∀ o ∈ occurrences, ∃ x ∈ shown, m.signature x.type = m.signature o.type
  once : (shown.map fun x => m.signature x.type).Nodup
  first : ∀ x ∈ shown, m.Introduces occurrences x
  ordered : shown.Pairwise fun x y => m.debut occurrences x < m.debut occurrences y

variable {m : Model} {occurrences : List Occurrence}

/-! ## First occurrences -/

theorem Introduces.mem {o : Occurrence} (h : m.Introduces occurrences o) : o ∈ occurrences := by
  obtain ⟨before, after, rfl, -⟩ := h
  simp

theorem Introduces.cons {o x : Occurrence} (h : m.Introduces occurrences x)
    (other : m.signature o.type ≠ m.signature x.type) : m.Introduces (o :: occurrences) x := by
  obtain ⟨before, after, rfl, earlier⟩ := h
  refine ⟨o :: before, after, rfl, fun y hy => ?_⟩
  rcases List.mem_cons.1 hy with rfl | hy
  · exact other
  · exact earlier y hy

/-- A structure has one first occurrence. -/
theorem Introduces.unique {x y : Occurrence} (hx : m.Introduces occurrences x)
    (hy : m.Introduces occurrences y) (same : m.signature x.type = m.signature y.type) :
    x = y := by
  have found {o : Occurrence} (h : m.Introduces occurrences o) :
      occurrences.find? (fun z => m.signature z.type = m.signature o.type) = some o := by
    obtain ⟨before, after, rfl, earlier⟩ := h
    rw [List.find?_eq_some_iff_append]
    exact ⟨by simp, before, after, rfl, fun z hz => by simpa using earlier z hz⟩
  have one := found hx
  rw [same, found hy] at one
  exact (Option.some.inj one).symm

theorem debut_cons_self (o : Occurrence) : m.debut (o :: occurrences) o = 0 := by
  simp [debut]

theorem debut_cons_of_ne {o x : Occurrence} (other : m.signature o.type ≠ m.signature x.type) :
    m.debut (o :: occurrences) x = m.debut occurrences x + 1 := by
  unfold debut
  rw [List.map_cons, List.idxOf_cons_ne _ other]

/-! ## What is shown -/

/-- Another occurrence at the front stands for its structure in place of a later one. -/
theorem Represents.cons {shown : List Occurrence} (h : m.Represents occurrences shown)
    (o : Occurrence) :
    m.Represents (o :: occurrences) (o :: shown.filter fun x => !m.alike o.type x.type) := by
  have kept {x : Occurrence} : (x ∈ shown.filter fun x => !m.alike o.type x.type) ↔
      x ∈ shown ∧ m.signature o.type ≠ m.signature x.type := by
    rw [List.mem_filter, Bool.not_eq_true', ← Bool.not_eq_true, alike_iff]
  refine ⟨?_, ?_, ?_, ?_⟩
  · intro x hx
    by_cases same : m.signature o.type = m.signature x.type
    · exact ⟨o, List.mem_cons_self, same⟩
    · have later : x ∈ occurrences := by
        refine List.mem_of_ne_of_mem ?_ hx
        rintro rfl
        exact same rfl
      obtain ⟨y, hy, hxy⟩ := h.every x later
      exact ⟨y, List.mem_cons_of_mem _ (kept.2 ⟨hy, hxy ▸ same⟩), hxy⟩
  · rw [List.map_cons, List.nodup_cons]
    constructor
    · intro again
      obtain ⟨x, hx, hox⟩ := List.mem_map.1 again
      exact (kept.1 hx).2 hox.symm
    · exact h.once.sublist (List.filter_sublist.map _)
  · intro x hx
    rcases List.mem_cons.1 hx with rfl | hx
    · exact ⟨[], occurrences, rfl, by simp⟩
    · exact (h.first x (kept.1 hx).1).cons (kept.1 hx).2
  · rw [List.pairwise_cons]
    constructor
    · intro x hx
      rw [debut_cons_self, debut_cons_of_ne (kept.1 hx).2]
      omega
    · refine (h.ordered.sublist List.filter_sublist).imp_of_mem ?_
      intro x y hx hy earlier
      rw [debut_cons_of_ne (kept.1 hx).2, debut_cons_of_ne (kept.1 hy).2]
      omega

theorem represents_distinctReadings (m : Model) (occurrences : List Occurrence) :
    m.Represents occurrences (m.distinctReadings occurrences) := by
  induction occurrences with
  | nil => exact ⟨by simp, by simp [distinctReadings], by simp [distinctReadings], .nil⟩
  | cons o rest ih => exact ih.cons o

/-- Which occurrences stand for the structures, and in which order, is not left open. -/
theorem Represents.unique {shown shown' : List Occurrence} (h : m.Represents occurrences shown)
    (h' : m.Represents occurrences shown') : shown' = shown := by
  have subset {l l' : List Occurrence} (hl : m.Represents occurrences l)
      (hl' : m.Represents occurrences l') : ∀ x ∈ l, x ∈ l' := by
    intro x hx
    have introduced := hl.first x hx
    obtain ⟨y, hy, same⟩ := hl'.every x introduced.mem
    rw [← (hl'.first y hy).unique introduced same]
    exact hy
  have perm : shown'.Perm shown :=
    (List.perm_ext_iff_of_nodup h'.once.of_map h.once.of_map).2 fun x =>
      ⟨subset h' h x, subset h h' x⟩
  refine perm.eq_of_pairwise (fun x y _ _ hxy hyx => ?_) h'.ordered h.ordered
  omega

theorem Represents.two_le_length {shown : List Occurrence} (h : m.Represents occurrences shown)
    {x y : Occurrence} (hx : x ∈ occurrences) (hy : y ∈ occurrences)
    (apart : m.signature x.type ≠ m.signature y.type) : 2 ≤ shown.length := by
  obtain ⟨x', hx', same⟩ := h.every x hx
  obtain ⟨y', hy', same'⟩ := h.every y hy
  have distinct : x' ≠ y' := by
    rintro rfl
    exact apart (same.symm.trans same')
  by_contra short
  match shown, short with
  | [], _ => simp at hx'
  | [z], _ =>
    rw [List.mem_singleton] at hx' hy'
    exact distinct (hx'.trans hy'.symm)
  | _ :: _ :: _, short => simp at short

/-! ## The verdict on the type -/

theorem not_agree_iff :
    ¬ m.Agree occurrences ↔
      ∃ x ∈ occurrences, ∃ y ∈ occurrences, m.signature x.type ≠ m.signature y.type := by
  simp [Agree]

/-- Occurrences that do not agree are refused with one reading for each of their structures. -/
theorem commonType_of_not_agree (apart : ¬ m.Agree occurrences) :
    m.commonType occurrences =
      .error (.divergentTypes ((m.distinctReadings occurrences).map m.reading)) := by
  cases h : m.commonType occurrences with
  | ok t => exact absurd (commonType_eq_ok_iff.1 h).1 apart
  | error fault =>
    cases occurrences with
    | nil => exact absurd (by simp [Agree]) apart
    | cons first rest =>
      unfold commonType at h
      dsimp only at h
      split_ifs at h
      exact h.symm

/-- How a refusal shows occurrences that do not agree. -/
def divergence (m : Model) (shown : List Occurrence) : String :=
  "divergent types " ++
    " vs ".intercalate (shown.map fun o =>
      m.spell o.type ++ " in " ++ o.operation ++ " " ++ o.role.name) ++
    "; add a `from` override to pick one"

theorem detail_divergentTypes (m : Model) (shown : List Occurrence) :
    (FieldFault.divergentTypes (shown.map m.reading)).detail = m.divergence shown := by
  show "divergent types " ++ " vs ".intercalate ((shown.map m.reading).map fun r =>
    r.spelling ++ " in " ++ r.operation ++ " " ++ r.role.name) ++ _ = _
  rw [List.map_map]
  rfl

theorem refused_unknownField_iff :
    (∃ fault, m.commonType occurrences = .error fault ∧ fault.kind = .unknownField) ↔
      occurrences = [] := by
  constructor
  · rintro ⟨fault, h, kind⟩
    obtain ⟨empty, -⟩ | ⟨-, -, readings, rfl⟩ := commonType_eq_error h
    · exact empty
    · cases kind
  · rintro rfl
    exact ⟨_, rfl, rfl⟩

theorem not_agree_of_refused {fault : FieldFault} (h : m.commonType occurrences = .error fault)
    (kind : fault.kind = .typeAmbiguity) : ¬ m.Agree occurrences := by
  obtain ⟨-, rfl⟩ | ⟨-, apart, -⟩ := commonType_eq_error h
  · cases kind
  · exact apart

theorem refused_typeAmbiguity_iff :
    (∃ fault, m.commonType occurrences = .error fault ∧ fault.kind = .typeAmbiguity) ↔
      ∃ x ∈ occurrences, ∃ y ∈ occurrences, m.signature x.type ≠ m.signature y.type := by
  rw [← not_agree_iff]
  constructor
  · rintro ⟨fault, h, kind⟩
    exact not_agree_of_refused h kind
  · intro apart
    exact ⟨_, commonType_of_not_agree apart, rfl⟩

/-- A refusal for ambiguous types shows one list of occurrences that stand for the structures. -/
theorem existsUnique_represents {fault : FieldFault} (h : m.commonType occurrences = .error fault)
    (kind : fault.kind = .typeAmbiguity) :
    ∃! shown, m.Represents occurrences shown ∧ 2 ≤ shown.length ∧
      fault.detail = m.divergence shown := by
  have apart := not_agree_of_refused h kind
  obtain ⟨x, hx, y, hy, differ⟩ := not_agree_iff.1 apart
  have shown := m.represents_distinctReadings occurrences
  rw [commonType_of_not_agree apart] at h
  have detail : fault.detail = m.divergence (m.distinctReadings occurrences) := by
    rw [← Except.error.inj h]
    exact m.detail_divergentTypes _
  exact ⟨m.distinctReadings occurrences,
    ⟨shown, shown.two_le_length hx hy differ, detail⟩, fun other told => shown.unique told.1⟩

/-- A field whose type is left to its occurrences is unknown if it has none, ambiguous if two of
them have different structures, and otherwise of the type of the first.  An ambiguity lists one
occurrence for every structure. -/
theorem fieldType_of_undirected (m : Model) (occurrences : List Occurrence) (d : FieldDirectives)
    (unredirected : d.redirect = none) (packed : d.isOn .isAttribute = false) :
    ((∃ fault, m.fieldType occurrences d = .error fault ∧ fault.kind = .unknownField) ↔
        occurrences = []) ∧
      ((∃ fault, m.fieldType occurrences d = .error fault ∧ fault.kind = .typeAmbiguity) ↔
        ∃ x ∈ occurrences, ∃ y ∈ occurrences, m.signature x.type ≠ m.signature y.type) ∧
      (∀ t, m.fieldType occurrences d = .ok t ↔
        m.Agree occurrences ∧ occurrences.head?.map Occurrence.type = some t) ∧
      ∀ fault, m.fieldType occurrences d = .error fault → fault.kind = .typeAmbiguity →
        ∃! shown, m.Represents occurrences shown ∧ 2 ≤ shown.length ∧
          fault.detail = m.divergence shown := by
  rw [fieldType_eq_commonType unredirected packed]
  exact ⟨refused_unknownField_iff, refused_typeAmbiguity_iff, fun t => commonType_eq_ok_iff,
    fun fault h kind => existsUnique_represents h kind⟩

/-- Two chains of one structure, a pair and a text: the second link of a chain and the second pair
show nothing new. -/
def linkModel : Model where
  shapes :=
    [{ name := "Link", members := [⟨"Next", .shape 0, false⟩] },
      { name := "Ring", members := [⟨"Next", .shape 1, true⟩] },
      { name := "Pair", members := [⟨"Next", .shape 0, false⟩, ⟨"Last", .shape 1, false⟩] }]
  operations := []

def linkOccurrences : List Occurrence :=
  [⟨"CreateChain", .input, "Head", .shape 0, .create, true, "Head"⟩,
    ⟨"CreateChain", .output, "Head", .shape 1, .create, false, "Head"⟩,
    ⟨"GetChain", .output, "Head", .shape 2, .readOne, false, "Head"⟩,
    ⟨"UpdateChain", .input, "Head", .string, .update, false, "Head"⟩,
    ⟨"ListChains", .output, "Head", .shape 2, .readMany, false, "Head"⟩]

theorem fieldType_of_undirected_linkOccurrences :
    ∃ fault, linkModel.fieldType linkOccurrences { isAttribute := some false } = .error fault ∧
      fault.kind = .typeAmbiguity ∧
      (∃ x ∈ linkOccurrences, ∃ y ∈ linkOccurrences,
        linkModel.signature x.type ≠ linkModel.signature y.type) ∧
      fault.detail = "divergent types Link in CreateChain input vs Pair in GetChain output vs " ++
        "string in UpdateChain input; add a `from` override to pick one" ∧
      ∃! shown, linkModel.Represents linkOccurrences shown ∧ 2 ≤ shown.length ∧
        fault.detail = linkModel.divergence shown := by
  obtain ⟨-, ambiguous, -, told⟩ :=
    fieldType_of_undirected linkModel linkOccurrences { isAttribute := some false } rfl rfl
  have refused : linkModel.fieldType linkOccurrences { isAttribute := some false } =
      .error (.divergentTypes
        [⟨"Link", "CreateChain", .input⟩, ⟨"Pair", "GetChain", .output⟩,
          ⟨"string", "UpdateChain", .input⟩]) := by
    cbv
  exact ⟨_, refused, rfl, ambiguous.1 ⟨_, refused, rfl⟩, by decide, told _ refused rfl⟩

end Model

end FieldResolution
