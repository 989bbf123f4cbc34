import FieldResolution.Field.Flag
import FieldResolution.Field.Resolved
import FieldResolution.Proofs.Field.Roster

/-!
# Assigning a flag

A flag is assigned unless two fields are switched on (`assign_isOk_iff`), and then every name that
was asked about is decided (`lookup_decisions`): for a name that is switched on, or for the one that
carries the flag by its name (`value_decision_iff`).  What the names would have said and a directive
has overridden is noted (`exists_overridden_note_iff`).  A decision changes nothing of a field but
its flags and their provenance (`unflagged_decideFlag`).
-/

namespace FieldResolution

namespace FlagQuestion

variable {q : FlagQuestion}

/-- What is assigned where no two fields are switched on. -/
def assignment (q : FlagQuestion) : FlagAssignment :=
  { flag := q.flag
    owner := q.switchedOn.head?.or q.heuristicOwner?
    decisions := (q.decidedNames q.heuristicOwner?).map fun n =>
      (n, q.decision q.heuristicOwner? n)
    notes := q.candidates.filterMap (q.note? q.switchedOn.head? q.heuristicOwner?) }

theorem assign_of_two {first second : String} {rest : List String}
    (h : q.switchedOn = first :: second :: rest) :
    q.assign = .error ⟨second, .flagTaken q.flag first⟩ := by
  unfold assign
  rw [h]

theorem assign_of_length_le (h : q.switchedOn.length ≤ 1) : q.assign = .ok q.assignment := by
  unfold assign assignment
  cases hs : q.switchedOn with
  | nil => rfl
  | cons first rest =>
    cases rest with
    | nil => rfl
    | cons second rest =>
      rw [hs, List.length_cons, List.length_cons] at h
      omega

/-- Two fields that are switched on are a conflict, and nothing else is. -/
theorem assign_isOk_iff : (∃ a, q.assign = .ok a) ↔ q.switchedOn.length ≤ 1 := by
  constructor
  · rintro ⟨a, ha⟩
    cases hs : q.switchedOn with
    | nil => simp
    | cons first rest =>
      cases rest with
      | nil => simp
      | cons second rest =>
        rw [assign_of_two hs] at ha
        cases ha
  · exact fun h => ⟨q.assignment, assign_of_length_le h⟩

theorem lookup_decisions {name : String} (h : name ∈ q.names) :
    q.assignment.decisions.lookup name = some (q.decision q.heuristicOwner? name) := by
  have decided : name ∈ q.decidedNames q.heuristicOwner? := by
    unfold decidedNames
    exact List.mem_eraseDups.2 (List.mem_append_right _ h)
  unfold assignment
  rw [lookup_keyed, if_pos decided]

/-! ## Who carries the flag -/

theorem value_decision_iff {name : String} :
    (q.decision q.heuristicOwner? name).value = true ↔
      q.explicit? name = some true ∨ q.explicit? name = none ∧ q.heuristicOwner? = some name := by
  unfold decision
  cases q.explicit? name with
  | none => simp [Decision.heuristic]
  | some b => simp [Decision.explicit]

theorem source_decision (owner : Option String) (name : String) :
    (q.decision owner name).source =
      if (q.explicit? name).isSome then .explicit else .heuristic := by
  unfold decision
  cases q.explicit? name <;> rfl

theorem mem_switchedOn {name : String} :
    name ∈ q.switchedOn ↔ name ∈ q.names ∧ q.explicit? name = some true := by
  simp [switchedOn]

theorem isCandidate_iff {name : String} :
    q.isCandidate name = true ↔ name ∉ q.ineligible ∧ Text.lowercase name ∈ q.patterns := by
  simp [isCandidate]

/-- A field that is switched on leaves nothing to the names. -/
theorem heuristicOwner?_of_switchedOn {name : String} (h : name ∈ q.switchedOn) :
    q.heuristicOwner? = none := by
  unfold heuristicOwner?
  have occupied : q.switchedOn ≠ [] := List.ne_nil_of_mem h
  rw [if_neg]
  simpa using occupied

theorem heuristicOwner?_of_switchedOff (h : q.switchedOn = []) :
    q.heuristicOwner? =
      q.names.find? fun n => decide (q.isCandidate n = true ∧ (q.explicit? n).isNone = true) := by
  unfold heuristicOwner? firstMatch? candidates
  rw [h, List.isEmpty_nil, if_pos rfl, List.find?_filter]

theorem isCandidate_of_heuristicOwner? {name : String} (h : q.heuristicOwner? = some name) :
    q.isCandidate name = true := by
  unfold heuristicOwner? at h
  split at h
  · have candidate : name ∈ q.candidates := List.mem_of_find?_eq_some h
    exact (List.mem_filter.1 candidate).2
  · cases h

/-! ## What is noted -/

theorem note?_cases {switchedOn owner : Option String} {name : String} {note : FlagNote}
    (h : q.note? switchedOn owner name = some note) :
    q.explicit? name = some false ∧ note = .disabled name ∨
      q.explicit? name = none ∧ (∃ o, switchedOn = some o ∧ note = .overridden name o) ∨
      q.explicit? name = none ∧ switchedOn = none ∧
        ∃ o, owner = some o ∧ name ≠ o ∧ note = .ignored name o := by
  unfold note? at h
  split at h
  · cases h
  · rename_i off
    cases h
    exact .inl ⟨off, rfl⟩
  · rename_i silent
    cases switchedOn with
    | some o =>
      cases h
      exact .inr (.inl ⟨silent, o, rfl, rfl⟩)
    | none =>
      cases owner with
      | some o =>
        simp only at h
        split_ifs at h with own
        cases h
        exact .inr (.inr ⟨silent, rfl, o, rfl, own, rfl⟩)
      | none => cases h

theorem field_of_note? {switchedOn owner : Option String} {name : String} {note : FlagNote}
    (h : q.note? switchedOn owner name = some note) : note.field = name := by
  rcases note?_cases h with ⟨-, rfl⟩ | ⟨-, o, -, rfl⟩ | ⟨-, -, o, -, -, rfl⟩
  · rfl
  · rfl
  · rfl

/-- It is noted of a name that its match is overridden if the field may carry the flag by its name,
is not switched on, and is switched off or finds another field switched on. -/
theorem exists_overridden_note_iff {name : String} :
    (∃ note ∈ q.assignment.notes, note.code = "heuristic_overridden" ∧ note.field = name) ↔
      name ∈ q.candidates ∧
        (q.explicit? name = some false ∨ q.explicit? name = none ∧ q.switchedOn ≠ []) := by
  constructor
  · rintro ⟨note, noted, code, rfl⟩
    obtain ⟨n, candidate, hn⟩ := List.mem_filterMap.1 noted
    rw [field_of_note? hn]
    refine ⟨candidate, ?_⟩
    rcases note?_cases hn with ⟨off, rfl⟩ | ⟨silent, o, first, rfl⟩ | ⟨-, -, o, -, -, rfl⟩
    · exact Or.inl off
    · refine Or.inr ⟨silent, fun idle => ?_⟩
      rw [idle] at first
      cases first
    · have codes : "singleton_match_ignored" = "heuristic_overridden" := code
      exact absurd codes (by decide)
  · rintro ⟨candidate, off | ⟨silent, occupied⟩⟩
    · refine ⟨.disabled name, List.mem_filterMap.2 ⟨name, candidate, ?_⟩, rfl, rfl⟩
      unfold note?
      rw [off]
    · obtain ⟨first, rest, hs⟩ := List.exists_cons_of_ne_nil occupied
      refine ⟨.overridden name first, List.mem_filterMap.2 ⟨name, candidate, ?_⟩, rfl, rfl⟩
      unfold note?
      rw [silent, hs]
      rfl

end FlagQuestion

namespace ResolvedField

/-- The field without what the flags decide. -/
def unflagged (f : ResolvedField) : ResolvedField :=
  { f with isPrimaryKey := false, isArn := false, isOwnerAccountId := false, provenance := [] }

/-- A decision on a flag leaves everything else of the field alone. -/
theorem unflagged_decideFlag (f : ResolvedField) (flag : Flag) (d : Decision Bool) :
    (f.decideFlag flag d).unflagged = f.unflagged := by
  unfold decideFlag setFlag
  split <;> rfl

theorem provenance_decideFlag (f : ResolvedField) (flag : Flag) (d : Decision Bool) :
    (f.decideFlag flag d).provenance = f.provenance ++ [(flag.key, d.source)] := rfl

end ResolvedField

end FieldResolution
