import FieldResolution.Proofs.Field.Flag
import Mathlib

/-!
# What an assignment settles

A flag is contested if it is switched on for two names; the fault names the second and cites the
first (`assign_eq_error_iff`).  If it is not contested, an assignment decides every name once
(`keys_decisions_perm`).  The owner is the name that is switched on, or else the first that the
patterns find and no directive speaks of (`owner_assignment_iff`), and every other name that the
patterns find is noted, in order (`fields_notes`).
-/

namespace FieldResolution

/-- The name is the first of the list that has the property. -/
def IsFirst (names : List String) (P : String → Prop) (name : String) : Prop :=
  P name ∧ ∃ before after, names = before ++ name :: after ∧ ∀ n ∈ before, ¬ P n

theorem find?_eq_some_iff_isFirst {names : List String} {p : String → Bool} {name : String} :
    names.find? p = some name ↔ IsFirst names (fun n => p n = true) name := by
  simp only [List.find?_eq_some_iff_append, IsFirst, Bool.not_eq_true', Bool.not_eq_true]

namespace FlagQuestion

/-- The flag is switched on for two of the names. -/
def Contested (q : FlagQuestion) : Prop :=
  ∃ a ∈ q.names, ∃ b ∈ q.names, a ≠ b ∧ q.explicit? a = some true ∧ q.explicit? b = some true

/-- The field may carry the flag, and its lower-cased name is one of the patterns. -/
def Finds (q : FlagQuestion) (name : String) : Prop :=
  name ∉ q.ineligible ∧ Text.lowercase name ∈ q.patterns

instance (q : FlagQuestion) : DecidablePred q.Finds := fun _ => inferInstanceAs (Decidable (_ ∧ _))

/-- A directive keeps the name from carrying the flag: it switches the name off, or another on. -/
def Overruled (q : FlagQuestion) (name : String) : Prop :=
  q.explicit? name = some false ∨ ∃ other ∈ q.names, other ≠ name ∧ q.explicit? other = some true

/-- What an assignment makes of the names that were asked about. -/
structure Settles (q : FlagQuestion) (a : FlagAssignment) : Prop where
  /-- Every name is decided once, and no other name is. -/
  decided : (a.decisions.map Prod.fst).Perm q.names
  explicit : ∀ n ∈ q.names, ∀ b, q.explicit? n = some b → (n, .explicit b) ∈ a.decisions
  heuristic : ∀ n ∈ q.names, q.explicit? n = none → ∃ b, (n, .heuristic b) ∈ a.decisions
  value : ∀ e ∈ a.decisions, e.2.value = true ↔ a.owner = some e.1
  owner : ∀ n, a.owner = some n ↔
    n ∈ q.names ∧ q.explicit? n = some true ∨
      (∀ k ∈ q.names, q.explicit? k ≠ some true) ∧
        IsFirst q.names (fun k => q.Finds k ∧ q.explicit? k = none) n
  /-- Every name that the patterns find has one note, the owner apart, in the order of the names. -/
  noted : a.notes.map FlagNote.field =
    q.names.filter fun n => decide (q.Finds n ∧ a.owner ≠ some n)
  overruled : ∀ note ∈ a.notes, q.Overruled note.field → note.code = "heuristic_overridden"
  passed : ∀ note ∈ a.notes, ¬ q.Overruled note.field → note.code = "singleton_match_ignored"
  /-- A note that cites a field cites the owner. -/
  cited : ∀ note ∈ a.notes, ∀ n o, note = .overridden n o ∨ note = .ignored n o → a.owner = some o

variable {q : FlagQuestion} {name : String}

/-! ## Contested flags -/

theorem contested_iff (distinct : q.names.Nodup) : q.Contested ↔ 1 < q.switchedOn.length := by
  have once : q.switchedOn.Nodup := distinct.filter _
  rw [← List.toFinset_card_of_nodup once, Finset.one_lt_card]
  simp only [List.mem_toFinset, mem_switchedOn]
  constructor
  · rintro ⟨a, ha, b, hb, apart, aOn, bOn⟩
    exact ⟨a, ⟨ha, aOn⟩, b, ⟨hb, bOn⟩, apart⟩
  · rintro ⟨a, ⟨ha, aOn⟩, b, ⟨hb, bOn⟩, apart⟩
    exact ⟨a, ha, b, hb, apart, aOn, bOn⟩

theorem assign_eq_error_iff {e : FieldError} :
    q.assign = .error e ↔
      ∃ first second rest, q.switchedOn = first :: second :: rest ∧
        e = ⟨second, .flagTaken q.flag first⟩ := by
  constructor
  · intro h
    cases hs : q.switchedOn with
    | nil =>
      rw [assign_of_length_le (by simp [hs])] at h
      cases h
    | cons first others =>
      cases others with
      | nil =>
        rw [assign_of_length_le (by simp [hs])] at h
        cases h
      | cons second rest =>
        rw [assign_of_two hs] at h
        cases h
        exact ⟨first, second, rest, rfl, rfl⟩
  · rintro ⟨first, second, rest, hs, rfl⟩
    exact assign_of_two hs

/-! ## The owner -/

theorem heuristicOwner?_eq_some_iff :
    q.heuristicOwner? = some name ↔
      (∀ k ∈ q.names, q.explicit? k ≠ some true) ∧
        IsFirst q.names (fun k => q.Finds k ∧ q.explicit? k = none) name := by
  have idle : q.switchedOn = [] ↔ ∀ k ∈ q.names, q.explicit? k ≠ some true := by
    simp [switchedOn, List.filter_eq_nil_iff]
  rw [← idle]
  by_cases off : q.switchedOn = []
  · rw [heuristicOwner?_of_switchedOff off, find?_eq_some_iff_isFirst, and_iff_right off]
    simp only [decide_eq_true_eq, isCandidate_iff, Option.isNone_iff_eq_none]
    rfl
  · obtain ⟨k, hk⟩ := List.exists_mem_of_ne_nil _ off
    rw [heuristicOwner?_of_switchedOn hk]
    exact iff_of_false (Option.some_ne_none _).symm fun h => off h.1

theorem owner_assignment_iff (single : q.switchedOn.length ≤ 1) :
    q.assignment.owner = some name ↔
      name ∈ q.switchedOn ∨ q.heuristicOwner? = some name := by
  have owner : q.assignment.owner = q.switchedOn.head?.or q.heuristicOwner? := rfl
  rw [owner]
  cases hs : q.switchedOn with
  | nil => simp
  | cons first rest =>
    have alone : rest = [] := by
      rw [hs, List.length_cons] at single
      exact List.eq_nil_of_length_eq_zero (by omega)
    have none : q.heuristicOwner? = none :=
      heuristicOwner?_of_switchedOn (by rw [hs]; exact List.mem_cons_self)
    simp [alone, none, eq_comm]

theorem owner_assignment_iff_first (single : q.switchedOn.length ≤ 1) :
    q.assignment.owner = some name ↔
      name ∈ q.names ∧ q.explicit? name = some true ∨
        (∀ k ∈ q.names, q.explicit? k ≠ some true) ∧
          IsFirst q.names (fun k => q.Finds k ∧ q.explicit? k = none) name := by
  rw [owner_assignment_iff single, mem_switchedOn, heuristicOwner?_eq_some_iff]

theorem mem_names_of_heuristicOwner? (h : q.heuristicOwner? = some name) : name ∈ q.names := by
  obtain ⟨-, -, before, after, names, -⟩ := heuristicOwner?_eq_some_iff.1 h
  rw [names]
  exact List.mem_append_right _ List.mem_cons_self

theorem explicit?_of_heuristicOwner? (h : q.heuristicOwner? = some name) :
    q.explicit? name = none :=
  (heuristicOwner?_eq_some_iff.1 h).2.1.2

/-! ## The decisions -/

theorem mem_decidedNames_iff : name ∈ q.decidedNames q.heuristicOwner? ↔ name ∈ q.names := by
  unfold decidedNames
  rw [List.mem_eraseDups, List.mem_append, List.mem_append, Option.mem_toList]
  constructor
  · rintro ((explicit | owner) | known)
    · exact (List.mem_filter.1 explicit).1
    · exact mem_names_of_heuristicOwner? owner
    · exact known
  · exact .inr

theorem mem_decisions_iff {e : String × Decision Bool} :
    e ∈ q.assignment.decisions ↔ e.1 ∈ q.names ∧ e.2 = q.decision q.heuristicOwner? e.1 := by
  unfold assignment
  rw [List.mem_map, ← mem_decidedNames_iff]
  constructor
  · rintro ⟨n, known, rfl⟩
    exact ⟨known, rfl⟩
  · rintro ⟨known, decision⟩
    exact ⟨e.1, known, Prod.ext rfl decision.symm⟩

/-- Every name is decided once, and no other name is. -/
theorem keys_decisions_perm (distinct : q.names.Nodup) :
    (q.assignment.decisions.map Prod.fst).Perm q.names := by
  have keys : q.assignment.decisions.map Prod.fst = q.decidedNames q.heuristicOwner? := by
    unfold assignment
    rw [List.map_map]
    exact List.map_id _
  rw [keys]
  refine (List.perm_ext_iff_of_nodup ?_ distinct).2 fun n => mem_decidedNames_iff
  exact nodup_eraseDups _

theorem value_decision_iff_owner (single : q.switchedOn.length ≤ 1) (known : name ∈ q.names) :
    (q.decision q.heuristicOwner? name).value = true ↔ q.assignment.owner = some name := by
  rw [value_decision_iff, owner_assignment_iff single, mem_switchedOn, and_iff_right known]
  exact or_congr_right (and_iff_right_of_imp explicit?_of_heuristicOwner?)

/-! ## The notes -/

/-- Of the names that the patterns find the owner alone goes without a note. -/
theorem isSome_note?_iff (single : q.switchedOn.length ≤ 1) (known : name ∈ q.names)
    (found : q.isCandidate name = true) :
    (q.note? q.switchedOn.head? q.heuristicOwner? name).isSome = true ↔
      q.assignment.owner ≠ some name := by
  rw [Ne, owner_assignment_iff single, mem_switchedOn]
  unfold note?
  cases said : q.explicit? name with
  | some b =>
    have apart : q.heuristicOwner? ≠ some name := fun own => by
      rw [explicit?_of_heuristicOwner? own] at said
      cases said
    cases b with
    | true => simp [known]
    | false => simp [apart]
  | none =>
    cases hs : q.switchedOn with
    | cons first rest =>
      have none : q.heuristicOwner? = none :=
        heuristicOwner?_of_switchedOn (by rw [hs]; exact List.mem_cons_self)
      simp [none]
    | nil =>
      -- no name is switched on, so the patterns have found an owner, this name if no earlier one
      have owned : q.heuristicOwner? ≠ none := by
        rw [heuristicOwner?_of_switchedOff hs, Ne, List.find?_eq_none]
        intro unfound
        exact unfound name known (by simp [found, said])
      obtain ⟨o, ho⟩ := Option.ne_none_iff_exists'.1 owned
      rw [ho]
      by_cases own : name = o
      · simp [own]
      · simp [own, Ne.symm own]

/-- The notes are on the names that the patterns find, in order, but not on the owner. -/
theorem fields_notes (single : q.switchedOn.length ≤ 1) :
    q.assignment.notes.map FlagNote.field =
      q.names.filter fun n => decide (q.Finds n ∧ q.assignment.owner ≠ some n) := by
  have notes : q.assignment.notes =
      q.candidates.filterMap (q.note? q.switchedOn.head? q.heuristicOwner?) := rfl
  have own : ∀ n, (q.note? q.switchedOn.head? q.heuristicOwner? n).map FlagNote.field =
      Option.guard (fun n => (q.note? q.switchedOn.head? q.heuristicOwner? n).isSome) n := by
    intro n
    cases h : q.note? q.switchedOn.head? q.heuristicOwner? n with
    | none => simp [Option.guard, h]
    | some note => simp [Option.guard, h, field_of_note? h]
  rw [notes, List.map_filterMap, funext own, List.filterMap_eq_filter, candidates,
    List.filter_filter]
  refine List.filter_congr fun n known => ?_
  rw [Bool.eq_iff_iff, Bool.and_eq_true, decide_eq_true_eq, and_comm]
  refine (and_congr_right fun found => isSome_note?_iff single known found).trans ?_
  rw [isCandidate_iff]
  rfl

/-- A note says that a directive overrules the match, or that another name has the flag already. -/
theorem code_of_mem_notes {note : FlagNote} (h : note ∈ q.assignment.notes) :
    (q.Overruled note.field → note.code = "heuristic_overridden") ∧
      (¬ q.Overruled note.field → note.code = "singleton_match_ignored") ∧
      ∀ n o, note = .overridden n o ∨ note = .ignored n o → q.assignment.owner = some o := by
  have owner : q.assignment.owner = q.switchedOn.head?.or q.heuristicOwner? := rfl
  obtain ⟨n, -, hn⟩ := List.mem_filterMap.1 h
  rw [field_of_note? hn, owner]
  rcases note?_cases hn with ⟨off, rfl⟩ | ⟨silent, o, first, rfl⟩ | ⟨silent, idle, o, own, -, rfl⟩
  · refine ⟨fun _ => rfl, fun free => absurd (.inl off) free, ?_⟩
    rintro _ _ (⟨⟨⟩⟩ | ⟨⟨⟩⟩)
  · obtain ⟨known, on⟩ := mem_switchedOn.1 (List.mem_of_head? first)
    have apart : o ≠ n := by
      rintro rfl
      rw [silent] at on
      cases on
    refine ⟨fun _ => rfl, fun free => absurd (.inr ⟨o, known, apart, on⟩) free, ?_⟩
    rintro _ _ (⟨⟨⟩⟩ | ⟨⟨⟩⟩)
    rw [first]
    rfl
  · have off : q.switchedOn = [] := List.head?_eq_none_iff.1 idle
    refine ⟨?_, fun _ => rfl, ?_⟩
    · rintro (off | ⟨k, known, -, on⟩)
      · rw [silent] at off
        cases off
      · have there := mem_switchedOn.2 ⟨known, on⟩
        rw [off] at there
        cases there
    · rintro _ _ (⟨⟨⟩⟩ | ⟨⟨⟩⟩)
      rw [idle, own]
      rfl

/-! ## The whole of an assignment -/

theorem settles_assignment (distinct : q.names.Nodup) (single : q.switchedOn.length ≤ 1) :
    q.Settles q.assignment where
  decided := keys_decisions_perm distinct
  explicit := by
    intro n known b said
    refine mem_decisions_iff.2 ⟨known, ?_⟩
    rw [decision, said]
  heuristic := by
    intro n known silent
    refine ⟨q.heuristicOwner? == some n, mem_decisions_iff.2 ⟨known, ?_⟩⟩
    rw [decision, silent]
  value := by
    intro e he
    obtain ⟨known, decision⟩ := mem_decisions_iff.1 he
    rw [decision]
    exact value_decision_iff_owner single known
  owner := fun _ => owner_assignment_iff_first single
  noted := fields_notes single
  overruled := fun _ h => (code_of_mem_notes h).1
  passed := fun _ h => (code_of_mem_notes h).2.1
  cited := fun _ h => (code_of_mem_notes h).2.2

/-- A contested flag is refused, with the second name that claims it and the first.  Any other is
settled: every name is decided once, the owner alone carries the flag, and every other name that the
patterns find has one note, which says why it does not carry the flag. -/
theorem assign_settles (q : FlagQuestion) (distinct : q.names.Nodup) :
    (∀ e, q.assign = .error e ↔
      ∃ first second rest,
        (q.names.filter fun n => q.explicit? n == some true) = first :: second :: rest ∧
          e = ⟨second, .flagTaken q.flag first⟩) ∧
    ((∃ e, q.assign = .error e) ↔ q.Contested) ∧
    (¬ q.Contested → ∃ a, q.assign = .ok a ∧ q.Settles a) := by
  refine ⟨fun e => assign_eq_error_iff, ?_, fun free => ?_⟩
  · rw [contested_iff distinct, ← not_le, ← assign_isOk_iff]
    cases q.assign with
    | error e => simp
    | ok a => simp
  · rw [contested_iff distinct, not_lt] at free
    exact ⟨q.assignment, assign_of_length_le free, settles_assignment distinct free⟩

/-- A name is switched off, one may not carry the flag, and two of the others match. -/
def queueQuestion : FlagQuestion where
  flag := .switch .isPrimaryKey
  names := ["QueueName", "Tags", "queueId", "Name", "QUEUE"]
  overrides :=
    [("QueueName", { isPrimaryKey := some false }), ("Tags", { isPrimaryKey := some false })]
  patterns := primaryKeyNames "Queue"
  ineligible := ["queueId"]

theorem assign_settles_queueQuestion :
    queueQuestion.names.Nodup ∧ ¬ queueQuestion.Contested ∧
      ∃ a, queueQuestion.assign = .ok a ∧ queueQuestion.Settles a ∧ a.owner = some "Name" ∧
        a.notes = [.disabled "QueueName", .ignored "QUEUE" "Name"] := by
  have distinct : queueQuestion.names.Nodup := by decide
  have off : queueQuestion.switchedOn = [] := by cbv
  have free : ¬ queueQuestion.Contested := by
    rw [contested_iff distinct, off]
    simp
  obtain ⟨-, -, settled⟩ := assign_settles queueQuestion distinct
  obtain ⟨a, assigned, settles⟩ := settled free
  have value : queueQuestion.assign = .ok queueQuestion.assignment :=
    assign_of_length_le (by rw [off]; simp)
  obtain rfl : queueQuestion.assignment = a := Except.ok.inj (value.symm.trans assigned)
  exact ⟨distinct, free, _, assigned, settles, by cbv, by cbv⟩

end FlagQuestion

end FieldResolution
