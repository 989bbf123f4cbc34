import FieldResolution.Proofs.Field.Assignment
import FieldResolution.Proofs.Resolution.Fields
import Mathlib.Data.List.Find

/-!
# The flags of an answer

Each of the primary key, the ARN and the owner account is carried by at most one field of an
answer, and by none that is ignored.  The fields of an answer say about a flag what the assignment
of that flag decided for their names (`mark_of_mem_fields`).  A field that an override switches on
carries the flag (`filter_hasFlag_of_override`); without such an override it is the first field
that may carry the flag by its name (`filter_hasFlag_of_no_override`).
-/

namespace FieldResolution

/-! ## Overrides by name -/

theorem Overrides.get_of_mem {o : Overrides} (keyed : o.Keyed) {e : String × FieldDirectives}
    (h : e ∈ o) : o.get e.1 = e.2 := by
  unfold Overrides.get
  induction o with
  | nil => cases h
  | cons first rest ih =>
    unfold Overrides.Keyed at keyed
    rw [List.map_cons, List.nodup_cons] at keyed
    rw [List.lookup_cons]
    rcases List.mem_cons.1 h with rfl | h
    · rw [beq_self_eq_true]
      rfl
    · have other : e.1 ≠ first.1 := by
        intro heq
        apply keyed.1
        rw [← heq]
        exact List.mem_map_of_mem h
      rw [beq_false_of_ne other]
      exact ih keyed.2 h

theorem Overrides.lookup_of_not_mem {o : Overrides} {name : String} (h : name ∉ o.map Prod.fst) :
    o.lookup name = none := by
  rw [List.lookup_eq_none_iff]
  intro e he
  have other : name ≠ e.1 := fun heq => h (heq ▸ List.mem_map_of_mem he)
  simpa using other

theorem Overrides.get_of_not_mem {o : Overrides} {name : String} (h : name ∉ o.map Prod.fst) :
    o.get name = {} := by
  unfold Overrides.get
  rw [lookup_of_not_mem h]
  rfl

/-- Where no entry switches a flag on, it is on for no name. -/
theorem Overrides.switch_get_ne_of_forall {o : Overrides} {w : Switch}
    (h : ∀ e ∈ o, e.2.switch w ≠ some true) (name : String) :
    (o.get name).switch w ≠ some true := by
  by_cases hn : name ∈ o.map Prod.fst
  · exact h _ (Overrides.mem_of_mem_keys hn)
  · rw [Overrides.get_of_not_mem hn]
    cases w <;> exact nofun

/-! ## What a field says about a flag -/

theorem Switch.key_injective {v w : Switch} (h : v.key = w.key) : v = w := by
  have same : Switch.ofKey? v.key = Switch.ofKey? w.key := congrArg _ h
  rw [Switch.ofKey?_key, Switch.ofKey?_key] at same
  exact Option.some.inj same

namespace ResolvedField

def hasFlag (f : ResolvedField) : Switch → Bool
  | .isPrimaryKey => f.isPrimaryKey
  | .isArn => f.isArn
  | .isOwnerAccountId => f.isOwnerAccountId
  | _ => false

/-- Does the field carry a flag, and who decided that? -/
def mark (f : ResolvedField) (w : Switch) : Bool × Option Provenance :=
  (f.hasFlag w, f.provenanceOf? w.key)

theorem provenanceOf?_decideFlag (f : ResolvedField) (w : Switch) (d : Decision Bool)
    (aspect : String) :
    (f.decideFlag (.switch w) d).provenanceOf? aspect =
      (f.provenanceOf? aspect).or (if aspect = w.key then some d.source else none) := by
  unfold provenanceOf?
  rw [provenance_decideFlag, List.lookup_append, List.lookup_cons, List.lookup_nil]
  by_cases h : aspect = w.key
  · rw [if_pos h, show (aspect == (Flag.switch w).key) = true from beq_iff_eq.2 h]
  · rw [if_neg h, show (aspect == (Flag.switch w).key) = false from beq_false_of_ne h]

/-- A decision on one flag leaves the others alone. -/
theorem mark_decideFlag_of_ne (f : ResolvedField) {v w : Switch} (h : v ≠ w) (d : Decision Bool) :
    (f.decideFlag (.switch v) d).mark w = f.mark w := by
  have key : w.key ≠ v.key := fun he => h (Switch.key_injective he).symm
  unfold mark
  rw [provenanceOf?_decideFlag, if_neg key, Option.or_none]
  have flag : (f.decideFlag (.switch v) d).hasFlag w = f.hasFlag w := by
    cases w <;> cases v <;> first | rfl | exact absurd rfl h
  rw [flag]

theorem mark_decideFlag (f : ResolvedField) {w : Switch} (hw : w ∈ Request.singletons)
    (fresh : f.provenanceOf? w.key = none) (d : Decision Bool) :
    (f.decideFlag (.switch w) d).mark w = (d.value, some d.source) := by
  have flag : (f.decideFlag (.switch w) d).hasFlag w = d.value := by
    simp only [Request.singletons, List.mem_cons, List.not_mem_nil, or_false] at hw
    rcases hw with rfl | rfl | rfl <;> rfl
  unfold mark
  rw [provenanceOf?_decideFlag, fresh, if_pos rfl, flag]
  rfl

end ResolvedField

/-! ## Assigning flags one after another -/

namespace Findings

variable {assign : Switch → FlagAssignment} {verdict : Switch → Decision Bool}

theorem name_applyFlag (f : ResolvedField) (a : FlagAssignment) : (applyFlag f a).name = f.name :=
  read_applyFlags (·.name) (fun _ => rfl) [a] f

theorem applyFlag_eq {f : ResolvedField} {a : FlagAssignment} {d : Decision Bool}
    (h : a.decisions.lookup f.name = some d) : applyFlag f a = f.decideFlag a.flag d := by
  unfold applyFlag
  rw [h]

variable {name : String} (flag : ∀ w, (assign w).flag = .switch w)
  (decided : ∀ w, (assign w).decisions.lookup name = some (verdict w))

include flag decided in
theorem applyFlag_assign {f : ResolvedField} (hf : f.name = name) (w : Switch) :
    applyFlag f (assign w) = f.decideFlag (.switch w) (verdict w) := by
  rw [applyFlag_eq (d := verdict w) (by rw [hf]; exact decided w), flag]

include flag decided in
theorem mark_applyFlags_of_not_mem {ws : List Switch} {w : Switch} (hw : w ∉ ws)
    {f : ResolvedField} (hf : f.name = name) :
    ((ws.map assign).foldl applyFlag f).mark w = f.mark w := by
  induction ws generalizing f with
  | nil => rfl
  | cons v ws ih =>
    rw [List.mem_cons, not_or] at hw
    have later : (applyFlag f (assign v)).name = name := (name_applyFlag f _).trans hf
    rw [List.map_cons, List.foldl_cons, ih hw.2 later, applyFlag_assign flag decided hf]
    exact f.mark_decideFlag_of_ne (Ne.symm hw.1) _

include flag decided in
/-- After all assignments a field says what the one about the flag decided. -/
theorem mark_applyFlags_of_mem {ws : List Switch} (once : ws.Nodup) {w : Switch} (hw : w ∈ ws)
    (single : w ∈ Request.singletons) {f : ResolvedField} (hf : f.name = name)
    (fresh : f.provenanceOf? w.key = none) :
    ((ws.map assign).foldl applyFlag f).mark w = ((verdict w).value, some (verdict w).source) := by
  induction ws generalizing f with
  | nil => cases hw
  | cons v ws ih =>
    rw [List.nodup_cons] at once
    have later : (applyFlag f (assign v)).name = name := (name_applyFlag f _).trans hf
    rw [List.map_cons, List.foldl_cons]
    by_cases hv : v = w
    · subst hv
      rw [mark_applyFlags_of_not_mem flag decided once.1 later, applyFlag_assign flag decided hf]
      exact f.mark_decideFlag single fresh _
    · have untouched : (applyFlag f (assign v)).mark w = f.mark w := by
        rw [applyFlag_assign flag decided hf]
        exact f.mark_decideFlag_of_ne hv _
      have still : (applyFlag f (assign v)).provenanceOf? w.key = none :=
        (congrArg Prod.snd untouched).trans fresh
      exact ih once.2 (List.mem_of_ne_of_mem (Ne.symm hv) hw) later still

end Findings

theorem filter_eq_singleton {α β : Type} [DecidableEq α] {l : List α} {key : α → β}
    (once : (l.map key).Nodup) {p : α → Bool} {a : α} (ha : a ∈ l)
    (hp : ∀ b ∈ l, (p b = true ↔ key b = key a)) : l.filter p = [a] := by
  have same : l.filter p = l.filter fun b => decide (b = a) := by
    apply List.filter_congr
    intro b hb
    rw [Bool.eq_iff_iff, hp b hb, decide_eq_true_iff]
    exact ⟨fun hk => List.inj_on_of_nodup_map once hb ha hk, fun he => congrArg key he⟩
  rw [same, List.filter_eq, List.count_eq_one_of_mem once.of_map ha]
  rfl

namespace Request

variable {q : Request} {s : FieldSet}

/-- The lower-cased names that mark a flag. -/
def patterns (q : Request) : Switch → List String
  | .isPrimaryKey => primaryKeyNames q.resource
  | .isArn => arnNames q.resource
  | _ => []

/-- What is asked about a flag. -/
def asked (q : Request) (w : Switch) : FlagQuestion := q.question w (q.patterns w)

theorem assignments_eq (q : Request) :
    q.assignments = singletons.map fun w => (q.asked w).assignment := rfl

theorem explicit?_asked (w : Switch) (name : String) :
    (q.asked w).explicit? name = (q.overrides.get name).switch w :=
  FlagQuestion.explicit?_eq _ name

theorem switchedOn_asked (w : Switch) : (q.asked w).switchedOn = q.holders w :=
  q.switchedOn_question w _

theorem names_asked (h : q.resolve = .ok s) (w : Switch) :
    (q.asked w).names = s.fields.map ResolvedField.name := by
  have settled := fieldErrors_eq_nil_iff.1 (no_errors_of_resolve h).2.1
  rw [map_name_fields h]
  exact settledNames_eq settled

theorem mem_switchedOn_asked (h : q.resolve = .ok s) {w : Switch} {name : String} :
    name ∈ (q.asked w).switchedOn ↔
      name ∈ s.fields.map ResolvedField.name ∧ (q.overrides.get name).switch w = some true := by
  rw [FlagQuestion.mem_switchedOn, names_asked h, explicit?_asked]

theorem ineligible_asked (h : q.resolve = .ok s) (w : Switch) :
    (q.asked w).ineligible =
      (s.fields.filter fun f => f.slot == .ignored).map ResolvedField.name := by
  obtain ⟨-, rfl⟩ := resolve_eq_ok_iff.1 h
  have slot : ∀ f, (q.findings.assigned.foldl Findings.applyFlag f).slot = f.slot :=
    Findings.read_applyFlags (·.slot) (fun _ => rfl) _
  have name : ∀ f, (q.findings.assigned.foldl Findings.applyFlag f).name = f.name :=
    Findings.read_applyFlags (·.name) (fun _ => rfl) _
  show _ = ((q.findings.settled.map _).filter _).map _
  rw [List.filter_map, List.map_map]
  simp only [Function.comp_def, slot, name]
  rfl

theorem nodup_name_fields (keyed : q.overrides.Keyed) (h : q.resolve = .ok s) :
    (s.fields.map ResolvedField.name).Nodup := by
  rw [map_name_fields h]
  exact Roster.nodup_names_ofModel q.model q.overrides keyed

theorem mem_ineligible_asked (keyed : q.overrides.Keyed) (h : q.resolve = .ok s) {w : Switch}
    {f : ResolvedField} (hf : f ∈ s.fields) :
    f.name ∈ (q.asked w).ineligible ↔ f.slot = .ignored := by
  have once := nodup_name_fields keyed h
  rw [ineligible_asked h, List.mem_map]
  constructor
  · rintro ⟨g, hg, hn⟩
    obtain ⟨hg, hs⟩ := List.mem_filter.1 hg
    rw [← List.inj_on_of_nodup_map once hg hf hn]
    exact beq_iff_eq.1 hs
  · intro hs
    exact ⟨f, List.mem_filter.2 ⟨hf, beq_iff_eq.2 hs⟩, rfl⟩

theorem mark_of_mem_fields (h : q.resolve = .ok s) {f : ResolvedField} (hf : f ∈ s.fields)
    {w : Switch} (hw : w ∈ singletons) :
    f.mark w =
      (((q.asked w).decision (q.asked w).heuristicOwner? f.name).value,
        some ((q.asked w).decision (q.asked w).heuristicOwner? f.name).source) := by
  obtain ⟨g, hg, rfl⟩ := exists_settled_of_mem_fields h hf
  obtain ⟨e, -, settled⟩ := exists_case_of_mem_settled hg
  have known : g.name ∈ q.settledNames := by
    rw [← names_settled]
    exact List.mem_map_of_mem hg
  have fresh : g.provenanceOf? w.key = none := by
    unfold ResolvedField.provenanceOf?
    rw [FieldCase.provenance_of_settle settled]
    simp only [singletons, List.mem_cons, List.not_mem_nil, or_false] at hw
    rcases hw with rfl | rfl | rfl <;> rfl
  have name : (q.assignments.foldl Findings.applyFlag g).name = g.name :=
    Findings.read_applyFlags (·.name) (fun _ => rfl) _ g
  rw [name, assignments_eq]
  exact Findings.mark_applyFlags_of_mem (fun _ => rfl)
    (fun v => FlagQuestion.lookup_decisions (q := q.asked v) known) (by decide) hw hw rfl fresh

theorem hasFlag_iff (h : q.resolve = .ok s) {f : ResolvedField} (hf : f ∈ s.fields) {w : Switch}
    (hw : w ∈ singletons) :
    f.hasFlag w = true ↔ (q.overrides.get f.name).switch w = some true ∨
      (q.overrides.get f.name).switch w = none ∧ (q.asked w).heuristicOwner? = some f.name := by
  have flag : f.hasFlag w = _ := congrArg Prod.fst (mark_of_mem_fields h hf hw)
  rw [flag, ← explicit?_asked]
  exact FlagQuestion.value_decision_iff

theorem provenanceOf?_of_mem_fields (h : q.resolve = .ok s) {f : ResolvedField}
    (hf : f ∈ s.fields) {w : Switch} (hw : w ∈ singletons) :
    f.provenanceOf? w.key = some
      (if ((q.overrides.get f.name).switch w).isSome then .explicit else .heuristic) := by
  have source : f.provenanceOf? w.key = _ := congrArg Prod.snd (mark_of_mem_fields h hf hw)
  rw [source, FlagQuestion.source_decision, explicit?_asked]

/-! ## Ignored fields -/

/-- An ignored field is refused if it is switched on. -/
theorem switch_ne_of_ignored (h : q.resolve = .ok s) {f : ResolvedField} (hf : f ∈ s.fields)
    {w : Switch} (hw : w ∈ singletons) (ignored : f.slot = .ignored) :
    (q.overrides.get f.name).switch w ≠ some true := by
  obtain ⟨g, hg, rfl⟩ := exists_settled_of_mem_fields h hf
  obtain ⟨e, -, settled⟩ := exists_case_of_mem_settled hg
  rw [Findings.read_applyFlags (·.slot) (fun _ => rfl), FieldCase.slot_of_settle settled] at ignored
  rw [Findings.read_applyFlags (·.name) (fun _ => rfl), FieldCase.name_of_settle settled]
  obtain ⟨-, -, -, -, -, sound, -⟩ := FieldCase.settle_eq_ok_iff.1 settled
  exact ((slotFault?_eq_none_iff _ _).1 sound).1 ignored w hw

theorem hasFlag_of_ignored (keyed : q.overrides.Keyed) (h : q.resolve = .ok s) {f : ResolvedField}
    (hf : f ∈ s.fields) {w : Switch} (hw : w ∈ singletons) (ignored : f.slot = .ignored) :
    f.hasFlag w = false := by
  rw [Bool.eq_false_iff]
  intro carried
  rcases (hasFlag_iff h hf hw).1 carried with on | ⟨-, owner⟩
  · exact switch_ne_of_ignored h hf hw ignored on
  · have candidate := FlagQuestion.isCandidate_of_heuristicOwner? owner
    have eligible := (FlagQuestion.isCandidate_iff.1 candidate).1
    exact eligible ((mem_ineligible_asked keyed h hf).2 ignored)

/-! ## Who carries a flag -/

/-- May the field carry the flag by its name? -/
def mayCarry (q : Request) (w : Switch) (f : ResolvedField) : Bool :=
  f.slot != .ignored && (q.overrides.get f.name).switch w != some false &&
    (q.patterns w).contains (Text.lowercase f.name)

theorem filter_hasFlag_of_override (keyed : q.overrides.Keyed) (h : q.resolve = .ok s) {w : Switch}
    (hw : w ∈ singletons) {e : String × FieldDirectives} (he : e ∈ q.overrides)
    (on : e.2.switch w = some true) :
    ∃ f ∈ s.fields, f.name = e.1 ∧ s.fields.filter (·.hasFlag w) = [f] ∧
      f.provenanceOf? w.key = some .explicit := by
  have once := nodup_name_fields keyed h
  obtain ⟨f, hf, hn⟩ := exists_field_of_override h he
  have hon : (q.overrides.get f.name).switch w = some true := by
    rw [hn, Overrides.get_of_mem keyed he]
    exact on
  have asks : f.name ∈ (q.asked w).switchedOn :=
    (mem_switchedOn_asked h).2 ⟨List.mem_map_of_mem hf, hon⟩
  -- no second field is switched on, and none carries the flag by its name
  have alone : ∀ g ∈ s.fields, (g.hasFlag w = true ↔ g.name = f.name) := by
    intro g hg
    rw [hasFlag_iff h hg hw, FlagQuestion.heuristicOwner?_of_switchedOn asks]
    constructor
    · rintro (gon | ⟨-, owner⟩)
      · have single : (q.asked w).switchedOn.length ≤ 1 := by
          rw [switchedOn_asked]
          exact flagErrors_eq_nil_iff.1 (no_errors_of_resolve h).2.2 w hw
        have gasks : g.name ∈ (q.asked w).switchedOn :=
          (mem_switchedOn_asked h).2 ⟨List.mem_map_of_mem hg, gon⟩
        obtain ⟨n, hn⟩ := List.length_eq_one_iff.1
          (le_antisymm single (List.length_pos_of_mem asks))
        rw [hn, List.mem_singleton] at asks gasks
        rw [asks, gasks]
      · cases owner
    · intro hgf
      rw [hgf]
      exact Or.inl hon
  refine ⟨f, hf, hn, filter_eq_singleton once hf alone, ?_⟩
  rw [provenanceOf?_of_mem_fields h hf hw, hon]
  rfl

/-- Where no name is switched on, the first field that may carry the flag by its name is found. -/
theorem heuristicOwner?_asked (keyed : q.overrides.Keyed) (h : q.resolve = .ok s) {w : Switch}
    (noneOn : ∀ n, (q.overrides.get n).switch w ≠ some true) :
    (q.asked w).heuristicOwner? = (s.fields.find? (q.mayCarry w)).map ResolvedField.name := by
  have switchedOff : (q.asked w).switchedOn = [] := by
    rw [List.eq_nil_iff_forall_not_mem]
    intro n hn
    exact noneOn n ((mem_switchedOn_asked h).1 hn).2
  rw [FlagQuestion.heuristicOwner?_of_switchedOff switchedOff, names_asked h, List.find?_map]
  refine congrArg (Option.map _) (List.find?_congr fun f hf => ?_)
  have eligible := mem_ineligible_asked keyed h hf (w := w)
  rw [Bool.eq_iff_iff]
  simp only [Function.comp_apply, decide_eq_true_eq, FlagQuestion.isCandidate_iff, eligible,
    explicit?_asked, mayCarry, Bool.and_eq_true, bne_iff_ne, ne_eq, List.contains_iff_mem]
  rcases hd : (q.overrides.get f.name).switch w with _ | _ | _
  · simp [asked, question]
  · simp
  · exact absurd hd (noneOn f.name)

theorem filter_hasFlag_of_no_override (keyed : q.overrides.Keyed) (h : q.resolve = .ok s)
    {w : Switch} (hw : w ∈ singletons) (off : ∀ e ∈ q.overrides, e.2.switch w ≠ some true) :
    s.fields.filter (·.hasFlag w) = (s.fields.find? (q.mayCarry w)).toList := by
  have once := nodup_name_fields keyed h
  have noneOn : ∀ n, (q.overrides.get n).switch w ≠ some true :=
    Overrides.switch_get_ne_of_forall off
  have carries : ∀ f ∈ s.fields, (f.hasFlag w = true ↔
      (s.fields.find? (q.mayCarry w)).map ResolvedField.name = some f.name) := by
    intro f hf
    rw [hasFlag_iff h hf hw, or_iff_right (noneOn f.name), ← heuristicOwner?_asked keyed h noneOn,
      ← explicit?_asked]
    exact and_iff_right_of_imp FlagQuestion.explicit?_of_heuristicOwner?
  cases hfind : s.fields.find? (q.mayCarry w) with
  | none =>
    rw [Option.toList_none, List.filter_eq_nil_iff]
    intro f hf carried
    rw [carries f hf, hfind] at carried
    cases carried
  | some g =>
    rw [Option.toList_some]
    refine filter_eq_singleton once (List.mem_of_find?_eq_some hfind) fun f hf => ?_
    rw [carries f hf, hfind, Option.map_some, Option.some.injEq, eq_comm]

/-- Of every flag: at most one field of an answer carries it, and no ignored one does.  It is the
field that an override switches on; if there is none, the first field that may carry it by its
name. -/
theorem flags_of_resolve (q : Request) (keyed : q.overrides.Keyed) (s : FieldSet)
    (h : q.resolve = .ok s) : ∀ w ∈ singletons,
      (s.fields.filter (·.hasFlag w)).length ≤ 1 ∧
      (∀ f ∈ s.fields, f.slot = .ignored → f.hasFlag w = false) ∧
      (∀ e ∈ q.overrides, e.2.switch w = some true →
        ∃ f ∈ s.fields, f.name = e.1 ∧ s.fields.filter (·.hasFlag w) = [f] ∧
          f.provenanceOf? w.key = some .explicit) ∧
      ((∀ e ∈ q.overrides, e.2.switch w ≠ some true) →
        s.fields.filter (·.hasFlag w) = (s.fields.find? (q.mayCarry w)).toList ∧
          ∀ f ∈ s.fields, f.hasFlag w = true → f.provenanceOf? w.key = some .heuristic) := by
  intro w hw
  refine ⟨?_, fun f hf ignored => hasFlag_of_ignored keyed h hf hw ignored,
    fun e he on => filter_hasFlag_of_override keyed h hw he on, fun off =>
    ⟨filter_hasFlag_of_no_override keyed h hw off, fun f hf carried => ?_⟩⟩
  · by_cases overridden : ∃ e ∈ q.overrides, e.2.switch w = some true
    · obtain ⟨e, he, on⟩ := overridden
      obtain ⟨f, -, -, only, -⟩ := filter_hasFlag_of_override keyed h hw he on
      rw [only, List.length_singleton]
    · have off : ∀ e ∈ q.overrides, e.2.switch w ≠ some true :=
        fun e he on => overridden ⟨e, he, on⟩
      rw [filter_hasFlag_of_no_override keyed h hw off]
      cases s.fields.find? (q.mayCarry w) <;> simp
  · have silent : (q.overrides.get f.name).switch w = none := by
      rcases (hasFlag_iff h hf hw).1 carried with on | ⟨silent, -⟩
      · exact absurd on (Overrides.switch_get_ne_of_forall off f.name)
      · exact silent
    rw [provenanceOf?_of_mem_fields h hf hw, silent]
    rfl

/-- Four names match the primary key: an ignored one, one that is switched off, and two more. -/
def bucketRequest : Request where
  model :=
    { shapes :=
        [{ name := "DeleteInput", members := [⟨"Bucket", .string, true⟩] },
          { name := "CreateInput", members := [⟨"Name", .string, true⟩,
            ⟨"BucketName", .string, false⟩, ⟨"BucketId", .string, false⟩] },
          { name := "CreateOutput", members := [⟨"Arn", .string, false⟩,
            ⟨"Owner", .string, false⟩, ⟨"Replica", .string, false⟩] }]
      operations :=
        [{ name := "DeleteBucket", input := some 0, kind := .delete },
          { name := "CreateBucket", input := some 1, output := some 2, kind := .create }] }
  resource := "Bucket"
  directives :=
    { fields :=
        [("Name", { isPrimaryKey := some false }), ("Replica", { isArn := some true })] }

theorem flags_of_resolve_bucketRequest :
    bucketRequest.overrides.Keyed ∧ ∃ s, bucketRequest.resolve = .ok s ∧
      (s.fields.filter (·.hasFlag .isPrimaryKey)).map ResolvedField.name = ["BucketName"] ∧
      (∀ f ∈ s.fields, f.hasFlag .isPrimaryKey = true →
        f.provenanceOf? "is_primary_key" = some .heuristic) ∧
      (∃ f ∈ s.fields, f.name = "Replica" ∧ s.fields.filter (·.hasFlag .isArn) = [f] ∧
        f.provenanceOf? "is_arn" = some .explicit) ∧
      s.fields.filter (·.hasFlag .isOwnerAccountId) = [] := by
  have keyed : bucketRequest.overrides.Keyed := by decide
  have accepted : bucketRequest.findings.errors = [] := by cbv
  have key : (bucketRequest.findings.fields.find? (bucketRequest.mayCarry .isPrimaryKey)).map
      ResolvedField.name = some "BucketName" := by cbv
  obtain ⟨s, hs⟩ := bucketRequest.resolve_isOk_iff.2 accepted
  have flags := flags_of_resolve bucketRequest keyed s hs
  obtain ⟨byName, heuristic⟩ := (flags .isPrimaryKey (by decide)).2.2.2 (by decide)
  have replica :=
    (flags .isArn (by decide)).2.2.1 ("Replica", { isArn := some true }) (by decide) rfl
  obtain ⟨noOwner, -⟩ := (flags .isOwnerAccountId (by decide)).2.2.2 (by decide)
  have fields : s.fields = bucketRequest.findings.fields := by
    rw [(resolve_eq_ok_iff.1 hs).2]
  refine ⟨keyed, s, hs, ?_, heuristic, replica, ?_⟩
  · obtain ⟨g, hg, hn⟩ := Option.map_eq_some_iff.1 key
    rw [byName, fields, hg, Option.toList_some, List.map_singleton, hn]
  · rw [noOwner, List.find?_eq_none.2 fun f _ => by simp [mayCarry, patterns]]
    rfl

end Request

end FieldResolution
