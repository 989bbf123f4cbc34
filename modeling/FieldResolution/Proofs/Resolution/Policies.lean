import FieldResolution.Proofs.Field.Column
import FieldResolution.Proofs.Resolution.Flags

/-!
# The policies of an answer

No field of an answer contradicts itself (`ResolvedField.Consistent`): each step that settles a
field refuses what its slot or another directive forbids, so what the step gives keeps to the slot
and to the other directives.  The flags that are assigned afterwards touch none of it.  The listing
has a column for each field that says how it is listed.
-/

namespace FieldResolution

/-! ## What a step gives -/

namespace FieldDirectives

variable {d : FieldDirectives} {slot : Slot}

theorem comparison_of_ignored {c : Comparison} (h : d.comparison .ignored = .ok c) : c = {} := by
  unfold comparison at h
  cases hd : d.compare with
  | none =>
    rw [hd] at h
    exact (Except.ok.inj h).symm
  | some directive =>
    rw [hd] at h
    simp at h

/-- A comparison is off only by directive. -/
theorem isComparisonOff_of_comparison {c : Comparison} (h : d.comparison slot = .ok c)
    (off : c.isIgnored = true) : d.isComparisonOff = true := by
  unfold comparison at h
  unfold isComparisonOff
  cases hd : d.compare with
  | none =>
    rw [hd] at h
    obtain rfl := Except.ok.inj h
    cases off
  | some directive =>
    rw [hd] at h
    simp only at h
    split_ifs at h
    obtain rfl := Except.ok.inj h
    exact off

theorem isSome_listing? {name : String} {l : Option Listing}
    (h : d.listing? name slot = .ok l) : l.isSome = d.print.isSome := by
  unfold listing? at h
  cases hd : d.print with
  | none =>
    rw [hd] at h
    obtain rfl := Except.ok.inj h
    rfl
  | some directive =>
    rw [hd] at h
    simp only at h
    split_ifs at h
    obtain rfl := Except.ok.inj h
    rfl

theorem listing?_eq_some {name : String} {l : Listing} (h : d.listing? name slot = .ok (some l)) :
    ∃ p, d.print = some p ∧
      l = { header := headerOf name p.name, priority := p.priority, index := p.index } := by
  unfold listing? at h
  cases hd : d.print with
  | none =>
    rw [hd] at h
    cases h
  | some p =>
    rw [hd] at h
    simp only at h
    split_ifs at h
    exact ⟨p, rfl, (Option.some.inj (Except.ok.inj h)).symm⟩

theorem listing?_of_ignored {name : String} {l : Option Listing}
    (h : d.listing? name .ignored = .ok l) : l = none := by
  have allowed := (listing?_isOk_iff (d := d)).1 ⟨l, h⟩
  have silent : d.print.isSome ≠ true := fun hp => allowed.1 hp rfl
  rw [← isSome_listing? h] at silent
  exact Option.not_isSome_iff_eq_none.1 silent

theorem backoff?_eq_some {b : Backoff} (h : d.backoff? slot = .ok (some b)) :
    slot = .spec ∧ 0 ≤ b.min ∧ b.min ≤ b.max := by
  have allowed := (backoff?_isOk_iff (d := d)).1 ⟨_, h⟩
  unfold backoff? at h
  cases hd : d.lateInit with
  | none =>
    rw [hd] at h
    cases h
  | some directive =>
    have spec : slot = .spec := allowed.1 (by rw [hd]; rfl)
    have ordered := allowed.2 directive hd
    rw [hd] at h
    simp only at h
    split_ifs at h
    obtain rfl := Option.some.inj (Except.ok.inj h)
    exact ⟨spec, ordered⟩

end FieldDirectives

/-- A field is required by directive, or else it is a spec field. -/
theorem eq_spec_of_decideRequired {occurrences : List Occurrence} {d : FieldDirectives}
    {slot : Slot} (h : (decideRequired occurrences d slot).value = true) :
    d.isRequired = some true ∨ slot = .spec := by
  unfold decideRequired impliedRequired at h
  cases hd : d.isRequired with
  | none =>
    rw [hd] at h
    right
    have both : slot == .spec ∧ _ := Bool.and_eq_true_iff.1 h
    exact beq_iff_eq.1 both.1
  | some b =>
    rw [hd] at h
    left
    rw [show b = true from h]

/-! ## Consistent fields -/

namespace ResolvedField

/-- No two aspects of a field contradict each other. -/
structure Consistent (f : ResolvedField) : Prop where
  ignored_bare : f.slot = .ignored → f.comparison = {} ∧ f.listing = none ∧ f.backoff = none
  backoff_spec : ∀ b, f.backoff = some b → f.slot = .spec ∧ 0 ≤ b.min ∧ b.min ≤ b.max
  compared_or_unlisted : f.comparison.isIgnored = true → f.listing = none
  status_observed : f.isImmutable = true ∨ f.isRequired = true → f.slot ≠ .status
  unpacked_unsourced : f.isUnpacked = true → f.sourceOperation = none

theorem consistent_unflagged_iff {f : ResolvedField} : f.unflagged.Consistent ↔ f.Consistent :=
  ⟨fun ⟨a, b, c, d, e⟩ => ⟨a, b, c, d, e⟩, fun ⟨a, b, c, d, e⟩ => ⟨a, b, c, d, e⟩⟩

/-- Unpacking an attribute keeps a field consistent if it is not redirected. -/
theorem Consistent.unpack {f : ResolvedField} (h : f.Consistent) (own : f.sourceOperation = none) :
    f.unpack.Consistent :=
  ⟨h.ignored_bare, h.backoff_spec, h.compared_or_unlisted, h.status_observed, fun _ => own⟩

end ResolvedField

namespace FieldCase

variable {c : FieldCase} {m : Model} {f : ResolvedField}

theorem consistent_build {type : MemberType} {comparison : Comparison} {listing : Option Listing}
    {backoff : Option Backoff} (hSlot : slotFault? c.slot.value c.directives = none)
    (hCompare : c.directives.comparison c.slot.value = .ok comparison)
    (hList : c.directives.listing? c.name c.slot.value = .ok listing)
    (hBackoff : c.directives.backoff? c.slot.value = .ok backoff) :
    (c.build m type comparison listing backoff).Consistent where
  ignored_bare := by
    intro ignored
    have slot : c.slot.value = .ignored := ignored
    rw [slot] at hCompare hList hBackoff
    refine ⟨FieldDirectives.comparison_of_ignored hCompare,
      FieldDirectives.listing?_of_ignored hList, ?_⟩
    cases backoff with
    | none => rfl
    | some b =>
      obtain ⟨spec, -⟩ := FieldDirectives.backoff?_eq_some hBackoff
      cases spec
  backoff_spec := by
    intro b hb
    have given : backoff = some b := hb
    rw [given] at hBackoff
    exact FieldDirectives.backoff?_eq_some hBackoff
  compared_or_unlisted := by
    intro off
    have directive := FieldDirectives.isComparisonOff_of_comparison hCompare off
    have apart := (FieldDirectives.comparison_isOk_iff.1 ⟨_, hCompare⟩).2
    have silent : c.directives.print.isSome ≠ true := fun hp => apart ⟨directive, hp⟩
    rw [← FieldDirectives.isSome_listing? hList] at silent
    exact Option.not_isSome_iff_eq_none.1 silent
  status_observed := by
    intro settable status
    have slot : c.slot.value = .status := status
    have off := ((slotFault?_eq_none_iff _ _).1 hSlot).2 slot
    rcases settable with immutable | required
    · have on : c.directives.isOn .isImmutable = true := immutable
      exact off .isImmutable (by decide) ((FieldDirectives.isOn_eq_true_iff _ _).1 on)
    · rcases eq_spec_of_decideRequired required with on | spec
      · exact off .isRequired (by decide) on
      · rw [slot] at spec
        cases spec
  unpacked_unsourced := nofun

theorem consistent_of_settle (h : c.settle m = .ok f) : f.Consistent := by
  obtain ⟨type, comparison, listing, backoff, hType, hSlot, hCompare, hList, hBackoff, rfl⟩ :=
    settle_eq_ok_iff.1 h
  have built : (c.build m type comparison listing backoff).Consistent :=
    consistent_build hSlot hCompare hList hBackoff
  unfold finish
  split_ifs with unpacked
  · apply built.unpack
    have apart := ((m.fieldType_isOk_iff _ _).1 ⟨_, hType⟩).1
    have isAttribute := (FieldDirectives.isOn_eq_true_iff _ _).1 unpacked
    cases hr : c.directives.redirect with
    | none =>
      show c.directives.redirect.map _ = none
      rw [hr]
      rfl
    | some r => exact absurd ⟨by rw [hr]; rfl, isAttribute⟩ apart
  · exact built

end FieldCase

/-! ## The fields of an answer -/

namespace Request

variable {q : Request} {s : FieldSet}

theorem consistent_of_mem_fields (h : q.resolve = .ok s) {f : ResolvedField} (hf : f ∈ s.fields) :
    f.Consistent := by
  obtain ⟨g, hg, rfl⟩ := exists_settled_of_mem_fields h hf
  obtain ⟨e, -, settled⟩ := exists_case_of_mem_settled hg
  rw [← ResolvedField.consistent_unflagged_iff, Findings.unflagged_applyFlags,
    ResolvedField.consistent_unflagged_iff]
  exact FieldCase.consistent_of_settle settled

theorem columns_of_resolve (h : q.resolve = .ok s) :
    s.columns = Column.ofFields s.fields q.directives.listing.order := by
  obtain ⟨-, rfl⟩ := resolve_eq_ok_iff.1 h
  rfl

theorem mem_columns_iff (keyed : q.overrides.Keyed) (h : q.resolve = .ok s) {f : ResolvedField}
    (hf : f ∈ s.fields) : f.name ∈ s.columns.map Column.field ↔ f.listing.isSome = true := by
  rw [columns_of_resolve h, Column.mem_field_ofFields]
  constructor
  · rintro ⟨g, hg, listed, name⟩
    rw [← List.inj_on_of_nodup_map (nodup_name_fields keyed h) hg hf name]
    exact listed
  · intro listed
    exact ⟨f, hf, listed, rfl⟩

/-- No field of an answer contradicts itself, and the columns of the listing are those of the
fields that say how they are listed, one for each. -/
theorem policies_of_resolve (q : Request) (keyed : q.overrides.Keyed) (s : FieldSet)
    (h : q.resolve = .ok s) :
    (∀ f ∈ s.fields, f.Consistent ∧
        (f.name ∈ s.columns.map Column.field ↔ f.listing.isSome = true)) ∧
      (s.columns.map Column.field).Perm
        ((s.fields.filter fun f => f.listing.isSome).map ResolvedField.name) := by
  refine ⟨fun f hf => ⟨consistent_of_mem_fields h hf, mem_columns_iff keyed h hf⟩, ?_⟩
  rw [columns_of_resolve h]
  exact Column.perm_field_ofFields _ _

/-- One field has every policy that a spec field may have, one is not compared, one is ignored, and
one is an attribute of the status. -/
def queueRequest : Request where
  model :=
    { shapes :=
        [{ name := "CreateInput", members := [⟨"Name", .string, true⟩,
            ⟨"Delay", .primitive .integer, false⟩, ⟨"Tags", .container .map .string, false⟩] },
          { name := "ListInput", members := [⟨"Token", .string, false⟩] },
          { name := "GetOutput", members := [⟨"Name", .string, false⟩,
            ⟨"Policy", .string, false⟩] }]
      operations :=
        [{ name := "CreateQueue", input := some 0, kind := .create },
          { name := "ListQueues", input := some 1, kind := .readMany },
          { name := "GetQueue", output := some 2, kind := .readOne }] }
  resource := "Queue"
  directives :=
    { fields :=
        [("Delay",
            { isImmutable := some true, compare := some { nilEqualsZero := true }
              print := some { name := some "DELAY" }, lateInit := some { maxBackoff := 30 } }),
          ("Tags", { compare := some { isIgnored := true } }),
          ("Policy", { isAttribute := some true, isReadOnly := some true, print := some {} })] }

theorem policies_of_resolve_queueRequest :
    queueRequest.overrides.Keyed ∧ ∃ s, queueRequest.resolve = .ok s ∧
      (s.columns.map Column.field).Perm ["Delay", "Policy"] ∧
      (s.fields.filter fun f => f.backoff.isSome).map ResolvedField.name = ["Delay"] ∧
      (s.fields.filter fun f => f.slot == .ignored).map ResolvedField.name = ["Token"] ∧
      ∀ f ∈ s.fields, f.Consistent := by
  have keyed : queueRequest.overrides.Keyed := by decide
  have accepted : queueRequest.findings.errors = [] := by cbv
  have listed : (queueRequest.findings.fields.filter fun f => f.listing.isSome).map
      ResolvedField.name = ["Delay", "Policy"] := by cbv
  have retried : (queueRequest.findings.fields.filter fun f => f.backoff.isSome).map
      ResolvedField.name = ["Delay"] := by cbv
  have ignored : (queueRequest.findings.fields.filter fun f => f.slot == .ignored).map
      ResolvedField.name = ["Token"] := by cbv
  obtain ⟨s, hs⟩ := queueRequest.resolve_isOk_iff.2 accepted
  obtain ⟨fields, columns⟩ := policies_of_resolve queueRequest keyed s hs
  have found : s.fields = queueRequest.findings.fields := by
    rw [(resolve_eq_ok_iff.1 hs).2]
  rw [found, listed] at columns
  refine ⟨keyed, s, hs, columns, ?_, ?_, fun f hf => (fields f hf).1⟩
  · rw [found, retried]
  · rw [found, ignored]

end Request

end FieldResolution
