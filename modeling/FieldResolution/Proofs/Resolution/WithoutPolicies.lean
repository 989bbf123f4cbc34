import FieldResolution.Proofs.Field.Arrangement
import FieldResolution.Proofs.Resolution.Frame
import FieldResolution.Proofs.Resolution.Policies

/-!
# Overrides without their policies

A policy decides nothing but itself.  Where policies are taken out of the overrides, each step that
attaches one still accepts the field (`comparison_without`, `listing?_without`, `backoff?_without`),
since a policy that is missing is in nobody's way, and all other decisions read the same directives
as before.  So each field is settled as before but for the policies taken out (`settle_without`),
and so is the whole answer, whose columns are those of the fields still listed (`resolve_without`).
-/

namespace FieldResolution

/-! ## Directives without policies -/

namespace FieldDirectives

/-- The directives without some of their policies. -/
def without (d : FieldDirectives) (gone : PolicyBlock → Bool) : FieldDirectives :=
  { d with
    compare := if gone .compare then none else d.compare
    print := if gone .print then none else d.print
    lateInit := if gone .lateInit then none else d.lateInit }

variable {d : FieldDirectives} {gone : PolicyBlock → Bool} {slot : Slot}

theorem switch_without (d : FieldDirectives) (gone : PolicyBlock → Bool) (w : Switch) :
    (d.without gone).switch w = d.switch w := by
  cases w <;> rfl

theorem isSome_print_of_without (h : (d.without gone).print.isSome = true) :
    d.print.isSome = true := by
  unfold without at h
  dsimp only at h
  split_ifs at h
  · cases h
  · exact h

theorem isComparisonOff_of_without (h : (d.without gone).isComparisonOff = true) :
    d.isComparisonOff = true := by
  rw [isComparisonOff_eq_true_iff] at h ⊢
  unfold without at h
  dsimp only at h
  split_ifs at h
  · obtain ⟨c, hc, -⟩ := h
    cases hc
  · exact h

theorem comparison_without {c : Comparison} (h : d.comparison slot = .ok c) :
    (d.without gone).comparison slot = .ok (if gone .compare then {} else c) := by
  by_cases taken : gone .compare = true
  · unfold comparison without
    rw [if_pos taken, if_pos taken]
  · have kept : (d.without gone).compare = d.compare := if_neg taken
    rw [if_neg taken]
    unfold comparison at h ⊢
    rw [kept]
    cases hd : d.compare with
    | none =>
      rw [hd] at h
      exact h
    | some directive =>
      rw [hd] at h
      dsimp only at h ⊢
      split_ifs at h with ignored listed
      have unlisted : ¬(directive.isIgnored = true ∧ (d.without gone).print.isSome = true) :=
        fun both => listed ⟨both.1, isSome_print_of_without both.2⟩
      rw [if_neg ignored, if_neg unlisted]
      exact h

theorem listing?_without {name : String} {l : Option Listing}
    (h : d.listing? name slot = .ok l) :
    (d.without gone).listing? name slot = .ok (if gone .print then none else l) := by
  by_cases taken : gone .print = true
  · unfold listing? without
    rw [if_pos taken, if_pos taken]
  · have kept : (d.without gone).print = d.print := if_neg taken
    rw [if_neg taken]
    unfold listing? at h ⊢
    rw [kept]
    cases hd : d.print with
    | none =>
      rw [hd] at h
      exact h
    | some directive =>
      rw [hd] at h
      dsimp only at h ⊢
      split_ifs at h with ignored off
      rw [if_neg ignored, if_neg fun h => off (isComparisonOff_of_without h)]
      exact h

theorem backoff?_without {b : Option Backoff} (h : d.backoff? slot = .ok b) :
    (d.without gone).backoff? slot = .ok (if gone .lateInit then none else b) := by
  by_cases taken : gone .lateInit = true
  · unfold backoff? without
    rw [if_pos taken, if_pos taken]
  · have kept : (d.without gone).lateInit = d.lateInit := if_neg taken
    rw [if_neg taken]
    unfold backoff? at h ⊢
    rw [kept]
    exact h

end FieldDirectives

/-! ## Fields without policies -/

/-- The field as it is where it has no directives for some of its policies. -/
def ResolvedField.without (f : ResolvedField) (gone : PolicyBlock → Bool) : ResolvedField :=
  { f with
    comparison := if gone .compare then {} else f.comparison
    listing := if gone .print then none else f.listing
    backoff := if gone .lateInit then none else f.backoff }

theorem FieldCase.settle_without {c : FieldCase} {m : Model} {f : ResolvedField}
    (gone : PolicyBlock → Bool) (h : c.settle m = .ok f) :
    settle { c with directives := c.directives.without gone } m = .ok (f.without gone) := by
  obtain ⟨type, comparison, listing, backoff, hType, hSlot, hCompare, hList, hBackoff, rfl⟩ :=
    settle_eq_ok_iff.1 h
  have sound : slotFault? c.slot.value (c.directives.without gone) = none := by
    rw [slotFault?_eq_none_iff] at hSlot ⊢
    simpa only [FieldDirectives.switch_without] using hSlot
  refine settle_eq_ok_iff.2 ⟨type, _, _, _, hType, sound,
    FieldDirectives.comparison_without hCompare, FieldDirectives.listing?_without hList,
    FieldDirectives.backoff?_without hBackoff, ?_⟩
  have unpacked : (c.directives.without gone).isOn .isAttribute =
      c.directives.isOn .isAttribute := rfl
  unfold finish
  rw [unpacked]
  by_cases fromMap : c.directives.isOn .isAttribute = true
  · rw [if_pos fromMap, if_pos fromMap]
    rfl
  · rw [if_neg fromMap, if_neg fromMap]
    rfl

section Change

variable (gone : String → PolicyBlock → Bool)

theorem ResolvedField.sparesFlags_without :
    SparesFlags fun f : ResolvedField => f.without (gone f.name) where
  name _ := rfl
  slot _ := rfl
  decideFlag f flag d := by
    cases flag with
    | switch w => cases w <;> rfl
    | named key => rfl

theorem Column.unlists_without :
    Unlists (fun name => !gone name .print) fun f : ResolvedField => f.without (gone f.name) where
  name _ := rfl
  typeName _ := rfl
  position _ := rfl
  listing f := by
    unfold ResolvedField.without
    cases gone f.name .print <;> rfl

end Change

/-! ## Overrides without policies -/

namespace Overrides

/-- The overrides, every entry without some of its policies. -/
def without (o : Overrides) (gone : String → PolicyBlock → Bool) : Overrides :=
  o.revise fun name d => d.without (gone name)

theorem get_without (o : Overrides) (gone : String → PolicyBlock → Bool) (name : String) :
    (o.without gone).get name = (o.get name).without (gone name) := by
  have absent : FieldDirectives.without {} (gone name) = {} := by
    unfold FieldDirectives.without
    simp only [ite_self]
  unfold get without
  rw [lookup_revise]
  cases o.lookup name with
  | none => exact absent.symm
  | some d => rfl

end Overrides

namespace Request

variable (q : Request) (gone : String → PolicyBlock → Bool)

theorem roster_without : (q.under (q.overrides.without gone)).roster = q.roster := by
  have same : Roster.ofModel q.model (q.overrides.without gone) =
      Roster.ofModel q.model q.overrides := by
    unfold Overrides.without
    exact Roster.ofModel_revise (fun _ _ => rfl) fun _ _ => rfl
  exact same

theorem caseAt_without (e : String × Nat) :
    (q.under (q.overrides.without gone)).caseAt e =
      { q.caseAt e with directives := (q.caseAt e).directives.without (gone e.1) } := by
  have directives := q.overrides.get_without gone e.1
  unfold caseAt
  rw [roster_without, FieldCase.mk.injEq]
  exact ⟨rfl, rfl, rfl, directives⟩

theorem changes_without :
    Changes q (q.overrides.without gone) fun f => f.without (gone f.name) where
  roster := q.roster_without gone
  flags name w _ := by
    rw [Overrides.get_without, FieldDirectives.switch_without]
  remarks e _ := by
    rw [caseAt_without]
    rfl
  settles e _ f settled := by
    have own : f.name = e.1 := FieldCase.name_of_settle settled
    rw [caseAt_without, own]
    exact FieldCase.settle_without (gone e.1) settled

/-- Taking policies out of the overrides takes them out of the fields, and the columns of the
fields that are listed no more out of the columns.  Nothing else about an answer changes. -/
theorem resolve_without (s : FieldSet) (h : q.resolve = .ok s) :
    (q.under (q.overrides.without gone)).resolve = .ok
      { s with
        fields := s.fields.map fun f => f.without (gone f.name)
        columns := s.columns.filter fun c => !gone c.field .print } := by
  rw [(q.changes_without gone).resolve_of_changes (ResolvedField.sparesFlags_without gone) h,
    columns_of_resolve h]
  have columns := Column.ofFields_unlist (Column.unlists_without gone) q.directives.listing.order
    (nodup_position_fields h)
  rw [columns]

/-- A field with every policy, and columns whose order is not that of their fields. -/
def archiveRequest : Request where
  model :=
    { shapes :=
        [{ name := "CreateInput", members := [⟨"Title", .string, true⟩, ⟨"Note", .string, false⟩,
            ⟨"Owner", .string, false⟩, ⟨"Size", .primitive .integer, false⟩] }]
      operations := [{ name := "CreateArchive", input := some 0, kind := .create }] }
  resource := "Archive"
  directives :=
    { fields :=
        [("Note",
            { compare := some { nilEqualsZero := true }, print := some { index := some 3 }
              lateInit := some { maxBackoff := 30 } }),
          ("Owner", { print := some { name := some "OWNER" } }),
          ("Size", { compare := some {}, print := some { index := some (-1) } })]
      listing := { order := .index } }

/-- Three of its policies: two of one field, and a column. -/
def archiveExcess (name : String) (block : PolicyBlock) : Bool :=
  [("Note", .compare), ("Note", .lateInit), ("Owner", .print)].contains (name, block)

theorem resolve_without_archiveRequest :
    ∃ s, archiveRequest.resolve = .ok s ∧ s.columns.map Column.field = ["Size", "Owner", "Note"] ∧
      ∃ t, (archiveRequest.under
          [("Note", { print := some { index := some 3 } }), ("Owner", {}),
            ("Size", { compare := some {}, print := some { index := some (-1) } })]).resolve =
              .ok t ∧
        t.columns.map Column.field = ["Size", "Note"] ∧
        t.fields.all (fun f => f.backoff.isNone) = true ∧ t.diagnostics = s.diagnostics := by
  have accepted : archiveRequest.findings.errors = [] := by cbv
  have columns : (Column.ofFields archiveRequest.findings.fields .index).map Column.field =
      ["Size", "Owner", "Note"] := by cbv
  have unretried : (archiveRequest.findings.fields.map fun f =>
      f.without (archiveExcess f.name)).all (fun f => f.backoff.isNone) = true := by cbv
  obtain ⟨s, hs⟩ := archiveRequest.resolve_isOk_iff.2 accepted
  have shown : s.columns.map Column.field = ["Size", "Owner", "Note"] := by
    rw [columns_of_resolve hs, fields_eq_findings hs]
    exact columns
  refine ⟨s, hs, shown, _, resolve_without archiveRequest archiveExcess s hs, ?_, ?_, rfl⟩
  · have kept : (s.columns.filter fun c => !archiveExcess c.field .print).map Column.field =
        (s.columns.map Column.field).filter fun name => !archiveExcess name .print := by
      rw [List.filter_map]
      rfl
    rw [kept, shown]
    decide
  · rw [← fields_eq_findings hs] at unretried
    exact unretried

end Request

end FieldResolution
