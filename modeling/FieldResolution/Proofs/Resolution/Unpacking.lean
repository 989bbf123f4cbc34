import FieldResolution.Proofs.Field.Column
import FieldResolution.Proofs.Resolution.Frame
import FieldResolution.Proofs.Resolution.Policies

/-!
# Fields that become attributes

Where an override makes an attribute of a field that occurs and is not redirected, the field becomes
a string and nothing else about it changes (`settle_asAttribute`): its slot asks whether it is an
attribute only where it does not occur (`decideSlot_asAttribute`), and a string needs no occurrences
that agree.  The roster asks it of names that do not occur (`roster_unpacking`), and no flag asks it
at all.  So the answer changes in that field and in the type that its column shows
(`resolve_unpacking`).
-/

namespace FieldResolution

/-! ## Directives for an attribute -/

/-- The directives with the field made an attribute. -/
def FieldDirectives.asAttribute (d : FieldDirectives) : FieldDirectives :=
  { d with isAttribute := some true }

theorem FieldDirectives.switch_asAttribute (d : FieldDirectives) {w : Switch}
    (other : w ≠ .isAttribute) : d.asAttribute.switch w = d.switch w := by
  cases w with
  | isAttribute => exact absurd rfl other
  | _ => rfl

/-- A field that occurs has the slot that it has as an attribute. -/
theorem decideSlot_asAttribute {occurrences : List Occurrence} (occurs : occurrences ≠ [])
    (d : FieldDirectives) : decideSlot occurrences d.asAttribute = decideSlot occurrences d := by
  have nonempty : occurrences.isEmpty = false := List.isEmpty_eq_false_iff.2 occurs
  have directed : directedSlot? occurrences d.asAttribute = directedSlot? occurrences d := by
    unfold directedSlot?
    rw [nonempty, Bool.and_false, Bool.and_false]
    rfl
  unfold decideSlot
  rw [directed]
  rfl

theorem slotFault?_asAttribute (slot : Slot) (d : FieldDirectives) :
    slotFault? slot d.asAttribute = slotFault? slot d := by
  cases slot <;> rfl

/-! ## Fields that are unpacked -/

/-- The field as a string from a map of attributes. -/
def ResolvedField.asAttribute (f : ResolvedField) : ResolvedField :=
  { f with type := .string, typeName := "string", isUnpacked := true }

namespace FieldCase

variable {c : FieldCase} (occurs : c.occurrences ≠ [])

include occurs

theorem slot_asAttribute : slot { c with directives := c.directives.asAttribute } = c.slot :=
  decideSlot_asAttribute occurs c.directives

theorem remarks_asAttribute :
    remarks { c with directives := c.directives.asAttribute } = c.remarks := by
  unfold remarks
  rw [slot_asAttribute occurs]
  rfl

theorem settle_asAttribute {m : Model} {f : ResolvedField}
    (undirected : c.directives.redirect = none) (h : c.settle m = .ok f) :
    settle { c with directives := c.directives.asAttribute } m = .ok f.asAttribute := by
  obtain ⟨type, comparison, listing, backoff, -, hSlot, hCompare, hList, hBackoff, rfl⟩ :=
    settle_eq_ok_iff.1 h
  have slot := slot_asAttribute occurs
  have required : required { c with directives := c.directives.asAttribute } = c.required := by
    unfold required
    rw [slot]
    rfl
  have typed : m.fieldType c.occurrences c.directives.asAttribute = .ok .string :=
    Model.fieldType_eq_ok_iff.2 (.inr (.inl ⟨undirected, rfl, rfl⟩))
  refine settle_eq_ok_iff.2 ⟨.string, comparison, listing, backoff, typed, ?_, ?_, ?_, ?_, ?_⟩
  · rw [slot, slotFault?_asAttribute]
    exact hSlot
  · rw [slot]
    exact hCompare
  · rw [slot]
    exact hList
  · rw [slot]
    exact hBackoff
  · have unpacked : c.directives.asAttribute.isOn .isAttribute = true := rfl
    have retyped (g : ResolvedField) :
        (if c.directives.isOn .isAttribute then g.unpack else g).asAttribute = g.asAttribute := by
      split_ifs <;> rfl
    unfold finish
    rw [if_pos unpacked, retyped]
    unfold build
    rw [slot, required]
    rfl

end FieldCase

section Change

variable (name : String)

theorem ResolvedField.sparesFlags_asAttribute :
    SparesFlags fun f : ResolvedField => if f.name = name then f.asAttribute else f where
  name f := by split_ifs <;> rfl
  slot f := by split_ifs <;> rfl
  decideFlag f flag d := by
    have own : (f.decideFlag flag d).name = f.name := f.name_decideFlag flag d
    rw [own]
    split_ifs with here
    · cases flag with
      | switch w => cases w <;> rfl
      | named key => rfl
    · rfl

theorem Column.redraws_asAttribute :
    Redraws (fun f : ResolvedField => if f.name = name then f.asAttribute else f)
      fun c => if c.field = name then { c with typeName := "string" } else c where
  position f := by split_ifs <;> rfl
  listing f := by split_ifs <;> rfl
  column f l := by
    show ofListed (if f.name = name then f.asAttribute else f, l) =
      if f.name = name then { ofListed (f, l) with typeName := "string" } else ofListed (f, l)
    split_ifs <;> rfl

end Change

/-! ## Overrides that make a field an attribute -/

namespace Overrides

/-- The overrides, the entry of a field making it an attribute. -/
def unpacking (o : Overrides) (name : String) : Overrides :=
  o.revise fun n d => if n = name then { d with isAttribute := some true } else d

variable {o : Overrides} {name : String} {d : FieldDirectives}

theorem get_of_lookup (entry : o.lookup name = some d) : o.get name = d := by
  unfold get
  rw [entry]
  rfl

theorem get_unpacking (entry : o.lookup name = some d) (n : String) :
    (o.unpacking name).get n = if n = name then (o.get n).asAttribute else o.get n := by
  unfold get unpacking
  rw [lookup_revise]
  split_ifs with here
  · subst here
    rw [entry]
    rfl
  · cases o.lookup n <;> rfl

end Overrides

namespace Request

variable {q : Request} {name : String} {d : FieldDirectives}

theorem roster_unpacking (occurs : q.roster.occurrences name ≠ []) :
    (q.under (q.overrides.unpacking name)).roster = q.roster := by
  have same : Roster.ofModel q.model (q.overrides.unpacking name) =
      Roster.ofModel q.model q.overrides := by
    unfold Overrides.unpacking
    refine Roster.ofModel_revise (fun n d => ?_) fun e he => ?_
    · split_ifs <;> rfl
    · have stranger : e.1 ≠ name := by
        rintro rfl
        exact occurs ((Roster.occurrences_eq_nil_iff _ _).2 ((Roster.mem_strangers _ _).1 he).2)
      rw [if_neg stranger]
  exact same

theorem caseAt_unpacking (occurs : q.roster.occurrences name ≠ [])
    (entry : q.overrides.lookup name = some d) (e : String × Nat) :
    (q.under (q.overrides.unpacking name)).caseAt e =
      if e.1 = name then { q.caseAt e with directives := (q.caseAt e).directives.asAttribute }
      else q.caseAt e := by
  have directives := Overrides.get_unpacking entry e.1
  unfold caseAt
  rw [roster_unpacking occurs]
  split_ifs at directives ⊢
  · rw [FieldCase.mk.injEq]
    exact ⟨rfl, rfl, rfl, directives⟩
  · rw [FieldCase.mk.injEq]
    exact ⟨rfl, rfl, rfl, directives⟩

theorem changes_unpacking (occurs : q.roster.occurrences name ≠ [])
    (entry : q.overrides.lookup name = some d) (undirected : d.redirect = none) :
    Changes q (q.overrides.unpacking name) fun f =>
      if f.name = name then f.asAttribute else f where
  roster := roster_unpacking occurs
  flags n w hw := by
    have other : w ≠ .isAttribute := by
      rintro rfl
      exact absurd hw (by decide)
    rw [Overrides.get_unpacking entry]
    split_ifs
    · exact FieldDirectives.switch_asAttribute _ other
    · rfl
  remarks e _ := by
    rw [caseAt_unpacking occurs entry]
    split_ifs with here
    · rw [← here] at occurs
      exact FieldCase.remarks_asAttribute occurs
    · rfl
  settles e _ f settled := by
    have own : f.name = e.1 := FieldCase.name_of_settle settled
    rw [caseAt_unpacking occurs entry, own]
    split_ifs with here
    · have plain : (q.overrides.get e.1).redirect = none := by
        rw [here, Overrides.get_of_lookup entry]
        exact undirected
      rw [← here] at occurs
      exact FieldCase.settle_asAttribute occurs plain settled
    · exact settled

/-- Making an attribute of a field that occurs, has an override and is not redirected makes it a
string from a map of attributes, and shows in the type of its column.  Nothing else about an answer
changes. -/
theorem resolve_unpacking (q : Request) (name : String) (d : FieldDirectives)
    (occurs : q.roster.occurrences name ≠ []) (entry : q.overrides.lookup name = some d)
    (undirected : d.redirect = none) (s : FieldSet) (h : q.resolve = .ok s) :
    (q.under (q.overrides.unpacking name)).resolve = .ok
      { s with
        fields := s.fields.map fun f =>
          if f.name = name then { f with type := .string, typeName := "string", isUnpacked := true }
          else f
        columns := s.columns.map fun c =>
          if c.field = name then { c with typeName := "string" } else c } := by
  have changes := changes_unpacking occurs entry undirected
  rw [changes.resolve_of_changes (ResolvedField.sparesFlags_asAttribute name) h,
    columns_of_resolve h, ← Column.ofFields_map (Column.redraws_asAttribute name)]
  rfl

/-- A field that cannot change and has a column of its own. -/
def statementDirectives : FieldDirectives :=
  { isImmutable := some true, print := some { index := some 2 } }

def versionDirectives : FieldDirectives :=
  { print := some { name := some "REVISION", index := some 1 } }

/-- A list of records that hold records of their own, required and listed, next to a primary key. -/
def policyRequest : Request where
  model :=
    { shapes :=
        [{ name := "CreateInput", members := [⟨"Name", .string, true⟩,
            ⟨"Statements", .container .list (.shape 2), true⟩] },
          { name := "GetOutput", members := [⟨"Statements", .container .list (.shape 2), false⟩,
            ⟨"Version", .primitive .integer, false⟩] },
          { name := "Statement", members := [⟨"Effect", .string, false⟩,
            ⟨"Inner", .container .list (.shape 2), false⟩] }]
      operations :=
        [{ name := "CreatePolicy", input := some 0, kind := .create },
          { name := "GetPolicy", output := some 1, kind := .readOne }] }
  resource := "Policy"
  directives :=
    { fields := [("Statements", statementDirectives), ("Version", versionDirectives)]
      listing := { order := .index } }

/-- The list of records becomes a string, in its field and in its column. -/
theorem resolve_unpacking_policyRequest :
    (policyRequest.roster.occurrences "Statements" ≠ [] ∧
        policyRequest.overrides.lookup "Statements" = some statementDirectives ∧
        statementDirectives.redirect = none) ∧
      ∃ s, policyRequest.resolve = .ok s ∧
        (s.fields.map fun f => (f.name, f.slot, f.isRequired, f.typeName)) =
          [("Name", .spec, true, "string"), ("Statements", .spec, true, "list<Statement>"),
            ("Version", .status, false, "integer")] ∧
        (s.columns.map fun c => (c.header, c.typeName)) =
          [("REVISION", "integer"), ("Statements", "list<Statement>")] ∧
        ∃ t, (policyRequest.under
            [("Statements", { statementDirectives with isAttribute := some true }),
              ("Version", versionDirectives)]).resolve = .ok t ∧
          (t.fields.map fun f => (f.name, f.slot, f.isRequired, f.typeName)) =
            [("Name", .spec, true, "string"), ("Statements", .spec, true, "string"),
              ("Version", .status, false, "integer")] ∧
          (t.columns.map fun c => (c.header, c.typeName)) =
            [("REVISION", "integer"), ("Statements", "string")] ∧
          t.diagnostics = s.diagnostics := by
  have occurs : policyRequest.roster.occurrences "Statements" ≠ [] := by
    intro none
    have walked : (policyRequest.roster.occurrences "Statements").length = 2 := by cbv
    rw [none] at walked
    cases walked
  have accepted : policyRequest.findings.errors = [] := by cbv
  have fields : policyRequest.findings.fields.map
      (fun f => (f.name, f.slot, f.isRequired, f.typeName)) =
        [("Name", .spec, true, "string"), ("Statements", .spec, true, "list<Statement>"),
          ("Version", .status, false, "integer")] := by cbv
  have retyped : (policyRequest.findings.fields.map fun f =>
      if f.name = "Statements" then
        { f with type := .string, typeName := "string", isUnpacked := true }
      else f).map (fun f => (f.name, f.slot, f.isRequired, f.typeName)) =
        [("Name", .spec, true, "string"), ("Statements", .spec, true, "string"),
          ("Version", .status, false, "integer")] := by cbv
  have columns : Column.ofFields policyRequest.findings.fields .index =
      [⟨"Version", "REVISION", "integer", 0⟩,
        ⟨"Statements", "Statements", "list<Statement>", 0⟩] := by cbv
  obtain ⟨s, hs⟩ := policyRequest.resolve_isOk_iff.2 accepted
  have shown : s.columns = [⟨"Version", "REVISION", "integer", 0⟩,
      ⟨"Statements", "Statements", "list<Statement>", 0⟩] := by
    rw [columns_of_resolve hs, fields_eq_findings hs]
    exact columns
  rw [← fields_eq_findings hs] at fields retyped
  refine ⟨⟨occurs, rfl, rfl⟩, s, hs, fields, ?_, _,
    resolve_unpacking policyRequest "Statements" statementDirectives occurs rfl rfl s hs, retyped,
    ?_, rfl⟩
  · rw [shown]
    rfl
  · dsimp only
    rw [shown]
    decide

end Request

end FieldResolution
