import FieldResolution.Field.Diagnostic
import FieldResolution.Field.Resolved
import FieldResolution.Field.Type

/-!
# Settling one field

`settle` decides everything about one field but the flags, from its occurrences and directives
alone: its type, its slot, whether it is required, where it comes from, and its policies.  The
first fault in that order is the answer.  `remarks` is what there is to say about a settled field.

A field for which the overrides have no entry is settled from its occurrences alone (`settleBare`).
An entry without directives settles it in the same way (`settle_of_silent`).
-/

namespace FieldResolution

/-- The name of a field, its place, its occurrences and its directives. -/
structure FieldCase where
  name : String
  position : Nat
  occurrences : List Occurrence
  directives : FieldDirectives

namespace FieldCase

/-- The slot of the field. -/
def slot (c : FieldCase) : Decision Slot := decideSlot c.occurrences c.directives

/-- Is the field required? -/
def required (c : FieldCase) : Decision Bool :=
  decideRequired c.occurrences c.directives c.slot.value

/-- The path of the first occurrence, if that is not the name of the field. -/
def originPath? (c : FieldCase) : Option String :=
  match c.occurrences with
  | [] => none
  | o :: _ => if o.path = c.name then none else some o.path

/-- The path from which the field is taken, if it is not found under its name. -/
def sourcePath? (c : FieldCase) : Option String :=
  match c.directives.redirect with
  | some r => some r.path
  | none => c.originPath?

/-- The field of a given type and given policies. -/
def build (c : FieldCase) (m : Model) (type : MemberType) (comparison : Comparison)
    (listing : Option Listing) (backoff : Option Backoff) : ResolvedField :=
  { name := c.name
    slot := c.slot.value
    type
    typeName := m.spell type
    isSecret := c.directives.isOn .isSecret
    isImmutable := c.directives.isOn .isImmutable
    isRequired := c.required.value
    comparison
    listing
    backoff
    sourceOperation := c.directives.redirect.map Redirect.operation
    sourcePath := c.sourcePath?
    position := c.position
    provenance := [("slot", c.slot.source), ("is_required", c.required.source)] }

/-- The field, settled but for its flags. -/
def settle (c : FieldCase) (m : Model) : Except FieldFault ResolvedField := do
  let type ← m.fieldType c.occurrences c.directives
  match slotFault? c.slot.value c.directives with
  | some fault => throw fault
  | none =>
    let comparison ← c.directives.comparison c.slot.value
    let listing ← c.directives.listing? c.name c.slot.value
    let backoff ← c.directives.backoff? c.slot.value
    let field := c.build m type comparison listing backoff
    return if c.directives.isOn .isAttribute then field.unpack else field

/-- The operations in which the field appears, in ascending order. -/
def operations (c : FieldCase) : List String :=
  (c.occurrences.map Occurrence.operation).eraseDups.mergeSort fun a b => decide (a ≤ b)

/-- What there is to say about the field once it is settled in a slot. -/
def remarksOn (c : FieldCase) (slot : Decision Slot) : List Diagnostic :=
  if c.occurrences.isEmpty then []
  else if slot.isExplicit then
    if impliedSlot c.occurrences = slot.value then []
    else [.slotOverridden c.name (impliedSlot c.occurrences) slot.value]
  else if slot.value = .ignored then [.outsideResource c.name c.operations]
  else []

/-- What there is to say about the field once it is settled. -/
def remarks (c : FieldCase) : List Diagnostic := c.remarksOn c.slot

/-! ## Fields without an entry -/

/-- The field, settled from its occurrences alone. -/
def settleBare (c : FieldCase) (m : Model) : Except FieldFault ResolvedField :=
  let slot := impliedSlot c.occurrences
  (m.commonType c.occurrences).map fun type =>
    { name := c.name
      slot
      type
      typeName := m.spell type
      isRequired := impliedRequired c.occurrences slot
      sourcePath := c.originPath?
      position := c.position
      provenance := [("slot", .heuristic), ("is_required", .heuristic)] }

theorem slot_of_silent {c : FieldCase} (silent : c.directives = {}) :
    c.slot = .heuristic (impliedSlot c.occurrences) := by
  unfold slot
  rw [silent, decideSlot_of_silent]

theorem settle_of_silent {c : FieldCase} (silent : c.directives = {}) (m : Model) :
    c.settle m = c.settleBare m := by
  have sound (slot : Slot) : slotFault? slot {} = none := by cases slot <;> rfl
  have typed : m.fieldType c.occurrences {} = m.commonType c.occurrences := rfl
  unfold settle settleBare build required sourcePath?
  rw [slot_of_silent silent, silent, typed]
  cases m.commonType c.occurrences with
  | error fault => rfl
  | ok type =>
    simp only [Decision.heuristic, sound]
    rfl

end FieldCase

end FieldResolution
