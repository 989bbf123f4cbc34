import FieldResolution.Field.Slot
import FieldResolution.Proofs.Field.Walk

/-!
# What contributes to a field

A member on one side of an operation contributes to the field of its name.  A flattened member does
not: there the members of its shape contribute, each to the field of both names.  `Contributes` says
so of the model and the overrides alone.  The occurrences of a field are its contributors, no more
and no fewer (`mem_occurrences_iff`), so the slot and the mark that a field has by default can be
read off the operations (`impliedSlot_occurrences`, `demandedOnCreate_iff`).
-/

namespace FieldResolution

/-- The member gives way to the members of its shape: a redirect leads into it, and no override
bears its name. -/
structure Member.Flattened (x : Member) (overrides : Overrides) : Prop where
  entered : ∃ e ∈ overrides, ∃ r child rest,
    e.2.redirect = some r ∧ r.segments = x.name :: child :: rest
  unnamed : x.name ∉ overrides.map Prod.fst
  record : ∃ i, x.type = .shape i

theorem FieldDirectives.entered?_eq_some_iff {d : FieldDirectives} {parent : String} :
    d.entered? = some parent ↔
      ∃ r child rest, d.redirect = some r ∧ r.segments = parent :: child :: rest := by
  unfold entered?
  cases d.redirect with
  | none => simp
  | some r =>
    rw [Option.map_some]
    constructor
    · intro h
      split at h
      · rename_i first child rest hs
        cases h
        exact ⟨r, child, rest, rfl, Option.some.inj hs⟩
      · cases h
    · rintro ⟨_, child, rest, ⟨⟩, hs⟩
      rw [hs]

theorem Member.flattened_iff {x : Member} {overrides : Overrides} :
    x.Flattened overrides ↔
      x.name ∈ (flattening overrides).map Prod.fst ∧ ∃ i, x.type = .shape i := by
  simp only [mem_keys_flattening, FieldDirectives.entered?_eq_some_iff]
  constructor
  · rintro ⟨entered, unnamed, record⟩
    exact ⟨⟨entered, unnamed⟩, record⟩
  · rintro ⟨⟨entered, unnamed⟩, record⟩
    exact ⟨entered, unnamed, record⟩

/-- The dot sets the path of a member inside a flattened one apart from its name. -/
theorem dotted_ne_append (parent child : String) : parent ++ "." ++ child ≠ parent ++ child := by
  intro same
  have lengths := congrArg String.length same
  have dot : ".".length = 1 := rfl
  rw [String.length_append, String.length_append, String.length_append] at lengths
  omega

namespace Model

/-- `m.Contributes overrides o r name path x`: on side `r` of the operation `o` stands, under the
path `path`, the member `x`, which contributes to the field `name`. -/
inductive Contributes (m : Model) (overrides : Overrides) (o : Operation) (r : Role) :
    String → String → Member → Prop where
  | whole {s : Shape} {x : Member} (side : m.operationShape? o r = some s) (mem : x ∈ s.members)
      (whole : ¬ x.Flattened overrides) : Contributes m overrides o r x.name x.name x
  | part {s : Shape} {p x : Member} {i : Nat} (side : m.operationShape? o r = some s)
      (mem : p ∈ s.members) (flattened : p.Flattened overrides) (type : p.type = .shape i)
      (inside : x ∈ m.membersAt i) :
      Contributes m overrides o r (p.name ++ x.name) (p.name ++ "." ++ x.name) x

variable {m : Model} {overrides : Overrides} {o : Operation} {r : Role}

/-! ## The walk -/

theorem appearances_of_flattened {p : Member} {i : Nat} (flattened : p.Flattened overrides)
    (type : p.type = .shape i) :
    m.appearances ((flattening overrides).map Prod.fst) o r p =
      (m.membersAt i).map fun x =>
        (p.name ++ x.name, .ofMember o r (p.name ++ "." ++ x.name) x) := by
  have entered := (Member.flattened_iff.1 flattened).1
  unfold appearances
  rw [List.contains_iff_mem.2 entered, type]

theorem appearances_of_whole {x : Member} (whole : ¬ x.Flattened overrides) :
    m.appearances ((flattening overrides).map Prod.fst) o r x =
      [(x.name, .ofMember o r x.name x)] := by
  unfold appearances
  split
  · rename_i i type entered
    refine absurd (Member.flattened_iff.2 ⟨?_, i, type⟩) whole
    exact List.contains_iff_mem.1 entered
  · rfl

theorem mem_walkSide_iff {e : String × Occurrence} :
    e ∈ m.walkSide ((flattening overrides).map Prod.fst) o r ↔
      ∃ path x, m.Contributes overrides o r e.1 path x ∧ e.2 = .ofMember o r path x := by
  unfold walkSide
  constructor
  · intro he
    split at he
    · rename_i s side
      obtain ⟨p, hp, he⟩ := List.mem_flatMap.1 he
      by_cases flattened : p.Flattened overrides
      · obtain ⟨i, type⟩ := flattened.record
        rw [appearances_of_flattened flattened type] at he
        obtain ⟨x, hx, rfl⟩ := List.mem_map.1 he
        exact ⟨_, x, .part side hp flattened type hx, rfl⟩
      · rw [appearances_of_whole flattened] at he
        obtain rfl := List.mem_singleton.1 he
        exact ⟨_, p, .whole side hp flattened, rfl⟩
    · cases he
  · obtain ⟨name, occurrence⟩ := e
    rintro ⟨path, x, contributes, rfl⟩
    cases contributes with
    | whole side mem whole =>
      rw [side]
      refine List.mem_flatMap.2 ⟨x, mem, ?_⟩
      rw [appearances_of_whole whole]
      exact List.mem_singleton_self _
    | part side mem flattened type inside =>
      rw [side]
      refine List.mem_flatMap.2 ⟨_, mem, ?_⟩
      rw [appearances_of_flattened flattened type]
      exact List.mem_map.2 ⟨x, inside, rfl⟩

/-- The walk lists every contributor of every field, and nothing else. -/
theorem mem_walk_iff {e : String × Occurrence} :
    e ∈ Roster.walk m overrides ↔
      ∃ o ∈ m.operations, ∃ r path x,
        m.Contributes overrides o r e.1 path x ∧ e.2 = .ofMember o r path x := by
  unfold Roster.walk Model.walk
  simp only [List.mem_flatMap, List.mem_append, mem_walkSide_iff]
  constructor
  · rintro ⟨o, ho, found | found⟩
    · exact ⟨o, ho, .input, found⟩
    · exact ⟨o, ho, .output, found⟩
  · rintro ⟨o, ho, r, found⟩
    cases r with
    | input => exact ⟨o, ho, Or.inl found⟩
    | output => exact ⟨o, ho, Or.inr found⟩

/-- The occurrences of a field are its contributors. -/
theorem mem_occurrences_iff {name : String} {occurrence : Occurrence} :
    occurrence ∈ (Roster.ofModel m overrides).occurrences name ↔
      ∃ o ∈ m.operations, ∃ r path x,
        m.Contributes overrides o r name path x ∧ occurrence = .ofMember o r path x := by
  rw [Roster.occurrences_ofModel, Roster.under, List.mem_map]
  constructor
  · rintro ⟨e, he, rfl⟩
    obtain ⟨walked, named⟩ := List.mem_filter.1 he
    obtain rfl : e.1 = name := beq_iff_eq.1 named
    exact mem_walk_iff.1 walked
  · intro found
    refine ⟨(name, occurrence), List.mem_filter.2 ⟨mem_walk_iff.2 found, ?_⟩, rfl⟩
    exact beq_self_eq_true name

theorem mem_occurrences_of_whole {s : Shape} {x : Member} (operation : o ∈ m.operations)
    (side : m.operationShape? o r = some s) (mem : x ∈ s.members)
    (whole : ¬ x.Flattened overrides) :
    .ofMember o r x.name x ∈ (Roster.ofModel m overrides).occurrences x.name :=
  mem_occurrences_iff.2 ⟨o, operation, r, x.name, x, .whole side mem whole, rfl⟩

/-- A flattened member does not occur itself. -/
theorem notMem_occurrences_of_flattened {p : Member} (flattened : p.Flattened overrides) :
    .ofMember o r p.name p ∉ (Roster.ofModel m overrides).occurrences p.name := by
  intro occurs
  obtain ⟨_, -, _, path, x, contributes, same⟩ := mem_occurrences_iff.1 occurs
  have placed : p.name = path := congrArg Occurrence.path same
  -- an occurrence records the name and the type of its member, and they decide what is flattened
  have member : p.name = x.name := congrArg Occurrence.member same
  have type : p.type = x.type := congrArg Occurrence.type same
  generalize p.name = name at contributes placed
  cases contributes with
  | whole _ _ whole =>
    exact whole ⟨member ▸ flattened.entered, member ▸ flattened.unnamed, type ▸ flattened.record⟩
  | part => exact dotted_ne_append _ _ placed.symm

/-! ## Default slots -/

/-- A create operation takes the field. -/
def TakenOnCreate (m : Model) (overrides : Overrides) (name : String) : Prop :=
  ∃ o ∈ m.operations, o.kind = .create ∧ ∃ path x, m.Contributes overrides o .input name path x

/-- A create operation takes the field and demands it. -/
def DemandedOnCreate (m : Model) (overrides : Overrides) (name : String) : Prop :=
  ∃ o ∈ m.operations, o.kind = .create ∧
    ∃ path x, m.Contributes overrides o .input name path x ∧ x.required = true

/-- An operation that creates the resource, or reads one, gives the field. -/
def GivenBack (m : Model) (overrides : Overrides) (name : String) : Prop :=
  ∃ o ∈ m.operations, (o.kind = .create ∨ o.kind = .readOne) ∧
    ∃ path x, m.Contributes overrides o .output name path x

variable {name : String}

theorem DemandedOnCreate.taken (h : m.DemandedOnCreate overrides name) :
    m.TakenOnCreate overrides name := by
  obtain ⟨o, ho, create, path, x, contributes, -⟩ := h
  exact ⟨o, ho, create, path, x, contributes⟩

theorem takenOnCreate_iff :
    m.TakenOnCreate overrides name ↔
      ((Roster.ofModel m overrides).occurrences name).any Occurrence.isCreateInput = true := by
  simp only [List.any_eq_true, mem_occurrences_iff, Occurrence.isCreateInput, Bool.and_eq_true,
    beq_iff_eq]
  constructor
  · rintro ⟨o, ho, create, path, x, contributes⟩
    exact ⟨_, ⟨o, ho, .input, path, x, contributes, rfl⟩, rfl, create⟩
  · rintro ⟨_, ⟨o, ho, _, path, x, contributes, rfl⟩, rfl, create⟩
    exact ⟨o, ho, create, path, x, contributes⟩

theorem demandedOnCreate_iff :
    m.DemandedOnCreate overrides name ↔
      (((Roster.ofModel m overrides).occurrences name).any fun o =>
        o.required && o.isCreateInput) = true := by
  simp only [List.any_eq_true, mem_occurrences_iff, Occurrence.isCreateInput, Bool.and_eq_true,
    beq_iff_eq]
  constructor
  · rintro ⟨o, ho, create, path, x, contributes, required⟩
    exact ⟨_, ⟨o, ho, .input, path, x, contributes, rfl⟩, required, rfl, create⟩
  · rintro ⟨_, ⟨o, ho, _, path, x, contributes, rfl⟩, required, rfl, create⟩
    exact ⟨o, ho, create, path, x, contributes, required⟩

theorem givenBack_iff :
    m.GivenBack overrides name ↔
      ((Roster.ofModel m overrides).occurrences name).any Occurrence.isStatusOutput = true := by
  simp only [List.any_eq_true, mem_occurrences_iff, Occurrence.isStatusOutput, Bool.and_eq_true,
    Bool.or_eq_true, beq_iff_eq]
  constructor
  · rintro ⟨o, ho, kind, path, x, contributes⟩
    exact ⟨_, ⟨o, ho, .output, path, x, contributes, rfl⟩, rfl, kind⟩
  · rintro ⟨_, ⟨o, ho, _, path, x, contributes, rfl⟩, rfl, kind⟩
    exact ⟨o, ho, kind, path, x, contributes⟩

/-- The slot that the occurrences of a field imply, by what the operations do with the field. -/
theorem impliedSlot_occurrences (m : Model) (overrides : Overrides) (name : String) :
    (impliedSlot ((Roster.ofModel m overrides).occurrences name) = .spec ↔
        m.TakenOnCreate overrides name) ∧
      (impliedSlot ((Roster.ofModel m overrides).occurrences name) = .status ↔
        ¬ m.TakenOnCreate overrides name ∧ m.GivenBack overrides name) ∧
      (impliedSlot ((Roster.ofModel m overrides).occurrences name) = .ignored ↔
        ¬ m.TakenOnCreate overrides name ∧ ¬ m.GivenBack overrides name) := by
  unfold impliedSlot
  by_cases taken : m.TakenOnCreate overrides name
  · rw [if_pos (takenOnCreate_iff.1 taken)]
    exact ⟨iff_of_true rfl taken, iff_of_false nofun fun h => h.1 taken,
      iff_of_false nofun fun h => h.1 taken⟩
  · rw [if_neg (mt takenOnCreate_iff.2 taken)]
    by_cases given : m.GivenBack overrides name
    · rw [if_pos (givenBack_iff.1 given)]
      exact ⟨iff_of_false nofun taken, iff_of_true rfl ⟨taken, given⟩,
        iff_of_false nofun fun h => h.2 given⟩
    · rw [if_neg (mt givenBack_iff.2 given)]
      exact ⟨iff_of_false nofun taken, iff_of_false nofun fun h => given h.2,
        iff_of_true rfl ⟨taken, given⟩⟩

end Model

end FieldResolution
