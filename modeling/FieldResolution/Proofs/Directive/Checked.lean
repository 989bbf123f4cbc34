import FieldResolution.Directive.OfDocument
import FieldResolution.Directive.ToDocument
import Mathlib.Data.List.Forall2

/-!
# What a reader accepts

A reader that is joined from others accepts a document exactly if every one of them accepts its
part: one `_eq_accepted_iff` for each way of joining.  A document that is written out key by key is
read back key by key (`required_of_field`, `withDefault_of_field`, `optional_of_field`), and so is a
dictionary (`dictionary_of_fields`).
-/

namespace FieldResolution

open Document (lookup)

/-- The entries of a record that is written out. -/
def Document.fieldEntries (fields : List (String × Document)) : List (Scalar × Document) :=
  fields.map fun f => (.text f.1, f.2)

/-- A key that is written once is found. -/
theorem Document.lookup_fieldEntries {fields : List (String × Document)}
    (once : (fields.map Prod.fst).Nodup) {key : String} {d : Document} (h : (key, d) ∈ fields) :
    lookup (fieldEntries fields) key = some d := by
  induction fields with
  | nil => cases h
  | cons f rest ih =>
    rw [List.map_cons, List.nodup_cons] at once
    unfold fieldEntries
    rw [lookup_record_cons]
    rcases List.mem_cons.1 h with rfl | later
    · exact if_pos rfl
    · have other : f.1 ≠ key := by
        rintro rfl
        exact once.1 (List.mem_map.2 ⟨_, later, rfl⟩)
      rw [if_neg other]
      exact ih once.2 later

namespace Checked

variable {α β : Type}

/-! ## Parts joined -/

theorem map_eq_accepted_iff {f : α → β} {c : Checked α} {b : β} :
    c.map f = accepted b ↔ ∃ a, c = accepted a ∧ f a = b := by
  cases c <;> simp [map]

theorem both_eq_accepted_iff {f : Checked (α → β)} {c : Checked α} {b : β} :
    both f c = accepted b ↔ ∃ g a, f = accepted g ∧ c = accepted a ∧ g a = b := by
  cases f <;> cases c <;> simp [both]

theorem seq_eq_accepted_iff {f : Checked (α → β)} {c : Checked α} {b : β} :
    f <*> c = accepted b ↔ ∃ g a, f = accepted g ∧ c = accepted a ∧ g a = b :=
  both_eq_accepted_iff

theorem fmap_eq_accepted_iff {f : α → β} {c : Checked α} {b : β} :
    f <$> c = accepted b ↔ ∃ a, c = accepted a ∧ f a = b := by
  have joined : f <$> c = both (accepted f) c := rfl
  rw [joined, both_eq_accepted_iff]
  simp

theorem inside_eq_accepted_iff {s : Step} {c : Checked α} {a : α} :
    inside s c = accepted a ↔ c = accepted a := by
  cases c <;> simp [inside]

theorem andThen_eq_accepted_iff {c : Checked α} {f : α → Checked β} {b : β} :
    c.andThen f = accepted b ↔ ∃ a, c = accepted a ∧ f a = accepted b := by
  cases c <;> simp [andThen]

theorem also_eq_accepted_iff {c : Checked α} {vs : List Violation} {a : α} :
    c.also vs = accepted a ↔ c = accepted a ∧ vs = [] := by
  cases c <;> cases vs <;> simp [also]

theorem all_eq_accepted_iff {cs : List (Checked α)} {as : List α} :
    all cs = accepted as ↔ cs = as.map accepted := by
  induction cs generalizing as with
  | nil => cases as <;> simp [all]
  | cons c rest ih =>
    unfold all
    rw [both_eq_accepted_iff]
    constructor
    · rintro ⟨g, later, first, others, rfl⟩
      obtain ⟨a, rfl, rfl⟩ := map_eq_accepted_iff.1 first
      rw [ih.1 others]
      rfl
    · intro h
      cases as with
      | nil => cases h
      | cons a later =>
        rw [List.map_cons, List.cons.injEq] at h
        exact ⟨List.cons a, later, map_eq_accepted_iff.2 ⟨a, h.1, rfl⟩, ih.2 h.2, rfl⟩

/-! ## Fields of a record -/

section Fields

variable {entries : List (Scalar × Document)} {key : String} {read : Document → Checked α} {a : α}

theorem required_eq_accepted_iff :
    required entries key read = accepted a ↔
      ∃ d, lookup entries key = some d ∧ read d = accepted a := by
  unfold required
  rw [inside_eq_accepted_iff]
  cases lookup entries key <;> simp [refuse]

theorem withDefault_eq_accepted_iff {default : α} :
    withDefault entries key default read = accepted a ↔
      lookup entries key = none ∧ default = a ∨
        ∃ d, lookup entries key = some d ∧ read d = accepted a := by
  unfold withDefault
  cases lookup entries key <;> simp [inside_eq_accepted_iff]

theorem orNull_eq_accepted_iff {d : Document} {o : Option α} :
    orNull read d = accepted o ↔
      d = .null ∧ o = none ∨ d ≠ .null ∧ ∃ a, read d = accepted a ∧ o = some a := by
  unfold orNull
  split
  · simp [eq_comm]
  · rename_i solid
    have present : d ≠ .null := fun h => solid h
    rw [map_eq_accepted_iff]
    simp [present, eq_comm]

theorem exists_read_of_optional (h : optional entries key read = accepted (some a)) :
    ∃ d, read d = accepted a := by
  rcases withDefault_eq_accepted_iff.1 h with ⟨-, absent⟩ | ⟨d, -, present⟩
  · cases absent
  · rcases orNull_eq_accepted_iff.1 present with ⟨-, absent⟩ | ⟨-, b, readable, same⟩
    · cases absent
    · cases same
      exact ⟨d, readable⟩

/-! ## Fields that are written out -/

theorem required_of_field {fields : List (String × Document)} {d : Document}
    (once : (fields.map Prod.fst).Nodup) (h : (key, d) ∈ fields) (again : read d = accepted a) :
    required (Document.fieldEntries fields) key read = accepted a :=
  required_eq_accepted_iff.2 ⟨d, Document.lookup_fieldEntries once h, again⟩

theorem withDefault_of_field {default : α} {fields : List (String × Document)} {d : Document}
    (once : (fields.map Prod.fst).Nodup) (h : (key, d) ∈ fields) (again : read d = accepted a) :
    withDefault (Document.fieldEntries fields) key default read = accepted a :=
  withDefault_eq_accepted_iff.2 (Or.inr ⟨d, Document.lookup_fieldEntries once h, again⟩)

theorem optional_of_field {write : α → Document} {o : Option α} {fields : List (String × Document)}
    (once : (fields.map Prod.fst).Nodup) (h : (key, .ofOption write o) ∈ fields)
    (again : ∀ a ∈ o, write a ≠ .null ∧ read (write a) = accepted a) :
    optional (Document.fieldEntries fields) key read = accepted o := by
  refine withDefault_of_field once h (orNull_eq_accepted_iff.2 ?_)
  cases o with
  | none => exact Or.inl ⟨rfl, rfl⟩
  | some a =>
    obtain ⟨solid, readable⟩ := again a rfl
    exact Or.inr ⟨solid, a, readable, rfl⟩

end Fields

/-! ## Records and dictionaries -/

theorem strangerAt_eq_nil_iff {declared : List String} {k : Scalar} :
    strangerAt declared k = [] ↔ ∃ s ∈ declared, k = .text s := by
  cases k <;> simp [strangerAt]

theorem strangers_eq_nil_iff {declared : List String} {entries : List (Scalar × Document)} :
    strangers declared entries = [] ↔ ∀ e ∈ entries, ∃ s ∈ declared, e.1 = .text s := by
  unfold strangers
  simp only [List.flatMap_eq_nil_iff, strangerAt_eq_nil_iff]

theorem record_eq_accepted_iff {model : String} {declared : List (Scalar × Document) → List String}
    {read : List (Scalar × Document) → Checked α} {d : Document} {a : α} :
    record model declared read d = accepted a ↔
      ∃ entries, d = .mapping entries ∧ read entries = accepted a ∧
        strangers (declared entries) entries = [] := by
  unfold record
  cases d with
  | mapping entries => simp [also_eq_accepted_iff]
  | scalar s => simp [refuse]
  | list items => simp [refuse]

/-- The keys of a record that is written out are known where they are declared. -/
theorem strangers_fieldEntries {declared : List String} {fields : List (String × Document)}
    (known : fields.map Prod.fst ⊆ declared) :
    strangers declared (Document.fieldEntries fields) = [] := by
  refine strangers_eq_nil_iff.2 fun e he => ?_
  obtain ⟨f, hf, rfl⟩ := List.mem_map.1 he
  exact ⟨f.1, known (List.mem_map_of_mem hf), rfl⟩

variable {read : Document → Checked α}

theorem entry_eq_accepted_iff {e : Scalar × Document} {x : String × α} :
    entry read e = accepted x ↔ e.1 = .text x.1 ∧ read e.2 = accepted x.2 := by
  obtain ⟨key, d⟩ := e
  obtain ⟨name, a⟩ := x
  cases key with
  | text s => simp [entry, map_eq_accepted_iff, inside_eq_accepted_iff, and_comm]
  | _ => simp [entry, both_eq_accepted_iff]

theorem dictionary_eq_accepted_iff {d : Document} {items : List (String × α)} :
    dictionary read d = accepted items ↔
      ∃ entries, d = .mapping entries ∧
        List.Forall₂ (fun e x => e.1 = .text x.1 ∧ read e.2 = accepted x.2) entries items := by
  unfold dictionary
  cases d with
  | mapping entries =>
    simp only [all_eq_accepted_iff, Document.mapping.injEq, exists_eq_left']
    rw [← List.forall₂_eq_eq_eq, List.forall₂_map_left_iff, List.forall₂_map_right_iff]
    simp only [entry_eq_accepted_iff]
  | scalar s => simp [refuse]
  | list items => simp [refuse]

/-- A dictionary that is written out is read back. -/
theorem dictionary_of_fields {write : α → Document} {items : List (String × α)}
    (again : ∀ x ∈ items, read (write x.2) = accepted x.2) :
    dictionary read (.record (items.map fun x => (x.1, write x.2))) = accepted items := by
  refine dictionary_eq_accepted_iff.2 ⟨_, rfl, ?_⟩
  rw [List.map_map, List.forall₂_map_left_iff, List.forall₂_same]
  exact fun x hx => ⟨rfl, again x hx⟩

end Checked

end FieldResolution
