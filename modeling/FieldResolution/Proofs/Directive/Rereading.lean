import FieldResolution.Proofs.Directive.Checked
import FieldResolution.Proofs.Model.Reading
import Mathlib.Algebra.Group.Nat.Defs
import Mathlib.Data.Int.Order.Basic

/-!
# Reading directives again

What is read from a document keeps to the rules that the resolution of fields relies on
(`Configuration.wellFormed_of_ofDocument`), and whatever keeps to them is read back from the
document that is written of it (`Configuration.accepts_toDocument`).  The same directives may stand
in many documents: with words or numbers for truth values, with texts for integers, with `source`
for `from`, with keys left out.  Whichever of them was read, the one that is written has the same
directives.
-/

namespace FieldResolution

open Checked
open Document (fieldEntries)

/-! ## What is read -/

theorem Checked.text_eq_accepted_iff {d : Document} {s : String} :
    text d = accepted s ↔ d = .text s := by
  unfold text
  split
  · simp
  · rename_i other
    refine iff_of_false (by simp [refuse]) ?_
    rintro rfl
    exact other s rfl

theorem pathOfDocument_eq_accepted_iff {d : Document} {path : String} :
    pathOfDocument d = accepted path ↔ d = .text path ∧ "" ∉ Text.segments path := by
  unfold pathOfDocument
  simp only [andThen_eq_accepted_iff, text_eq_accepted_iff]
  constructor
  · rintro ⟨s, rfl, h⟩
    split_ifs at h with gap
    · cases h
    · cases h
      exact ⟨rfl, fun mem => gap (List.contains_iff_mem.2 mem)⟩
  · rintro ⟨rfl, whole⟩
    exact ⟨path, rfl, if_neg fun gap => whole (List.contains_iff_mem.1 gap)⟩

theorem nonneg_of_priorityOfDocument {d : Document} {n : Int}
    (h : priorityOfDocument d = accepted n) : 0 ≤ n := by
  obtain ⟨m, -, h⟩ := andThen_eq_accepted_iff.1 h
  split_ifs at h with negative
  · cases h
  · cases h
    exact not_lt.1 negative

theorem Redirect.ofDocument_eq_accepted_iff {d : Document} {r : Redirect} :
    Redirect.ofDocument d = accepted r ↔
      ∃ entries, d = .mapping entries ∧
        required entries "operation" text = accepted r.operation ∧
        required entries "path" pathOfDocument = accepted r.path ∧
        strangers keys entries = [] := by
  simp only [Redirect.ofDocument, record_eq_accepted_iff, seq_eq_accepted_iff,
    fmap_eq_accepted_iff]
  cases r
  simp [and_assoc]

theorem CompareDirective.ofDocument_eq_accepted_iff {d : Document} {c : CompareDirective} :
    CompareDirective.ofDocument d = accepted c ↔
      ∃ entries, d = .mapping entries ∧
        withDefault entries "is_ignored" false bool = accepted c.isIgnored ∧
        withDefault entries "nil_equals_zero_value" false bool = accepted c.nilEqualsZero ∧
        strangers keys entries = [] := by
  simp only [CompareDirective.ofDocument, record_eq_accepted_iff, seq_eq_accepted_iff,
    fmap_eq_accepted_iff]
  cases c
  simp [-Bool.exists_bool, and_assoc]

theorem PrintDirective.ofDocument_eq_accepted_iff {d : Document} {p : PrintDirective} :
    PrintDirective.ofDocument d = accepted p ↔
      ∃ entries, d = .mapping entries ∧
        optional entries "name" text = accepted p.name ∧
        withDefault entries "priority" 0 priorityOfDocument = accepted p.priority ∧
        optional entries "index" int = accepted p.index ∧
        strangers keys entries = [] := by
  simp only [PrintDirective.ofDocument, record_eq_accepted_iff, seq_eq_accepted_iff,
    fmap_eq_accepted_iff]
  cases p
  simp [and_assoc]

theorem LateInitDirective.ofDocument_eq_accepted_iff {d : Document} {l : LateInitDirective} :
    LateInitDirective.ofDocument d = accepted l ↔
      ∃ entries, d = .mapping entries ∧
        withDefault entries "min_backoff_seconds" 0 int = accepted l.minBackoff ∧
        required entries "max_backoff_seconds" int = accepted l.maxBackoff ∧
        strangers keys entries = [] := by
  simp only [LateInitDirective.ofDocument, record_eq_accepted_iff, seq_eq_accepted_iff,
    fmap_eq_accepted_iff]
  cases l
  simp [and_assoc]

theorem Switch.forall_iff {P : Switch → Prop} :
    (∀ w, P w) ↔ P .isAttribute ∧ P .isReadOnly ∧ P .isRequired ∧ P .isPrimaryKey ∧
      P .isOwnerAccountId ∧ P .isArn ∧ P .isSecret ∧ P .isImmutable ∧ P .isIgnored := by
  constructor
  · exact fun each => ⟨each _, each _, each _, each _, each _, each _, each _, each _, each _⟩
  · rintro ⟨_, _, _, _, _, _, _, _, _⟩ w
    cases w <;> assumption

theorem FieldDirectives.ofDocument_eq_accepted_iff {d : Document} {x : FieldDirectives} :
    FieldDirectives.ofDocument d = accepted x ↔
      ∃ entries, d = .mapping entries ∧
        (∀ w : Switch, optional entries w.key bool = accepted (x.switch w)) ∧
        optional entries (redirectKey entries) Redirect.ofDocument = accepted x.redirect ∧
        optional entries "compare" CompareDirective.ofDocument = accepted x.compare ∧
        optional entries "print" PrintDirective.ofDocument = accepted x.print ∧
        optional entries "late_initialize" LateInitDirective.ofDocument = accepted x.lateInit ∧
        strangers (keys entries) entries = [] := by
  -- the switches are read one by one, so the statement about all of them is taken apart first
  simp only [FieldDirectives.ofDocument, record_eq_accepted_iff, seq_eq_accepted_iff,
    fmap_eq_accepted_iff, Switch.forall_iff]
  cases x
  simp [Switch.key, FieldDirectives.switch, and_assoc]

theorem ListingDirectives.ofDocument_eq_accepted_iff {d : Document} {l : ListingDirectives} :
    ListingDirectives.ofDocument d = accepted l ↔
      ∃ entries, d = .mapping entries ∧
        withDefault entries "order_by" .declaration columnOrderOfDocument = accepted l.order ∧
        withDefault entries "add_age_column" true bool = accepted l.addAgeColumn ∧
        strangers keys entries = [] := by
  simp only [ListingDirectives.ofDocument, record_eq_accepted_iff, seq_eq_accepted_iff,
    fmap_eq_accepted_iff]
  cases l
  simp [and_assoc]

theorem ResourceDirectives.ofDocument_eq_accepted_iff {d : Document} {r : ResourceDirectives} :
    ResourceDirectives.ofDocument d = accepted r ↔
      ∃ entries, d = .mapping entries ∧
        withDefault entries "fields" [] Overrides.ofDocument = accepted r.fields ∧
        withDefault entries "print" {} ListingDirectives.ofDocument = accepted r.listing ∧
        strangers keys entries = [] := by
  simp only [ResourceDirectives.ofDocument, record_eq_accepted_iff, seq_eq_accepted_iff,
    fmap_eq_accepted_iff]
  cases r
  simp [and_assoc]

theorem Configuration.ofDocument_mapping_eq_ok_iff {entries : List (Scalar × Document)}
    {c : Configuration} :
    Configuration.ofDocument (.mapping entries) = .ok c ↔
      withDefault entries "resources" [] (dictionary ResourceDirectives.ofDocument) =
        accepted c.resources ∧ strangers keys entries = [] := by
  obtain ⟨resources⟩ := c
  have fields : ∀ read : Checked (List (String × ResourceDirectives)),
      Configuration.mk <$> read = accepted ⟨resources⟩ ↔ read = accepted resources := by
    intro read
    simp [fmap_eq_accepted_iff]
  rw [← fields, ← also_eq_accepted_iff]
  unfold Configuration.ofDocument
  dsimp only [record]
  split
  · rename_i read
    rw [read]
    simp
  · rename_i read
    rw [read]
    simp

/-! ## What a configuration keeps to -/

/-- The path of a redirect is made of names. -/
structure Redirect.WellFormed (r : Redirect) : Prop where
  named : ∀ s ∈ r.segments, s ≠ ""
  joined : ".".intercalate r.segments = r.path

structure FieldDirectives.WellFormed (d : FieldDirectives) : Prop where
  redirect : ∀ r ∈ d.redirect, r.WellFormed
  print : ∀ p ∈ d.print, 0 ≤ p.priority

structure ResourceDirectives.WellFormed (r : ResourceDirectives) : Prop where
  fields : ∀ f ∈ r.fields, f.2.WellFormed
  order : r.listing.order.toDocument = .null ∨ r.listing.order.toDocument = .text "index"

/-- All directives of a configuration keep to their rules. -/
def Configuration.WellFormed (c : Configuration) : Prop := ∀ r ∈ c.resources, r.2.WellFormed

theorem Text.dottedChars_eq_intercalate (parts : List (List Char)) :
    Text.dottedChars parts = List.intercalate ['.'] parts := by
  induction parts with
  | nil => rfl
  | cons part rest ih =>
    cases rest with
    | nil => simp [Text.dottedChars]
    | cons next rest => simp [Text.dottedChars, ih, List.intercalate_cons_cons]

theorem Text.intercalate_segments (s : String) : ".".intercalate (Text.segments s) = s := by
  conv_rhs => rw [← Text.dotted_segments s]
  rw [← String.toList_inj, String.toList_intercalate, Text.dotted, Text.dottedChars_eq_intercalate]
  simp

theorem Redirect.wellFormed_of_ofDocument {d : Document} {r : Redirect}
    (h : Redirect.ofDocument d = accepted r) : r.WellFormed := by
  obtain ⟨entries, -, -, path, -⟩ := ofDocument_eq_accepted_iff.1 h
  obtain ⟨_, -, read⟩ := required_eq_accepted_iff.1 path
  have whole := (pathOfDocument_eq_accepted_iff.1 read).2
  exact ⟨fun s hs empty => whole (empty ▸ hs), Text.intercalate_segments r.path⟩

theorem PrintDirective.nonneg_of_ofDocument {d : Document} {p : PrintDirective}
    (h : PrintDirective.ofDocument d = accepted p) : 0 ≤ p.priority := by
  obtain ⟨entries, -, -, priority, -⟩ := ofDocument_eq_accepted_iff.1 h
  rcases withDefault_eq_accepted_iff.1 priority with ⟨-, zero⟩ | ⟨_, -, read⟩
  · exact zero.le
  · exact nonneg_of_priorityOfDocument read

theorem FieldDirectives.wellFormed_of_ofDocument {d : Document} {x : FieldDirectives}
    (h : FieldDirectives.ofDocument d = accepted x) : x.WellFormed := by
  obtain ⟨entries, -, -, redirect, -, print, -⟩ := ofDocument_eq_accepted_iff.1 h
  constructor
  · intro r hr
    rw [hr] at redirect
    obtain ⟨_, read⟩ := exists_read_of_optional redirect
    exact Redirect.wellFormed_of_ofDocument read
  · intro p hp
    rw [hp] at print
    obtain ⟨_, read⟩ := exists_read_of_optional print
    exact PrintDirective.nonneg_of_ofDocument read

theorem ColumnOrder.toDocument_eq (o : ColumnOrder) :
    o.toDocument = .null ∨ o.toDocument = .text "index" := by
  cases o with
  | declaration => exact Or.inl rfl
  | index => exact Or.inr rfl

/-- What holds of everything that is read holds of every entry of a dictionary. -/
theorem forall_of_dictionary {α : Type} {read : Document → Checked α} {P : α → Prop}
    (each : ∀ d a, read d = accepted a → P a) {entries : List (Scalar × Document)} {key : String}
    {items : List (String × α)}
    (h : withDefault entries key [] (dictionary read) = accepted items) : ∀ x ∈ items, P x.2 := by
  intro x hx
  rcases withDefault_eq_accepted_iff.1 h with ⟨-, rfl⟩ | ⟨d, -, h⟩
  · cases hx
  · obtain ⟨_, -, pairs⟩ := dictionary_eq_accepted_iff.1 h
    exact forall_of_forall₂ (fun e x accepts => each e.2 x.2 accepts.2) pairs x hx

theorem ResourceDirectives.wellFormed_of_ofDocument {d : Document} {r : ResourceDirectives}
    (h : ResourceDirectives.ofDocument d = accepted r) : r.WellFormed := by
  obtain ⟨entries, -, fields, -⟩ := ofDocument_eq_accepted_iff.1 h
  exact ⟨forall_of_dictionary (fun _ _ => FieldDirectives.wellFormed_of_ofDocument) fields,
    r.listing.order.toDocument_eq⟩

theorem Configuration.wellFormed_of_ofDocument {d : Document} {c : Configuration}
    (h : Configuration.ofDocument d = .ok c) : c.WellFormed := by
  cases d with
  | mapping entries =>
    have resources := (ofDocument_mapping_eq_ok_iff.1 h).1
    exact forall_of_dictionary (fun _ _ => ResourceDirectives.wellFormed_of_ofDocument) resources
  | list items => cases h
  | scalar s =>
    cases s with
    | null =>
      cases h
      exact fun _ hr => absurd hr List.not_mem_nil
    | _ => cases h

/-! ## Validated directives -/

/-- What holds of every entry and of the default holds of what is found. -/
theorem getD_lookup_of_forall {α : Type} {P : α → Prop} {items : List (String × α)} {default : α}
    (each : ∀ e ∈ items, P e.2) (absent : P default) (name : String) :
    P ((items.lookup name).getD default) := by
  cases h : items.lookup name with
  | none => exact absent
  | some a =>
    obtain ⟨before, after, rfl, -⟩ := List.lookup_eq_some_iff.1 h
    exact each (name, a) (by simp)

theorem FieldDirectives.wellFormed_empty : FieldDirectives.WellFormed {} := ⟨nofun, nofun⟩

theorem ResourceDirectives.wellFormed_empty : ResourceDirectives.WellFormed {} :=
  ⟨fun _ h => absurd h List.not_mem_nil, Or.inl rfl⟩

/-- A reader has accepted the directives, alone or in a configuration. -/
def ResourceDirectives.Validated (r : ResourceDirectives) : Prop :=
  (∃ d, ResourceDirectives.ofDocument d = accepted r) ∨
    ∃ d c name, Configuration.ofDocument d = .ok c ∧ c.resource name = r

theorem ResourceDirectives.Validated.wellFormed {r : ResourceDirectives} (h : r.Validated) :
    r.WellFormed := by
  rcases h with ⟨d, alone⟩ | ⟨d, c, name, whole, rfl⟩
  · exact wellFormed_of_ofDocument alone
  · exact getD_lookup_of_forall (Configuration.wellFormed_of_ofDocument whole) wellFormed_empty name

theorem ResourceDirectives.WellFormed.get {r : ResourceDirectives} (h : r.WellFormed)
    (name : String) : (r.fields.get name).WellFormed :=
  getD_lookup_of_forall h.fields FieldDirectives.wellFormed_empty name

/-! ## What is written -/

theorem Redirect.accepts_toDocument {r : Redirect} (h : r.WellFormed) :
    Redirect.ofDocument r.toDocument = accepted r := by
  have once : Redirect.keys.Nodup := by decide
  have path : pathOfDocument (.text r.path) = accepted r.path :=
    pathOfDocument_eq_accepted_iff.2 ⟨rfl, fun gap => h.named "" gap rfl⟩
  refine ofDocument_eq_accepted_iff.2 ⟨fieldEntries _, rfl, ?_, ?_, ?_⟩
  · exact required_of_field once (.head _) rfl
  · exact required_of_field once (.tail _ (.head _)) path
  · exact strangers_fieldEntries (List.Subset.refl _)

theorem CompareDirective.accepts_toDocument (c : CompareDirective) :
    CompareDirective.ofDocument c.toDocument = accepted c := by
  have once : CompareDirective.keys.Nodup := by decide
  refine ofDocument_eq_accepted_iff.2 ⟨fieldEntries _, rfl, ?_, ?_, ?_⟩
  · exact withDefault_of_field once (.head _) rfl
  · exact withDefault_of_field once (.tail _ (.head _)) rfl
  · exact strangers_fieldEntries (List.Subset.refl _)

theorem PrintDirective.accepts_toDocument {p : PrintDirective} (h : 0 ≤ p.priority) :
    PrintDirective.ofDocument p.toDocument = accepted p := by
  have once : PrintDirective.keys.Nodup := by decide
  have priority : priorityOfDocument (.int p.priority) = accepted p.priority :=
    if_neg (not_lt.2 h)
  refine ofDocument_eq_accepted_iff.2 ⟨fieldEntries _, rfl, ?_, ?_, ?_, ?_⟩
  · exact optional_of_field once (.head _) fun _ _ => ⟨nofun, rfl⟩
  · exact withDefault_of_field once (.tail _ (.head _)) priority
  · exact optional_of_field once (.tail _ (.tail _ (.head _))) fun _ _ => ⟨nofun, rfl⟩
  · exact strangers_fieldEntries (List.Subset.refl _)

theorem LateInitDirective.accepts_toDocument (l : LateInitDirective) :
    LateInitDirective.ofDocument l.toDocument = accepted l := by
  have once : LateInitDirective.keys.Nodup := by decide
  refine ofDocument_eq_accepted_iff.2 ⟨fieldEntries _, rfl, ?_, ?_, ?_⟩
  · exact withDefault_of_field once (.head _) rfl
  · exact required_of_field once (.tail _ (.head _)) rfl
  · exact strangers_fieldEntries (List.Subset.refl _)

/-- The blocks of a field as they are written out. -/
def FieldDirectives.writtenBlocks (x : FieldDirectives) : List (String × Document) :=
  [("from", .ofOption Redirect.toDocument x.redirect),
    ("compare", .ofOption CompareDirective.toDocument x.compare),
    ("print", .ofOption PrintDirective.toDocument x.print),
    ("late_initialize", .ofOption LateInitDirective.toDocument x.lateInit)]

/-- A field as it is written out: every switch, then every block. -/
def FieldDirectives.written (x : FieldDirectives) : List (String × Document) :=
  (Switch.all.map fun w => (w.key, .ofOption .bool (x.switch w))) ++ x.writtenBlocks

theorem Switch.mem_all (w : Switch) : w ∈ Switch.all := by cases w <;> decide

namespace FieldDirectives

variable (x : FieldDirectives)

theorem keys_written :
    x.written.map Prod.fst =
      Switch.all.map Switch.key ++ ["from", "compare", "print", "late_initialize"] := rfl

theorem nodup_keys_written : (x.written.map Prod.fst).Nodup := by
  rw [keys_written]
  decide

theorem switch_mem_written (w : Switch) :
    (w.key, .ofOption .bool (x.switch w)) ∈ x.written :=
  List.mem_append_left _ (List.mem_map_of_mem w.mem_all)

theorem mem_written_of_mem_writtenBlocks {e : String × Document} (h : e ∈ x.writtenBlocks) :
    e ∈ x.written :=
  List.mem_append_right _ h

/-- A redirect is written under `from`, also where there is none, so no other key is read. -/
theorem redirectKey_written : redirectKey (fieldEntries x.written) = "from" := by
  have found : (Document.lookup (fieldEntries x.written) "from").isSome = true := by
    rw [Document.lookup_fieldEntries x.nodup_keys_written
      (x.mem_written_of_mem_writtenBlocks (.head _))]
    rfl
  exact if_pos found

theorem keys_fieldEntries_written :
    keys (fieldEntries x.written) = x.written.map Prod.fst := by
  unfold keys
  rw [redirectKey_written, keys_written]

variable {x}

theorem accepts_toDocument (h : x.WellFormed) :
    FieldDirectives.ofDocument x.toDocument = accepted x := by
  have once := x.nodup_keys_written
  have block : ∀ e ∈ x.writtenBlocks, e ∈ x.written := fun _ =>
    x.mem_written_of_mem_writtenBlocks
  refine ofDocument_eq_accepted_iff.2
    ⟨fieldEntries x.written, rfl, fun w => ?_, ?_, ?_, ?_, ?_, ?_⟩
  · exact optional_of_field once (x.switch_mem_written w) fun _ _ => ⟨nofun, rfl⟩
  · rw [redirectKey_written]
    exact optional_of_field once (block _ (.head _)) fun r hr =>
      ⟨nofun, Redirect.accepts_toDocument (h.redirect r hr)⟩
  · exact optional_of_field once (block _ (.tail _ (.head _))) fun c _ =>
      ⟨nofun, c.accepts_toDocument⟩
  · exact optional_of_field once (block _ (.tail _ (.tail _ (.head _)))) fun p hp =>
      ⟨nofun, PrintDirective.accepts_toDocument (h.print p hp)⟩
  · exact optional_of_field once (block _ (.tail _ (.tail _ (.tail _ (.head _))))) fun l _ =>
      ⟨nofun, l.accepts_toDocument⟩
  · exact strangers_fieldEntries (x.keys_fieldEntries_written ▸ List.Subset.refl _)

end FieldDirectives

theorem ListingDirectives.accepts_toDocument (l : ListingDirectives) :
    ListingDirectives.ofDocument l.toDocument = accepted l := by
  have once : ListingDirectives.keys.Nodup := by decide
  have order : columnOrderOfDocument l.order.toDocument = accepted l.order := by
    cases l.order with
    | declaration => rfl
    | index => rfl
  refine ofDocument_eq_accepted_iff.2 ⟨fieldEntries _, rfl, ?_, ?_, ?_⟩
  · exact withDefault_of_field once (.head _) order
  · exact withDefault_of_field once (.tail _ (.head _)) rfl
  · exact strangers_fieldEntries (List.Subset.refl _)

theorem ResourceDirectives.accepts_toDocument {r : ResourceDirectives} (h : r.WellFormed) :
    ResourceDirectives.ofDocument r.toDocument = accepted r := by
  have once : ResourceDirectives.keys.Nodup := by decide
  refine ofDocument_eq_accepted_iff.2 ⟨fieldEntries _, rfl, ?_, ?_, ?_⟩
  · exact withDefault_of_field once (.head _) (dictionary_of_fields fun f hf =>
      FieldDirectives.accepts_toDocument (h.fields f hf))
  · exact withDefault_of_field once (.tail _ (.head _)) r.listing.accepts_toDocument
  · exact strangers_fieldEntries (List.Subset.refl _)

theorem Configuration.accepts_toDocument {c : Configuration}
    (h : c.WellFormed) : Configuration.ofDocument c.toDocument = .ok c := by
  have once : Configuration.keys.Nodup := by decide
  refine ofDocument_mapping_eq_ok_iff.2 ⟨?_, ?_⟩
  · exact withDefault_of_field once (.head _) (dictionary_of_fields fun r hr =>
      ResourceDirectives.accepts_toDocument (h r hr))
  · exact strangers_fieldEntries (List.Subset.refl _)

/-- The document that is written of a configuration is read as this configuration, if that was read
from any document; and what was read keeps to the rules.  Whatever keeps to them can be read. -/
theorem Configuration.ofDocument_rereads (c : Configuration) :
    (∀ d, Configuration.ofDocument d = .ok c →
        Configuration.ofDocument c.toDocument = .ok c ∧ c.WellFormed) ∧
      (c.WellFormed → Configuration.ofDocument c.toDocument = .ok c) := by
  refine ⟨fun d read => ?_, accepts_toDocument⟩
  have rules : c.WellFormed := wellFormed_of_ofDocument read
  exact ⟨accepts_toDocument rules, rules⟩

/-- The same kind of value is written in several ways, and much is left out. -/
def functionDocument : Document :=
  .record
    [("resources", .record
      [("Function", .record
        [("fields", .record
          [("CodeLocation", .record
            [("is_read_only", .text "Yes"), ("is_secret", .int 0),
              ("source", .record [("path", .text "Code.Location"),
                ("operation", .text "GetFunction")])]),
            ("State", .record
              [("print", .record [("index", .bool true), ("priority", .text " 007 ")]),
                ("is_arn", .null), ("compare", .record [("is_ignored", .text "off")]),
                ("late_initialize", .record
                  [("max_backoff_seconds", .scalar (.real ⟨false, 30 * 2 ^ 48, -48⟩))])])]),
          ("print", .record [("order_by", .text "index")])]),
        ("Alias", .record [])])]

/-- What `functionDocument` says. -/
def functionConfiguration : Configuration where
  resources :=
    [("Function",
      { fields :=
          [("CodeLocation",
            { isReadOnly := some true, isSecret := some false,
              redirect := some ⟨"GetFunction", "Code.Location"⟩ }),
            ("State",
              { compare := some {}, print := some { priority := 7, index := some 1 },
                lateInit := some { maxBackoff := 30 } })]
        listing := { order := .index } }),
      ("Alias", {})]

theorem Configuration.ofDocument_rereads_functionConfiguration :
    Configuration.ofDocument functionDocument = .ok functionConfiguration ∧
      Configuration.ofDocument functionConfiguration.toDocument = .ok functionConfiguration ∧
      functionConfiguration.WellFormed := by
  have read : Configuration.ofDocument functionDocument = .ok functionConfiguration :=
    ofDocument_mapping_eq_ok_iff.2 ⟨by decide +kernel, by decide +kernel⟩
  exact ⟨read, (ofDocument_rereads functionConfiguration).1 functionDocument read⟩

end FieldResolution
