import FieldResolution.Proofs.Directive.Rereading
import FieldResolution.Proofs.Field.Arrangement
import FieldResolution.Proofs.Resolution.Policies
import FieldResolution.Proofs.Resolution.Remarks

/-!
# The listing of an answer

The fields of an answer stand at distinct positions, so its columns are the one arrangement of the
listed fields (`arrangement_of_resolve`).  A field is listed with the priority that its directive
says, and a reader accepts no negative one, so the columns that the standard view leaves out are
those of positive priority (`headers_of_resolve`).
-/

namespace FieldResolution

/-- Every column shows one of the fields. -/
theorem Column.Arrangement.shows {order : ColumnOrder} {fields shown : List ResolvedField}
    {columns : List Column} (h : Arrangement order fields shown columns) :
    ∀ c ∈ columns, ∃ f ∈ fields, c.Shows f := by
  have given : ∀ f ∈ shown, f ∈ fields :=
    fun f hf => List.mem_of_mem_filter (h.listed.mem_iff.1 hf)
  exact forall_of_forall₂ (fun f _ hf => ⟨f, hf⟩)
    ((List.forall₂_and_left _ _).2 ⟨given, h.carried.flip⟩)

namespace Request

variable {q : Request} {s : FieldSet}

theorem listing_of_mem_fields (h : q.resolve = .ok s) {f : ResolvedField} (hf : f ∈ s.fields) :
    (q.overrides.get f.name).listing? f.name f.slot = .ok f.listing := by
  obtain ⟨place, g, settled, hg⟩ := exists_case_of_mem_fields h hf
  have flags : f.listing = (q.flagged g).listing := congrArg _ hg
  rw [flags, slot_of_mem_fields h hf]
  exact FieldCase.listing_of_settle settled

theorem nonneg_of_mem_fields (valid : q.directives.WellFormed) (h : q.resolve = .ok s)
    {f : ResolvedField} (hf : f ∈ s.fields) {l : Listing} (hl : f.listing = some l) :
    0 ≤ l.priority := by
  have given := listing_of_mem_fields h hf
  rw [hl] at given
  obtain ⟨p, print, rfl⟩ := FieldDirectives.listing?_eq_some given
  exact (valid.get f.name).print p print

theorem arrangement_of_resolve (h : q.resolve = .ok s) :
    ∃ shown, Column.Arrangement q.directives.listing.order s.fields shown s.columns := by
  rw [columns_of_resolve h]
  exact ⟨_, Column.arrangement_ofFields _ (nodup_position_fields h)⟩

theorem nonneg_of_mem_columns (valid : q.directives.WellFormed) (h : q.resolve = .ok s) {c : Column}
    (hc : c ∈ s.columns) : 0 ≤ c.priority := by
  obtain ⟨shown, arranged⟩ := arrangement_of_resolve h
  obtain ⟨f, hf, shows⟩ := arranged.shows c hc
  obtain ⟨l, hl, -, priority⟩ := shows.listing
  rw [priority]
  exact nonneg_of_mem_fields valid h hf hl

/-- The headers of the two views of a listing. -/
theorem headers_of_resolve (valid : q.directives.Validated) (h : q.resolve = .ok s) :
    s.headers true = "NAME" :: s.columns.map Column.header ++
        (if q.directives.listing.addAgeColumn then ["AGE"] else []) ∧
      s.headers false = "NAME" :: (s.columns.filter fun c => ¬0 < c.priority).map Column.header ++
        (if q.directives.listing.addAgeColumn then ["AGE"] else []) := by
  have age : s.addAgeColumn = q.directives.listing.addAgeColumn := by
    rw [(resolve_eq_ok_iff.1 h).2]
  have standard : ∀ c ∈ s.columns, (c.priority == 0) = decide (¬0 < c.priority) := by
    intro c hc
    have nonneg := nonneg_of_mem_columns valid.wellFormed h hc
    rw [beq_eq_decide, decide_eq_decide]
    omega
  unfold FieldSet.headers
  rw [age]
  simp only [Bool.true_or, Bool.false_or, List.filter_true, List.filter_congr standard, and_self]

/-- Fields at distinct positions have one column for each of them that is listed, in strict order,
whatever the order of the fields.  The views of an answer show these columns between the fixed ones:
the wide view all of them, the standard view those whose priority is not positive. -/
theorem listing_arranged :
    (∀ (fields : List ResolvedField) (order : ColumnOrder),
      (fields.map ResolvedField.position).Nodup →
        (∃ shown, Column.Arrangement order fields shown (Column.ofFields fields order)) ∧
          ∀ fields', fields'.Perm fields →
            Column.ofFields fields' order = Column.ofFields fields order) ∧
      ∀ (q : Request) (s : FieldSet), q.directives.Validated → q.resolve = .ok s →
        s.columns = Column.ofFields s.fields q.directives.listing.order ∧
          (∃ shown, Column.Arrangement q.directives.listing.order s.fields shown s.columns) ∧
          s.headers true = "NAME" :: s.columns.map Column.header ++
            (if q.directives.listing.addAgeColumn then ["AGE"] else []) ∧
          s.headers false =
            "NAME" :: (s.columns.filter fun c => ¬0 < c.priority).map Column.header ++
            (if q.directives.listing.addAgeColumn then ["AGE"] else []) := by
  constructor
  · intro fields order places
    exact ⟨⟨_, Column.arrangement_ofFields order places⟩,
      fun _ same => Column.ofFields_perm order places same⟩
  · intro q s valid h
    exact ⟨columns_of_resolve h, arrangement_of_resolve h, headers_of_resolve valid h⟩

/-- Indexes that are missing, zero, negative and large, and one column for the wide view only. -/
def galleryDocument : Document :=
  .record
    [("fields", .record
      [("Title", .record [("print", .record [("index", .int 1000000000000000000000)])]),
        ("Owner", .record [("print", .record [("priority", .int 2), ("name", .text "OWNER")])]),
        ("Size", .record [("print", .record [("index", .int (-1))])]),
        ("Place", .record [("print", .record [("index", .int 0)])])]),
      ("print", .record [("order_by", .text "index"), ("add_age_column", .bool false)])]

def galleryRequest : Request where
  model :=
    { shapes :=
        [{ name := "CreateInput", members := [⟨"Title", .string, true⟩, ⟨"Note", .string, false⟩,
            ⟨"Owner", .string, false⟩, ⟨"Size", .primitive .integer, false⟩,
            ⟨"Place", .string, false⟩] }]
      operations := [{ name := "CreateGallery", input := some 0, kind := .create }] }
  resource := "Gallery"
  directives :=
    { fields :=
        [("Title", { print := some { index := some 1000000000000000000000 } }),
          ("Owner", { print := some { name := some "OWNER", priority := 2 } }),
          ("Size", { print := some { index := some (-1) } }),
          ("Place", { print := some { index := some 0 } })]
      listing := { order := .index, addAgeColumn := false } }

theorem listing_arranged_galleryRequest :
    galleryRequest.directives.Validated ∧ ∃ s, galleryRequest.resolve = .ok s ∧
      (s.fields.map ResolvedField.position).Nodup ∧
      s.headers true = ["NAME", "Size", "OWNER", "Place", "Title"] ∧
      s.headers false = ["NAME", "Size", "Place", "Title"] ∧
      (∃ shown, Column.Arrangement .index s.fields shown s.columns) ∧
      Column.ofFields s.fields.reverse .index = s.columns := by
  have read : ResourceDirectives.ofDocument galleryDocument =
      Checked.accepted galleryRequest.directives := by decide +kernel
  have accepted : galleryRequest.findings.errors = [] := by cbv
  have columns : Column.ofFields galleryRequest.findings.fields .index =
      [⟨"Size", "Size", "integer", 0⟩, ⟨"Owner", "OWNER", "string", 2⟩,
        ⟨"Place", "Place", "string", 0⟩, ⟨"Title", "Title", "string", 0⟩] := by cbv
  obtain ⟨s, hs⟩ := galleryRequest.resolve_isOk_iff.2 accepted
  have places := nodup_position_fields hs
  obtain ⟨arranged, same⟩ := listing_arranged.1 s.fields .index places
  obtain ⟨given, -, wide, standard⟩ := listing_arranged.2 galleryRequest s (Or.inl ⟨_, read⟩) hs
  have shown : s.columns = _ := given.trans ((fields_eq_findings hs).symm ▸ columns)
  refine ⟨Or.inl ⟨_, read⟩, s, hs, places, ?_, ?_, ?_, ?_⟩
  · rw [wide, shown]
    rfl
  · rw [standard, shown]
    rfl
  · rw [given]
    exact arranged
  · rw [given]
    exact same _ (List.reverse_perm _)

end Request

end FieldResolution
