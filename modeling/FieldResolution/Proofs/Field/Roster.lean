import FieldResolution.Field.Roster
import Mathlib.Data.List.Induction
import Mathlib.Data.List.Nodup

/-!
# The roster as a grouping of the walk

`group` takes the names of a list in the order of their first appearance and puts under each the
entries of that name, in order (`group_eq`).  The roster is that grouping of the walk, followed by
the names that only the overrides know (`names_ofModel`, `occurrences_ofModel`, `groups_ofModel`).
If no key of the overrides repeats, no name of the roster does (`nodup_names_ofModel`).
-/

namespace FieldResolution

theorem nodup_eraseDups : (names : List String) → names.eraseDups.Nodup
  | [] => List.nodup_nil
  | a :: rest => by
    rw [List.eraseDups_cons]
    refine List.nodup_cons.2 ⟨fun h => ?_, nodup_eraseDups _⟩
    have := (List.mem_filter.1 (List.mem_eraseDups.1 h)).2
    simp at this
termination_by names => names.length
decreasing_by
  have := List.length_filter_le (fun b => !b == a) rest
  rw [List.length_cons]
  omega

/-- A look-up among entries that are computed from their keys. -/
theorem lookup_keyed {α : Type} (names : List String) (f : String → α) (name : String) :
    (names.map fun n => (n, f n)).lookup name = if name ∈ names then some (f name) else none := by
  induction names with
  | nil => rfl
  | cons n rest ih =>
    rw [List.map_cons, List.lookup_cons]
    by_cases h : name = n
    · simp [h]
    · rw [beq_false_of_ne h, ih]
      simp [h]

/-- Each key of the overrides stands once, as in a mapping. -/
def Overrides.Keyed (o : Overrides) : Prop := (o.map Prod.fst).Nodup

instance : DecidablePred Overrides.Keyed := fun _ => inferInstanceAs (Decidable (List.Nodup _))

@[simp] theorem FieldDirectives.isOn_eq_true_iff (d : FieldDirectives) (w : Switch) :
    d.isOn w = true ↔ d.switch w = some true := by
  simp [FieldDirectives.isOn]

namespace Roster

theorem isSelfTyped_iff {d : FieldDirectives} :
    isSelfTyped d = true ↔ d.redirect.isSome = true ∨ d.isAttribute = some true := by
  simp [isSelfTyped, FieldDirectives.switch]

/-! ## Grouping -/

/-- The occurrences under one name, in order. -/
def under (entries : List (String × Occurrence)) (name : String) : List Occurrence :=
  (entries.filter fun e => e.1 == name).map Prod.snd

theorem under_eq_nil_iff {entries : List (String × Occurrence)} {name : String} :
    under entries name = [] ↔ name ∉ entries.map Prod.fst := by
  simp only [under, List.map_eq_nil_iff, List.filter_eq_nil_iff, beq_iff_eq, List.mem_map,
    not_exists, not_and]

theorem under_append_singleton (entries : List (String × Occurrence)) (e : String × Occurrence)
    (name : String) :
    under (entries ++ [e]) name =
      if e.1 = name then under entries name ++ [e.2] else under entries name := by
  unfold under
  by_cases h : e.1 = name
  · rw [if_pos h, List.filter_append, List.map_append]
    simp [h]
  · rw [if_neg h, List.filter_append, List.map_append]
    simp [h]

/-- An occurrence goes to the end of the group of its name. -/
theorem addTo_of_mem {names : List String} (hn : names.Nodup) {f : String → List Occurrence}
    {e : String × Occurrence} (he : e.1 ∈ names) :
    addTo (names.map fun n => (n, f n)) e =
      names.map fun n => (n, if e.1 = n then f n ++ [e.2] else f n) := by
  induction names with
  | nil => simp at he
  | cons n rest ih =>
    rw [List.nodup_cons] at hn
    simp only [List.map_cons, addTo]
    by_cases h : n = e.1
    · have others : ∀ k ∈ rest, e.1 ≠ k := fun k hk heq => hn.1 (h ▸ heq ▸ hk)
      rw [if_pos h, if_pos h.symm]
      refine congrArg _ (List.map_congr_left fun k hk => ?_)
      rw [if_neg (others k hk)]
    · rw [if_neg h, if_neg (Ne.symm h), ih hn.2 (List.mem_of_ne_of_mem (Ne.symm h) he)]

/-- An occurrence of a new name opens a group at the end. -/
theorem addTo_of_not_mem {groups : List (String × List Occurrence)} {e : String × Occurrence}
    (he : e.1 ∉ groups.map Prod.fst) : addTo groups e = groups ++ [(e.1, [e.2])] := by
  induction groups with
  | nil => rfl
  | cons g rest ih =>
    rw [List.map_cons, List.mem_cons, not_or] at he
    rw [addTo, if_neg (Ne.symm he.1), ih he.2, List.cons_append]

/-- Grouping puts under each name, in the order of first appearance, what stands under it. -/
theorem group_eq (entries : List (String × Occurrence)) :
    group entries = (entries.map Prod.fst).eraseDups.map fun n => (n, under entries n) := by
  -- the last entry is the one that is added last
  induction entries using List.reverseRecOn with
  | nil => rfl
  | append_singleton entries e ih =>
    have step : group (entries ++ [e]) = addTo (group entries) e := by
      rw [group, List.foldl_append]
      rfl
    rw [step, ih, List.map_append, List.eraseDups_append]
    by_cases he : e.1 ∈ entries.map Prod.fst
    · have none_new : [e.1].removeAll (entries.map Prod.fst) = [] := by
        simpa [List.removeAll] using he
      rw [addTo_of_mem (nodup_eraseDups _) (List.mem_eraseDups.2 he), List.map_cons, List.map_nil,
        none_new, List.eraseDups_nil, List.append_nil]
      refine List.map_congr_left fun n _ => ?_
      rw [under_append_singleton]
    · have one_new : [e.1].removeAll (entries.map Prod.fst) = [e.1] := by
        simpa [List.removeAll] using he
      have fresh : e.1 ∉ ((entries.map Prod.fst).eraseDups.map fun n =>
          (n, under entries n)).map Prod.fst := by
        simpa [List.map_map, Function.comp_def] using he
      rw [addTo_of_not_mem fresh, List.map_cons, List.map_nil, one_new, List.map_append]
      refine congrArg₂ (· ++ ·) (List.map_congr_left fun n hn => ?_) ?_
      · have hne : e.1 ≠ n := fun heq => he (List.mem_eraseDups.1 (heq ▸ hn))
        rw [under_append_singleton, if_neg hne]
      · have hnil : under entries e.1 = [] := under_eq_nil_iff.2 he
        simp [List.eraseDups_cons, under_append_singleton, hnil]

theorem lookup_bare (o : Overrides) (name : String) :
    ((o.map fun e => (e.1, ([] : List Occurrence))).lookup name).getD [] = [] := by
  induction o with
  | nil => rfl
  | cons e rest ih =>
    rw [List.map_cons, List.lookup_cons]
    cases name == e.1 with
    | true => rfl
    | false => exact ih

/-! ## The fields of a model -/

variable (m : Model) (o : Overrides)

/-- The walk that the overrides ask for. -/
def walk : List (String × Occurrence) := m.walk ((flattening o).map Prod.fst)

/-- The names that appear in the walk, in the order of their first appearance. -/
def walkNames : List String := ((walk m o).map Prod.fst).eraseDups

/-- The overrides of names that do not appear in the walk. -/
def strangers : Overrides := o.filter fun e => !((walk m o).map Prod.fst).contains e.1

theorem keys_group (entries : List (String × Occurrence)) :
    (group entries).map Prod.fst = (entries.map Prod.fst).eraseDups := by
  rw [group_eq, List.map_map]
  exact List.map_id _

theorem contains_keys_group (entries : List (String × Occurrence)) (name : String) :
    ((group entries).map Prod.fst).contains name = (entries.map Prod.fst).contains name := by
  rw [keys_group, Bool.eq_iff_iff]
  simp

/-- The roster is the grouped walk with the overrides that can be typed on their own. -/
theorem groups_ofModel :
    (ofModel m o).groups =
      group (walk m o) ++ ((strangers m o).filter fun e => isSelfTyped e.2).map fun e =>
        (e.1, []) := by
  simp only [ofModel, contains_keys_group]
  rfl

theorem unknown_ofModel :
    (ofModel m o).unknown =
      ((strangers m o).filter fun e => !isSelfTyped e.2).map Prod.fst := by
  simp only [ofModel, contains_keys_group]
  rfl

theorem names_ofModel :
    (ofModel m o).names =
      walkNames m o ++ ((strangers m o).filter fun e => isSelfTyped e.2).map Prod.fst := by
  rw [names, groups_ofModel, List.map_append, keys_group, List.map_map]
  rfl

theorem mem_strangers {e : String × FieldDirectives} :
    e ∈ strangers m o ↔ e ∈ o ∧ e.1 ∉ (walk m o).map Prod.fst := by
  simp [strangers]

theorem occurrences_ofModel (name : String) :
    (ofModel m o).occurrences name = under (walk m o) name := by
  rw [occurrences, groups_ofModel, List.lookup_append, group_eq, lookup_keyed]
  by_cases h : name ∈ (walk m o).map Prod.fst
  · rw [if_pos (List.mem_eraseDups.2 h)]
    rfl
  · rw [if_neg (mt List.mem_eraseDups.1 h), under_eq_nil_iff.2 h]
    exact lookup_bare _ _

theorem occurrences_eq_nil_iff {name : String} :
    (ofModel m o).occurrences name = [] ↔ name ∉ (walk m o).map Prod.fst := by
  rw [occurrences_ofModel, under_eq_nil_iff]

/-- Every group of the roster holds the occurrences of its name. -/
theorem groups_eq_map_names :
    (ofModel m o).groups =
      (ofModel m o).names.map fun n => (n, (ofModel m o).occurrences n) := by
  rw [names_ofModel, groups_ofModel, List.map_append, List.map_map, group_eq]
  refine congrArg₂ (· ++ ·) (List.map_congr_left fun n _ => ?_) (List.map_congr_left fun e he => ?_)
  · rw [occurrences_ofModel]
  · have fresh : e.1 ∉ (walk m o).map Prod.fst :=
      ((mem_strangers m o).1 (List.mem_filter.1 he).1).2
    rw [Function.comp_apply, (occurrences_eq_nil_iff m o).2 fresh]

theorem nodup_names_ofModel (h : o.Keyed) : (ofModel m o).names.Nodup := by
  have extras : (((strangers m o).filter fun e => isSelfTyped e.2).map Prod.fst).Nodup :=
    h.sublist ((List.filter_sublist.trans List.filter_sublist).map Prod.fst)
  rw [names_ofModel]
  refine (nodup_eraseDups _).append extras fun n hwalk hextra => ?_
  obtain ⟨e, he, rfl⟩ := List.mem_map.1 hextra
  exact ((mem_strangers m o).1 (List.mem_filter.1 he).1).2 (List.mem_eraseDups.1 hwalk)

end Roster

end FieldResolution
