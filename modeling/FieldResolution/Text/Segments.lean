/-!
# Dotted texts

`segments` cuts a text at its dots and `dotted` puts dots between texts.  Cutting loses nothing
(`dotted_segments`).  The empty text has one segment, the empty one.  A text without a dot is its
own only segment, and whatever stands behind a dot is cut apart from it (`segments_of_not_mem`,
`segments_append_dot`).
-/

namespace FieldResolution

namespace Text

/-- The parts of a text between its dots. -/
def segmentChars : List Char → List (List Char)
  | [] => [[]]
  | c :: rest =>
    if c = '.' then [] :: segmentChars rest
    else
      match segmentChars rest with
      | [] => [[c]]
      | part :: parts => (c :: part) :: parts

/-- Parts joined by dots. -/
def dottedChars : List (List Char) → List Char
  | [] => []
  | [part] => part
  | part :: parts => part ++ '.' :: dottedChars parts

theorem segmentChars_ne_nil (s : List Char) : segmentChars s ≠ [] := by
  cases s with
  | nil => simp [segmentChars]
  | cons c rest =>
    simp only [segmentChars]
    split
    · simp
    · split <;> simp

theorem dottedChars_segmentChars (s : List Char) : dottedChars (segmentChars s) = s := by
  induction s with
  | nil => rfl
  | cons c rest ih =>
    simp only [segmentChars]
    split
    · rename_i h
      cases hs : segmentChars rest with
      | nil => exact absurd hs (segmentChars_ne_nil rest)
      | cons part parts => rw [hs] at ih; simp [dottedChars, ih, h]
    · cases hs : segmentChars rest with
      | nil => exact absurd hs (segmentChars_ne_nil rest)
      | cons part parts =>
        rw [hs] at ih
        cases parts with
        | nil => simpa [dottedChars] using ih
        | cons p ps => simpa [dottedChars] using ih

theorem segmentChars_of_not_mem {s : List Char} (h : '.' ∉ s) : segmentChars s = [s] := by
  induction s with
  | nil => rfl
  | cons c rest ih =>
    rw [List.mem_cons, not_or] at h
    rw [segmentChars, if_neg (Ne.symm h.1), ih h.2]

theorem segmentChars_append_dot {s : List Char} (h : '.' ∉ s) (t : List Char) :
    segmentChars (s ++ '.' :: t) = s :: segmentChars t := by
  induction s with
  | nil => rw [List.nil_append, segmentChars, if_pos rfl]
  | cons c rest ih =>
    rw [List.mem_cons, not_or] at h
    rw [List.cons_append, segmentChars, if_neg (Ne.symm h.1), ih h.2]

/-- The parts of a text between its dots. -/
def segments (s : String) : List String := (segmentChars s.toList).map String.ofList

/-- Texts joined by dots. -/
def dotted (parts : List String) : String := String.ofList (dottedChars (parts.map String.toList))

theorem segments_of_not_mem {s : String} (h : '.' ∉ s.toList) : segments s = [s] := by
  rw [segments, segmentChars_of_not_mem h, List.map_cons, List.map_nil, String.ofList_toList]

theorem segments_append_dot {s : String} (h : '.' ∉ s.toList) (t : String) :
    segments (s ++ "." ++ t) = s :: segments t := by
  have cut : (s ++ "." ++ t).toList = s.toList ++ '.' :: t.toList := by
    simp [String.toList_append]
  rw [segments, cut, segmentChars_append_dot h, List.map_cons, String.ofList_toList]
  rfl

theorem dotted_segments (s : String) : dotted (segments s) = s := by
  simp [dotted, segments, List.map_map, dottedChars_segmentChars]

end Text

end FieldResolution
