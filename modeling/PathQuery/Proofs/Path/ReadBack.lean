import PathQuery.Path

set_option autoImplicit false

namespace PathQuery

namespace Text

theorem split_cons_of_ne {separator c : Char} (other : c ≠ separator) (cs : List Char) :
    ∃ part parts, split separator cs = part :: parts ∧
      split separator (c :: cs) = (c :: part) :: parts := by
  obtain ⟨part, parts, front⟩ := List.exists_cons_of_ne_nil (split_ne_nil separator cs)
  exact ⟨part, parts, front, by simp [split, other, front]⟩

theorem split_eq_splitOn (separator : Char) (s : List Char) :
    split separator s = List.splitOn separator s := by
  induction s with
  | nil => simp [split]
  | cons c cs ih =>
    rw [List.splitOn_cons_eq_if_modifyHead, ← ih]
    by_cases cut : c = separator
    · simp [split, cut]
    · obtain ⟨part, parts, front, longer⟩ := split_cons_of_ne cut cs
      simp [longer, front, cut]

theorem not_mem_of_mem_split {separator : Char} {s part : List Char}
    (member : part ∈ split separator s) : separator ∉ part := by
  induction s generalizing part with
  | nil =>
    obtain rfl : part = [] := List.mem_singleton.mp member
    exact List.not_mem_nil
  | cons c cs ih =>
    by_cases cut : c = separator
    · rw [split, if_pos cut] at member
      rcases List.mem_cons.mp member with rfl | later
      · exact List.not_mem_nil
      · exact ih later
    · obtain ⟨first, parts, front, longer⟩ := split_cons_of_ne cut cs
      rw [longer] at member
      rcases List.mem_cons.mp member with rfl | later
      · have clean : separator ∉ first := ih (front ▸ List.mem_cons_self)
        simpa [Ne.symm cut] using clean
      · exact ih (front ▸ List.mem_cons_of_mem _ later)

theorem split_of_not_mem {separator : Char} {s : List Char} (whole : separator ∉ s) :
    split separator s = [s] := by
  induction s with
  | nil => rfl
  | cons c cs ih =>
    obtain ⟨other, whole⟩ : separator ≠ c ∧ separator ∉ cs := by simpa using whole
    simp [split, Ne.symm other, ih whole]

theorem split_append_cons (separator : Char) (s t : List Char) :
    split separator (s ++ separator :: t) = split separator s ++ split separator t := by
  induction s with
  | nil => simp [split]
  | cons c cs ih =>
    by_cases cut : c = separator
    · simp [split, cut, ih]
    · obtain ⟨part, parts, front, longer⟩ := split_cons_of_ne cut cs
      simp [split, cut, ih, front]

theorem intercalate_append_cons (separator : Char) (before : List (List Char)) (part : List Char)
    (after : List (List Char)) :
    [separator].intercalate (before ++ part :: after) =
      before.flatMap (· ++ [separator]) ++ part ++ after.flatMap (separator :: ·) := by
  induction before with
  | nil =>
    induction after generalizing part with
    | nil => simp
    | cons next after ih => simpa [List.intercalate_cons_cons] using ih next
  | cons first before ih =>
    obtain ⟨next, rest, same⟩ : ∃ next rest, before ++ part :: after = next :: rest :=
      List.exists_cons_of_ne_nil (by simp)
    rw [same] at ih
    simp [same, List.intercalate_cons_cons, ih]

theorem eq_of_split {separator : Char} {s part : List Char} {before after : List (List Char)}
    (parts : split separator s = before ++ part :: after) :
    s = before.flatMap (· ++ [separator]) ++ part ++ after.flatMap (separator :: ·) := by
  rw [← intercalate_append_cons, ← parts, split_eq_splitOn, List.intercalate_splitOn]

theorem length_le_of_mem_split {separator : Char} {s part : List Char}
    (member : part ∈ split separator s) : part.length ≤ s.length := by
  obtain ⟨before, after, parts⟩ := List.append_of_mem member
  rw [eq_of_split parts, List.length_append, List.length_append]
  omega

end Text

theorem slash_not_mem_of_mem_pathNames {path name : String} (member : name ∈ pathNames path) :
    '/' ∉ name.toList := by
  obtain ⟨part, inside, rfl⟩ := List.mem_map.mp (List.mem_filter.mp member).1
  rw [String.toList_ofList]
  exact Text.not_mem_of_mem_split inside

theorem pathNames_pathText {names : List String} (plain : ∀ name ∈ names, '/' ∉ name.toList) :
    pathNames (pathText names) = filledNames names := by
  have text : (pathText names).toList = '/' :: ['/'].intercalate (names.map String.toList) := by
    simp [pathText]
  have front (cs : List Char) : Text.split '/' ('/' :: cs) = [] :: Text.split '/' cs := by
    simp [Text.split]
  rw [pathNames, text, front, Text.split_eq_splitOn]
  rcases names with _ | ⟨first, rest⟩
  · simp [filledNames]
  · have clean : ∀ part ∈ (first :: rest).map String.toList, '/' ∉ part := by
      simpa using plain
    rw [List.splitOn_intercalate '/' clean (by simp)]
    simp [filledNames, List.map_map, Function.comp_def]

/-- Names can be read back from the text of their path if they have no slash, and only then. -/
theorem pathNames_pathText_eq_iff {names : List String} (filled : ∀ name ∈ names, name ≠ "") :
    pathNames (pathText names) = names ↔ ∀ name ∈ names, '/' ∉ name.toList := by
  constructor
  · intro same name member
    exact slash_not_mem_of_mem_pathNames (same ▸ member)
  · intro plain
    rw [pathNames_pathText plain]
    exact List.filter_eq_self.mpr (by simpa using filled)

end PathQuery
