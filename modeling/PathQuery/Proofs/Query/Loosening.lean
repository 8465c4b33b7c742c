import PathQuery.Load.Document
import PathQuery.Proofs.Text.Outcome
import PathQuery.Proofs.Query.Widening

set_option autoImplicit false

namespace PathQuery

open PathQuery.Regex PathQuery.Unicode

/-- A question mark takes the place of one character of the glob, or a star that of a stretch of
them, which may be empty. -/
inductive Loosened : (glob stretch : List Char) → (mark : Char) → (loosened : List Char) → Prop where
  | any (before : List Char) (c : Char) (after : List Char) :
      Loosened (before ++ [c] ++ after) [c] '?' (before ++ ['?'] ++ after)
  | run (before stretch after : List Char) :
      Loosened (before ++ stretch ++ after) stretch '*' (before ++ ['*'] ++ after)

variable {ignoreCase : Bool} {glob stretch loosened name : List Char} {mark c d : Char}

theorem SameChar.refl (ignoreCase : Bool) (c : Char) : SameChar ignoreCase c c := by
  cases ignoreCase with
  | false => rfl
  | true => exact mem_orbit c

theorem SameChar.eq_of_line_feed (same : SameChar ignoreCase c '\n') : c = '\n' := by
  cases ignoreCase with
  | false => exact same
  | true =>
    have alone : orbit '\n' = ['\n'] := by decide
    have member : c ∈ orbit '\n' := same
    simpa [alone] using member

namespace GlobMatches

theorem nil_iff : GlobMatches ignoreCase [] name ↔ name = [] := by
  constructor
  · intro matched
    cases matched
    rfl
  · rintro rfl
    exact .nil

theorem append_iff {front back : List Char} :
    GlobMatches ignoreCase (front ++ back) name ↔
      ∃ first later, name = first ++ later ∧
        GlobMatches ignoreCase front first ∧ GlobMatches ignoreCase back later := by
  induction front generalizing name with
  | nil => simp [nil_iff]
  | cons c front ih =>
    rw [List.cons_append, globMatches_cons_iff]
    constructor
    · rintro ⟨part, rest, rfl, here, matched⟩
      obtain ⟨first, later, rfl, ahead, behind⟩ := ih.mp matched
      refine ⟨part ++ first, later, (List.append_assoc ..).symm, ?_, behind⟩
      exact globMatches_cons_iff.mpr ⟨part, first, rfl, here, ahead⟩
    · rintro ⟨_, later, rfl, matched, behind⟩
      obtain ⟨part, first, rfl, here, ahead⟩ := globMatches_cons_iff.mp matched
      refine ⟨part, first ++ later, List.append_assoc .., here, ?_⟩
      exact ih.mpr ⟨first, later, rfl, ahead, behind⟩

theorem replace_middle {before part part' after : List Char}
    (wider : ∀ name, GlobMatches ignoreCase part name → GlobMatches ignoreCase part' name)
    (matched : GlobMatches ignoreCase (before ++ part ++ after) name) :
    GlobMatches ignoreCase (before ++ part' ++ after) name := by
  obtain ⟨_, behind, rfl, ahead, later⟩ := append_iff.mp matched
  obtain ⟨first, middle, rfl, ahead, here⟩ := append_iff.mp ahead
  refine append_iff.mpr ⟨_, behind, rfl, ?_, later⟩
  exact append_iff.mpr ⟨first, middle, rfl, ahead, wider middle here⟩

theorem singleton_iff : GlobMatches ignoreCase [c] name ↔ GlobPart ignoreCase c name := by
  simp [globMatches_cons_iff, nil_iff]

theorem count_le (matched : GlobMatches ignoreCase glob name) :
    name.count '\n' ≤ glob.count '\n' := by
  induction matched with
  | nil => exact Nat.le_refl 0
  | run line _ ih => simpa [List.count_eq_zero.mpr line] using ih
  | any line _ ih => simpa [List.count_cons, line] using ih
  | @same glob name c d plain same _ ih =>
    by_cases feed : d = '\n'
    · subst feed
      obtain rfl := same.eq_of_line_feed
      simpa using ih
    · rw [List.count_cons_of_ne feed]
      exact ih.trans List.count_le_count_cons

theorem countP_le (matched : GlobMatches ignoreCase glob name) :
    glob.countP (· ≠ '*') ≤ name.length := by
  induction matched with
  | nil => exact Nat.le_refl 0
  | run _ _ ih =>
    rw [List.countP_cons_of_neg (by decide), List.length_append]
    omega
  | any _ _ ih => simpa using ih
  | same plain _ _ ih => simpa [plain.1] using ih

theorem self_filter (ignoreCase : Bool) (glob : List Char) :
    GlobMatches ignoreCase glob (glob.filter (· ≠ '*')) := by
  induction glob with
  | nil => exact .nil
  | cons c glob ih =>
    by_cases run : c = '*'
    · subst run
      simpa using GlobMatches.run (List.not_mem_nil) ih
    by_cases any : c = '?'
    · subst any
      simpa using GlobMatches.any (by decide) ih
    · simpa [run] using GlobMatches.same ⟨run, any⟩ (.refl ignoreCase c) ih

end GlobMatches

theorem Loosened.keeps (change : Loosened glob stretch mark loosened)
    (line : '\n' ∉ stretch) (widens : mark = '?' → '*' ∉ stretch)
    (matched : GlobMatches ignoreCase glob name) : GlobMatches ignoreCase loosened name := by
  have inLine {part : List Char} (here : GlobMatches ignoreCase stretch part) : '\n' ∉ part := by
    rw [← List.count_eq_zero] at line ⊢
    have counts := here.count_le
    omega
  cases change with
  | any before c after =>
    refine matched.replace_middle fun part here => ?_
    have lineOfPart := inLine here
    rcases GlobMatches.singleton_iff.mp here with ⟨rfl, _⟩ | ⟨d, rfl, _⟩
    · simp at widens
    · have lineOfChar : d ≠ '\n' := by simpa [eq_comm] using lineOfPart
      exact GlobMatches.singleton_iff.mpr (.inr ⟨d, rfl, .inl ⟨rfl, lineOfChar⟩⟩)
  | run before _ after =>
    refine matched.replace_middle fun part here => ?_
    exact GlobMatches.singleton_iff.mpr (.inl ⟨rfl, inLine here⟩)

theorem Loosened.count_line_feed (change : Loosened glob stretch mark loosened) :
    loosened.count '\n' + stretch.count '\n' = glob.count '\n' := by
  cases change with
  | any before c after =>
    have wild : ['?'].count '\n' = 0 := by decide
    simp only [List.count_append, wild]
    omega
  | run before _ after =>
    have wild : ['*'].count '\n' = 0 := by decide
    simp only [List.count_append, wild]
    omega

theorem Loosened.keeps_self_filter (change : Loosened glob stretch mark loosened)
    (kept : GlobMatches ignoreCase loosened (glob.filter (· ≠ '*'))) :
    '\n' ∉ stretch ∧ (mark = '?' → '*' ∉ stretch) := by
  constructor
  -- The name in which every star stands for nothing has the line feeds of the glob, and one
  -- character for each of its others.
  · have feeds := kept.count_le
    rw [List.count_filter (by decide), ← change.count_line_feed] at feeds
    rw [← List.count_eq_zero]
    omega
  · have size := kept.countP_le
    rw [← List.countP_eq_length_filter] at size
    cases change with
    | any before c after =>
      rintro - star
      obtain rfl := List.mem_singleton.mp star
      simp [List.countP_append] at size
    | run before _ after =>
      intro mark
      exact absurd mark (by decide)

theorem Loosened.keeps_iff (ignoreCase : Bool) (change : Loosened glob stretch mark loosened) :
    (∀ name, GlobMatches ignoreCase glob name → GlobMatches ignoreCase loosened name) ↔
      '\n' ∉ stretch ∧ (mark = '?' → '*' ∉ stretch) :=
  ⟨fun keeps => change.keeps_self_filter (keeps _ (.self_filter ignoreCase glob)),
    fun ⟨line, widens⟩ _ matched => change.keeps line widens matched⟩

theorem Loosened.directive?_eq_some {s : Step NamePattern}
    (change : Loosened glob stretch mark loosened) (found : directive? loosened = some s) :
    s = .childOf ∨ s = .descendantOf := by
  have wild : '?' ∈ loosened ∨ '*' ∈ loosened := by
    cases change with
    | any => exact .inl (by simp)
    | run => exact .inr (by simp)
  unfold directive? at found
  split at found <;> simp_all

/-- Loosening a glob keeps every name that the glob accepts where it yields a directive, and else
exactly where it replaces no line feed and no star by a question mark. Only its size can have the
loosened glob refused. -/
theorem NamePattern.loosened_keeps_names_iff {p : NamePattern}
    (change : Loosened glob stretch mark loosened)
    (compiled : compile .glob ignoreCase glob = .ok p) :
    (∃ s, directive? loosened = some s ∧ ∀ name, Step.judge accepts [name] [s] = .ok true) ∨
      directive? loosened = none ∧
        compile .glob ignoreCase loosened =
          (if (ofGlob ignoreCase loosened).pattern.size ≤ sizeLimit then
            .ok (ofGlob ignoreCase loosened)
          else .error .tooBig) ∧
        ((∀ name, p.accepts name = true → (ofGlob ignoreCase loosened).accepts name = true) ↔
          '\n' ∉ stretch ∧ (mark = '?' → '*' ∉ stretch)) := by
  cases found : directive? loosened with
  | some s =>
    refine .inl ⟨s, rfl, fun name => ?_⟩
    rcases change.directive?_eq_some found with rfl | rfl <;> rfl
  | none =>
    refine .inr ⟨rfl, byCharacter_glob ignoreCase loosened, ?_⟩
    simp only [accepts_ofGlob_iff, accepts_of_compile_glob compiled, ← change.keeps_iff ignoreCase]
    constructor
    · intro keeps name
      simpa using keeps (String.ofList name)
    · exact fun keeps name => keeps name.toList

theorem NamePattern.loosened_keeps_names_iff_behind_line_feed :
    ∃ p p', compile .glob true ['x', '\n', 'y', '[', '1', ']'] = .ok p ∧
      compile .glob true ['x', '\n', '*', ']'] = .ok p' ∧
      ∀ name, p.accepts name = true → p'.accepts name = true := by
  have change : Loosened ['x', '\n', 'y', '[', '1', ']'] ['y', '[', '1'] '*' ['x', '\n', '*', ']'] :=
    .run ['x', '\n'] ['y', '[', '1'] [']']
  obtain ⟨p, compiled⟩ : ∃ p, compile .glob true ['x', '\n', 'y', '[', '1', ']'] = .ok p :=
    exists_eq_ok (by cbv)
  obtain ⟨p', compiled'⟩ : ∃ p', compile .glob true ['x', '\n', '*', ']'] = .ok p' :=
    exists_eq_ok (by cbv)
  rcases loosened_keeps_names_iff change compiled with ⟨s, found, _⟩ | ⟨_, sized, keeps⟩
  · simp [directive?] at found
  · rw [compiled'] at sized
    split_ifs at sized
    obtain rfl := Except.ok.inj sized
    exact ⟨p, _, compiled, compiled', keeps.mpr ⟨by decide, by decide⟩⟩

/-- The key of a document spans two lines. The glob that spells it out accepts it, and the one with a
question mark for its line feed does not, whether case is heeded or not. -/
theorem NamePattern.compile_any_for_line_feed :
    Loosened "a\nb".toList ['\n'] '?' "a?b".toList ∧
      (∃ t, Tree.ofJson "\x7b\"a\\nb\": null\x7d" = .ok t ∧ t.segments 1 = ["a\nb"]) ∧
      ∀ ignoreCase,
        (compile .glob ignoreCase "a\nb".toList).map (·.accepts "a\nb") = .ok true ∧
          (compile .glob ignoreCase "a?b".toList).map (·.accepts "a\nb") = .ok false := by
  refine ⟨.any ['a'] '\n' ['b'], ⟨⟨#[⟨"", none, [1]⟩, ⟨"a\nb", some 0, []⟩]⟩, ?_, ?_⟩, ?_⟩
  · cbv
  · cbv
  · rintro (_ | _) <;> constructor <;> cbv

end PathQuery
