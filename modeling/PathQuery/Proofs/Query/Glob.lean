import PathQuery.Proofs.Query.Characters

set_option autoImplicit false

namespace PathQuery

open PathQuery.Regex PathQuery.Unicode

/-- A star stands for any run of characters and a question mark for any one of them, both of them
within a line. Every other character stands for itself. -/
inductive GlobMatches (ignoreCase : Bool) : (glob name : List Char) → Prop where
  | nil : GlobMatches ignoreCase [] []
  | run {glob run name : List Char} (line : '\n' ∉ run) (rest : GlobMatches ignoreCase glob name) :
      GlobMatches ignoreCase ('*' :: glob) (run ++ name)
  | any {glob name : List Char} {d : Char} (line : d ≠ '\n')
      (rest : GlobMatches ignoreCase glob name) : GlobMatches ignoreCase ('?' :: glob) (d :: name)
  | same {glob name : List Char} {c d : Char} (plain : c ≠ '*' ∧ c ≠ '?')
      (same : SameChar ignoreCase c d) (rest : GlobMatches ignoreCase glob name) :
      GlobMatches ignoreCase (c :: glob) (d :: name)

def lineChars : CharClass := .compl (.single '\n')

theorem contains_lineChars (c : Char) : lineChars.contains c = true ↔ c ≠ '\n' := by
  rw [← not_iff_not, not_not, ← CharClass.contains_single]
  simp [lineChars, CharClass.contains]

def globAst : Char → Ast
  | '*' => .repetition 0 none .dot
  | '?' => .dot
  | c => .literal ⟨c, false⟩

def globPattern (ignoreCase : Bool) : Char → Pattern
  | '*' => .rep 0 none (.chars lineChars)
  | '?' => .chars lineChars
  | c => .chars ((Flags.default ignoreCase).fold (.single c))

theorem readsAs_translateGlobChar (c : Char) :
    ReadsAs (Dialect.translateGlobChar c) [globAst c] := by
  by_cases run : c = '*'
  · subst run
    exact .anyRun
  by_cases any : c = '?'
  · subst any
    exact .dot
  · rw [Dialect.translateGlobChar, globAst]
    · exact .escapeChar c
    all_goals assumption

theorem depth_globAst_le (c : Char) : (globAst c).depth ≤ 1 := by
  unfold globAst
  split <;> simp [Ast.depth]

theorem denote_globAst (ignoreCase : Bool) (c : Char) :
    (globAst c).denote (.default ignoreCase) =
      .ok (globPattern ignoreCase c, .default ignoreCase) := by
  unfold globAst globPattern
  split
  · rfl
  · rfl
  · rw [← charPattern_default]
    rfl

def GlobPart (ignoreCase : Bool) (c : Char) (part : List Char) : Prop :=
  c = '*' ∧ '\n' ∉ part ∨
    ∃ d, part = [d] ∧ (c = '?' ∧ d ≠ '\n' ∨ (c ≠ '*' ∧ c ≠ '?') ∧ SameChar ignoreCase c d)

theorem globMatches_cons_iff {ignoreCase : Bool} {c : Char} {glob name : List Char} :
    GlobMatches ignoreCase (c :: glob) name ↔
      ∃ part rest, name = part ++ rest ∧ GlobPart ignoreCase c part ∧
        GlobMatches ignoreCase glob rest := by
  constructor
  · intro matched
    cases matched with
    | run line rest => exact ⟨_, _, rfl, .inl ⟨rfl, line⟩, rest⟩
    | any line rest => exact ⟨[_], _, rfl, .inr ⟨_, rfl, .inl ⟨rfl, line⟩⟩, rest⟩
    | same plain same rest => exact ⟨[_], _, rfl, .inr ⟨_, rfl, .inr ⟨plain, same⟩⟩, rest⟩
  · rintro ⟨part, rest, rfl, ⟨rfl, line⟩ | ⟨d, rfl, ⟨rfl, line⟩ | ⟨plain, same⟩⟩, matched⟩
    · exact .run line matched
    · exact .any line matched
    · exact .same plain same matched

theorem spans_globPattern_iff (ignoreCase : Bool) (c : Char) {text : List Char} {i j : Nat} :
    (globPattern ignoreCase c).Spans text i j ↔
      ∃ part, text.drop i = part ++ text.drop j ∧ j = i + part.length ∧
        GlobPart ignoreCase c part := by
  unfold globPattern
  split
  · have line (run : List Char) : (∀ d ∈ run, lineChars.contains d = true) ↔ '\n' ∉ run := by
      simp only [contains_lineChars]
      exact ⟨fun each member => each _ member rfl, fun line d member same => line (same ▸ member)⟩
    simp [Pattern.spans_run_iff, line, GlobPart]
  · simp [Pattern.spans_chars_iff, contains_lineChars, GlobPart]
  · rename_i run any
    simp only [Pattern.spans_chars_iff, contains_fold_single]
    constructor
    · rintro ⟨d, ahead, rfl, same⟩
      exact ⟨[d], ahead, rfl, .inr ⟨d, rfl, .inr ⟨⟨run, any⟩, same⟩⟩⟩
    · rintro ⟨_, ahead, rfl, ⟨star, _⟩ | ⟨d, rfl, ⟨mark, _⟩ | ⟨_, same⟩⟩⟩
      · exact absurd star run
      · exact absurd mark any
      · exact ⟨d, ahead, rfl, same⟩

theorem spans_glob_iff (ignoreCase : Bool) (text glob : List Char) {i : Nat}
    (inside : i ≤ text.length) :
    (Pattern.ofItems (glob.map (globPattern ignoreCase))).Spans text i text.length ↔
      GlobMatches ignoreCase glob (text.drop i) := by
  induction glob generalizing i with
  | nil =>
    constructor
    · rintro rfl
      rw [List.drop_length]
      exact .nil
    · intro matched
      have used : text.drop i = [] := by
        generalize text.drop i = name at matched
        cases matched
        rfl
      exact Nat.le_antisymm inside (List.drop_eq_nil_iff.mp used)
  | cons c glob ih =>
    rw [List.map_cons, Pattern.spans_ofItems_cons, globMatches_cons_iff]
    constructor
    · rintro ⟨k, first, later⟩
      obtain ⟨part, ahead, rfl, here⟩ := (spans_globPattern_iff ignoreCase c).mp first
      have size := congrArg List.length ahead
      simp only [List.length_drop, List.length_append] at size
      exact ⟨part, _, ahead, here, (ih (by omega)).mp later⟩
    · rintro ⟨part, rest, ahead, here, later⟩
      have behind : text.drop (i + part.length) = rest := by
        rw [← List.drop_drop, ahead, List.drop_left]
      have size := congrArg List.length ahead
      simp only [List.length_drop, List.length_append] at size
      refine ⟨i + part.length, (spans_globPattern_iff ignoreCase c).mpr ⟨part, ?_, rfl, here⟩, ?_⟩
      · rw [behind, ahead]
      · rw [ih (by omega), behind]
        exact later

theorem byCharacter_glob (ignoreCase : Bool) :
    ByCharacter .glob ignoreCase (globPattern ignoreCase) :=
  .of_reads (.flatMap readsAs_translateGlobChar) depth_globAst_le (denote_globAst ignoreCase)

theorem size_globPattern_le (ignoreCase : Bool) (c : Char) :
    (globPattern ignoreCase c).size ≤ 992 := by
  unfold globPattern
  split
  · decide
  · decide
  · exact Nat.le_trans (size_fold_single_le ignoreCase c) (by decide)

namespace NamePattern

/-- The name pattern of a glob: a star or a question mark is any run of the characters of a line or any
one of them, and every other character is itself. -/
def ofGlob (ignoreCase : Bool) (segment : List Char) : NamePattern :=
  ofChars .glob (globPattern ignoreCase) segment

theorem accepts_ofGlob_iff (ignoreCase : Bool) (segment : List Char) (name : String) :
    (ofGlob ignoreCase segment).accepts name = true ↔
      GlobMatches ignoreCase segment name.toList := by
  rw [ofGlob, accepts_ofChars_iff, spans_glob_iff ignoreCase _ _ (Nat.zero_le _), List.drop_zero]

theorem accepts_of_compile_glob {ignoreCase : Bool} {segment : List Char} {p : NamePattern}
    (compiled : compile .glob ignoreCase segment = .ok p) (name : String) :
    p.accepts name = true ↔ GlobMatches ignoreCase segment name.toList := by
  rw [(byCharacter_glob ignoreCase).eq_ofChars compiled]
  exact accepts_ofGlob_iff ignoreCase segment name

end NamePattern

namespace Query

/-- Only its size has a glob refused, and one of 4096 characters is small enough. The pattern that a
segment compiles to accepts the names that the glob matches as a whole. -/
theorem glob_accepts_matching_names (ignoreCase : Bool) :
    (∀ source, (∃ q, compile .glob ignoreCase source = .ok q) ∨
      ∃ segment index offset, compile .glob ignoreCase source =
        .error (.malformedPattern segment index offset .tooBig)) ∧
    (∀ source, source.length ≤ 4096 → ∃ q, compile .glob ignoreCase source = .ok q) ∧
    ∀ segment,
      NamePattern.compile .glob ignoreCase segment =
        (if (NamePattern.ofGlob ignoreCase segment).pattern.size ≤ sizeLimit then
          .ok (NamePattern.ofGlob ignoreCase segment)
        else .error .tooBig) ∧
      ∀ name, (NamePattern.ofGlob ignoreCase segment).accepts name = true ↔
        GlobMatches ignoreCase segment name.toList := by
  have simple := byCharacter_glob ignoreCase
  refine ⟨simple.compile_query, fun source short => ?_, fun segment => ?_⟩
  · refine simple.compile_short (size_globPattern_le ignoreCase) source ?_
    have limit : 3 * stateSize + 992 * 4096 ≤ sizeLimit := by decide
    omega
  · exact ⟨simple segment, NamePattern.accepts_ofGlob_iff ignoreCase segment⟩

theorem glob_accepts_matching_names_with_bracket :
    ∃ p, NamePattern.compile .glob true ['a', '[', '*', '?'] = .ok p ∧
      p.accepts "A[x]" = true ∧ p.accepts "a[" = false ∧ p.accepts "a[x\n" = false := by
  obtain ⟨_, _, each⟩ := glob_accepts_matching_names true
  obtain ⟨compiled, accepts⟩ := each ['a', '[', '*', '?']
  have small : (NamePattern.ofGlob true ['a', '[', '*', '?']).pattern.size ≤ sizeLimit := by
    decide +kernel
  have matched : GlobMatches true ['a', '[', '*', '?'] ['A', '[', 'x', ']'] := by
    have run : '\n' ∉ ['x'] := by decide
    exact .same (by decide) (by decide +kernel) (.same (by decide) (by decide +kernel)
      (.run run (.any (by decide) .nil)))
  exact ⟨_, compiled.trans (if_pos small), (accepts "A[x]").mpr matched, by cbv, by cbv⟩

end Query

end PathQuery
