import Mathlib
import PathQuery.Proofs.Regex.Anchored
import PathQuery.Proofs.Regex.Spans
import PathQuery.Query.Basic

set_option autoImplicit false

namespace PathQuery

open PathQuery.Text PathQuery.Regex

def anchorGroup : OpenGroup := ⟨[], [.anchor .lineStart], .flags [], false⟩

def anchored (a : Ast) : Ast :=
  .cat (.anchor .lineStart) (.cat (.group (.flags []) a) (.anchor .lineEnd))

theorem outcome_groupOpening_flags (verbose : Bool) (names : List String) (input : List Char) :
    (groupOpening verbose names).outcome ('?' :: ':' :: input) =
      .ok (.group (.flags []) none, input) := by
  have start : afterBlanks verbose ('?' :: ':' :: input) = '?' :: ':' :: input := by
    cases verbose <;> rfl
  have items : Reader.outcome (flagItems []) (':' :: input) = .ok (([], ':'), input) := by
    simp [outcome_flagItems_cons]
  have opens : flagOpening.outcome (':' :: input) = .ok (.group (.flags []) none, input) :=
    Reader.outcome_bind_ok items
  simp [groupOpening, start, Reader.skipAnyOf, Reader.outcome_skipText, needMore, opens]

theorem read_anchor (text : List Char) :
    ReadState.start.read (Dialect.anchor text) =
      (ReadState.start.inside anchorGroup).read (text ++ closing) := by
  have circumflex : afterBlanks ReadState.start.verbose (Dialect.anchor text) =
      '^' :: '(' :: '?' :: ':' :: (text ++ closing) := by
    simp [Dialect.anchor, ReadState.start, afterBlanks, closing]
  rw [ReadState.read_cons circumflex]
  simp only [ReadState.step, Reader.outcome_pure]
  rw [ReadState.read_cons (c := '(') rfl]
  simp only [ReadState.step, Reader.outcome_bind, outcome_groupOpening_flags]
  rfl

theorem body_closed_anchorGroup (body : Ast) :
    (ReadState.closed anchorGroup body).body = anchored body := rfl

theorem depth_anchored (a : Ast) : (anchored a).depth = a.depth + 2 := by
  simp [anchored, Ast.depth]

/-- An anchored text is read as the text alone, between anchors, unless the text has a parenthesis
that closes the group of the anchors. -/
theorem ofText_anchor {text : List Char} {a : Ast} (read : Ast.ofText (Dialect.anchor text) = .ok a) :
    (∃ body, Ast.ofText text = .ok body ∧ a = anchored body) ∨
      Ast.ofText text = .error .groupUnopened := by
  unfold Ast.ofText at read ⊢
  rw [read_anchor] at read
  cases whole : (ReadState.start.inside anchorGroup).read (text ++ closing) with
  | error e => simp [whole, bind, Except.bind] at read
  | ok b =>
    obtain ⟨shallow, rfl⟩ : b.depth ≤ nestLimit ∧ b = a := by
      by_cases shallow : b.depth ≤ nestLimit
      · simpa [whole, bind, Except.bind, shallow] using read
      · simp [whole, bind, Except.bind, shallow] at read
    rcases ReadState.read_inside whole with ⟨body, alone, rfl⟩ | unopened
    · left
      rw [body_closed_anchorGroup] at shallow ⊢
      have shallow' : body.depth ≤ nestLimit := by
        rw [depth_anchored] at shallow
        omega
      exact ⟨body, by simp [alone, bind, Except.bind, shallow'], rfl⟩
    · right
      simp [unopened, bind, Except.bind]

theorem denote_anchored (ignoreCase : Bool) (a : Ast) :
    (anchored a).denote (.default ignoreCase) =
      match a.denote (.default ignoreCase) with
      | .error e => .error e
      | .ok (p, _) => .ok (.cat (.look .start) (.cat p (.look .stop)), .default ignoreCase) := by
  have same : (Flags.default ignoreCase).set [] = .default ignoreCase := rfl
  simp only [anchored, Ast.denote, bind, Except.bind, same]
  cases a.denote (.default ignoreCase) <;> rfl

theorem compile_anchor {ignoreCase : Bool} {text : List Char} {p : Pattern}
    (compiled : Regex.compile ignoreCase (Dialect.anchor text) = .ok p) :
    (∃ whole, Regex.compile ignoreCase text = .ok whole ∧
      p = .cat (.look .start) (.cat whole (.look .stop))) ∨
    Regex.compile ignoreCase text = .error .groupUnopened := by
  unfold Regex.compile at compiled ⊢
  cases read : Ast.ofText (Dialect.anchor text) with
  | error e => simp [read, bind, Except.bind] at compiled
  | ok a =>
    rcases ofText_anchor read with ⟨body, alone, rfl⟩ | unopened
    · left
      simp only [read, bind, Except.bind, denote_anchored] at compiled
      cases meaning : body.denote (.default ignoreCase) with
      | error e => simp [meaning] at compiled
      | ok found =>
        obtain ⟨whole, flags⟩ := found
        simp only [meaning] at compiled
        by_cases small : (Pattern.cat (.look .start) (.cat whole (.look .stop))).size ≤ sizeLimit
        · rw [if_pos small] at compiled
          have small' : whole.size ≤ sizeLimit := by
            simp only [Pattern.size] at small
            omega
          refine ⟨whole, ?_, (Except.ok.inj compiled).symm⟩
          simp [alone, bind, Except.bind, meaning, small']
        · simp [small] at compiled
    · right
      simp [unopened, bind, Except.bind]

namespace NamePattern

theorem compile_eq_ok {dialect : Dialect} {ignoreCase : Bool} {segment : List Char}
    {p : NamePattern} (compiled : compile dialect ignoreCase segment = .ok p) :
    Regex.compile ignoreCase (Dialect.anchor (dialect.translate segment)) = .ok p.pattern := by
  unfold compile at compiled
  cases anchored : Regex.compile ignoreCase (Dialect.anchor (dialect.translate segment)) with
  | error e => simp [anchored, bind, Except.bind] at compiled
  | ok pattern =>
    simp only [anchored, bind, Except.bind] at compiled
    rw [← Except.ok.inj compiled]

/-- The name pattern of a segment whose translation means `whole`. Names have to match that from end
to end. -/
def between (dialect : Dialect) (segment : List Char) (whole : Pattern) : NamePattern where
  source := String.ofList segment
  regex := String.ofList (Dialect.anchor (dialect.translate segment))
  pattern := .cat (.look .start) (.cat whole (.look .stop))

theorem accepts_between_iff (dialect : Dialect) (segment : List Char) (whole : Pattern)
    (name : String) : (between dialect segment whole).accepts name = true ↔
      whole.Spans name.toList 0 name.toList.length :=
  Pattern.isMatch_anchored whole name.toList

theorem compile_of_anchored {dialect : Dialect} {ignoreCase : Bool} {segment : List Char} {a : Ast}
    {whole : Pattern} {flags : Flags}
    (read : Ast.ofText (Dialect.anchor (dialect.translate segment)) = .ok (anchored a))
    (meaning : a.denote (.default ignoreCase) = .ok (whole, flags)) :
    compile dialect ignoreCase segment =
      if (between dialect segment whole).pattern.size ≤ sizeLimit then
        .ok (between dialect segment whole)
      else .error .tooBig := by
  have sized : Regex.compile ignoreCase (Dialect.anchor (dialect.translate segment)) =
      if (between dialect segment whole).pattern.size ≤ sizeLimit then
        .ok (between dialect segment whole).pattern
      else .error .tooBig := by
    simp only [Regex.compile, bind, Except.bind, read, denote_anchored, meaning]
    rfl
  rw [compile, sized]
  split_ifs <;> rfl

/-- What anchoring a segment is for: its translation is a pattern by itself and names have to match
it from end to end, or else the segment is refused. -/
structure IsWhole (dialect : Dialect) (ignoreCase : Bool) (segment : List Char) : Prop where
  alone : ∀ p, compile dialect ignoreCase segment = .ok p →
    ∃ whole, Regex.compile ignoreCase (dialect.translate segment) = .ok whole ∧
      ∀ name, p.accepts name = true ↔ whole.Spans name.toList 0 name.toList.length
  refused : ∀ e, Regex.compile ignoreCase (dialect.translate segment) = .error e →
    ∀ index offset, ∃ reason, compileSegment dialect ignoreCase index offset segment =
      .error (.malformedPattern (String.ofList segment) index offset reason)

theorem isWhole_iff_not_unopened (dialect : Dialect) (ignoreCase : Bool) (segment : List Char)
    (pattern : directive? segment = none) :
    IsWhole dialect ignoreCase segment ↔
      ¬((∃ p, compile dialect ignoreCase segment = .ok p) ∧
        Regex.compile ignoreCase (dialect.translate segment) = .error .groupUnopened) := by
  constructor
  · rintro whole ⟨⟨p, compiled⟩, unopened⟩
    obtain ⟨alone, compiled', _⟩ := whole.alone p compiled
    simp [unopened] at compiled'
  · intro opened
    have alone : ∀ p, compile dialect ignoreCase segment = .ok p →
        ∃ whole, Regex.compile ignoreCase (dialect.translate segment) = .ok whole ∧
          p.pattern = .cat (.look .start) (.cat whole (.look .stop)) := by
      intro p compiled
      rcases compile_anchor (compile_eq_ok compiled) with found | unopened
      · exact found
      · exact absurd ⟨⟨p, compiled⟩, unopened⟩ opened
    constructor
    · intro p compiled
      obtain ⟨whole, compiled', shape⟩ := alone p compiled
      refine ⟨whole, compiled', fun name => ?_⟩
      rw [accepts, shape, Pattern.isMatch_anchored]
    · intro e failed index offset
      unfold compileSegment
      cases compiled : compile dialect ignoreCase segment with
      | error reason => exact ⟨reason, by simp [pattern]⟩
      | ok p =>
        obtain ⟨whole, compiled', _⟩ := alone p compiled
        simp [failed] at compiled'

theorem isWhole_iff_not_unopened_alternatives :
    directive? "(a|b)c|(?:d)".toList = none ∧ IsWhole .regex false "(a|b)c|(?:d)".toList ∧
      (compile .regex false "(a|b)c|(?:d)".toList).map
        (fun p => (p.accepts "bc", p.accepts "d", p.accepts "bcd")) = .ok (true, true, false) := by
  have pattern : directive? "(a|b)c|(?:d)".toList = none := by cbv
  have alone : (Regex.compile false (Dialect.translate .regex "(a|b)c|(?:d)".toList)).isOk = true := by
    cbv
  refine ⟨pattern, (isWhole_iff_not_unopened .regex false _ pattern).mpr ?_, by cbv⟩
  rintro ⟨_, unopened⟩
  rw [unopened] at alone
  cases alone

/-- An alternative that closes the group of the anchors and opens another one: it matches `ax`,
although its translation is no pattern by itself. -/
theorem compile_unopened_alternative :
    (compile .regex false ['a', ')', '|', '(', '?', ':', 'b']).map (·.accepts "ax") = .ok true ∧
      Regex.compile false (Dialect.translate .regex ['a', ')', '|', '(', '?', ':', 'b']) =
        .error .groupUnopened ∧
      ¬IsWhole .regex false ['a', ')', '|', '(', '?', ':', 'b'] := by
  have matched : (compile .regex false ['a', ')', '|', '(', '?', ':', 'b']).map (·.accepts "ax") =
      .ok true := by cbv
  have unopened : Regex.compile false
      (Dialect.translate .regex ['a', ')', '|', '(', '?', ':', 'b']) = .error .groupUnopened := by
    cbv
  refine ⟨matched, unopened, fun whole => ?_⟩
  cases compiled : compile .regex false ['a', ')', '|', '(', '?', ':', 'b'] with
  | error e => simp [compiled, Except.map] at matched
  | ok p =>
    obtain ⟨alone, compiled', _⟩ := whole.alone p compiled
    simp [unopened] at compiled'

end NamePattern

end PathQuery
