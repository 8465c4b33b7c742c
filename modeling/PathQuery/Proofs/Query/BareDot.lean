import PathQuery.Proofs.Query.ScannedSegment
import PathQuery.Proofs.Query.WholeName

set_option autoImplicit false

namespace PathQuery

open PathQuery.Text PathQuery.Regex PathQuery.Dialect

theorem ofText_anchor_translateRegex {segment : List Char} {a : Ast}
    (read : Ast.ofText segment = .ok a) (shallow : a.depth + 2 ≤ nestLimit)
    (safe : Translatable segment) :
    Ast.ofText (Dialect.anchor (Dialect.translate .regex segment)) = .ok (anchored a.dotted) := by
  have alone : ReadState.start.read segment = .ok a := by
    obtain ⟨b, alone, fits⟩ := bind_eq_ok.mp read
    by_cases deep : b.depth ≤ nestLimit
    · rw [alone, ← Except.ok.inj ((if_pos deep).symm.trans fits)]
    · cases (if_neg deep).symm.trans fits
  have whole : ReadState.start.read (Dialect.anchor (translateRegex false segment)) =
      .ok (anchored a.dotted) := by
    rw [read_anchor, ← body_closed_anchorGroup]
    have compact : ReadState.start.Compact := ⟨rfl, by simp [ReadState.start]⟩
    exact ReadState.read_translated anchorGroup ⟨safe.1, safe.2.imp_left (⟨compact, ·⟩)⟩ alone
  have fits : (anchored a.dotted).depth ≤ nestLimit := by
    rwa [depth_anchored, Ast.depth_dotted]
  simp [Ast.ofText, Dialect.translate, whole, bind, Except.bind, fits]

namespace NamePattern

/-- A segment that is a pattern by itself accepts the names that its tree matches from end to end,
with a plain dot for every dot. -/
theorem regex_matches_dotted (ignoreCase : Bool) {segment : List Char} {a : Ast} {alone : Pattern}
    {flags : Flags} (read : Ast.ofText segment = .ok a)
    (meaning : a.denote (.default ignoreCase) = .ok (alone, flags))
    (shallow : a.depth + 2 ≤ nestLimit) (safe : Translatable segment) :
    ∃ whole, a.dotted.denote (.default ignoreCase) = .ok (whole, flags) ∧
      (∀ name, (between .regex segment whole).accepts name = true ↔
        whole.Spans name.toList 0 name.toList.length) ∧
      compile .regex ignoreCase segment =
        if (between .regex segment whole).pattern.size ≤ sizeLimit then
          .ok (between .regex segment whole)
        else .error .tooBig := by
  obtain ⟨whole, dotted⟩ := Ast.denote_dotted meaning
  exact ⟨whole, dotted, accepts_between_iff .regex segment whole,
    compile_of_anchored (ofText_anchor_translateRegex read shallow safe) dotted⟩

theorem regex_matches_dotted_nested_class :
    ∃ segment a whole flags,
      segment = "(?xi) ( [a]-[].[:digit:][b&&[^.]]] . | \\. )+ # any.\n".toList ∧
      Ast.ofText segment = .ok a ∧ Translatable segment ∧
      a.dotted.denote (.default false) = .ok (whole, flags) ∧
      compile .regex false segment = .ok (between .regex segment whole) ∧
      (between .regex segment whole).accepts "A-B.." = true ∧
      (between .regex segment whole).accepts "A-Bx" = false := by
  have means : (Ast.ofText "(?xi) ( [a]-[].[:digit:][b&&[^.]]] . | \\. )+ # any.\n".toList >>=
      fun a => (a.denote (.default false)).map fun _ => a.depth) = .ok 10 := by cbv
  have safe : Translatable "(?xi) ( [a]-[].[:digit:][b&&[^.]]] . | \\. )+ # any.\n".toList := by
    decide +kernel
  have judged : (compile .regex false
      "(?xi) ( [a]-[].[:digit:][b&&[^.]]] . | \\. )+ # any.\n".toList).map
        (fun p => (p.accepts "A-B..", p.accepts "A-Bx")) = .ok (true, false) := by cbv
  obtain ⟨segment, written⟩ : ∃ segment,
      segment = "(?xi) ( [a]-[].[:digit:][b&&[^.]]] . | \\. )+ # any.\n".toList := ⟨_, rfl⟩
  rw [← written] at means safe judged
  obtain ⟨a, read, means⟩ := bind_eq_ok.mp means
  obtain ⟨found, meaning, deep⟩ := map_eq_ok.mp means
  have shallow : a.depth + 2 ≤ nestLimit := deep ▸ by decide
  obtain ⟨whole, dotted, _, sized⟩ := regex_matches_dotted false read meaning shallow safe
  obtain ⟨p, compiled, verdicts⟩ := map_eq_ok.mp judged
  have same := compiled
  rw [sized] at same
  split_ifs at same
  obtain rfl := Except.ok.inj same
  obtain ⟨accepted, refused⟩ := Prod.mk.inj verdicts
  exact ⟨segment, a, whole, found.2, written, read, safe, dotted, compiled, accepted, refused⟩

def dottedAccepts (segment : List Char) (name : String) : Except Regex.Error Bool := do
  let a ← Ast.ofText segment
  let (whole, _) ← a.dotted.denote (.default false)
  .ok ((between .regex segment whole).accepts name)

/-- What goes wrong where a segment can be mistaken: a range from the front of a class, a class that
the translation leaves and enters again, and a comment. -/
theorem compile_mistakable :
    ∀ mistaken ∈ [("[]-a]", "-"), ("[[a]A-[].]", "a.]"), ("(?x)a#[\n.", "ax")],
      ¬Translatable mistaken.1.toList ∧ (dottedAccepts mistaken.1.toList mistaken.2).toOption ≠
        ((compile .regex false mistaken.1.toList).map (·.accepts mistaken.2)).toOption := by
  simp only [List.forall_mem_cons, List.not_mem_nil, false_imp_iff, implies_true, and_true]
  refine ⟨⟨by decide +kernel, ?_⟩, ⟨by decide +kernel, ?_⟩, ⟨by decide +kernel, ?_⟩⟩
  all_goals
    cbv
    decide

/-- A closing bracket in front of a class is a character of its own, so that the dash behind it is
one too. With a backslash it begins a range. -/
theorem compile_range_from_front :
    (compile .regex false ['[', ']', '-', 'a', ']']).map (·.accepts "-") = .ok false ∧
      ∃ a whole flags, Ast.ofText ['[', ']', '-', 'a', ']'] = .ok a ∧
        a.dotted.denote (.default false) = .ok (whole, flags) ∧
        whole.Spans "-".toList 0 "-".toList.length := by
  have matched : (Ast.ofText ['[', ']', '-', 'a', ']'] >>= fun a =>
      (a.dotted.denote (.default false)).map fun found =>
        Pattern.isMatch (.cat (.look .start) (.cat found.1 (.look .stop))) "-".toList) =
      .ok true := by cbv
  obtain ⟨a, read, matched⟩ := bind_eq_ok.mp matched
  refine ⟨by cbv, ?_⟩
  cases meaning : a.dotted.denote (.default false) with
  | error e => simp [meaning, Except.map] at matched
  | ok found =>
    have spans : Pattern.isMatch (.cat (.look .start) (.cat found.1 (.look .stop))) "-".toList =
        true := by simpa [meaning, Except.map] using matched
    exact ⟨a, found.1, found.2, read, meaning, (Pattern.isMatch_anchored _ _).mp spans⟩

end NamePattern

end PathQuery
