import PathQuery.Proofs.Query.Characters

set_option autoImplicit false

namespace PathQuery

open PathQuery.Regex PathQuery.Unicode

def literalPattern (ignoreCase : Bool) (c : Char) : Pattern :=
  .chars ((Flags.default ignoreCase).fold (.single c))

theorem denote_literal (ignoreCase : Bool) (c : Char) :
    (Ast.literal ⟨c, false⟩).denote (.default ignoreCase) =
      .ok (literalPattern ignoreCase c, .default ignoreCase) := by
  rw [literalPattern, ← charPattern_default]
  rfl

theorem spans_literal_iff (ignoreCase : Bool) (text segment : List Char) {i : Nat}
    (inside : i ≤ text.length) :
    (Pattern.ofItems (segment.map (literalPattern ignoreCase))).Spans text i text.length ↔
      List.Forall₂ (SameChar ignoreCase) segment (text.drop i) := by
  induction segment generalizing i with
  | nil =>
    rw [List.forall₂_nil_left_iff, List.drop_eq_nil_iff]
    change i = text.length ↔ text.length ≤ i
    omega
  | cons c segment ih =>
    rw [List.map_cons, Pattern.spans_ofItems_cons]
    cases here : text[i]? with
    | none =>
      have used : text.drop i = [] := List.drop_eq_nil_iff.mpr (List.getElem?_eq_none_iff.mp here)
      simp [used, literalPattern, Pattern.Spans, here]
    | some d =>
      obtain ⟨inside', rfl⟩ := List.getElem?_eq_some_iff.mp here
      rw [List.drop_eq_getElem_cons inside', List.forall₂_cons, ← contains_fold_single,
        ← ih inside']
      simp [literalPattern, Pattern.Spans, here]

theorem byCharacter_literal (ignoreCase : Bool) :
    ByCharacter .literal ignoreCase (literalPattern ignoreCase) :=
  .of_reads (.flatMap .escapeChar) (fun _ => Nat.zero_le 1) (denote_literal ignoreCase)

namespace NamePattern

def ofLiteral (ignoreCase : Bool) (segment : List Char) : NamePattern :=
  ofChars .literal (literalPattern ignoreCase) segment

theorem accepts_ofLiteral_iff (ignoreCase : Bool) (segment : List Char) (name : String) :
    (ofLiteral ignoreCase segment).accepts name = true ↔
      List.Forall₂ (SameChar ignoreCase) segment name.toList := by
  rw [ofLiteral, accepts_ofChars_iff, spans_literal_iff ignoreCase _ _ (Nat.zero_le _),
    List.drop_zero]

theorem accepts_of_compile_literal {ignoreCase : Bool} {segment : List Char} {p : NamePattern}
    (compiled : compile .literal ignoreCase segment = .ok p) (name : String) :
    p.accepts name = true ↔ List.Forall₂ (SameChar ignoreCase) segment name.toList := by
  rw [(byCharacter_literal ignoreCase).eq_ofChars compiled]
  exact accepts_ofLiteral_iff ignoreCase segment name

end NamePattern

theorem forall₂_sameChar_iff (text text' : List Char) :
    List.Forall₂ (SameChar false) text text' ↔ text = text' := by
  have same : SameChar false = Eq := by
    funext c d
    simp [SameChar]
  rw [same, List.forall₂_eq_eq_eq]

namespace Query

/-- Only its size has a literal query refused, and one of 4096 characters is small enough. The pattern
that a segment compiles to accepts the names of its own length that agree with it in every place: the
characters are the same or, where case is ignored, fold together. -/
theorem literal_accepts_agreeing_names (ignoreCase : Bool) :
    (∀ source, (∃ q, compile .literal ignoreCase source = .ok q) ∨
      ∃ segment index offset, compile .literal ignoreCase source =
        .error (.malformedPattern segment index offset .tooBig)) ∧
    (∀ source, source.length ≤ 4096 → ∃ q, compile .literal ignoreCase source = .ok q) ∧
    ∀ segment,
      NamePattern.compile .literal ignoreCase segment =
        (if (NamePattern.ofLiteral ignoreCase segment).pattern.size ≤ sizeLimit then
          .ok (NamePattern.ofLiteral ignoreCase segment)
        else .error .tooBig) ∧
      ∀ name, (NamePattern.ofLiteral ignoreCase segment).accepts name = true ↔
        List.Forall₂ (SameChar ignoreCase) segment name.toList := by
  have simple := byCharacter_literal ignoreCase
  refine ⟨simple.compile_query, fun source short => ?_, fun segment => ?_⟩
  · refine simple.compile_short (size_fold_single_le ignoreCase) source ?_
    have limit : 3 * stateSize + 256 * 4096 ≤ sizeLimit := by decide
    omega
  · exact ⟨simple segment, NamePattern.accepts_ofLiteral_iff ignoreCase segment⟩

theorem literal_accepts_agreeing_names_with_dot :
    ∃ p, NamePattern.compile .literal true ['a', '.', 'B'] = .ok p ∧
      p.accepts "A.b" = true ∧ p.accepts "axB" = false ∧ p.accepts "a.BB" = false := by
  obtain ⟨_, _, each⟩ := literal_accepts_agreeing_names true
  obtain ⟨compiled, accepts⟩ := each ['a', '.', 'B']
  have small : (NamePattern.ofLiteral true ['a', '.', 'B']).pattern.size ≤ sizeLimit := by
    decide +kernel
  have same : List.Forall₂ (SameChar true) ['a', '.', 'B'] ['A', '.', 'b'] :=
    .cons (by decide +kernel) (.cons (by decide +kernel) (.cons (by decide +kernel) .nil))
  exact ⟨_, compiled.trans (if_pos small), (accepts "A.b").mpr same, by cbv, by cbv⟩

end Query

end PathQuery
