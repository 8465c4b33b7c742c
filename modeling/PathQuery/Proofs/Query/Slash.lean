import Mathlib
import PathQuery.Proofs.Alignment.Runs
import PathQuery.Proofs.Regex.Spans
import PathQuery.Query.Basic

set_option autoImplicit false

namespace PathQuery

open PathQuery.Regex

def anyChar : Pattern := .chars (.compl .none)

def anyText : Pattern := .rep 0 none anyChar

def slashWithin : Pattern := .cat .empty (.cat anyText (.cat (.chars (.single '/')) anyText))

def slashName : NamePattern :=
  ⟨"(?s).*\\x2F.*", "^(?:(?s).*\\x2F.*)$", .cat (.look .start) (.cat slashWithin (.look .stop))⟩

def slashQuery : Query :=
  ⟨"**/(?s).*\\x2F.*/**", .grep, false, [.descendantOf, .literal slashName, .descendantOf]⟩

theorem compile_slashQuery :
    Query.compile .grep false slashQuery.source = .ok slashQuery := by
  cbv

theorem repeats_anyChar (text : List Char) (count : Nat) {i : Nat} (inside : i + count ≤ text.length) :
    Repeats (anyChar.Spans text) count i (i + count) := by
  induction count generalizing i with
  | zero => exact rfl
  | succ count ih =>
    have here : i < text.length := by omega
    refine ⟨i + 1, ⟨rfl, text[i], List.getElem?_eq_getElem here, rfl⟩, ?_⟩
    have rest := ih (i := i + 1) (by omega)
    rwa [Nat.add_right_comm, Nat.add_assoc] at rest

theorem spans_anyText {text : List Char} {i j : Nat} (order : i ≤ j) (inside : j ≤ text.length) :
    anyText.Spans text i j := by
  have steps := repeats_anyChar text (j - i) (i := i) (by omega)
  rw [Nat.add_sub_cancel' order] at steps
  exact ⟨j - i, Nat.zero_le _, by simp, steps⟩

theorem slashName_accepts (name : String) :
    slashName.accepts name = true ↔ '/' ∈ name.toList := by
  have slash := CharClass.contains_single '/'
  rw [NamePattern.accepts, slashName, Pattern.isMatch_anchored]
  constructor
  · rintro ⟨_, rfl, i, _, _, ⟨rfl, c, here, member⟩, _⟩
    obtain rfl := (slash c).mp member
    exact List.mem_of_getElem? here
  · intro member
    obtain ⟨i, here⟩ := List.mem_iff_getElem?.mp member
    have inside : i + 1 ≤ name.toList.length := (List.getElem?_eq_some_iff.mp here).1
    refine ⟨0, rfl, i, spans_anyText (Nat.zero_le i) (Nat.le_of_succ_le inside), i + 1, ?_, ?_⟩
    · exact ⟨rfl, '/', here, (slash '/').mpr rfl⟩
    · exact spans_anyText inside (Nat.le_refl _)

theorem slashQuery_isMatch (names : List String) :
    slashQuery.isMatch names = true ↔ ∃ name ∈ names, '/' ∈ name.toList := by
  have descends : Step.Descends slashQuery.steps := by simp [Step.Descends, slashQuery, Step.isNamed]
  rw [Query.isMatch_iff, Step.judge_eq_ok_true_iff, Step.search_iff_aligns,
    Step.aligns_iff_cuts descends (Nat.zero_le _), List.drop_zero]
  simp only [slashQuery, Step.cuts_around_literal, slashName_accepts]

end PathQuery
