import Mathlib.Tactic.SplitIfs
import PathQuery.Proofs.Text.Outcome
import PathQuery.Toml.Text
import PathQuery.Toml.Writer

set_option autoImplicit false

namespace PathQuery.Toml

open PathQuery.Text

variable {q : Quotes} {c d : Char} {done done' rest text : List Char} {n : Nat}

section ReadChars

theorem outcome_of_further {inner : List Char} (le : inner.length ≤ rest.length)
    (step : readChars q done (c :: rest) = readChars.further c le (readChars q done' inner)) :
    Reader.outcome (readChars q done) (c :: rest) = Reader.outcome (readChars q done') inner := by
  unfold Reader.outcome
  rw [step]
  cases readChars q done' inner <;> rfl

theorem outcome_readChars_plain (other : c ≠ q.mark) (plain : q.escapes = true → c ≠ '\\')
    (fits : isTextChar c = true ∨ q.multiline = true ∧ c = '\n') :
    Reader.outcome (readChars q done) (c :: rest) =
      Reader.outcome (readChars q (c :: done)) rest := by
  have unescaped : (c == '\\' && q.escapes) = false := by
    cases escapes : q.escapes <;> simp_all
  have taken : (isTextChar c || (q.multiline && c == '\n')) = true := by simpa using fits
  apply outcome_of_further (Nat.le_refl _)
  rw [readChars]
  simp only [beq_iff_eq, other, unescaped, taken, Bool.false_eq_true, if_false, if_true]

theorem outcome_readChars_escape (other : q.mark ≠ '\\') (escapes : q.escapes = true)
    (inside : atLineEnd text = false) (read : readEscaped.outcome text = .ok (d, rest)) :
    Reader.outcome (readChars q done) ('\\' :: text) =
      Reader.outcome (readChars q (d :: done)) rest := by
  obtain ⟨le, escaped⟩ := Reader.of_outcome read
  apply outcome_of_further le
  rw [readChars]
  simp [Ne.symm other, escapes, inside, escaped]

theorem outcome_readChars_close (single : q.multiline = false) :
    Reader.outcome (readChars q done) (q.mark :: rest) = .ok (done, rest) := by
  unfold Reader.outcome
  rw [readChars]
  simp [single]

theorem takeWhile_marks (n : Nat) (ends : rest.head? ≠ some c) :
    (List.replicate n c ++ rest).takeWhile (· == c) = List.replicate n c := by
  induction n with
  | zero =>
    cases rest with
    | nil => rfl
    | cons d ds =>
      have other : d ≠ c := by simpa using ends
      simp [other]
  | succ n ih => simp [List.replicate_succ, ih]

theorem drop_marks (n : Nat) (ends : rest.head? ≠ some c) :
    (List.replicate n c ++ rest).drop ((List.replicate n c ++ rest).takeWhile (· == c)).length =
      rest := by
  rw [takeWhile_marks n ends, List.length_replicate, List.drop_left' List.length_replicate]

theorem outcome_readChars_few (lines : q.multiline = true)
    (few : (rest.takeWhile (· == q.mark)).length < 2) :
    Reader.outcome (readChars q done) (q.mark :: rest) =
      Reader.outcome (readChars q (q.mark :: rest.takeWhile (· == q.mark) ++ done))
        (rest.drop (rest.takeWhile (· == q.mark)).length) := by
  apply outcome_of_further (by simp)
  rw [readChars]
  simp only [beq_self_eq_true, lines, few, Bool.not_true, Bool.false_eq_true, if_false, if_true]

theorem outcome_readChars_many (lines : q.multiline = true)
    (some_close : 2 ≤ (rest.takeWhile (· == q.mark)).length)
    (all_fit : (rest.takeWhile (· == q.mark)).length < 5) :
    Reader.outcome (readChars q done) (q.mark :: rest) =
      .ok ((rest.takeWhile (· == q.mark)).drop 2 ++ done,
        rest.drop (rest.takeWhile (· == q.mark)).length) := by
  unfold Reader.outcome
  rw [readChars]
  simp only [beq_self_eq_true, lines, Nat.not_lt.mpr some_close, all_fit, Bool.not_true,
    Bool.false_eq_true, if_false, if_true]

theorem outcome_readChars_marks (lines : q.multiline = true) (ends : rest.head? ≠ some q.mark)
    (few : n ≤ 2) :
    Reader.outcome (readChars q done) (List.replicate n q.mark ++ rest) =
      Reader.outcome (readChars q (List.replicate n q.mark ++ done)) rest := by
  cases n with
  | zero => rfl
  | succ n =>
    have marks := takeWhile_marks n ends
    rw [List.replicate_succ, List.cons_append, outcome_readChars_few lines]
    · rw [drop_marks n ends, marks]
    · rw [marks, List.length_replicate]
      omega

theorem outcome_readChars_closing (lines : q.multiline = true) (ends : rest.head? ≠ some q.mark)
    (few : n ≤ 2) :
    Reader.outcome (readChars q done) (List.replicate (n + 3) q.mark ++ rest) =
      .ok (List.replicate n q.mark ++ done, rest) := by
  have marks := takeWhile_marks (n + 2) ends
  rw [List.replicate_succ, List.cons_append, outcome_readChars_many lines]
  · rw [drop_marks (n + 2) ends, marks, List.drop_replicate, Nat.add_sub_cancel]
  · rw [marks, List.length_replicate]
    omega
  · rw [marks, List.length_replicate]
    omega

end ReadChars

section Escapes

theorem atLineEnd_cons (dark : isBlank c = false) (other : c ≠ '\n') :
    atLineEnd (c :: rest) = false := by
  simp [atLineEnd, dark, other]

theorem outcome_readEscaped_letter (letter : escapes.lookup c = some d) :
    readEscaped.outcome (c :: rest) = .ok (d, rest) := by
  simp [readEscaped, letter]

theorem hexDigit?_upperHexDigit : ∀ n < 16, Unicode.hexDigit? (upperHexDigit n) = some n := by
  decide

theorem outcome_readEscaped_code (small : c.toNat < 256) :
    readEscaped.outcome (['u', '0', '0', upperHexDigit (c.toNat / 16),
      upperHexDigit (c.toNat % 16)] ++ rest) = .ok (c, rest) := by
  have high := hexDigit?_upperHexDigit (c.toNat / 16) (by omega)
  have low := hexDigit?_upperHexDigit (c.toNat % 16) (by omega)
  have zero : Unicode.hexDigit? '0' = some 0 := by decide
  have value : 16 * (c.toNat / 16) + c.toNat % 16 = c.toNat := Nat.div_add_mod _ _
  have valid : c.toNat.isValidChar := c.valid
  have unlettered : escapes.lookup 'u' = none := by decide
  have counted : escapeDigits.lookup 'u' = some 4 := by decide
  simp [readEscaped, unlettered, counted, readNumbered, Unicode.hexValue, high, low, zero, value,
    valid]

end Escapes

def Spells (q : Quotes) (written text : List Char) : Prop :=
  ∀ done rest, Reader.outcome (readChars q done) (written ++ rest) =
    Reader.outcome (readChars q (text.reverse ++ done)) rest

theorem Spells.nil (q : Quotes) : Spells q [] [] := fun _ _ => rfl

theorem Spells.append {written written' text' : List Char} (first : Spells q written text)
    (second : Spells q written' text') : Spells q (written ++ written') (text ++ text') := by
  intro done rest
  rw [List.append_assoc, first, second, List.reverse_append, List.append_assoc]

theorem spells_plain (other : c ≠ q.mark) (plain : q.escapes = true → c ≠ '\\')
    (fits : isTextChar c = true ∨ q.multiline = true ∧ c = '\n') : Spells q [c] [c] :=
  fun _ _ => outcome_readChars_plain other plain fits

theorem spells_escape (double : q.mark = '"') (escapes : q.escapes = true) {letters : List Char}
    (dark : isBlank d = false) (other : d ≠ '\n')
    (read : ∀ rest, readEscaped.outcome (d :: letters ++ rest) = .ok (c, rest)) :
    Spells q ('\\' :: d :: letters) [c] := by
  intro done rest
  exact outcome_readChars_escape (by simp [double]) escapes (atLineEnd_cons dark other) (read rest)

theorem letters_dark : ∀ entry ∈ escapes, isBlank entry.1 = false ∧ entry.1 ≠ '\n' := by
  decide

theorem spells_letter (double : q.mark = '"') (escaping : q.escapes = true)
    (letter : escapes.lookup d = some c) : Spells q ['\\', d] [c] := by
  obtain ⟨before, after, split, _⟩ := List.lookup_eq_some_iff.mp letter
  obtain ⟨dark, other⟩ := letters_dark (d, c) (by simp [split])
  exact spells_escape double escaping dark other fun rest => outcome_readEscaped_letter letter

theorem spells_escapeChar (double : q.mark = '"') (escapes : q.escapes = true) (c : Char) :
    Spells q (escapeChar c) [c] := by
  unfold escapeChar
  split_ifs with special back tab line form carriage low
  · rcases special with rfl | rfl
    · exact spells_letter double escapes rfl
    · exact spells_letter double escapes rfl
  · subst back
    exact spells_letter double escapes rfl
  · subst tab
    exact spells_letter double escapes rfl
  · subst line
    exact spells_letter double escapes rfl
  · subst form
    exact spells_letter double escapes rfl
  · subst carriage
    exact spells_letter double escapes rfl
  · have small : c.toNat < 256 := by
      rcases low with low | rfl
      · exact Nat.lt_trans low (by decide)
      · decide
    exact spells_escape double escapes (by decide) (by decide)
      fun rest => outcome_readEscaped_code small
  · obtain ⟨undouble, unslashed⟩ := not_or.mp special
    obtain ⟨high, undeleted⟩ := not_or.mp low
    apply spells_plain (by simpa [double] using undouble) fun _ => unslashed
    have shown : ' ' ≤ c := Char.not_lt.mp high
    simp [isTextChar, shown, undeleted]

/-- What is written for some text that goes over several lines, in terms of how many marks stand
directly before it. No three marks stand in a row. -/
inductive Lines (q : Quotes) : (marks : Nat) → (written text : List Char) → Prop where
  | nil {n : Nat} : Lines q n [] []
  | mark {n : Nat} {written text : List Char} (few : n < 2) (later : Lines q (n + 1) written text) :
      Lines q n (q.mark :: written) (q.mark :: text)
  | piece {n : Nat} {c d : Char} {more written text : List Char} (spells : Spells q (d :: more) [c])
      (apart : d ≠ q.mark) (later : Lines q 0 written text) :
      Lines q n (d :: more ++ written) (c :: text)

theorem Lines.outcome {written : List Char} (lines : Lines q n written text)
    (multiline : q.multiline = true) (few : n ≤ 2) (ends : rest.head? ≠ some q.mark)
    (done : List Char) :
    Reader.outcome (readChars q done)
        (List.replicate n q.mark ++ (written ++ (List.replicate 3 q.mark ++ rest))) =
      .ok (text.reverse ++ (List.replicate n q.mark ++ done), rest) := by
  induction lines generalizing done with
  | nil =>
    rw [List.nil_append, ← List.append_assoc, List.replicate_append_replicate]
    exact outcome_readChars_closing multiline ends few
  -- A mark is not read before its row ends: until then it goes with the marks before it.
  | @mark n written text below _ ih =>
    have row (behind : List Char) : List.replicate n q.mark ++ q.mark :: behind =
        List.replicate (n + 1) q.mark ++ behind := by
      rw [List.replicate_succ', List.append_assoc, List.singleton_append]
    rw [List.cons_append, row, ih below, List.reverse_cons, List.append_assoc, List.replicate_succ]
    rfl
  | @piece n c d more written text spells apart _ ih =>
    have first : (d :: more ++ written ++ (List.replicate 3 q.mark ++ rest)).head? ≠
        some q.mark := by
      simpa using apart
    have behind := ih (Nat.zero_le 2) (c :: (List.replicate n q.mark ++ done))
    rw [List.replicate_zero, List.nil_append, List.nil_append] at behind
    rw [outcome_readChars_marks multiline first few, List.append_assoc, spells]
    simpa using behind

end PathQuery.Toml
