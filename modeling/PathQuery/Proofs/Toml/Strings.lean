import PathQuery.Proofs.Toml.Characters
import PathQuery.Toml.Reader

set_option autoImplicit false

namespace PathQuery.Toml

open PathQuery.Text

variable {q : Quotes} {c mark : Char} {s written rest : List Char} {n : Nat}

theorem escapeChar_eq_cons (c : Char) :
    ∃ d more, escapeChar c = d :: more ∧ d ≠ '"' ∧ d ≠ '\n' := by
  unfold escapeChar
  split_ifs with special back tab line form carriage low
  any_goals exact ⟨'\\', _, rfl, by decide, by decide⟩
  exact ⟨c, [], rfl, fun same => special (.inl same), line⟩

theorem lines_escapeLines (double : q.mark = '"') (escaping : q.escapes = true)
    (multiline : q.multiline = true) (n : Nat) (s : List Char) :
    Lines q n (escapeLines n s) s := by
  fun_induction escapeLines n s with
  | case1 n => exact .nil
  | case2 n cs ih =>
    have line : Spells q ['\n'] ['\n'] :=
      spells_plain (by simp [double]) (by simp) (.inr ⟨multiline, rfl⟩)
    exact .piece line (by simp [double]) ih
  | case3 n cs few ih =>
    rw [← double]
    exact .mark few ih
  | case4 n cs many ih =>
    -- The third mark in a row is escaped, after which the count begins anew.
    exact .piece (spells_letter double escaping rfl) (by simp [double]) ih
  | case5 n c cs _ _ ih =>
    obtain ⟨d, more, same, apart, _⟩ := escapeChar_eq_cons c
    have spells := spells_escapeChar double escaping c
    rw [same] at spells ⊢
    exact .piece spells (double ▸ apart) ih

theorem le_longestRun (c : Char) (run : Nat) (s : List Char) : run ≤ longestRun c run s := by
  induction s generalizing run with
  | nil => exact Nat.le_refl run
  | cons d ds ih =>
    rw [longestRun]
    split
    · exact Nat.le_of_succ_le (ih (run + 1))
    · exact Nat.le_max_left _ _

theorem isTextChar_of_not_isControl (shown : isControl c = false) (other : c ≠ '\n') :
    isTextChar c = true := by
  have visible : c ≠ '\x7f' := by
    rintro rfl
    simp [isControl] at shown
  by_cases low : c < ' '
  · have tab : c = '\t' := by simpa [isControl, low, other, visible] using shown
    simp [isTextChar, tab]
  · have high : ' ' ≤ c := Char.not_lt.mp low
    simp [isTextChar, high, visible]

theorem lines_self (raw : q.escapes = false) (multiline : q.multiline = true)
    (shown : ∀ c ∈ s, isControl c = false) (few : longestRun q.mark n s ≤ 2) : Lines q n s s := by
  induction s generalizing n with
  | nil => exact .nil
  | cons c cs ih =>
    rw [longestRun] at few
    obtain ⟨first, later⟩ := List.forall_mem_cons.mp shown
    split at few
    next same =>
      subst same
      have below := Nat.le_trans (le_longestRun q.mark (n + 1) cs) few
      exact .mark (by omega) (ih later few)
    next other =>
      have fits : isTextChar c = true ∨ q.multiline = true ∧ c = '\n' := by
        by_cases line : c = '\n'
        · exact .inr ⟨multiline, line⟩
        · exact .inl (isTextChar_of_not_isControl first line)
      have spells : Spells q [c] [c] := spells_plain other (by simp [raw]) fits
      exact .piece spells other (ih later (by omega))

section ReadString

theorem outcome_skipIf_cons (c : Char) (rest : List Char) :
    (skipIf c).outcome (c :: rest) = .ok (true, rest) := by
  simp [skipIf, Reader.outcome_skipText]

theorem outcome_skipIf_of_ne (other : rest.head? ≠ some c) :
    (skipIf c).outcome rest = .ok (false, rest) := by
  have unmatched : ¬[c] <+: rest := by
    rintro ⟨behind, rfl⟩
    exact other rfl
  simp [skipIf, Reader.outcome_skipText, unmatched]

theorem not_marks_prefix (first : written.head? ≠ some mark) (ends : rest.head? ≠ some mark) :
    ¬[mark, mark] <+: written ++ mark :: rest := by
  rintro ⟨behind, same⟩
  cases written with
  | nil =>
    obtain rfl : mark :: behind = rest := by simpa using same
    exact ends rfl
  | cons d ds =>
    obtain ⟨rfl, _⟩ : mark = d ∧ mark :: behind = ds ++ mark :: rest := by simpa using same
    exact first rfl

theorem outcome_readString_line (spells : Spells ⟨mark, mark == '"', false⟩ written s)
    (first : written.head? ≠ some mark) (ends : rest.head? ≠ some mark) :
    (readString mark true).outcome (written ++ mark :: rest) = .ok (String.ofList s, rest) := by
  have chars : Reader.outcome (readChars ⟨mark, mark == '"', false⟩ []) (written ++ mark :: rest) =
      .ok (s.reverse, rest) := by
    rw [spells, List.append_nil]
    exact outcome_readChars_close rfl
  -- Two more marks in front would open a string over several lines.
  simp only [readString, Reader.outcome_bind, Reader.outcome_skipText, if_true,
    List.isPrefixOf_iff_prefix, not_marks_prefix first ends, if_false, Bool.false_eq_true]
  rw [Reader.outcome_bind_ok chars]
  simp

theorem outcome_readString_lines (lines : Lines ⟨mark, mark == '"', true⟩ 0 written s)
    (unbroken : '\n' ∉ s → written.head? ≠ some '\n') (other : mark ≠ '\n')
    (ends : rest.head? ≠ some mark) :
    (readString mark true).outcome ([mark, mark] ++ ((if '\n' ∈ s then ['\n'] else []) ++
      (written ++ (List.replicate 3 mark ++ rest)))) = .ok (String.ofList s, rest) := by
  have opened : [mark, mark] <+: [mark, mark] ++ ((if '\n' ∈ s then ['\n'] else []) ++
      (written ++ (List.replicate 3 mark ++ rest))) := List.prefix_append _ _
  -- A break at the front of the string is dropped, so that one is written there to be dropped.
  have broken : (skipIf '\n').outcome ((if '\n' ∈ s then ['\n'] else []) ++
      (written ++ (List.replicate 3 mark ++ rest))) =
        .ok (decide ('\n' ∈ s), written ++ (List.replicate 3 mark ++ rest)) := by
    by_cases line : '\n' ∈ s
    · simpa [line] using outcome_skipIf_cons '\n' _
    · have first : (written ++ (List.replicate 3 mark ++ rest)).head? ≠ some '\n' := by
        cases written with
        | nil => simpa using other
        | cons d ds => simpa using unbroken line
      simpa [line] using outcome_skipIf_of_ne first
  have chars := lines.outcome rfl (Nat.zero_le 2) ends []
  rw [List.replicate_zero, List.nil_append, List.nil_append, List.append_nil] at chars
  simp only [readString, Reader.outcome_bind, Reader.outcome_skipText, if_true,
    List.isPrefixOf_iff_prefix, opened]
  rw [List.drop_left, broken]
  dsimp only
  rw [Reader.outcome_bind_ok chars]
  simp

end ReadString

theorem outcome_readValue_string {text : String} {depth : Nat} {input : List Char}
    (double : mark = '"' ∨ mark = '\'')
    (read : (readString mark true).outcome input = .ok (text, rest)) :
    Reader.outcome (readValue depth) (mark :: input) = .ok (.string text, rest) := by
  obtain ⟨le, taken⟩ := Reader.of_outcome read
  unfold Reader.outcome
  rw [readValue.eq_def]
  simp [double, taken, bind, Except.bind]

theorem head?_escapeLines (unbroken : '\n' ∉ s) : (escapeLines n s).head? ≠ some '\n' := by
  fun_cases escapeLines n s with
  | case1 => simp
  | case2 cs => simp at unbroken
  | case3 cs few => simp
  | case4 cs many => simp
  | case5 c cs _ _ =>
    obtain ⟨d, more, same, _, unlined⟩ := escapeChar_eq_cons c
    simpa [same] using unlined

theorem head?_flatMap_escapeChar (s : List Char) : (s.flatMap escapeChar).head? ≠ some '"' := by
  cases s with
  | nil => simp
  | cons c cs =>
    obtain ⟨d, more, same, apart, _⟩ := escapeChar_eq_cons c
    simpa [same] using apart

theorem spells_flatMap_escapeChar (double : q.mark = '"') (escaping : q.escapes = true)
    (s : List Char) : Spells q (s.flatMap escapeChar) s := by
  induction s with
  | nil => exact Spells.nil q
  | cons c cs ih => exact (spells_escapeChar double escaping c).append ih

theorem spells_self (raw : q.escapes = false) (unmarked : q.mark ∉ s)
    (shown : ∀ c ∈ s, isTextChar c = true) : Spells q s s := by
  induction s with
  | nil => exact Spells.nil q
  | cons c cs ih =>
    obtain ⟨first, later⟩ := List.forall_mem_cons.mp shown
    have other : c ≠ q.mark := Ne.symm (List.ne_of_not_mem_cons unmarked)
    exact (spells_plain other (by simp [raw]) (.inl first)).append
      (ih (List.not_mem_of_not_mem_cons unmarked) later)

section Forms

theorem ofText_eq_literal (taken : Form.ofText s = .literal) :
    (∀ c ∈ s, isControl c = false) ∧ '\'' ∉ s ∧ '\n' ∉ s := by
  unfold Form.ofText at taken
  split_ifs at taken with control basic literal
  exact ⟨by simpa using control, literal⟩

theorem ofText_eq_literalLines (taken : Form.ofText s = .literalLines) :
    (∀ c ∈ s, isControl c = false) ∧ longestRun '\'' 0 s ≤ 2 := by
  unfold Form.ofText at taken
  split_ifs at taken with control basic literal basicLines literalLines
  exact ⟨by simpa using control, literalLines⟩

variable (depth : Nat)

theorem outcome_readValue_escaped (s : List Char) (ends : rest.head? ≠ some '"') :
    Reader.outcome (readValue depth) (['"'] ++ s.flatMap escapeChar ++ ['"'] ++ rest) =
      .ok (.string (String.ofList s), rest) := by
  have read := outcome_readString_line (spells_flatMap_escapeChar rfl rfl s)
    (head?_flatMap_escapeChar s) ends
  simpa using outcome_readValue_string (.inl rfl) read

theorem outcome_readValue_literal (unmarked : '\'' ∉ s) (unbroken : '\n' ∉ s)
    (shown : ∀ c ∈ s, isControl c = false) (ends : rest.head? ≠ some '\'') :
    Reader.outcome (readValue depth) (['\''] ++ s ++ ['\''] ++ rest) =
      .ok (.string (String.ofList s), rest) := by
  have spells : Spells ⟨'\'', '\'' == '"', false⟩ s s := by
    refine spells_self rfl unmarked fun c member => ?_
    exact isTextChar_of_not_isControl (shown c member) fun line => unbroken (line ▸ member)
  have first : s.head? ≠ some '\'' := fun first => unmarked (List.mem_of_head? first)
  simpa using outcome_readValue_string (.inr rfl) (outcome_readString_line spells first ends)

theorem outcome_readValue_inLines (double : mark = '"' ∨ mark = '\'')
    (lines : Lines ⟨mark, mark == '"', true⟩ 0 written s)
    (unbroken : '\n' ∉ s → written.head? ≠ some '\n') (ends : rest.head? ≠ some mark) :
    Reader.outcome (readValue depth) (inLines mark s written ++ rest) =
      .ok (.string (String.ofList s), rest) := by
  have other : mark ≠ '\n' := by
    rcases double with rfl | rfl <;> decide
  have read := outcome_readString_lines lines unbroken other ends
  have front : inLines mark s written ++ rest = mark :: ([mark, mark] ++
      ((if '\n' ∈ s then ['\n'] else []) ++ (written ++ (List.replicate 3 mark ++ rest)))) := by
    simp [inLines, List.replicate]
  rw [front]
  exact outcome_readValue_string double read

/-- Every string is read back from the text that is written for it, with any text behind it that
does not begin with another mark. -/
theorem outcome_readValue_writeString (s : List Char)
    (ends : rest.head? ≠ some '"' ∧ rest.head? ≠ some '\'') :
    Reader.outcome (readValue depth) (writeString s ++ rest) =
      .ok (.string (String.ofList s), rest) := by
  obtain ⟨double, single⟩ := ends
  have breaks (n : Nat) : Lines ⟨'"', '"' == '"', true⟩ n (escapeLines n s) s :=
    lines_escapeLines rfl rfl rfl n s
  rw [writeString]
  cases taken : Form.ofText s with
  | basic => exact outcome_readValue_escaped depth s double
  | literal =>
    obtain ⟨shown, unmarked, unbroken⟩ := ofText_eq_literal taken
    exact outcome_readValue_literal depth unmarked unbroken shown single
  | basicLines =>
    exact outcome_readValue_inLines depth (.inl rfl) (breaks 0) head?_escapeLines double
  | literalLines =>
    obtain ⟨shown, few⟩ := ofText_eq_literalLines taken
    have lines : Lines ⟨'\'', '\'' == '"', true⟩ 0 s s := lines_self rfl rfl shown few
    have first (unbroken : '\n' ∉ s) : s.head? ≠ some '\n' :=
      fun line => unbroken (List.mem_of_head? line)
    exact outcome_readValue_inLines depth (.inr rfl) lines first single
  | escaped =>
    dsimp only
    split_ifs
    · exact outcome_readValue_inLines depth (.inl rfl) (breaks 0) head?_escapeLines double
    · exact outcome_readValue_escaped depth s double

end Forms

theorem head?_inLines (mark : Char) (s body : List Char) :
    (inLines mark s body).head? = some mark := by
  simp [inLines, List.replicate]

theorem head?_writeString (s : List Char) :
    (writeString s).head? = some '"' ∨ (writeString s).head? = some '\'' := by
  rw [writeString]
  cases Form.ofText s with
  | basic => exact .inl rfl
  | literal => exact .inr rfl
  | basicLines => exact .inl (head?_inLines '"' s _)
  | literalLines => exact .inr (head?_inLines '\'' s _)
  | escaped =>
    dsimp only
    split_ifs
    · exact .inl (head?_inLines '"' s _)
    · exact .inl rfl

section Returns

theorem upperHexDigit_ne_return : ∀ n < 16, upperHexDigit n ≠ '\r' := by
  decide

theorem return_not_mem_escapeChar (c : Char) : '\r' ∉ escapeChar c := by
  unfold escapeChar
  split_ifs with special back tab line form carriage low
  · rcases special with rfl | rfl <;> decide
  any_goals decide
  · have small : c.toNat < 256 := by
      rcases low with low | rfl
      · exact Nat.lt_trans low (by decide)
      · decide
    have first := upperHexDigit_ne_return (c.toNat / 16) (by omega)
    have second := upperHexDigit_ne_return (c.toNat % 16) (by omega)
    simp [Ne.symm first, Ne.symm second]
  · simpa [eq_comm] using carriage

theorem return_not_mem_escapeLines (n : Nat) (s : List Char) : '\r' ∉ escapeLines n s := by
  fun_induction escapeLines n s with
  | case1 n => simp
  | case2 n cs ih => simpa using ih
  | case3 n cs few ih => simpa using ih
  | case4 n cs many ih => simpa using ih
  | case5 n c cs _ _ ih => simp [return_not_mem_escapeChar, ih]

theorem return_not_mem_inLines (double : mark = '"' ∨ mark = '\'') (unreturned : '\r' ∉ written) :
    '\r' ∉ inLines mark s written := by
  have other : mark ≠ '\r' := by
    rcases double with rfl | rfl <;> decide
  have break_only : '\r' ∉ if '\n' ∈ s then ['\n'] else [] := by
    split_ifs <;> simp
  simp [inLines, Ne.symm other, break_only, unreturned]

theorem return_not_mem_writeString (s : List Char) : '\r' ∉ writeString s := by
  have escaped : '\r' ∉ ['"'] ++ s.flatMap escapeChar ++ ['"'] := by
    simp [return_not_mem_escapeChar]
  have unreturned (shown : ∀ c ∈ s, isControl c = false) : '\r' ∉ s :=
    fun member => absurd (shown '\r' member) (by decide)
  rw [writeString]
  cases taken : Form.ofText s with
  | basic => exact escaped
  | literal => simpa using unreturned (ofText_eq_literal taken).1
  | basicLines => exact return_not_mem_inLines (.inl rfl) (return_not_mem_escapeLines 0 s)
  | literalLines =>
    exact return_not_mem_inLines (.inr rfl) (unreturned (ofText_eq_literalLines taken).1)
  | escaped =>
    dsimp only
    split_ifs
    · exact return_not_mem_inLines (.inl rfl) (return_not_mem_escapeLines 0 s)
    · exact escaped

end Returns

end PathQuery.Toml
