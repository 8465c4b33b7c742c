import PathQuery.Proofs.Text.Digits
import PathQuery.Proofs.Toml.Strings
import PathQuery.Settings.Basic

set_option autoImplicit false

namespace PathQuery.Toml

open PathQuery.Text

variable {c : Char} {s word rest : List Char} {n : Nat}

theorem outcome_takeWhile_append {p : Char → Bool} (taken : ∀ c ∈ s, p c = true)
    (stop : p c = false) :
    (Reader.takeWhile p : TomlReader (List Char)).outcome (s ++ c :: rest) =
      .ok (s, c :: rest) :=
  Reader.outcome_takeWhile_append taken (by simpa using stop)

section Digits

theorem isGrouped_of_forall {p : Char → Bool} (something : s ≠ []) (underscore : p '_' = false)
    (good : ∀ c ∈ s, p c = true) : isGrouped p s = true := by
  fun_induction isGrouped p s with
  | case1 => exact absurd rfl something
  | case2 c => exact good c List.mem_cons_self
  | case3 c cs ih => simp [underscore] at good
  | case4 c cs single other ih =>
    obtain ⟨first, later⟩ := List.forall_mem_cons.mp good
    have more : cs ≠ [] := fun none => single none
    simp [first, ih more later]

theorem isDecimal_toDigits (n : Nat) : isDecimal (Nat.toDigits 10 n) = true := by
  have grouped : isGrouped Char.isDigit (Nat.toDigits 10 n) = true :=
    isGrouped_of_forall Nat.toDigits_ne_nil rfl (isDigit_of_mem_toDigits n)
  by_cases zero : (Nat.toDigits 10 n).head? = some '0'
  · rw [digits_of_leading_zero n zero]
    rfl
  · simp [isDecimal, grouped, zero]

theorem digitsIn_eq (digits : ∀ c ∈ s, c.isDigit = true) :
    digitsIn 10 s = Nat.ofDigitChars 10 s 0 := by
  rw [digitsIn, Nat.ofDigitChars]
  apply List.foldl_ext _ _ 0
  intro n c member
  simp [Unicode.hexDigit?, digits c member]

theorem ungroup_of_digits (digits : ∀ c ∈ s, c.isDigit = true) : ungroup s = s := by
  rw [ungroup, List.filter_eq_self]
  intro c member
  exact decide_eq_true (ne_of_kind (digits c member) rfl)

theorem magnitude?_toDigits (signed : Bool) (n : Nat) :
    magnitude? signed (Nat.toDigits 10 n) = some n := by
  have digits := isDigit_of_mem_toDigits n
  have value : digitsIn 10 (ungroup (Nat.toDigits 10 n)) = n := by
    rw [ungroup_of_digits digits, digitsIn_eq digits, Nat.ofDigitChars_toDigits] <;> decide
  unfold magnitude?
  split
  next same => simp [same] at digits
  next same => simp [same] at digits
  next same => simp [same] at digits
  next => rw [if_pos (isDecimal_toDigits n), value]

theorem integer?_toDigits (small : n < Nat.pow 2 63) :
    integer? (Nat.toDigits 10 n) = some (Int.ofNat n) := by
  have digits := isDigit_of_mem_toDigits n
  have unsigned : splitSign (Nat.toDigits 10 n) = (false, Nat.toDigits 10 n) := by
    unfold splitSign
    split
    next same => simp [same] at digits
    next same => simp [same] at digits
    next => rfl
  simp [integer?, unsigned, magnitude?_toDigits, small]

end Digits

section Moments

theorem dash_of_isDate (date : isDate s = true) : '-' ∈ s := by
  unfold isDate at date
  split at date
  next =>
    simp only [Bool.and_eq_true, beq_iff_eq] at date
    exact List.mem_of_getElem? date.1.1.1.2
  next => cases date

theorem colon_of_isTime (time : isTime s = true) : ':' ∈ s := by
  have colon : s[5]? = some ':' := by simp_all [isTime]
  exact List.mem_of_getElem? colon

theorem mark_of_isMoment (moment : isMoment s = true) : '-' ∈ s ∨ ':' ∈ s := by
  simp only [isMoment, Bool.or_eq_true, Bool.and_eq_true] at moment
  rcases moment with (time | date) | ⟨⟨date, _⟩, _⟩
  · exact .inr (colon_of_isTime time)
  · exact .inl (dash_of_isDate date)
  · exact .inl (List.mem_of_mem_take (dash_of_isDate date))

end Moments

section Words

theorem isWordChar_of_isDigit (digit : c.isDigit = true) : isWordChar c = true := by
  simp [isWordChar, Char.isAlphanum, digit]

theorem outcome_readValue_word {v : Item} (depth : Nat) (something : word ≠ [])
    (fits : ∀ c ∈ word, isWordChar c = true) (undated : isDate word = false)
    (value : wordValue? word = some v) (stop : isWordChar c = false) :
    Reader.outcome (readValue depth) (word ++ c :: rest) = .ok (v, c :: rest) := by
  have read : readWord.outcome (word ++ c :: rest) = .ok (v, c :: rest) := by
    have taken := @outcome_takeWhile_append c word rest isWordChar fits stop
    rw [readWord, Reader.outcome_bind_ok taken]
    simp [undated, value]
  obtain ⟨d, ds, rfl⟩ := List.exists_cons_of_ne_nil something
  have first : isWordChar d = true := fits d List.mem_cons_self
  have unquoted : ¬(d = '"' ∨ d = '\'') :=
    not_or.mpr ⟨ne_of_kind first rfl, ne_of_kind first rfl⟩
  have unbracketed : ¬(d = '[' ∨ d = '\x7b') :=
    not_or.mpr ⟨ne_of_kind first rfl, ne_of_kind first rfl⟩
  unfold Reader.outcome at read ⊢
  rw [List.cons_append] at read ⊢
  rw [readValue.eq_def]
  simpa only [unquoted, unbracketed, if_false] using read

variable (depth : Nat)

theorem outcome_readValue_boolean (b : Bool) (stop : isWordChar c = false) :
    Reader.outcome (readValue depth) (Settings.booleanText b ++ c :: rest) =
      .ok (.boolean b, c :: rest) := by
  cases b with
  | false =>
    exact outcome_readValue_word depth (List.cons_ne_nil _ _) (List.all_eq_true.mp rfl) rfl rfl stop
  | true =>
    exact outcome_readValue_word depth (List.cons_ne_nil _ _) (List.all_eq_true.mp rfl) rfl rfl stop

theorem outcome_readValue_count (small : n < Nat.pow 2 63) (stop : isWordChar c = false) :
    Reader.outcome (readValue depth) ((toString n).toList ++ c :: rest) =
      .ok (.integer (Int.ofNat n), c :: rest) := by
  have digits := isDigit_of_mem_toDigits n
  have undashed : '-' ∉ Nat.toDigits 10 n := fun member => ne_of_kind (digits _ member) rfl rfl
  have uncolon : ':' ∉ Nat.toDigits 10 n := fun member => ne_of_kind (digits _ member) rfl rfl
  have undated : isDate (Nat.toDigits 10 n) = false :=
    Bool.eq_false_iff.mpr fun date => undashed (dash_of_isDate date)
  have timeless : isMoment (Nat.toDigits 10 n) = false :=
    Bool.eq_false_iff.mpr fun moment => (mark_of_isMoment moment).elim undashed uncolon
  have value : wordValue? (Nat.toDigits 10 n) = some (.integer (Int.ofNat n)) := by
    have unlettered : Nat.toDigits 10 n ≠ "true".toList ∧ Nat.toDigits 10 n ≠ "false".toList := by
      constructor <;> intro same <;> exact absurd (digits 'e' (by simp [same])) (by decide)
    rw [wordValue?, if_neg unlettered.1, if_neg unlettered.2]
    simp [timeless, integer?_toDigits small]
  rw [Nat.toString_eq_repr, Nat.toList_repr]
  exact outcome_readValue_word depth Nat.toDigits_ne_nil
    (fun c member => isWordChar_of_isDigit (digits c member)) undated value stop

end Words

end PathQuery.Toml
