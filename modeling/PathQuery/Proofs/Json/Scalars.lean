import PathQuery.Proofs.Json.Strings
import PathQuery.Proofs.Text.Digits

set_option autoImplicit false

namespace PathQuery.Json

open PathQuery.Text

variable {n : Nat} {c : Char} {digits rest : List Char}

def Stops (rest : List Char) : Prop :=
  ∀ c ∈ rest.head?, c.isDigit = false ∧ c ≠ '.' ∧ isExponentLetter c = false

theorem stops_nil : Stops [] := by simp [Stops]

theorem stops_cons (parts : c = ',' ∨ c = ']' ∨ c = '\x7d') : Stops (c :: rest) := by
  intro d first
  obtain rfl : c = d := by simpa using first
  rcases parts with rfl | rfl | rfl <;> decide

section Digits

theorem le_ofDigitChars (digits : List Char) (n : Nat) : n ≤ Nat.ofDigitChars 10 digits n := by
  induction digits generalizing n with
  | nil => exact Nat.le_refl n
  | cons c cs ih =>
    rw [Nat.ofDigitChars_cons]
    exact Nat.le_trans (by omega) (ih _)

theorem collectWhole_of_fits (whole : fits (Nat.ofDigitChars 10 digits n) = true) :
    collectWhole n 0 digits = (Nat.ofDigitChars 10 digits n, 0) := by
  induction digits generalizing n with
  | nil => rfl
  | cons c cs ih =>
    rw [Nat.ofDigitChars_cons] at whole ⊢
    -- What the digits give so far is no more than the number.
    have less : fits (10 * n + digitValue c) = true := by
      have bound := le_ofDigitChars cs (10 * n + digitValue c)
      rw [fits, decide_eq_true_eq] at whole ⊢
      exact Nat.lt_of_le_of_lt bound whole
    rw [collectWhole, if_pos ⟨rfl, less⟩]
    exact ih whole

theorem outcome_readFraction_none (stops : Stops rest) :
    (readFraction n 0).outcome rest = .ok (none, rest) := by
  cases rest with
  | nil => simp [readFraction, Reader.outcome_skipText]
  | cons c rest =>
    obtain ⟨_, pointless, unscaled⟩ := stops c rfl
    simp [readFraction, Reader.outcome_skipText, Ne.symm pointless, unscaled]

theorem outcome_readNumber {first : Char} {more : List Char} (negative : Bool)
    (written : Nat.toDigits 10 n = first :: more) (small : n < Nat.pow 2 64) (stops : Stops rest) :
    (readNumber negative first).outcome (more ++ rest) = .ok (integerDatum negative n, rest) := by
  have digits := isDigit_of_mem_toDigits n
  have taken : (Reader.takeWhile Char.isDigit : JsonReader (List Char)).outcome (more ++ rest) =
      .ok (more, rest) :=
    Reader.outcome_takeWhile_append (fun c member => digits c (by simp [written, member]))
      fun c next => (stops c next).1
  have canonical : (first = '0' && !more.isEmpty) = false := by
    by_cases zero : first = '0'
    · have alone := digits_of_leading_zero n (by simp [written, zero])
      obtain ⟨-, rfl⟩ : first = '0' ∧ more = [] := by simpa [written] using alone
      simp
    · simp [zero]
  have value : Nat.ofDigitChars 10 (first :: more) 0 = n := by
    rw [← written, Nat.ofDigitChars_toDigits (by decide) (by decide)]
  have collected : collectWhole 0 0 (first :: more) = (n, 0) := by
    rw [collectWhole_of_fits (by simpa [value, fits] using small), value]
  rw [readNumber, Reader.outcome_bind_ok taken]
  simp [canonical, collected, outcome_readFraction_none stops]

end Digits

structure OpensItem (c : Char) : Prop where
  dark : isSpace c = false
  other : c ≠ ']'

theorem opensItem_of_isDigit (digit : c.isDigit = true) : OpensItem c where
  dark := by
    have apart (d : Char) (undigit : d.isDigit = false) : c ≠ d := ne_of_kind digit undigit
    simp [isSpace, apart ' ' rfl, apart '\n' rfl, apart '\t' rfl, apart '\r' rfl]
  other := ne_of_kind digit rfl

/-- A text that is read as a scalar, up to where it stops. Its first character is apart, as it says
what is to be read. -/
structure SpellsScalar (d : Datum) (c : Char) (cs : List Char) : Prop where
  opens : OpensItem c
  scalar : c ≠ '[' ∧ c ≠ '\x7b'
  outcome : ∀ rest, Stops rest → (readScalar c).outcome (cs ++ rest) = .ok (d, rest)

section Integers

variable {first : Char} {more : List Char}

theorem write_natural (n : Nat) : write (.integer n) = Nat.toDigits 10 n := by
  simp [write, Int.toString_eq_repr, Int.repr_eq_if]

theorem write_negative (positive : 0 < n) :
    write (.integer (-(n : Int))) = '-' :: Nat.toDigits 10 n := by
  simp [write, Int.toString_eq_repr, Int.repr_eq_if, Nat.ne_of_gt positive]

theorem spellsScalar_natural (fits : n < Nat.pow 2 64)
    (written : Nat.toDigits 10 n = first :: more) : SpellsScalar (.integer n) first more where
  opens := opensItem_of_isDigit (isDigit_of_toDigits_cons written)
  scalar := by
    have digit := isDigit_of_toDigits_cons written
    exact ⟨ne_of_kind digit rfl, ne_of_kind digit rfl⟩
  outcome := by
    intro rest stops
    have digit := isDigit_of_toDigits_cons written
    rw [readScalar, if_pos digit, outcome_readNumber false written fits stops]
    rfl

theorem spellsScalar_negative (positive : 0 < n) (fits : n ≤ Nat.pow 2 63) :
    SpellsScalar (.integer (-(n : Int))) '-' (Nat.toDigits 10 n) where
  opens := ⟨rfl, by decide⟩
  scalar := by decide
  outcome := by
    intro rest stops
    obtain ⟨first, more, written⟩ := List.exists_cons_of_ne_nil (@Nat.toDigits_ne_nil n 10)
    have digit := isDigit_of_toDigits_cons written
    have small : n < Nat.pow 2 64 := Nat.lt_of_le_of_lt fits (by decide)
    have read := outcome_readNumber true written small stops
    have signed : integerDatum true n = .integer (-(n : Int)) := by
      simp [integerDatum, Nat.ne_of_gt positive, Nat.not_lt.mpr fits]
    rw [signed] at read
    -- The least integer has no positive counterpart: the sign has to come with the digits.
    have reader : readScalar '-' = readNegative := rfl
    rw [reader, written, List.cons_append, readNegative,
      Reader.outcome_bind_ok (Reader.outcome_next?_cons first)]
    simpa [digit] using read

end Integers

section Words

theorem outcome_expect (word : List Char) : (expect word).outcome (word ++ rest) = .ok ((), rest) := by
  induction word with
  | nil => rfl
  | cons c cs ih =>
    rw [expect, List.cons_append, Reader.outcome_bind_ok (Reader.outcome_next?_cons c)]
    simpa using ih

theorem spellsScalar_word {d : Datum} {word : List Char} (opens : OpensItem c)
    (scalar : c ≠ '[' ∧ c ≠ '\x7b') (reads : readScalar c = do expect word; pure d) :
    SpellsScalar d c word where
  opens := opens
  scalar := scalar
  outcome := by
    intro rest _
    rw [reads, Reader.outcome_bind_ok (outcome_expect word), Reader.outcome_pure]

theorem spellsScalar_null : SpellsScalar .null 'n' "ull".toList :=
  spellsScalar_word ⟨rfl, by decide⟩ (by decide) rfl

theorem spellsScalar_true : SpellsScalar (.bool true) 't' "rue".toList :=
  spellsScalar_word ⟨rfl, by decide⟩ (by decide) rfl

theorem spellsScalar_false : SpellsScalar (.bool false) 'f' "alse".toList :=
  spellsScalar_word ⟨rfl, by decide⟩ (by decide) rfl

theorem spellsScalar_string (s : String) :
    SpellsScalar (.string s) '"' (s.toList.flatMap escapeChar ++ ['"']) where
  opens := ⟨rfl, by decide⟩
  scalar := by decide
  outcome := by
    intro rest _
    rw [List.append_assoc, List.singleton_append]
    exact Reader.outcome_bind_ok (outcome_readString s)

end Words

end PathQuery.Json
