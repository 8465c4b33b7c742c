import Mathlib.Tactic.SplitIfs
import PathQuery.Document.Json.Reader
import PathQuery.Document.Json.Writer
import PathQuery.Proofs.Text.Outcome

set_option autoImplicit false

namespace PathQuery.Json

open PathQuery.Text

variable {c d : Char} {done rest : List Char} {n : Nat}

section Escapes

theorem hexDigit?_hexDigitChar : ∀ n < 16, Unicode.hexDigit? (hexDigitChar n) = some n := by
  decide

theorem hasBytes_append {s : List Char} (long : s.length = n) : hasBytes n (s ++ rest) = true := by
  have each (s : List Char) : s.length ≤ Utf8.size s := by
    induction s with
    | nil => exact Nat.zero_le _
    | cons c cs ih =>
      have one := c.utf8Size_pos
      simp only [List.length_cons, Utf8.size]
      omega
  have bound := each s
  rw [hasBytes, List.take_left' long, decide_eq_true_eq]
  omega

theorem outcome_readUnit_small (small : n < 256) :
    readUnit.outcome (['0', '0', hexDigitChar (n / 16), hexDigitChar (n % 16)] ++ rest) =
      .ok (n, rest) := by
  have high := hexDigit?_hexDigitChar (n / 16) (by omega)
  have low := hexDigit?_hexDigitChar (n % 16) (by omega)
  have zero : Unicode.hexDigit? '0' = some 0 := by decide
  have value : 16 * (n / 16) + n % 16 = n := Nat.div_add_mod n 16
  have enough := @hasBytes_append rest 4 ['0', '0', hexDigitChar (n / 16), hexDigitChar (n % 16)] rfl
  simp only [readUnit, Reader.outcome_bind, Reader.outcome_ahead, enough]
  simp [Unicode.hexValue, high, low, zero, value]

theorem outcome_readEscape_code : readEscape.outcome ('u' :: rest) = readCode.outcome rest := by
  rw [readEscape, Reader.outcome_bind_ok (Reader.outcome_next?_cons 'u')]
  rfl

theorem outcome_readEscape_small (small : c.toNat < 256) :
    readEscape.outcome (['u', '0', '0', hexDigitChar (c.toNat / 16),
      hexDigitChar (c.toNat % 16)] ++ rest) = .ok (c, rest) := by
  have below : isLowUnit c.toNat = false ∧ isHighUnit c.toNat = false := by
    simp only [isLowUnit, isHighUnit, Bool.and_eq_false_iff, decide_eq_false_iff_not]
    omega
  rw [List.cons_append, outcome_readEscape_code, readCode,
    Reader.outcome_bind_ok (outcome_readUnit_small small)]
  simp [below]

end Escapes

section ReadChars

theorem outcome_readChars_plain (unquoted : c ≠ '"') (unslashed : c ≠ '\\') (shown : ' ' ≤ c) :
    Reader.outcome (readChars done) (c :: rest) = Reader.outcome (readChars (c :: done)) rest := by
  unfold Reader.outcome
  rw [readChars]
  simp only [unquoted, unslashed, Char.not_lt.mpr shown, if_false]
  cases readChars (c :: done) rest <;> rfl

theorem outcome_readChars_escape {text : List Char}
    (read : readEscape.outcome text = .ok (c, rest)) :
    Reader.outcome (readChars done) ('\\' :: text) =
      Reader.outcome (readChars (c :: done)) rest := by
  obtain ⟨le, escaped⟩ := Reader.of_outcome read
  unfold Reader.outcome
  rw [readChars]
  simp only [escaped]
  cases readChars (c :: done) rest <;> rfl

theorem outcome_readChars_escapeChar (c : Char) :
    Reader.outcome (readChars done) (escapeChar c ++ rest) =
      Reader.outcome (readChars (c :: done)) rest := by
  unfold escapeChar
  split_ifs with special back tab line form carriage low
  · rcases special with rfl | rfl
    · exact outcome_readChars_escape rfl
    · exact outcome_readChars_escape rfl
  · subst back
    exact outcome_readChars_escape rfl
  · subst tab
    exact outcome_readChars_escape rfl
  · subst line
    exact outcome_readChars_escape rfl
  · subst form
    exact outcome_readChars_escape rfl
  · subst carriage
    exact outcome_readChars_escape rfl
  · have small : c.toNat < 256 := Nat.lt_trans low (by decide)
    exact outcome_readChars_escape (outcome_readEscape_small small)
  · obtain ⟨unquoted, unslashed⟩ := not_or.mp special
    exact outcome_readChars_plain unquoted unslashed (Char.not_lt.mp low)

theorem outcome_readChars_text (text : List Char) :
    Reader.outcome (readChars done) (text.flatMap escapeChar ++ '"' :: rest) =
      .ok (text.reverse ++ done, rest) := by
  induction text generalizing done with
  | nil =>
    unfold Reader.outcome
    rw [List.flatMap_nil, List.nil_append, readChars]
    rfl
  | cons c cs ih =>
    rw [List.flatMap_cons, List.append_assoc, outcome_readChars_escapeChar, ih, List.reverse_cons,
      List.append_assoc, List.singleton_append]

end ReadChars

theorem outcome_readString (s : String) :
    readString.outcome (s.toList.flatMap escapeChar ++ '"' :: rest) = .ok (s, rest) := by
  rw [readString, Reader.outcome_bind_ok (outcome_readChars_text s.toList)]
  simp

end PathQuery.Json
