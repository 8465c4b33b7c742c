import Mathlib.Data.List.Basic
import PathQuery.Unicode.Character

set_option autoImplicit false

namespace PathQuery.Text

theorem ne_of_kind {p : Char → Bool} {c d : Char} (kind : p c = true) (other : p d = false) :
    c ≠ d := by
  rintro rfl
  simp [kind] at other

theorem isDigit_of_mem_toDigits (n : Nat) : ∀ c ∈ Nat.toDigits 10 n, c.isDigit = true :=
  fun _ member => Nat.isDigit_of_mem_toDigits (by decide) (by decide) member

theorem isDigit_of_toDigits_cons {n : Nat} {c : Char} {cs : List Char}
    (digits : Nat.toDigits 10 n = c :: cs) : c.isDigit = true :=
  isDigit_of_mem_toDigits n c (by simp [digits])

theorem digits_of_leading_zero (n : Nat) (zero : (Nat.toDigits 10 n).head? = some '0') :
    Nat.toDigits 10 n = ['0'] := by
  induction n using Nat.strongRecOn with
  | ind n ih =>
    rw [Nat.toDigits_eq_if (by decide)] at zero ⊢
    by_cases small : n < 10
    · rw [if_pos small] at zero ⊢
      simpa using zero
    · rw [if_neg small] at zero
      obtain ⟨d, ds, digits⟩ := List.exists_cons_of_ne_nil (@Nat.toDigits_ne_nil (n / 10) 10)
      have front : (Nat.toDigits 10 (n / 10)).head? = some '0' := by
        rw [digits] at zero ⊢
        exact zero
      have tens : n / 10 = 0 := by
        rw [← Nat.ofDigitChars_toDigits (b := 10) (n := n / 10) (by decide) (by decide),
          ih (n / 10) (by omega) front]
        rfl
      omega

end PathQuery.Text
