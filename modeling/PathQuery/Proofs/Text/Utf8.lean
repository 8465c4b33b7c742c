import Mathlib.Tactic.SplitIfs
import PathQuery.Text.Utf8

set_option autoImplicit false

namespace PathQuery.Utf8

theorem length_encode (text : List Char) : (encode text).length = size text := by
  induction text with
  | nil => rfl
  | cons c cs ih => simp [encode, size, List.flatMap_cons, ← ih]

theorem encode_append (s t : List Char) : encode (s ++ t) = encode s ++ encode t :=
  List.flatMap_append

theorem size_append (s t : List Char) : size (s ++ t) = size s + size t := by
  rw [← length_encode, encode_append, List.length_append, length_encode, length_encode]

section Decode

variable {validTo b : Nat} {s : Started} (bytes : List UInt8)

theorem toNat_byte (small : b < 256) : (UInt8.ofNat b).toNat = b := by
  rw [UInt8.toNat_ofNat']
  exact Nat.mod_eq_of_lt small

theorem decodeFrom_front (long : 0x80 ≤ b) (small : b < 256) (starts : start? b = some s) :
    decodeFrom validTo none (UInt8.ofNat b :: bytes) = decodeFrom validTo (some s) bytes := by
  simp only [decodeFrom, toNat_byte small, starts, Nat.not_lt.mpr long, if_false]

theorem decodeFrom_middle (above : s.low ≤ b) (below : b ≤ s.high) (small : b < 256)
    (more : s.missing ≠ 1) :
    decodeFrom validTo (some s) (UInt8.ofNat b :: bytes) =
      decodeFrom validTo
        (some ⟨64 * s.bits + (b - 0x80), s.taken + 1, s.missing - 1, 0x80, 0xbf⟩) bytes := by
  have inside : ¬(b < s.low ∨ s.high < b) := by omega
  simp only [decodeFrom, toNat_byte small, inside, more, if_false]

theorem decodeFrom_last (above : s.low ≤ b) (below : b ≤ s.high) (small : b < 256)
    (last : s.missing = 1) :
    decodeFrom validTo (some s) (UInt8.ofNat b :: bytes) =
      (Char.ofNat (64 * s.bits + (b - 0x80)) :: ·) <$>
        decodeFrom (validTo + s.taken + 1) none bytes := by
  have inside : ¬(b < s.low ∨ s.high < b) := by omega
  simp only [decodeFrom, toNat_byte small, inside, last, if_false, if_true]

end Decode

theorem decodeFrom_encodeChar (validTo : Nat) (c : Char) (bytes : List UInt8) :
    decodeFrom validTo none (String.utf8EncodeChar c ++ bytes) =
      (c :: ·) <$> decodeFrom (validTo + c.utf8Size) none bytes := by
  -- A character is no surrogate, which is what the narrower ranges of the second byte are about.
  have scalar : c.val.toNat < 0xd800 ∨ 0xdfff < c.val.toNat ∧ c.val.toNat < 0x110000 := c.valid
  have whole : Char.ofNat c.val.toNat = c := Char.ofNat_toNat c
  rw [← String.length_utf8EncodeChar]
  unfold String.utf8EncodeChar
  generalize c.val.toNat = v at scalar whole
  simp only
  split_ifs with one two three
  · have small : v < 0x80 := by omega
    have byte : v < 256 := by omega
    simp only [List.cons_append, List.nil_append, decodeFrom, toNat_byte byte, small, if_true, whole,
      List.length_singleton]
  · have starts : start? (v / 64 % 32 + 192) = some ⟨v / 64 % 32, 1, 1, 0x80, 0xbf⟩ := by
      have range : 0xc2 ≤ v / 64 % 32 + 192 ∧ v / 64 % 32 + 192 ≤ 0xdf := by omega
      simp [start?, range]
    have bits : 64 * (v / 64 % 32) + (v % 64 + 128 - 0x80) = v := by omega
    rw [List.cons_append, List.singleton_append, decodeFrom_front _ (by omega) (by omega) starts,
      decodeFrom_last _ (by simp) (by simp; omega) (by omega) rfl]
    simp only [bits, whole, List.length_cons, List.length_nil]
  · have starts : start? (v / 4096 % 16 + 224) = some ⟨v / 4096 % 16, 1, 2,
        if v / 4096 % 16 + 224 = 0xe0 then 0xa0 else 0x80,
        if v / 4096 % 16 + 224 = 0xed then 0x9f else 0xbf⟩ := by
      have above : ¬(0xc2 ≤ v / 4096 % 16 + 224 ∧ v / 4096 % 16 + 224 ≤ 0xdf) := by omega
      have range : 0xe0 ≤ v / 4096 % 16 + 224 ∧ v / 4096 % 16 + 224 ≤ 0xef := by omega
      simp only [start?, above, range, and_self, if_true, if_false, Nat.add_sub_cancel]
    have bits : 64 * (64 * (v / 4096 % 16) + (v / 64 % 64 + 128 - 0x80)) + (v % 64 + 128 - 0x80) =
        v := by omega
    simp only [List.cons_append, List.nil_append]
    rw [decodeFrom_front _ (by omega) (by omega) starts,
      decodeFrom_middle _ (by dsimp only; split_ifs <;> omega) (by dsimp only; split_ifs <;> omega)
        (by omega) (by simp),
      decodeFrom_last _ (by simp) (by simp; omega) (by omega) rfl]
    simp only [bits, whole, List.length_cons, List.length_nil]
  · have starts : start? (v / 262144 % 8 + 240) = some ⟨v / 262144 % 8, 1, 3,
        if v / 262144 % 8 + 240 = 0xf0 then 0x90 else 0x80,
        if v / 262144 % 8 + 240 = 0xf4 then 0x8f else 0xbf⟩ := by
      have above : ¬(0xc2 ≤ v / 262144 % 8 + 240 ∧ v / 262144 % 8 + 240 ≤ 0xdf) := by omega
      have above' : ¬(0xe0 ≤ v / 262144 % 8 + 240 ∧ v / 262144 % 8 + 240 ≤ 0xef) := by omega
      have range : 0xf0 ≤ v / 262144 % 8 + 240 ∧ v / 262144 % 8 + 240 ≤ 0xf4 := by omega
      simp only [start?, above, above', range, and_self, if_true, if_false, Nat.add_sub_cancel]
    have bits : 64 * (64 * (64 * (v / 262144 % 8) + (v / 4096 % 64 + 128 - 0x80)) +
        (v / 64 % 64 + 128 - 0x80)) + (v % 64 + 128 - 0x80) = v := by omega
    simp only [List.cons_append, List.nil_append]
    rw [decodeFrom_front _ (by omega) (by omega) starts,
      decodeFrom_middle _ (by dsimp only; split_ifs <;> omega) (by dsimp only; split_ifs <;> omega)
        (by omega) (by simp),
      decodeFrom_middle _ (by simp) (by simp; omega) (by omega) (by simp),
      decodeFrom_last _ (by simp) (by simp; omega) (by omega) rfl]
    simp only [bits, whole, List.length_cons, List.length_nil]

theorem decodeFrom_encode (validTo : Nat) (text : List Char) :
    decodeFrom validTo none (encode text) = .ok text := by
  induction text generalizing validTo with
  | nil => rfl
  | cons c cs ih =>
    have first : encode (c :: cs) = String.utf8EncodeChar c ++ encode cs := List.flatMap_cons
    rw [first, decodeFrom_encodeChar, ih]
    rfl

theorem decode_encode (text : List Char) : decode (encode text) = .ok text :=
  decodeFrom_encode 0 text

end PathQuery.Utf8
