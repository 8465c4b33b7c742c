set_option autoImplicit false

namespace PathQuery.Utf8

structure Error where
  validTo : Nat
  -- How many of the bytes after them cannot begin a character, or nothing if the bytes end within a
  -- character.
  invalid : Option Nat
deriving DecidableEq, Repr

def Error.message (e : Error) : String :=
  match e.invalid with
  | some n =>
      "invalid utf-8 sequence of " ++ toString n ++ " bytes from index " ++ toString e.validTo
  | none => "incomplete utf-8 byte sequence from index " ++ toString e.validTo

structure Started where
  bits : Nat
  taken : Nat
  missing : Nat
  low : Nat
  high : Nat
deriving DecidableEq, Repr

-- The character that a byte begins. The ranges leave out numbers that have a shorter form or that
-- are no characters.
def start? (b : Nat) : Option Started :=
  if 0xc2 ≤ b ∧ b ≤ 0xdf then some ⟨b - 0xc0, 1, 1, 0x80, 0xbf⟩
  else if 0xe0 ≤ b ∧ b ≤ 0xef then
    some ⟨b - 0xe0, 1, 2, if b = 0xe0 then 0xa0 else 0x80, if b = 0xed then 0x9f else 0xbf⟩
  else if 0xf0 ≤ b ∧ b ≤ 0xf4 then
    some ⟨b - 0xf0, 1, 3, if b = 0xf0 then 0x90 else 0x80, if b = 0xf4 then 0x8f else 0xbf⟩
  else none

def decodeFrom (validTo : Nat) (started : Option Started) :
    List UInt8 → Except Error (List Char)
  | [] =>
      match started with
      | none => .ok []
      | some _ => .error ⟨validTo, none⟩
  | byte :: bytes =>
      let b := byte.toNat
      match started with
      | none =>
          if b < 0x80 then (Char.ofNat b :: ·) <$> decodeFrom (validTo + 1) none bytes
          else match start? b with
            | some s => decodeFrom validTo (some s) bytes
            | none => .error ⟨validTo, some 1⟩
      | some s =>
          if b < s.low ∨ s.high < b then .error ⟨validTo, some s.taken⟩
          else
            let bits := 64 * s.bits + (b - 0x80)
            if s.missing = 1 then
              (Char.ofNat bits :: ·) <$> decodeFrom (validTo + s.taken + 1) none bytes
            else decodeFrom validTo (some ⟨bits, s.taken + 1, s.missing - 1, 0x80, 0xbf⟩) bytes

def decode (bytes : List UInt8) : Except Error (List Char) := decodeFrom 0 none bytes

def size : List Char → Nat
  | [] => 0
  | c :: cs => c.utf8Size + size cs

def encode (text : List Char) : List UInt8 := text.flatMap String.utf8EncodeChar

end PathQuery.Utf8
