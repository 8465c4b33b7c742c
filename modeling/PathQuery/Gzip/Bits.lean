import PathQuery.Text.Reading

set_option autoImplicit false

namespace PathQuery.Gzip

open PathQuery.Text

inductive Error where
  | truncated
  | corrupt
deriving DecidableEq, Repr

def bitsOf (bytes : List UInt8) : List Bool :=
  bytes.flatMap fun b => (List.range 8).map b.toNat.testBit

abbrev BitReader (α : Type) := Reader Bool Error α

def readBit : BitReader Bool := do
  match ← Reader.next? with
  | some b => pure b
  | none => Reader.fail .truncated

def readNumber : (n : Nat) → BitReader Nat
  | 0 => pure 0
  | n + 1 => do
      let low ← readBit
      let high ← readNumber n
      pure (2 * high + low.toNat)

-- Passes over what is left of a byte. The bits are those of whole bytes.
def skipToByte : BitReader Unit := do
  Reader.skip ((← Reader.ahead).length % 8)

end PathQuery.Gzip
