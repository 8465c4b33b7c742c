import PathQuery.Gzip.Inflate

set_option autoImplicit false

namespace PathQuery.Gzip

open PathQuery.Text

-- The checksum is the remainder of a division of polynomials over two elements.
def polynomial : UInt32 := 0xedb88320

def reduce (crc : UInt32) : (bits : Nat) → UInt32
  | 0 => crc
  | bits + 1 =>
      reduce (if crc &&& 1 = 1 then (crc >>> 1) ^^^ polynomial else crc >>> 1) bits

def checksum (bytes : List UInt8) : UInt32 :=
  (bytes.foldl (fun crc b => reduce (crc ^^^ b.toUInt32) 8) 0xffffffff) ^^^ 0xffffffff

abbrev ByteReader (α : Type) := Reader UInt8 Error α

def magic : List UInt8 := [0x1f, 0x8b]

def isCompressed (bytes : List UInt8) : Bool := magic.isPrefixOf bytes

def takeBytes (n : Nat) : ByteReader (List UInt8) := do
  let bytes := (← Reader.ahead).take n
  if bytes.length = n then do
    Reader.skip n
    pure bytes
  else Reader.fail .truncated

def littleEndian (bytes : List UInt8) : Nat := bytes.foldr (fun b n => 256 * n + b.toNat) 0

def takeText : ByteReader (List UInt8) := do
  let text ← Reader.takeWhile (· != 0)
  pure (text ++ (← takeBytes 1))

structure HeaderFlags where
  checksum : Bool
  extra : Bool
  name : Bool
  comment : Bool

def HeaderFlags.ofByte? (b : UInt8) : Option HeaderFlags :=
  if b < 0x20 then
    let bit := b.toNat.testBit
    some ⟨bit 1, bit 2, bit 3, bit 4⟩
  else none

def takeIf (given : Bool) (r : ByteReader (List UInt8)) : ByteReader (List UInt8) :=
  if given then r else pure []

def takeExtra : ByteReader (List UInt8) := do
  let size ← takeBytes 2
  pure (size ++ (← takeBytes (littleEndian size)))

-- Passes over a header. It can have a checksum of its own.
def skipHeader : ByteReader Unit := do
  let start ← takeBytes 10
  match isCompressed start && start[2]? == some 8, start[3]?.bind HeaderFlags.ofByte? with
  | true, some flags => do
      let extra ← takeIf flags.extra takeExtra
      let name ← takeIf flags.name takeText
      let comment ← takeIf flags.comment takeText
      let given ← takeIf flags.checksum (takeBytes 2)
      let expected := (checksum (start ++ extra ++ name ++ comment)).toNat % Nat.pow 2 16
      if flags.checksum && littleEndian given ≠ expected then Reader.fail .corrupt else pure ()
  | _, _ => Reader.fail .corrupt

def readBody : BitReader (List UInt8) := do
  let out := (← inflate #[]).toList
  skipToByte
  let sum ← readNumber 32
  let size ← readNumber 32
  if sum = (checksum out).toNat ∧ size = out.length % Nat.pow 2 32 then pure out
  else Reader.fail .corrupt

def expand (bytes : List UInt8) : Except Error (List UInt8) := do
  let header ← skipHeader bytes
  let body ← readBody (bitsOf header.rest)
  .ok body.value

end PathQuery.Gzip
