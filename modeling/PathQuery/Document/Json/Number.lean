import PathQuery.Document.Datum
import PathQuery.Text.Reading

set_option autoImplicit false

namespace PathQuery.Json

open PathQuery.Numeral PathQuery.Text

inductive Error where
  -- The text ends where more of the value is due.
  | endOfInput
  | malformed
deriving DecidableEq, Repr

abbrev JsonReader (α : Type) := Reader Char Error α

structure Collected where
  digits : Nat
  exponent : Int

def digitValue (c : Char) : Nat := c.toNat - '0'.toNat

def fits (n : Nat) : Bool := n < Nat.pow 2 64

-- Collects digits before the point. Once one does not fit, it and those after it are dropped, and
-- the number is not an integer any more.
def collectWhole (digits : Nat) (dropped : Nat) : List Char → Nat × Nat
  | [] => (digits, dropped)
  | c :: cs =>
      if dropped = 0 ∧ fits (10 * digits + digitValue c) then
        collectWhole (10 * digits + digitValue c) 0 cs
      else collectWhole digits (dropped + 1) cs

def collectFraction (n : Collected) : List Char → Collected
  | [] => n
  | c :: cs =>
      if fits (10 * n.digits + digitValue c) then
        collectFraction ⟨10 * n.digits + digitValue c, n.exponent - 1⟩ cs
      else n

def powerOfTen (n : Nat) : Binary64 := .ofDecimal false 1 n

-- Divides by the greatest power of ten as long as the exponent is below what one division can do,
-- and then by what is left of it.
def divideSteps (x : Binary64) (n : Nat) : Binary64 :=
  if 308 < n ∧ x ≠ .zero false then divideSteps (x.div (powerOfTen 308)) (n - 308)
  else if 308 < n then x
  else x.div (powerOfTen n)
termination_by n

-- The number that was collected. Infinity is an error.
def Collected.toFloat (n : Collected) : Except Error Binary64 :=
  let x := Binary64.ofNat n.digits
  if n.exponent < 0 then .ok (divideSteps x n.exponent.natAbs)
  else if n.digits = 0 then .ok x
  else if 308 < n.exponent then .error .malformed
  else match x.mul (powerOfTen n.exponent.toNat) with
    | .infinite _ => .error .malformed
    | y => .ok y

-- Where a digit is due: the end of the text and another character are different errors.
def needDigit : JsonReader Unit := do
  match ← Reader.peek with
  | none => Reader.fail .endOfInput
  | some c => if c.isDigit then pure () else Reader.fail .malformed

def exponentBound : Nat := Nat.pow 2 31 - 1

-- The sign and the digits of an exponent, after its letter. An exponent that is out of bounds makes
-- the number zero or an error.
def readExponent (n : Collected) : JsonReader Binary64 := do
  let negative ← Reader.skipText ['-']
  if !negative then
    let _ ← Reader.skipText ['+']
  needDigit
  let e := (← Reader.takeWhile Char.isDigit).foldl (fun e c => 10 * e + digitValue c) 0
  if exponentBound < e then
    if n.digits ≠ 0 && !negative then Reader.fail .malformed else pure (.zero false)
  else
    Reader.ofExcept (Collected.toFloat { n with exponent := n.exponent + if negative then -(e : Int) else e })

def isExponentLetter (c : Char) : Bool := c == 'e' || c == 'E'

def readFraction (digits dropped : Nat) : JsonReader (Option Binary64) := do
  let point ← Reader.skipText ['.']
  let n : Collected ←
    if point then do
      needDigit
      pure (collectFraction ⟨digits, dropped⟩ (← Reader.takeWhile Char.isDigit))
    else pure ⟨digits, dropped⟩
  match ← Reader.peek with
  | some c =>
      if isExponentLetter c then do
        Reader.skip 1
        some <$> readExponent n
      else if point || dropped ≠ 0 then some <$> Reader.ofExcept n.toFloat
      else pure none
  | none => if point || dropped ≠ 0 then some <$> Reader.ofExcept n.toFloat else pure none

-- A number with a minus sign is a float if an integer of 64 bits cannot hold it, and so is zero.
def integerDatum (negative : Bool) (digits : Nat) : Datum :=
  if negative then
    if digits = 0 ∨ Nat.pow 2 63 < digits then .float (Binary64.ofNat digits).negate
    else .integer (-(digits : Int))
  else .integer digits

-- A number whose first digit was read. A zero in front of other digits is an error.
def readNumber (negative : Bool) (first : Char) : JsonReader Datum := do
  let more ← Reader.takeWhile Char.isDigit
  if first = '0' && !more.isEmpty then Reader.fail .malformed
  else
    let (digits, dropped) := collectWhole 0 0 (first :: more)
    match ← readFraction digits dropped with
    | some x => pure (.float (if negative then x.negate else x))
    | none => pure (integerDatum negative digits)

def readNegative : JsonReader Datum := do
  match ← Reader.next? with
  | none => Reader.fail .endOfInput
  | some c => if c.isDigit then readNumber true c else Reader.fail .malformed

end PathQuery.Json
