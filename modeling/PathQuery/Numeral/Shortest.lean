import PathQuery.Numeral.Binary64

set_option autoImplicit false

namespace PathQuery.Numeral

structure Decimal where
  digits : Nat
  exponent : Int
deriving DecidableEq, Repr

namespace Decimal

def strip (digits : Nat) (exponent : Int) : Decimal :=
  if 0 < digits ∧ digits % 10 = 0 then strip (digits / 10) (exponent + 1) else ⟨digits, exponent⟩
termination_by digits

def leadingExponent (num den : Nat) : Int :=
  let guess : Int := ((num.log2 : Int) - den.log2) * 30103 / 100000
  let reaches (e : Int) : Bool :=
    let (up, down) := Binary64.powerRatio 10 e
    den * up ≤ num * down
  if reaches (guess + 1) then guess + 1
  else if reaches guess then guess
  else guess - 1

-- The ends of the interval of ratios that round to `m · 2 ^ e`, in quarters of its unit. The
-- numbers below a power of two are twice as dense as those above it.
def interval (m : Nat) (e : Int) : Nat × Nat :=
  let below := if m = Nat.pow 2 52 ∧ Binary64.leastExponent < e then 1 else 2
  (4 * m - below, 4 * m + 2)

-- The decimal nearest to the number among those whose last digit stands at the given place, if it
-- rounds to the number. Of two that are equally near it is the even one.
def atPlace? (m : Nat) (e place : Int) : Option Nat :=
  let (up, down) := Binary64.powerRatio 2 (e - 2)
  let (unit, parts) := Binary64.powerRatio 10 place
  -- All are multiplied by the same denominators: a quarter is `up * parts`, a step `unit * down`.
  let quarter := up * parts
  let step := unit * down
  let value := 4 * m * quarter
  let (low, high) := interval m e
  let inside (c : Nat) : Bool :=
    let x := c * step
    if m % 2 = 0 then low * quarter ≤ x && x ≤ high * quarter
    else low * quarter < x && x < high * quarter
  let floor := value / step
  let nearest := Binary64.roundDiv value step
  let other := if nearest = floor then floor + 1 else floor
  if inside nearest then some nearest
  else if inside other then some other
  else none

def search (m : Nat) (e leading : Int) : (count digits : Nat) → Decimal
  | 0, digits => ⟨m, leading - digits⟩
  | count + 1, digits =>
      let place := leading - digits
      match atPlace? m e place with
      | some c => strip c place
      | none => search m e leading count (digits + 1)

-- The shortest decimal that rounds to `m · 2 ^ e`. Seventeen digits are always enough.
def shortest (m : Nat) (e : Int) : Decimal :=
  if m = 0 then ⟨0, 0⟩
  else
    let (num, den) := Binary64.ratio m e
    search m e (leadingExponent num den) 17 0

def digitText (d : Decimal) : List Char := Nat.toDigits 10 d.digits

def pointPlace (d : Decimal) : Int := d.digitText.length + d.exponent

def positional (d : Decimal) : List Char :=
  let digits := d.digitText
  if 0 ≤ d.exponent then digits ++ List.replicate d.exponent.toNat '0'
  else if 0 < d.pointPlace then
    digits.take d.pointPlace.toNat ++ ['.'] ++ digits.drop d.pointPlace.toNat
  else ['0', '.'] ++ List.replicate (-d.pointPlace).toNat '0' ++ digits

def scientific (d : Decimal) : List Char :=
  let e := d.pointPlace - 1
  let sign := if e < 0 then '-' else '+'
  let fraction := match d.digitText.drop 1 with
    | [] => []
    | rest => '.' :: rest
  d.digitText.take 1 ++ fraction ++ ['e', sign] ++ Nat.toDigits 10 e.natAbs

end Decimal

namespace Binary64

def signed (negative : Bool) (text : List Char) : List Char :=
  if negative then '-' :: text else text

def text : Binary64 → String
  | .nan => "NaN"
  | .infinite negative => String.ofList (signed negative "inf".toList)
  | .finite negative m e => String.ofList (signed negative (Decimal.shortest m e).positional)

-- The text of a finite number in a document, which shows that it is not an integer. Numbers from
-- ten to the power of sixteen on, and those below a hundred-thousandth, have an exponent.
def literal? : Binary64 → Option String
  | .finite negative m e =>
      let d := Decimal.shortest m e
      let body :=
        if m = 0 then "0.0".toList
        else if -5 < d.pointPlace ∧ d.pointPlace ≤ 16 then
          if 0 ≤ d.exponent then d.positional ++ ['.', '0'] else d.positional
        else d.scientific
      some (String.ofList (signed negative body))
  | _ => none

end Binary64

end PathQuery.Numeral
