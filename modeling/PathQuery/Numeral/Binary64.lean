set_option autoImplicit false

namespace PathQuery.Numeral

/-- A finite number is `mantissa · 2 ^ exponent`. Its mantissa has 53 bits, or fewer where the
exponent is the least one. -/
inductive Binary64 where
  | nan
  | infinite (negative : Bool)
  | finite (negative : Bool) (mantissa : Nat) (exponent : Int)
deriving DecidableEq, Repr

namespace Binary64

def leastExponent : Int := -1074

def greatestExponent : Int := 971

def zero (negative : Bool) : Binary64 := .finite negative 0 leastExponent

-- The quotient of two numbers, rounded to the nearest and to the even one of two that are.
def roundDiv (num den : Nat) : Nat :=
  let q := num / den
  let r := num % den
  if 2 * r < den ∨ (2 * r = den ∧ q % 2 = 0) then q else q + 1

def powerRatio (b : Nat) (e : Int) : Nat × Nat := (Nat.pow b e.toNat, Nat.pow b (-e).toNat)

def ofRatio (negative : Bool) (num den : Nat) : Binary64 :=
  if num = 0 then zero negative
  else
    let scaled (e : Int) : Nat × Nat :=
      let (up, down) := powerRatio 2 (-e)
      (num * up, den * down)
    let guess : Int := (num.log2 : Int) - den.log2 - 52
    let (n, d) := scaled guess
    let e := max leastExponent (if n / d < Nat.pow 2 52 then guess - 1 else guess)
    let (n, d) := scaled e
    let m := roundDiv n d
    let (m, e) := if m = Nat.pow 2 53 then (Nat.pow 2 52, e + 1) else (m, e)
    if greatestExponent < e then .infinite negative else .finite negative m e

def ofNat (n : Nat) : Binary64 := ofRatio false n 1

def negate : Binary64 → Binary64
  | .nan => .nan
  | .infinite negative => .infinite !negative
  | .finite negative m e => .finite (!negative) m e

def ofInt (n : Int) : Binary64 := if n < 0 then (ofNat n.natAbs).negate else ofNat n.natAbs

def ratio (m : Nat) (e : Int) : Nat × Nat :=
  let (up, down) := powerRatio 2 e
  (m * up, down)

def mul : Binary64 → Binary64 → Binary64
  | .finite s m e, .finite t n f =>
      let (up, down) := ratio (m * n) (e + f)
      ofRatio (s != t) up down
  | _, _ => .nan

def div : Binary64 → Binary64 → Binary64
  | .finite s m e, .finite t n f =>
      let (up, down) := ratio m (e - f)
      ofRatio (s != t) up (down * n)
  | _, _ => .nan

-- The number nearest to `digits · 10 ^ exponent`. Exponents that are out of all bounds are not
-- worked out.
def ofDecimal (negative : Bool) (digits : Nat) (exponent : Int) : Binary64 :=
  if digits = 0 then zero negative
  else if 400 < exponent then .infinite negative
  else if exponent < -400 - digits.log2 then zero negative
  else
    let (up, down) := powerRatio 10 exponent
    ofRatio negative (digits * up) down

def digitsValue (digits : List Char) : Nat :=
  digits.foldl (fun n c => 10 * n + (c.toNat - '0'.toNat)) 0

-- An exponent with its sign. At least one digit has to be there.
def exponent? : List Char → Option Int
  | '-' :: digits => if digits.isEmpty then none else natural? digits |>.map fun n => -(n : Int)
  | '+' :: digits => if digits.isEmpty then none else natural? digits |>.map Int.ofNat
  | digits => if digits.isEmpty then none else natural? digits |>.map Int.ofNat
where
  natural? (digits : List Char) : Option Nat :=
    if digits.all Char.isDigit then some (digitsValue digits) else none

-- Digits with a point and an exponent, both of which may be missing. There has to be a digit before
-- the exponent.
def unsigned? (negative : Bool) (s : List Char) : Option Binary64 :=
  let whole := s.takeWhile Char.isDigit
  let s := s.dropWhile Char.isDigit
  let (fraction, s) := match s with
    | '.' :: rest => (rest.takeWhile Char.isDigit, rest.dropWhile Char.isDigit)
    | _ => ([], s)
  if whole.isEmpty && fraction.isEmpty then none
  else
    let number (e : Int) := ofDecimal negative (digitsValue (whole ++ fraction)) (e - fraction.length)
    match s with
    | [] => some (number 0)
    | c :: rest => if c = 'e' ∨ c = 'E' then (exponent? rest).map number else none

-- Reads a decimal number, or one of the names of infinity and of what is not a number.
def ofText? (s : List Char) : Option Binary64 :=
  let (negative, s) := match s with
    | '-' :: rest => (true, rest)
    | '+' :: rest => (false, rest)
    | _ => (false, s)
  let lower := s.map Char.toLower
  if lower = "inf".toList ∨ lower = "infinity".toList then some (.infinite negative)
  else if lower = "nan".toList then some .nan
  else unsigned? negative s

end Binary64

end PathQuery.Numeral
