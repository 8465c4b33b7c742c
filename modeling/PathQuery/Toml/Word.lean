import PathQuery.Numeral.Binary64
import PathQuery.Toml.Text

set_option autoImplicit false

namespace PathQuery.Toml

open PathQuery.Numeral

-- Whether underscores stand only between characters that satisfy `p`, and there is one at least.
def isGrouped (p : Char → Bool) : List Char → Bool
  | [] => false
  | [c] => p c
  | c :: '_' :: cs => p c && isGrouped p cs
  | c :: cs => p c && isGrouped p cs

def ungroup (s : List Char) : List Char := s.filter (· ≠ '_')

def isDecimal (s : List Char) : Bool :=
  isGrouped Char.isDigit s && (s.head? != some '0' || s.length == 1)

def splitSign : List Char → Bool × List Char
  | '-' :: rest => (true, rest)
  | '+' :: rest => (false, rest)
  | s => (false, s)

def isHexDigit (c : Char) : Bool := (Unicode.hexDigit? c).isSome

def digitsIn (base : Nat) (s : List Char) : Nat :=
  s.foldl (fun n c => base * n + (Unicode.hexDigit? c).getD 0) 0

def magnitude? (signed : Bool) : List Char → Option Nat
  | '0' :: 'x' :: s => inBase 16 s
  | '0' :: 'o' :: s => inBase 8 s
  | '0' :: 'b' :: s => inBase 2 s
  | s => if isDecimal s then some (digitsIn 10 (ungroup s)) else none
where
  inBase (base : Nat) (s : List Char) : Option Nat :=
    let isDigit (c : Char) : Bool := (Unicode.hexDigit? c).any (· < base)
    if !signed && isGrouped isDigit s then some (digitsIn base (ungroup s)) else none

def integer? (s : List Char) : Option Int := do
  let (negative, rest) := splitSign s
  let n ← magnitude? (rest.length < s.length) rest
  if n < Nat.pow 2 63 then some (if negative then -n else n)
  else if negative && n = Nat.pow 2 63 then some (-n)
  else none

-- Whether a word has the form of a number with a fraction or an exponent.
def isFloat (s : List Char) : Bool :=
  let isWhole (c : Char) : Bool := c.isDigit || c == '_'
  let s := (splitSign s).2
  let rest := s.dropWhile isWhole
  let isExponent (rest : List Char) : Bool := match rest with
    | c :: cs => (c == 'e' || c == 'E') && isGrouped Char.isDigit (splitSign cs).2
    | [] => false
  isDecimal (s.takeWhile isWhole) && match rest with
    | '.' :: cs =>
        isGrouped Char.isDigit (cs.takeWhile isWhole) &&
          ((cs.dropWhile isWhole).isEmpty || isExponent (cs.dropWhile isWhole))
    | _ => isExponent rest

-- A number that is no integer. One that is too large is an error, unless it is negative.
def float? (s : List Char) : Option Binary64 :=
  let (negative, name) := splitSign s
  if name = "inf".toList then some (.infinite negative)
  else if name = "nan".toList then some .nan
  else if isFloat s then
    match Binary64.ofText? (ungroup s) with
    | some (.infinite false) => none
    | x => x
  else none

def fixed? (count : Nat) (s : List Char) : Option Nat :=
  if s.length = count ∧ s.all Char.isDigit then some (Binary64.digitsValue s) else none

def isWithin (low high : Nat) (n : Option Nat) : Bool := n.any fun n => low ≤ n && n ≤ high

def isLeapYear (year : Nat) : Bool := year % 4 = 0 ∧ (year % 100 ≠ 0 ∨ year % 400 = 0)

def daysIn (year month : Nat) : Nat :=
  if month = 2 then if isLeapYear year then 29 else 28
  else if month ∈ [4, 6, 9, 11] then 30
  else 31

def isDate (s : List Char) : Bool :=
  match fixed? 4 (s.take 4), fixed? 2 ((s.drop 5).take 2) with
  | some year, some month =>
      s.length == 10 && s[4]? == some '-' && s[7]? == some '-' &&
        isWithin 1 12 (some month) && isWithin 1 (daysIn year month) (fixed? 2 (s.drop 8))
  | _, _ => false

def isMinute (s : List Char) : Bool :=
  s.length == 5 && s[2]? == some ':' && isWithin 0 23 (fixed? 2 (s.take 2)) &&
    isWithin 0 59 (fixed? 2 (s.drop 3))

def isFraction : List Char → Bool
  | [] => true
  | '.' :: digits => !digits.isEmpty && digits.all Char.isDigit
  | _ => false

-- Whether a word is a time of the form `07:32:00`, which can have a fraction.
def isTime (s : List Char) : Bool :=
  isMinute (s.take 5) && s[5]? == some ':' && isWithin 0 60 (fixed? 2 ((s.drop 6).take 2)) &&
    isFraction (s.drop 8)

def isOffsetTime (s : List Char) : Bool :=
  let time := s.takeWhile fun c => c.isDigit || c == ':' || c == '.'
  let offset := s.dropWhile fun c => c.isDigit || c == ':' || c == '.'
  isTime time && match offset with
    | [] => true
    | [c] => c == 'Z' || c == 'z'
    | c :: minute => (c == '+' || c == '-') && isMinute minute

def isMoment (s : List Char) : Bool :=
  isTime s || isDate s ||
    (isDate (s.take 10) && (s[10]? == some 'T' || s[10]? == some 't') && isOffsetTime (s.drop 11))

def isWordChar (c : Char) : Bool := c.isAlphanum || c ∈ ['+', '-', '.', '_', ':']

end PathQuery.Toml
