import PathQuery.Document.Datum
import PathQuery.Document.Yaml.Source

set_option autoImplicit false

namespace PathQuery.Yaml

open PathQuery.Numeral

def isNull (text : String) : Bool := text ∈ ["null", "Null", "NULL", "~"]

def boolean? (text : String) : Option Bool :=
  if text ∈ ["true", "True", "TRUE"] then some true
  else if text ∈ ["false", "False", "FALSE"] then some false
  else none

def digit? (c : Char) : Option Nat :=
  if c.isDigit then some (c.toNat - '0'.toNat)
  else if 'a' ≤ c ∧ c ≤ 'f' then some (c.toNat - 'a'.toNat + 10)
  else if 'A' ≤ c ∧ c ≤ 'F' then some (c.toNat - 'A'.toNat + 10)
  else none

def natural? (base : Nat) (digits : List Char) : Option Nat :=
  if digits.isEmpty then none
  else digits.foldlM (fun n c => do
    let d ← digit? c
    if d < base then some (base * n + d) else none) 0

def isPadded (digits : List Char) : Bool :=
  digits.head? == some '0' && 1 < digits.length && digits.all Char.isDigit

-- A number without a sign. The base may stand in front of it.
def magnitude? : List Char → Option Nat
  | '0' :: 'x' :: digits => natural? 16 digits
  | '0' :: 'o' :: digits => natural? 8 digits
  | '0' :: 'b' :: digits => natural? 2 digits
  | digits => if isPadded digits then none else natural? 10 digits

-- The text of a number without its sign, and whether that is a minus sign.
def splitSign : List Char → Bool × List Char
  | '-' :: rest => (true, rest)
  | '+' :: rest => (false, rest)
  | text => (false, text)

-- Integers that need more than 64 bits are refused. From 128 bits on they are no integers.
def integerDatum? (negative : Bool) (n : Nat) : Option (Except Error Datum) :=
  if negative then
    if n ≤ Nat.pow 2 63 then some (.ok (.integer (-n)))
    else if n ≤ Nat.pow 2 127 then some (.error .malformed)
    else none
  else if n < Nat.pow 2 64 then some (.ok (.integer n))
  else if n < Nat.pow 2 128 then some (.error .malformed)
  else none

def integer? (text : List Char) : Option (Except Error Datum) := do
  let (negative, rest) := splitSign text
  integerDatum? negative (← magnitude? rest)

-- A number with a point, or one of the names for what is not finite.
def float? (text : List Char) : Option Binary64 :=
  let isInfinity (s : List Char) : Bool := String.ofList s ∈ [".inf", ".Inf", ".INF"]
  let (negative, rest) := splitSign text
  if isInfinity rest then some (.infinite negative)
  else if String.ofList text ∈ [".nan", ".NaN", ".NAN"] then some .nan
  else if text.head? = some '+' ∧ (rest.head? = some '+' ∨ rest.head? = some '-') then none
  else match Binary64.ofText? text with
    | some (.finite negative m e) => some (.finite negative m e)
    | _ => none

def plainDatum (text : String) : Except Error Datum :=
  let chars := text.toList
  if text.isEmpty ∨ isNull text then .ok .null
  else match boolean? text, integer? chars with
    | some b, _ => .ok (.bool b)
    | none, some integer => integer
    | none, none =>
        if isPadded (splitSign chars).2 then .ok (.string text)
        else match float? chars with
          | some x => .ok (.float x)
          | none => .ok (.string text)

def isPrivate (tag : String) : Bool := tag.toList.head? == some '!'

-- What a scalar with a tag holds. Private types are not known.
def taggedDatum (tag text : String) : Except Error Datum :=
  let required (datum : Option Datum) : Except Error Datum :=
    match datum with
    | some d => .ok d
    | none => .error .malformed
  if isPrivate tag then .error .malformed
  else match tag with
    | "tag:yaml.org,2002:null" => required (if isNull text then some .null else none)
    | "tag:yaml.org,2002:bool" => required ((boolean? text).map .bool)
    | "tag:yaml.org,2002:int" => (integer? text.toList).getD (.error .malformed)
    | "tag:yaml.org,2002:float" => required ((float? text.toList).map .float)
    | _ => .ok (.string text)

end PathQuery.Yaml
