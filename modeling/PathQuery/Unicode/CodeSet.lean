set_option autoImplicit false

namespace PathQuery.Unicode

/-- An inclusive range of code points. -/
structure CodeRange where
  first : Nat
  last : Nat
deriving DecidableEq, Repr

abbrev CodeSet := Array CodeRange

namespace CodeSet

-- Whether one of the ranges at the places from `lo` to before `hi` holds the code.
def containsBetween (s : CodeSet) (code lo hi : Nat) : Bool :=
  if lo < hi then
    let mid := (lo + hi) / 2
    match s[mid]? with
    | none => false
    | some r =>
        if code < r.first then containsBetween s code lo mid
        else if r.last < code then containsBetween s code (mid + 1) hi
        else true
  else false
termination_by hi - lo

def contains (s : CodeSet) (c : Char) : Bool :=
  s.containsBetween c.toNat 0 s.size

end CodeSet

structure Entry where
  names : List String
  codes : CodeSet

abbrev Table := List Entry

def hexDigit? (c : Char) : Option Nat :=
  if c.isDigit then some (c.toNat - '0'.toNat)
  else if 'a' ≤ c ∧ c ≤ 'f' then some (c.toNat - 'a'.toNat + 10)
  else if 'A' ≤ c ∧ c ≤ 'F' then some (c.toNat - 'A'.toNat + 10)
  else none

-- Reads hexadecimal digits, the most significant first. Other characters count as zero.
def hexValue (digits : String) : Nat :=
  digits.toList.foldl (fun n c => 16 * n + (hexDigit? c).getD 0) 0

def words (text : String) : List String :=
  ((text.map fun c => if c = '\n' then ' ' else c).splitOn " ").filter (· ≠ "")

-- A range is written as its two ends with a dash between them, a single code as itself.
def CodeRange.ofText (text : String) : CodeRange :=
  match text.splitOn "-" with
  | [first, last] => ⟨hexValue first, hexValue last⟩
  | _ => ⟨hexValue text, hexValue text⟩

-- An entry is written as its names, a colon and its ranges; a semicolon ends it.
def Table.ofText (text : String) : Table :=
  (text.splitOn ";").filterMap fun entry =>
    match entry.splitOn ":" with
    | [names, ranges] => some ⟨words names, ((words ranges).map CodeRange.ofText).toArray⟩
    | _ => none

-- The codes listed under a name, or none at all where the name is not listed.
def Table.codes (t : Table) (name : String) : CodeSet :=
  match t.find? (·.names.contains name) with
  | some entry => entry.codes
  | none => #[]

end PathQuery.Unicode
