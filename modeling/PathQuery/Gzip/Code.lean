import PathQuery.Gzip.Bits

/-!
Codes in which no word begins another one, and which are told by the lengths of their words alone:
shorter words come before longer ones, and words of the same length are in the order of what they
stand for.
-/

set_option autoImplicit false

namespace PathQuery.Gzip

open PathQuery.Text

/-- A code as a tree. A word is the way to a symbol. -/
inductive Code where
  | none
  | symbol (n : Nat)
  | branch (zero one : Code)
deriving Repr

namespace Code

def maxLength : Nat := 15

-- The part of a code below words of length `depth`, and the symbols that are left for the parts
-- after it. Symbols are given with the lengths of their words, the shortest first.
def build : (levels depth : Nat) → List (Nat × Nat) → Code × List (Nat × Nat)
  | _, _, [] => (.none, [])
  | 0, depth, (length, n) :: rest =>
      if length = depth then (.symbol n, rest) else (.none, (length, n) :: rest)
  | levels + 1, depth, (length, n) :: rest =>
      if length = depth then (.symbol n, rest)
      else
        let (zero, left) := build levels (depth + 1) ((length, n) :: rest)
        let (one, left) := build levels (depth + 1) left
        (.branch zero one, left)

def isFull : Code → Bool
  | .none => false
  | .symbol _ => true
  | .branch zero one => zero.isFull && one.isFull

-- The code in which the symbols have words of the given lengths. A length of zero stands for no
-- word at all. A code of more than one word has to be full.
def ofLengths (lengths : List Nat) : Except Error Code :=
  let words := (List.range' 1 maxLength).flatMap fun length =>
    lengths.zipIdx.filter (·.1 = length)
  let (code, left) := build maxLength 0 words
  if left.isEmpty && (words.length ≤ 1 || code.isFull) then .ok code else .error .corrupt

def step (b : Bool) : Code → Code
  | .branch zero one => if b then one else zero
  | _ => .none

def read : Code → BitReader Nat
  | .none => Reader.fail .corrupt
  | .symbol n => pure n
  | .branch zero one => do if ← readBit then one.read else zero.read

end Code

end PathQuery.Gzip
