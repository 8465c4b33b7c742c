import PathQuery.Regex.Denotation
import PathQuery.Regex.Reader

set_option autoImplicit false

namespace PathQuery.Regex

def stateSize : Nat := 32

namespace Pattern

def isEmptyOnly : Pattern → Bool
  | .empty | .look _ => true
  | .chars _ => false
  | .cat a b | .alt a b => a.isEmptyOnly && b.isEmptyOnly
  | .rep _ max a => max == some 0 || a.isEmptyOnly

-- A choice costs two states besides its parts, and so does each optional copy of a repetition.
-- Copies of a pattern that only matches the empty text are left out.
def size : Pattern → Nat
  | .empty | .look _ => stateSize
  | .chars set => stateSize * max 1 set.transitions
  | .cat a b => a.size + b.size
  | .alt a b => a.size + b.size + 2 * stateSize
  | .rep min max a =>
      let limit := if a.isEmptyOnly then 1 else min + max.getD 1
      let least := Nat.min min limit
      let optional := match max with
        | some max => Nat.min max limit - least
        | none => 1
      least * a.size + optional * (a.size + 2 * stateSize)

end Pattern

def compile (ignoreCase : Bool) (text : List Char) : Except Error Pattern := do
  let a ← Ast.ofText text
  let (p, _) ← a.denote (.default ignoreCase)
  if p.size ≤ sizeLimit then .ok p else .error .tooBig

def isMeta (c : Char) : Bool :=
  c ∈ ['\\', '.', '+', '*', '?', '(', ')', '|', '[', ']', '\x7b', '\x7d', '^', '$', '#', '&', '-', '~']

def escapeChar (c : Char) : List Char := if isMeta c then ['\\', c] else [c]

def escapeText (text : List Char) : List Char := text.flatMap escapeChar

end PathQuery.Regex
