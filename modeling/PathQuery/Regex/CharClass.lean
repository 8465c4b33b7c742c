import PathQuery.Unicode.Character
import PathQuery.Unicode.Folding

set_option autoImplicit false

namespace PathQuery.Regex

open PathQuery.Unicode

inductive Shorthand where
  | digit
  | space
  | word
deriving DecidableEq, Repr

def Shorthand.contains : Shorthand → Char → Bool
  | .digit => isDecimal
  | .space => isBlank
  | .word => isWord

inductive CharClass where
  | none
  | range (first last : Char)
  | codes (set : CodeSet)
  | shorthand (set : Shorthand)
  | union (a b : CharClass)
  | inter (a b : CharClass)
  | diff (a b : CharClass)
  | symmDiff (a b : CharClass)
  | compl (a : CharClass)
  -- Every character that folds together with one of the set.
  | folded (a : CharClass)

namespace CharClass

def contains : CharClass → Char → Bool
  | .none, _ => false
  | .range first last, c => first ≤ c && c ≤ last
  | .codes set, c => set.contains c
  | .shorthand set, c => set.contains c
  | .union a b, c => a.contains c || b.contains c
  | .inter a b, c => a.contains c && b.contains c
  | .diff a b, c => a.contains c && !b.contains c
  | .symmDiff a b, c => a.contains c != b.contains c
  | .compl a, c => !a.contains c
  | .folded a, c => (orbit c).any fun d => a.contains d

def single (c : Char) : CharClass := .range c c

theorem contains_single (c d : Char) : (single c).contains d = true ↔ d = c := by
  simp only [single, contains, Bool.and_eq_true, decide_eq_true_eq]
  exact ⟨fun ⟨above, below⟩ => Char.le_antisymm below above, fun same => by simp [same]⟩

def ofList : List CharClass → CharClass
  | [] => .none
  | [a] => a
  | a :: rest => .union a (ofList rest)

def ascii : CharClass := .range '\x00' '\x7f'

def asciiFolded (a : CharClass) : CharClass := .inter (.folded a) ascii

def negatedIf (negated : Bool) (a : CharClass) : CharClass :=
  if negated then .compl a else a

-- About how many transitions on bytes the characters take. A character takes one for each of its
-- bytes, and a narrow range as many as its last character; a wide range takes a dozen, and a range
-- of a set of codes one.
def transitions : CharClass → Nat
  | .none => 0
  | .range first last =>
      if last.toNat < 128 then 1
      else if last.toNat - first.toNat < 64 then last.utf8Size
      else 12
  | .codes set => set.size
  | .shorthand .digit => 140
  | .shorthand .space => 20
  | .shorthand .word => 1500
  | .union a b | .inter a b | .diff a b | .symmDiff a b => a.transitions + b.transitions
  | .compl a => a.transitions + 28
  | .folded a => 2 * a.transitions

end CharClass

end PathQuery.Regex
