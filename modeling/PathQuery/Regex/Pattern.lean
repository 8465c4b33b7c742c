import PathQuery.Regex.CharClass

/-!
Patterns with all names and flags resolved, and how they match. A text of `n` characters has
`n + 1` positions; matching turns the set of positions where a pattern may begin into the set of
those where it may end.
-/

set_option autoImplicit false

namespace PathQuery.Regex

open PathQuery.Unicode

structure Context where
  before : Option Char
  after : Option Char
deriving DecidableEq, Repr

def contextsFrom (before : Option Char) : List Char → List Context
  | [] => [⟨before, none⟩]
  | c :: cs => ⟨before, some c⟩ :: contextsFrom (some c) cs

def contexts (text : List Char) : List Context := contextsFrom none text

theorem length_contextsFrom (before : Option Char) (text : List Char) :
    (contextsFrom before text).length = text.length + 1 := by
  induction text generalizing before with
  | nil => rfl
  | cons c cs ih => simp [contextsFrom, ih]

inductive Look where
  | start
  | stop
  | lineStart
  | lineEnd
  -- Lines end with a carriage return, a line feed or both in this order.
  | crlfStart
  | crlfEnd
  | wordBoundary (unicode : Bool)
  | notWordBoundary (unicode : Bool)
  | wordStart (unicode : Bool)
  | wordEnd (unicode : Bool)
  | wordStartHalf (unicode : Bool)
  | wordEndHalf (unicode : Bool)
deriving DecidableEq, Repr

def isWordSide (unicode : Bool) (side : Option Char) : Bool :=
  side.any (if unicode then isWord else isAsciiWord)

def Look.holds (look : Look) (x : Context) : Bool :=
  match look with
  | .start => x.before.isNone
  | .stop => x.after.isNone
  | .lineStart => x.before.isNone || x.before == some '\n'
  | .lineEnd => x.after.isNone || x.after == some '\n'
  | .crlfStart =>
      x.before.isNone || x.before == some '\n' ||
        (x.before == some '\r' && x.after != some '\n')
  | .crlfEnd =>
      x.after.isNone || x.after == some '\r' || (x.after == some '\n' && x.before != some '\r')
  | .wordBoundary u => isWordSide u x.before != isWordSide u x.after
  | .notWordBoundary u => isWordSide u x.before == isWordSide u x.after
  | .wordStart u => !isWordSide u x.before && isWordSide u x.after
  | .wordEnd u => isWordSide u x.before && !isWordSide u x.after
  | .wordStartHalf u => !isWordSide u x.before
  | .wordEndHalf u => !isWordSide u x.after

inductive Pattern where
  | empty
  | chars (set : CharClass)
  | look (l : Look)
  | cat (a b : Pattern)
  | alt (a b : Pattern)
  -- From `min` to `max` times, without a bound where `max` is missing.
  | rep (min : Nat) (max : Option Nat) (a : Pattern)

abbrev Marks := List Bool

namespace Marks

def union (a b : Marks) : Marks := List.zipWith (· || ·) a b

def minus (a b : Marks) : Marks := List.zipWith (fun x y => x && !y) a b

def advance (xs : List Context) (set : CharClass) (m : Marks) : Marks :=
  false :: (List.zipWith (fun on x => on && x.after.any set.contains) m xs).dropLast

def keep (xs : List Context) (l : Look) (m : Marks) : Marks :=
  List.zipWith (fun on x => on && l.holds x) m xs

-- Takes a step `n` times. Once a step changes nothing, no later one does.
def iterate (f : Marks → Marks) : Nat → Marks → Marks
  | 0, m => m
  | n + 1, m =>
      let m' := f m
      if m' = m then m else iterate f n m'

-- What can be reached in at most `n` steps, where `fresh` are the positions of `seen` that no step
-- has been taken from yet.
def spread (f : Marks → Marks) : Nat → (seen fresh : Marks) → Marks
  | 0, seen, _ => seen
  | n + 1, seen, fresh =>
      let new := minus (f fresh) seen
      if new.any id then spread f n (union seen new) new else seen

end Marks

-- The positions where the pattern ends if it begins at one of the marked ones. A repetition without
-- a bound needs no more rounds than there are positions.
def Pattern.reach (xs : List Context) : Pattern → Marks → Marks
  | .empty, m => m
  | .chars set, m => m.advance xs set
  | .look l, m => m.keep xs l
  | .cat a b, m => b.reach xs (a.reach xs m)
  | .alt a b, m => (a.reach xs m).union (b.reach xs m)
  | .rep min max a, m =>
      let rounds := match max with
        | some max => max - min
        | none => xs.length
      let m := Marks.iterate (a.reach xs) min m
      Marks.spread (a.reach xs) rounds m m

def Pattern.isMatch (p : Pattern) (text : List Char) : Bool :=
  let xs := contexts text
  (p.reach xs (xs.map fun _ => true)).any id

end PathQuery.Regex
