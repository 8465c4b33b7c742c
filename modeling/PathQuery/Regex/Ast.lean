import PathQuery.Regex.CharClass
import PathQuery.Unicode.Lookup

set_option autoImplicit false

namespace PathQuery.Regex

open PathQuery.Unicode

/-- A character of the pattern. One that is written as `\x` and two digits names a byte where
Unicode is off. -/
structure Literal where
  char : Char
  isByte : Bool
deriving DecidableEq, Repr

inductive Anchor where
  | lineStart
  | lineEnd
  | textStart
  | textEnd
  | wordBoundary
  | notWordBoundary
  | wordStart
  | wordEnd
  | wordStartHalf
  | wordEndHalf
deriving DecidableEq, Repr

inductive Flag where
  | ignoreCase
  | multiLine
  | dotAll
  | swapGreed
  | unicode
  | crlf
  | verbose
deriving DecidableEq, Repr

-- An item of a flag group: a flag, or the dash after which flags are switched off.
inductive FlagItem where
  | flag (f : Flag)
  | negation
deriving DecidableEq, Repr

def flagState? (f : Flag) : List FlagItem → Option Bool
  | [] => none
  | .flag g :: rest => if f = g then some true else flagState? f rest
  | .negation :: rest => if rest.contains (.flag f) then some false else none

inductive AsciiClass where
  | alnum | alpha | ascii | blank | cntrl | digit | graph | lower | print | punct | space
  | upper | word | xdigit
deriving DecidableEq, Repr

def AsciiClass.ofName? : String → Option AsciiClass
  | "alnum" => some .alnum
  | "alpha" => some .alpha
  | "ascii" => some .ascii
  | "blank" => some .blank
  | "cntrl" => some .cntrl
  | "digit" => some .digit
  | "graph" => some .graph
  | "lower" => some .lower
  | "print" => some .print
  | "punct" => some .punct
  | "space" => some .space
  | "upper" => some .upper
  | "word" => some .word
  | "xdigit" => some .xdigit
  | _ => none

inductive SetOp where
  | intersection
  | difference
  | symmetricDifference
deriving DecidableEq, Repr

-- The contents of a bracketed class. Items that stand side by side are joined by `beside`, which
-- nests to the right.
inductive ClassSet where
  | empty
  | literal (l : Literal)
  | range (first last : Literal)
  | ascii (negated : Bool) (set : AsciiClass)
  | property (negated : Bool) (query : PropertyQuery)
  | shorthand (negated : Bool) (set : Shorthand)
  | bracket (negated : Bool) (set : ClassSet)
  | beside (a b : ClassSet)
  | binary (op : SetOp) (a b : ClassSet)

-- What a group is for: to capture, perhaps under a name, or to set flags.
inductive GroupKind where
  | capture
  | flags (items : List FlagItem)
deriving DecidableEq, Repr

-- A pattern as it is written. Sequences and alternatives nest to the right.
inductive Ast where
  | empty
  | flags (items : List FlagItem)
  | literal (l : Literal)
  | dot
  | anchor (a : Anchor)
  | property (negated : Bool) (query : PropertyQuery)
  | shorthand (negated : Bool) (set : Shorthand)
  | bracket (negated : Bool) (set : ClassSet)
  | repetition (min : Nat) (max : Option Nat) (a : Ast)
  | group (kind : GroupKind) (a : Ast)
  | cat (a b : Ast)
  | alt (a b : Ast)

def chain {α : Type} (none : α) (join : α → α → α) : List α → α
  | [] => none
  | [a] => a
  | a :: rest => join a (chain none join rest)

def ClassSet.ofItems : List ClassSet → ClassSet := chain .empty .beside

def Ast.ofItems : List Ast → Ast := chain .empty .cat

def Ast.ofBranches : List Ast → Ast := chain .empty .alt

-- How deep brackets and their parts nest. A run of items is one level, whatever its length.
def ClassSet.depth : ClassSet → Nat
  | .bracket _ s => s.depth + 1
  | .beside a (.beside b c) => max (a.depth + 1) (depth (.beside b c))
  | .beside a b => max a.depth b.depth + 1
  | .binary _ a b => max a.depth b.depth + 1
  | _ => 0

-- How deep a pattern nests. A sequence is one level, whatever its length, and so is a list of
-- alternatives.
def Ast.depth : Ast → Nat
  | .bracket _ s => s.depth + 1
  | .repetition _ _ a => a.depth + 1
  | .group _ a => a.depth + 1
  | .cat a (.cat b c) => max (a.depth + 1) (depth (.cat b c))
  | .cat a b => max a.depth b.depth + 1
  | .alt a (.alt b c) => max (a.depth + 1) (depth (.alt b c))
  | .alt a b => max a.depth b.depth + 1
  | _ => 0

end PathQuery.Regex
