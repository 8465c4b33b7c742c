import PathQuery.Document.Yaml.Source
import PathQuery.Document.Yaml.Token

/-!
The layout of a text up to some place: the tokens so far, the blocks that are open, and the places
where a key may have begun. Whether a word is a key shows only at the colon behind it; the tokens
for the key are then put in before the word.
-/

set_option autoImplicit false

namespace PathQuery.Yaml

/-- A place where a key may have begun. -/
structure PossibleKey where
  -- Whether there is nothing else that the place could be.
  required : Bool
  number : Nat
  place : Place
deriving DecidableEq, Repr

def keyLimit : Nat := 1024

def PossibleKey.isPast (k : PossibleKey) (p : Place) : Bool :=
  k.place.line < p.line || k.place.index + keyLimit < p.index

structure Layout where
  tokens : List Token
  -- The columns of the open blocks, the innermost first.
  columns : List Nat
  key : Option PossibleKey
  -- The possible keys of the collections around it, as far as they are in brackets.
  outer : List (Option PossibleKey)
  keyAllowed : Bool

namespace Layout

def start : Layout := ⟨[], [], none, [], true⟩

def inFlow (s : Layout) : Bool := !s.outer.isEmpty

def count (s : Layout) : Nat := s.tokens.length

def push (s : Layout) (t : Token) : Layout := { s with tokens := t :: s.tokens }

def insert (s : Layout) (n : Nat) (t : Token) : Layout :=
  let later := s.count - n
  { s with tokens := s.tokens.take later ++ t :: s.tokens.drop later }

def allowKey (s : Layout) (allowed : Bool) : Layout := { s with keyAllowed := allowed }

-- Whether a block in the given column is further in than those that are open.
def isFurtherIn (s : Layout) (column : Nat) : Bool := s.columns.head?.all (· < column)

-- Opens a block, unless there is one in its column already. The block begins behind the first `n`
-- tokens.
def openBlock (s : Layout) (column n : Nat) (t : Token) : Layout :=
  if !s.inFlow && s.isFurtherIn column then
    { s.insert n t with columns := column :: s.columns }
  else s

def closeBlocks (s : Layout) (column : Option Nat) : Layout :=
  if s.inFlow then s
  else
    let isOver (c : Nat) : Bool := column.all (· < c)
    let closed := (s.columns.takeWhile isOver).map fun _ => Token.blockEnd
    { s with tokens := closed ++ s.tokens, columns := s.columns.dropWhile isOver }

-- Gives a possible key up. One that is required cannot be given up.
def giveUp (k : Option PossibleKey) : Except Error (Option PossibleKey) :=
  if k.any PossibleKey.required then .error .malformed else .ok none

def dropKey (s : Layout) : Except Error Layout := do
  .ok { s with key := ← giveUp s.key }

def saveKey (s : Layout) (p : Place) : Except Error Layout :=
  if s.keyAllowed then do
    let required := !s.inFlow && s.columns.head? == some p.column
    let _ ← giveUp s.key
    .ok { s with key := some ⟨required, s.count, p⟩ }
  else .ok s

def expireKeys (s : Layout) (p : Place) : Except Error Layout := do
  let expire (k : Option PossibleKey) : Except Error (Option PossibleKey) :=
    if k.any (·.isPast p) then giveUp k else .ok k
  let outer ← s.outer.mapM expire
  .ok { s with key := ← expire s.key, outer }

def arrive (s : Layout) (p : Place) : Except Error Layout := do
  .ok ((← s.expireKeys p).closeBlocks (some p.column))

def closeAll (s : Layout) : Except Error Layout := do
  .ok ((← (s.closeBlocks none).dropKey).allowKey false)

def openFlow (s : Layout) (p : Place) (t : Token) : Except Error Layout := do
  let s ← s.saveKey p
  .ok { s.push t with key := none, outer := s.key :: s.outer, keyAllowed := true }

def closeFlow (s : Layout) (t : Token) : Except Error Layout := do
  let s := ((← s.dropKey).push t).allowKey false
  match s.outer with
  | [] => .ok s
  | key :: outer => .ok { s with key, outer }

def startEntry (s : Layout) (p : Place) (t : Token) : Except Error Layout :=
  if s.inFlow then .ok s
  else if s.keyAllowed then .ok (s.openBlock p.column s.count t)
  else .error .malformed

def addBlockEntry (s : Layout) (p : Place) : Except Error Layout := do
  let s ← (← s.startEntry p .blockSequence).dropKey
  .ok ((s.allowKey true).push .blockEntry)

def addFlowEntry (s : Layout) : Except Error Layout := do
  .ok (((← s.dropKey).allowKey true).push .flowEntry)

def addKey (s : Layout) (p : Place) : Except Error Layout := do
  let s ← (← s.startEntry p .blockMapping).dropKey
  .ok ((s.allowKey !s.inFlow).push .key)

-- The colon before a value. If there is a possible key, then it is one.
def addValue (s : Layout) (p : Place) : Except Error Layout :=
  match s.key with
  | some k =>
      let s := (s.insert k.number .key).openBlock k.place.column k.number .blockMapping
      .ok ({ s with key := none, keyAllowed := false }.push .value)
  | none => do
      let s ← s.startEntry p .blockMapping
      .ok ((s.allowKey !s.inFlow).push .value)

def addWord (s : Layout) (p : Place) (t : Token) : Except Error Layout := do
  .ok (((← s.saveKey p).allowKey false).push t)

def certain (s : Layout) : List Token :=
  let numbers := (s.key :: s.outer).filterMap fun k => k.map PossibleKey.number
  s.tokens.reverse.take (numbers.foldl min s.count)

end Layout

end PathQuery.Yaml
