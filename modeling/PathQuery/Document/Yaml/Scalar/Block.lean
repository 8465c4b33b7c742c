import PathQuery.Document.Yaml.Source

set_option autoImplicit false

namespace PathQuery.Yaml

open PathQuery.Text

inductive Chomping where
  | strip
  | clip
  | keep
deriving DecidableEq, Repr

structure BlockHeader where
  chomping : Chomping
  -- How far the lines are indented, if it is given.
  increment : Option Nat
deriving DecidableEq, Repr

def readChomping : YamlReader (Option Chomping) := do
  if ← YamlReader.skipIf '+' then pure (some .keep)
  else if ← YamlReader.skipIf '-' then pure (some .strip)
  else pure none

def readIncrement : YamlReader (Option Nat) := do
  if nextIs Char.isDigit (← Reader.ahead) then
    let c ← YamlReader.take (· != '0')
    pure (some (c.toNat - '0'.toNat))
  else pure none

-- Reads what follows the mark of the scalar in its line. The two indicators come in any order.
def readBlockHeader : YamlReader BlockHeader := do
  let chomping ← readChomping
  let increment ← readIncrement
  let later ← if chomping.isNone && increment.isSome then readChomping else pure none
  YamlReader.skipLineRest
  pure ⟨(chomping.or later).getD .clip, increment⟩

-- Passes over indentation and empty lines. Gives the breaks and the greatest column in which a line
-- was seen to begin. Lines are indented by `column`, or as far as they are where it is not known
-- yet.
def readEmptyLines (column : Option Nat) (widest : Nat) (breaks : List Char) (input : List Placed) :
    Except Error (Taken (List Char × Nat) input) :=
  match input with
  | [] => .ok ⟨(breaks, widest), [], Nat.le_refl _⟩
  | p :: rest =>
      let indenting := column.all (p.place.column < ·)
      if p.char == ' ' && indenting then
        further p rest (readEmptyLines column (max widest (p.place.column + 1)) breaks rest)
      else if p.char == '\t' && indenting then .error .malformed
      else if isBreak p.char then
        further p rest (readEmptyLines column widest (breaks ++ [p.char]) rest)
      else .ok ⟨(breaks, widest), p :: rest, Nat.le_refl _⟩
where
  further (p : Placed) (rest : List Placed) :
      Except Error (Taken (List Char × Nat) rest) →
        Except Error (Taken (List Char × Nat) (p :: rest))
    | .error e => .error e
    | .ok t => .ok ⟨t.value, t.rest, Nat.le_succ_of_le t.le⟩

structure BlockText where
  text : List Char
  ending : List Char
  empty : List Char
  indented : Bool

namespace BlockText

def start (empty : List Char) : BlockText := ⟨[], [], empty, false⟩

-- One more line. Folding turns a newline between two lines that do not begin with a blank into one,
-- or drops it where empty lines follow.
def addLine (b : BlockText) (folded : Bool) (line ending empty : List Char) : BlockText :=
  let indented := line.head?.any isBlank
  let joint :=
    if folded ∧ b.ending = ['\n'] ∧ !b.indented ∧ !indented then
      if b.empty.isEmpty then [' '] else []
    else b.ending
  ⟨b.text ++ joint ++ b.empty ++ line, ending, empty, indented⟩

def close (b : BlockText) : Chomping → List Char
  | .strip => b.text
  | .clip => b.text ++ b.ending
  | .keep => b.text ++ b.ending ++ b.empty

end BlockText

def readBlockLines (folded : Bool) (column : Nat) (b : BlockText) (input : List Placed) :
    Except Error (Taken BlockText input) :=
  match input with
  | [] => .ok ⟨b, [], Nat.le_refl _⟩
  | p :: rest =>
      if p.place.column ≠ column then .ok ⟨b, p :: rest, Nat.le_refl _⟩
      else
        let line := p.char :: (rest.takeWhile (!isBreak ·.char)).map Placed.char
        let after := rest.dropWhile (!isBreak ·.char)
        have shorter : after.length ≤ rest.length := (List.dropWhile_sublist _).length_le
        match readEmptyLines (some column) 0 [] (after.drop 1) with
        | .error e => .error e
        | .ok t =>
            let ending := (after.take 1).map Placed.char
            have le : t.rest.length ≤ rest.length :=
              Nat.le_trans t.le (Nat.le_trans (List.drop_sublist 1 after).length_le shorter)
            match readBlockLines folded column (b.addLine folded line ending t.value.1) t.rest with
            | .error e => .error e
            | .ok u => .ok ⟨u.value, u.rest, Nat.le_succ_of_le (Nat.le_trans u.le le)⟩
termination_by input.length
decreasing_by exact Nat.lt_succ_of_le le

-- Reads a block scalar after its mark, given the column of what it is part of. Its lines are
-- indented further than that.
def readBlock (folded : Bool) (outer : Nat) : YamlReader (List Char) := do
  let header ← readBlockHeader
  let given := header.increment.map (outer + ·)
  let (breaks, widest) ← readEmptyLines given 0 []
  let column := given.getD (max widest (outer + 1))
  let b ← readBlockLines folded column (.start breaks)
  pure (b.close header.chomping)

end PathQuery.Yaml
