import PathQuery.Document.Yaml.Scalar.Gap

set_option autoImplicit false

namespace PathQuery.Yaml

open PathQuery.Text

structure PlainLayout where
  -- Whether it is part of a collection in brackets.
  inFlow : Bool
  -- The least column in which a further word may begin.
  column : Nat

namespace PlainLayout

def endsWord (l : PlainLayout) (input : List Placed) : Bool :=
  (nextIs (· == ':') input && atGap (input.drop 1)) ||
    (l.inFlow && nextIs (· ∈ [',', '[', ']', '\x7b', '\x7d']) input)

-- Whether the scalar ends after a gap before the character at the front of the text.
def endsAfterGap (l : PlainLayout) (input : List Placed) : Bool :=
  nextIs (· == '#') input || atDocumentMark input ||
    (!l.inFlow && input.head?.all (·.place.column < l.column))

def isDoubtful (l : PlainLayout) (input : List Placed) : Bool :=
  l.inFlow && nextIs (· == ':') input &&
    nextIs (· ∈ [',', '?', '[', ']', '\x7b', '\x7d']) (input.drop 1)

-- Reads words, given what was read before, the latest character first, and the gap since then. The
-- last gap belongs to what was read, but not to the scalar.
def readWords (l : PlainLayout) (done : List Char) (gap : Gap) (input : List Placed) :
    Except Error (Taken (List Char × Gap) input) :=
  match input with
  | [] => .ok ⟨(done, gap), [], Nat.le_refl _⟩
  | p :: rest =>
      if isBreak p.char then further p rest (readWords l done (gap.addBreak p.char) rest)
      else if isBlank p.char then
        if gap.isBroken && p.char == '\t' && p.place.column < l.column then .error .malformed
        else further p rest (readWords l done (gap.addBlank p.char) rest)
      else if gap ≠ .none ∧ l.endsAfterGap (p :: rest) then
        .ok ⟨(done, gap), p :: rest, Nat.le_refl _⟩
      else if l.isDoubtful (p :: rest) then .error .malformed
      else if l.endsWord (p :: rest) then .ok ⟨(done, gap), p :: rest, Nat.le_refl _⟩
      else further p rest (readWords l (p.char :: (gap.text.reverse ++ done)) .none rest)
where
  further (p : Placed) (rest : List Placed) :
      Except Error (Taken (List Char × Gap) rest) →
        Except Error (Taken (List Char × Gap) (p :: rest))
    | .error e => .error e
    | .ok t => .ok ⟨t.value, t.rest, Nat.le_succ_of_le t.le⟩

def read (l : PlainLayout) : YamlReader (List Char × Bool) := do
  let (done, gap) ← l.readWords [] .none
  pure (done.reverse, gap.isBroken)

end PlainLayout

end PathQuery.Yaml
