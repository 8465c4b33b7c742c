import PathQuery.Regex.Reader.Escape

set_option autoImplicit false

namespace PathQuery.Regex

open PathQuery.Text PathQuery.Unicode

def Ast.classItem? : Ast → Except Error ClassSet
  | .literal l => .ok (.literal l)
  | .property negated query => .ok (.property negated query)
  | .shorthand negated set => .ok (.shorthand negated set)
  | _ => .error .classEscapeInvalid

def Ast.rangeEnd? : Ast → Except Error Literal
  | .literal l => .ok l
  | _ => .error .classRangeLiteral

/-- A class that is open: the items of the class around it, and an operator that waits for its
second operand. -/
structure OpenClass where
  around : List ClassSet
  negated : Bool
  pending : Option (SetOp × ClassSet)

-- The classes that are open, the innermost first, and its items so far, the latest first.
structure ClassState where
  current : OpenClass
  outer : List OpenClass
  items : List ClassSet

-- What is left of the text if the reading goes on, or the class when it is closed.
inductive ClassStep where
  | more (state : ClassState)
  | done (negated : Bool) (set : ClassSet)

namespace ClassState

def operand (s : ClassState) : ClassSet :=
  let item := ClassSet.ofItems s.items.reverse
  match s.current.pending with
  | none => item
  | some (op, lhs) => .binary op lhs item

def push (s : ClassState) (item : ClassSet) : ClassState :=
  { s with items := item :: s.items }

def operator (s : ClassState) (op : SetOp) : ClassState :=
  { s with current := { s.current with pending := some (op, s.operand) }, items := [] }

def close (s : ClassState) : ClassStep :=
  match s.outer with
  | [] => .done s.current.negated s.operand
  | next :: outer =>
      .more ⟨next, outer, .bracket s.current.negated s.operand :: s.current.around⟩

end ClassState

def needMore (e : Error) : PatternReader Unit := do
  match ← Reader.peek with
  | none => Reader.fail e
  | some _ => pure ()

def classFront (verbose : Bool) : PatternReader (List ClassSet) := do
  let dashes ← spaced verbose (· == '-')
  needMore .classUnclosed
  if dashes.isEmpty then
    if ← Reader.skipText [']'] then
      blanks verbose
      needMore .classUnclosed
      return [.literal ⟨']', false⟩]
  return dashes.map fun c => .literal ⟨c, false⟩

def classOpening (verbose : Bool) : PatternReader (Bool × List ClassSet) := do
  blanks verbose
  needMore .classUnclosed
  let negated ← Reader.skipText ['^']
  if negated then
    blanks verbose
    needMore .classUnclosed
  let items ← classFront verbose
  return (negated, items)

-- The name of an ASCII set, up to the colon and the bracket behind it.
def asciiName (negated : Bool) : PatternReader (Option ClassSet) := do
  let name ← Reader.takeWhile (· != ':')
  let closes ← Reader.skipText [':', ']']
  pure <| if closes then (AsciiClass.ofName? (String.ofList name)).map (.ascii negated) else none

-- An ASCII set by its name between colons, if that is what the bracket opens.
def asciiClass : PatternReader (Option ClassSet) := Reader.optional do
  if ← Reader.skipText [':'] then
    let negated ← Reader.skipText ['^']
    asciiName negated
  else pure none

def liftExcept {α : Type} (r : Except Error α) : PatternReader α :=
  match r with
  | .ok a => pure a
  | .error e => Reader.fail e

def classPrimitive (verbose : Bool) (c : Char) : PatternReader Ast :=
  if c = '\\' then escape verbose else pure (.literal ⟨c, false⟩)

-- The character that follows a dash. In verbose mode blanks are passed over, and the sign that
-- begins a comment, but not the comment.
def afterDash? (verbose : Bool) (s : List Char) : Option Char :=
  if verbose then
    match s.dropWhile isBlank with
    | '#' :: rest => (rest.dropWhile isBlank).head?
    | rest => rest.head?
  else s.head?

def rangeFrom (verbose : Bool) (first : Ast) : PatternReader ClassSet := do
  blanks verbose
  needMore .classUnclosed
  match ← Reader.ahead with
  | '-' :: rest =>
      let after := afterDash? verbose rest
      if after = some ']' ∨ after = some '-' then liftExcept first.classItem?
      else do
        Reader.skip 1
        blanks verbose
        match ← Reader.next? with
        | none => Reader.fail .classUnclosed
        | some d =>
            let last ← classPrimitive verbose d
            let a ← liftExcept first.rangeEnd?
            let b ← liftExcept last.rangeEnd?
            if a.char ≤ b.char then pure (.range a b) else Reader.fail .classRangeInvalid
  | _ => liftExcept first.classItem?

def classRange (verbose : Bool) (c : Char) : PatternReader ClassSet := do
  let first ← classPrimitive verbose c
  rangeFrom verbose first

def setOp? (c d : Char) : Option SetOp :=
  if c = '&' ∧ d = '&' then some .intersection
  else if c = '-' ∧ d = '-' then some .difference
  else if c = '~' ∧ d = '~' then some .symmetricDifference
  else none

def ClassState.step (verbose : Bool) (s : ClassState) (c : Char) : PatternReader ClassStep := do
  if c = '[' then
    match ← asciiClass with
    | some item => pure (.more (s.push item))
    | none =>
        let (negated, items) ← classOpening verbose
        pure (.more ⟨⟨s.items, negated, none⟩, s.current :: s.outer, items.reverse⟩)
  else if c = ']' then pure s.close
  else
    match (← Reader.peek).bind (setOp? c) with
    | some op => do
        Reader.skip 1
        pure (.more (s.operator op))
    | none =>
        let item ← classRange verbose c
        pure (.more (s.push item))

def ClassState.read (verbose : Bool) (s : ClassState) (input : List Char) :
    Except Error (Taken (Bool × ClassSet) input) :=
  have le := length_afterBlanks_le verbose input
  match h : afterBlanks verbose input with
  | [] => .error .classUnclosed
  | c :: cs =>
      match s.step verbose c cs with
      | .error e => .error e
      | .ok ⟨.done negated set, rest, le'⟩ =>
          .ok ⟨(negated, set), rest, by simp only [h, List.length_cons] at le; omega⟩
      | .ok ⟨.more state, rest, le'⟩ =>
          have lt : rest.length < input.length := by
            simp only [h, List.length_cons] at le; omega
          match state.read verbose rest with
          | .error e => .error e
          | .ok t => .ok ⟨t.value, t.rest, by have := t.le; omega⟩
termination_by input.length

def bracketClass (verbose : Bool) : PatternReader Ast := do
  let (negated, items) ← classOpening verbose
  let (negated, set) ← ClassState.read verbose ⟨⟨[], negated, none⟩, [], items.reverse⟩
  pure (.bracket negated set)

end PathQuery.Regex
