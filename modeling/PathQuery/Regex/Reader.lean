import PathQuery.Regex.Reader.Group

set_option autoImplicit false

namespace PathQuery.Regex

open PathQuery.Text

/-- A group that is open, with what was read of the group around it: its finished alternatives and
the items of the one that is under way, the latest first. -/
structure OpenGroup where
  branches : List Ast
  items : List Ast
  kind : GroupKind
  verbose : Bool

structure ReadState where
  groups : List OpenGroup
  branches : List Ast
  items : List Ast
  verbose : Bool
  names : List String

namespace ReadState

def start : ReadState := ⟨[], [], [], false, []⟩

def push (s : ReadState) (a : Ast) : ReadState := { s with items := a :: s.items }

def body (s : ReadState) : Ast :=
  Ast.ofBranches (Ast.ofItems s.items.reverse :: s.branches).reverse

def nextBranch (s : ReadState) : ReadState :=
  { s with branches := Ast.ofItems s.items.reverse :: s.branches, items := [] }

def openGroup (s : ReadState) (kind : GroupKind) (name : Option String) : ReadState :=
  let verbose := match kind with
    | .capture => s.verbose
    | .flags items => (flagState? .verbose items).getD s.verbose
  ⟨⟨s.branches, s.items, kind, s.verbose⟩ :: s.groups, [], [], verbose, name.toList ++ s.names⟩

def closeGroup (s : ReadState) : Except Error ReadState :=
  match s.groups with
  | [] => .error .groupUnopened
  | g :: groups => .ok ⟨groups, g.branches, .group g.kind s.body :: g.items, g.verbose, s.names⟩

def setFlags (s : ReadState) (items : List FlagItem) : ReadState :=
  { s.push (.flags items) with verbose := (flagState? .verbose items).getD s.verbose }

def popItem (s : ReadState) : Except Error (Ast × ReadState) :=
  match s.items with
  | [] | .empty :: _ | .flags _ :: _ => .error .repetitionMissing
  | a :: items => .ok (a, { s with items })

-- Repeats the last item. A question mark after the operator only makes it lazy.
def repeatLast (s : ReadState) (min : Nat) (max : Option Nat) : PatternReader ReadState := do
  let (a, s) ← liftExcept s.popItem
  let _ ← Reader.skipText ['?']
  pure (s.push (.repetition min max a))

def step (s : ReadState) (c : Char) : PatternReader ReadState :=
  match c with
  | '(' => do
      match ← groupOpening s.verbose s.names with
      | .group kind name => pure (s.openGroup kind name)
      | .flags items => pure (s.setFlags items)
  | ')' => liftExcept s.closeGroup
  | '|' => pure s.nextBranch
  | '[' => do pure (s.push (← bracketClass s.verbose))
  | '?' => s.repeatLast 0 (some 1)
  | '*' => s.repeatLast 0 none
  | '+' => s.repeatLast 1 none
  | '{' => do
      let (a, s) ← liftExcept s.popItem
      let (min, max) ← repetitionCounts s.verbose
      pure (s.push (.repetition min max a))
  | '\\' => do pure (s.push (← escape s.verbose))
  | '.' => pure (s.push .dot)
  | '^' => pure (s.push (.anchor .lineStart))
  | '$' => pure (s.push (.anchor .lineEnd))
  | c => pure (s.push (.literal ⟨c, false⟩))

def finish (s : ReadState) : Except Error Ast :=
  match s.groups with
  | [] => .ok s.body
  | _ :: _ => .error .groupUnclosed

def read (s : ReadState) (input : List Char) : Except Error Ast :=
  have le := length_afterBlanks_le s.verbose input
  match h : afterBlanks s.verbose input with
  | [] => s.finish
  | c :: cs =>
      match s.step c cs with
      | .error e => .error e
      | .ok ⟨next, rest, le'⟩ =>
          have : rest.length < input.length := by
            simp only [h, List.length_cons] at le; omega
          next.read rest
termination_by input.length

end ReadState

def Ast.ofText (text : List Char) : Except Error Ast := do
  let a ← ReadState.start.read text
  if a.depth ≤ nestLimit then .ok a else .error .nestLimitExceeded

end PathQuery.Regex
