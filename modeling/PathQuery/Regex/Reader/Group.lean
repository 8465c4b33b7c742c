import PathQuery.Regex.Reader.Bracket

set_option autoImplicit false

namespace PathQuery.Regex

open PathQuery.Text PathQuery.Unicode

inductive Opening where
  | group (kind : GroupKind) (name : Option String)
  | flags (items : List FlagItem)

def isNameStart (c : Char) : Bool := c == '_' || isAlphabetic c

def isNameChar (c : Char) : Bool :=
  c == '_' || c == '.' || c == '[' || c == ']' || isAlphabetic c || isNumeric c

def groupName (taken : List String) : PatternReader String := do
  let name ← Reader.takeWhile isNameChar
  if name.head?.any (!isNameStart ·) then Reader.fail .groupNameInvalid
  else match ← Reader.next? with
    | none => Reader.fail .groupNameUnexpectedEnd
    | some '>' =>
        if name.isEmpty then Reader.fail .groupNameEmpty
        else if taken.contains (String.ofList name) then Reader.fail .groupNameDuplicate
        else pure (String.ofList name)
    | some _ => Reader.fail .groupNameInvalid

def flagOf? : Char → Option Flag
  | 'i' => some .ignoreCase
  | 's' => some .dotAll
  | 'm' => some .multiLine
  | 'U' => some .swapGreed
  | 'u' => some .unicode
  | 'R' => some .crlf
  | 'x' => some .verbose
  | _ => none

def addFlag (items : List FlagItem) (c : Char) : Except Error (List FlagItem) :=
  if c = '-' then
    if items.contains .negation then .error .flagRepeatedNegation else .ok (items ++ [.negation])
  else match flagOf? c with
    | none => .error .flagUnrecognized
    | some f =>
        if items.contains (.flag f) then .error .flagDuplicate else .ok (items ++ [.flag f])

-- The items of a flag group and the sign that ends them: a colon or a closing parenthesis.
def flagItems (items : List FlagItem) (input : List Char) :
    Except Error (Taken (List FlagItem × Char) input) :=
  match input with
  | [] => .error .flagUnexpectedEnd
  | c :: cs =>
      if c = ':' ∨ c = ')' then
        if items.getLast? = some .negation then .error .flagDanglingNegation
        else .ok (.item (items, c) c cs)
      else match addFlag items c with
        | .error e => .error e
        | .ok items =>
            match flagItems items cs with
            | .error e => .error e
            | .ok t => .ok (t.after c)

def flagOpening : PatternReader Opening := do
  let (items, sign) ← flagItems []
  if sign = ':' then pure (.group (.flags items) none)
  else if items.isEmpty then Reader.fail .repetitionMissing
  else pure (.flags items)

def groupOpening (verbose : Bool) (taken : List String) : PatternReader Opening := do
  blanks verbose
  if ← Reader.skipAnyOf ["?=".toList, "?!".toList, "?<=".toList, "?<!".toList] then
    Reader.fail .unsupportedLookAround
  else if ← Reader.skipAnyOf ["?P<".toList, "?<".toList] then
    let name ← groupName taken
    pure (.group .capture (some name))
  else if ← Reader.skipText ['?'] then
    needMore .groupUnclosed
    flagOpening
  else pure (.group .capture none)

-- A decimal number with blanks around it. The empty number and the one that does not fit are
-- different errors.
def decimal (verbose : Bool) : PatternReader (Except Error Nat) := do
  let _ ← Reader.takeWhile isBlank
  let digits ← spaced verbose Char.isDigit
  let _ ← Reader.takeWhile isBlank
  let n := decimalValue digits
  pure <|
    if digits.isEmpty then .error .repetitionCountDecimalEmpty
    else if n < Nat.pow 2 32 then .ok n
    else .error .decimalInvalid

-- The brace that ends counts. A question mark behind it only makes the repetition lazy.
def countsEnd (verbose : Bool) (counts : Nat × Option Nat) :
    PatternReader (Nat × Option Nat) := do
  if ← Reader.skipText ['}'] then
    blanks verbose
    let _ ← Reader.skipText ['?']
    if counts.2.all (counts.1 ≤ ·) then pure counts else Reader.fail .repetitionCountInvalid
  else Reader.fail .repetitionCountUnclosed

def moreCounts (verbose : Bool) (first : Except Error Nat) :
    PatternReader (Nat × Option Nat) := do
  if ← Reader.skipText [','] then
    blanks verbose
    needMore .repetitionCountUnclosed
    let min ← liftExcept first
    if (← Reader.peek) = some '}' then countsEnd verbose (min, none)
    else
      let max ← liftExcept (← decimal verbose)
      countsEnd verbose (min, some max)
  else
    let n ← liftExcept first
    countsEnd verbose (n, some n)

def repetitionCounts (verbose : Bool) : PatternReader (Nat × Option Nat) := do
  blanks verbose
  needMore .repetitionCountUnclosed
  let first ← decimal verbose
  needMore .repetitionCountUnclosed
  moreCounts verbose first

end PathQuery.Regex
