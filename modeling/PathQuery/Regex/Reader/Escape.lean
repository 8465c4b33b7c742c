import PathQuery.Regex.Ast
import PathQuery.Regex.Error
import PathQuery.Text.Reading

set_option autoImplicit false

namespace PathQuery.Regex

open PathQuery.Text PathQuery.Unicode

abbrev PatternReader (α : Type) := Reader Char Error α

-- Drops blanks and comments. A comment runs from a number sign to the end of its line.
def dropBlanks : (inComment : Bool) → List Char → List Char
  | _, [] => []
  | true, c :: cs => dropBlanks (c != '\n') cs
  | false, c :: cs =>
      if isBlank c then dropBlanks false cs
      else if c = '#' then dropBlanks true cs
      else c :: cs

theorem length_dropBlanks_le (inComment : Bool) (s : List Char) :
    (dropBlanks inComment s).length ≤ s.length := by
  fun_induction dropBlanks inComment s with
  | case1 => simp
  | case2 c cs ih => exact Nat.le_succ_of_le ih
  | case3 c cs _ ih => exact Nat.le_succ_of_le ih
  | case4 cs _ ih => exact Nat.le_succ_of_le ih
  | case5 => simp

def afterBlanks (verbose : Bool) (s : List Char) : List Char :=
  if verbose then dropBlanks false s else s

theorem length_afterBlanks_le (verbose : Bool) (s : List Char) :
    (afterBlanks verbose s).length ≤ s.length := by
  cases verbose
  · exact Nat.le_refl _
  · exact length_dropBlanks_le false s

def blanks (verbose : Bool) : PatternReader Unit := fun s =>
  .ok ⟨(), afterBlanks verbose s, length_afterBlanks_le verbose s⟩

def spacedPart (verbose : Bool) (p : Char → Bool) (s : List Char) : Taken (List Char) s :=
  match s with
  | [] => ⟨[], [], Nat.le_refl _⟩
  | c :: cs =>
      if p c then
        have le := length_afterBlanks_le verbose cs
        let t := spacedPart verbose p (afterBlanks verbose cs)
        ⟨c :: t.value, t.rest, Nat.le_succ_of_le (Nat.le_trans t.le le)⟩
      else ⟨[], c :: cs, Nat.le_refl _⟩
termination_by s.length
decreasing_by simp only [List.length_cons]; omega

def spaced (verbose : Bool) (p : Char → Bool) : PatternReader (List Char) := fun s =>
  .ok (spacedPart verbose p s)

def decimalValue (digits : List Char) : Nat :=
  digits.foldl (fun n c => 10 * n + (c.toNat - '0'.toNat)) 0

def charOfHex? (digits : List Char) : Option Char :=
  let n := hexValue (String.ofList digits)
  if n.isValidChar then some (Char.ofNat n) else none

def isHexDigit (c : Char) : Bool := (hexDigit? c).isSome

def hexDigits (verbose : Bool) : Nat → PatternReader (List Char)
  | 0 => pure []
  | n + 1 => do
      match ← Reader.next? with
      | none => Reader.fail .escapeUnexpectedEnd
      | some c =>
          if isHexDigit c then
            blanks verbose
            let rest ← hexDigits verbose n
            pure (c :: rest)
          else Reader.fail .escapeHexInvalidDigit

def hexLiteral (verbose : Bool) (digits : Nat) : PatternReader Ast := do
  blanks verbose
  match ← Reader.peek with
  | none => Reader.fail .escapeUnexpectedEnd
  | some '{' => do
      Reader.skip 1
      blanks verbose
      let code ← spaced verbose isHexDigit
      match ← Reader.next? with
      | none => Reader.fail .escapeUnexpectedEnd
      | some '}' => do
          blanks verbose
          if code.isEmpty then Reader.fail .escapeHexEmpty
          else match charOfHex? code with
            | none => Reader.fail .escapeHexInvalid
            | some c => pure (.literal ⟨c, false⟩)
      | some _ => Reader.fail .escapeHexInvalidDigit
  | some _ => do
      let code ← hexDigits verbose digits
      match charOfHex? code with
      | none => Reader.fail .escapeHexInvalid
      | some c => pure (.literal ⟨c, digits == 2⟩)

def cutAt? (separator : List Char) : List Char → Option (List Char × List Char)
  | [] => none
  | c :: cs =>
      if separator.isPrefixOf (c :: cs) then some ([], (c :: cs).drop separator.length)
      else (cutAt? separator cs).map fun (before, after) => (c :: before, after)

def propertyQuery (text : List Char) : PropertyQuery :=
  match [['!', '='], [':'], ['=']].findSome? (cutAt? · text) with
  | some (name, value) => .value (String.ofList name) (String.ofList value)
  | none => .name (String.ofList text)

def propertyEscape (verbose negated : Bool) : PatternReader Ast := do
  blanks verbose
  match ← Reader.next? with
  | none => Reader.fail .escapeUnexpectedEnd
  | some '{' => do
      blanks verbose
      let name ← spaced verbose (· != '}')
      match ← Reader.next? with
      | none => Reader.fail .escapeUnexpectedEnd
      | some _ => pure (.property negated (propertyQuery name))
  | some '\\' => Reader.fail .propertyInvalid
  | some c => pure (.property negated (.name c.toString))

-- Characters that can be written with a backslash before them and then stand for themselves: ASCII
-- punctuation, blanks and controls, but not the angle brackets.
def isEscapable (c : Char) : Bool :=
  isAscii c && !c.isAlphanum && c != '<' && c != '>'

def boundaryName? : String → Option Anchor
  | "start" => some .wordStart
  | "end" => some .wordEnd
  | "start-half" => some .wordStartHalf
  | "end-half" => some .wordEndHalf
  | _ => none

def isBoundaryNameChar (c : Char) : Bool := c.isAlpha || c == '-'

def namedBoundary (verbose : Bool) : PatternReader Anchor := do
  let name ← spaced verbose isBoundaryNameChar
  match ← Reader.next? with
  | some '}' =>
      match boundaryName? (String.ofList name) with
      | some a => pure a
      | none => Reader.fail .wordBoundaryUnrecognized
  | _ => Reader.fail .wordBoundaryUnclosed

-- The name in braces that makes a word boundary a special one. Braces without a name are left for a
-- repetition.
def boundaryName (verbose : Bool) : PatternReader (Option Anchor) := Reader.optional do
  match ← Reader.peek with
  | some '{' => do
      Reader.skip 1
      blanks verbose
      match ← Reader.peek with
      | none => Reader.fail .wordBoundaryUnexpectedEnd
      | some c =>
          if isBoundaryNameChar c then do
            let a ← namedBoundary verbose
            pure (some a)
          else pure none
  | _ => pure none

def escaped (verbose : Bool) (c : Char) : PatternReader Ast :=
  if c.isDigit then Reader.fail .unsupportedBackreference
  else if isEscapable c then pure (.literal ⟨c, false⟩)
  else match c with
    | 'x' => hexLiteral verbose 2
    | 'u' => hexLiteral verbose 4
    | 'U' => hexLiteral verbose 8
    | 'p' => propertyEscape verbose false
    | 'P' => propertyEscape verbose true
    | 'd' => pure (.shorthand false .digit)
    | 's' => pure (.shorthand false .space)
    | 'w' => pure (.shorthand false .word)
    | 'D' => pure (.shorthand true .digit)
    | 'S' => pure (.shorthand true .space)
    | 'W' => pure (.shorthand true .word)
    | 'a' => pure (.literal ⟨'\x07', false⟩)
    | 'f' => pure (.literal ⟨'\x0c', false⟩)
    | 't' => pure (.literal ⟨'\t', false⟩)
    | 'n' => pure (.literal ⟨'\n', false⟩)
    | 'r' => pure (.literal ⟨'\r', false⟩)
    | 'v' => pure (.literal ⟨'\x0b', false⟩)
    | 'A' => pure (.anchor .textStart)
    | 'z' => pure (.anchor .textEnd)
    | 'b' => do
        let special ← boundaryName verbose
        pure (.anchor (special.getD .wordBoundary))
    | 'B' => pure (.anchor .notWordBoundary)
    | '<' => pure (.anchor .wordStart)
    | '>' => pure (.anchor .wordEnd)
    | _ => Reader.fail .escapeUnrecognized

def escape (verbose : Bool) : PatternReader Ast := do
  match ← Reader.next? with
  | none => Reader.fail .escapeUnexpectedEnd
  | some c => escaped verbose c

end PathQuery.Regex
