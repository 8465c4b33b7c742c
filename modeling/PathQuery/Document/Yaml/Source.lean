import PathQuery.Text.Reading

set_option autoImplicit false

namespace PathQuery.Yaml

open PathQuery.Text

inductive Error where
  -- The text is no document, or it holds a value that documents do not have.
  | malformed
  -- A key of a mapping is something else than a string.
  | mismatched
deriving DecidableEq, Repr

structure Place where
  index : Nat
  line : Nat
  column : Nat
deriving DecidableEq, Repr

structure Placed where
  char : Char
  place : Place
deriving DecidableEq, Repr

def Place.after (p : Place) (lineBreak : Bool) (width : Nat) : Place :=
  if lineBreak then ⟨p.index + width, p.line + 1, 0⟩ else ⟨p.index + width, p.line, p.column + 1⟩

-- The breaks that stay as they are. All others become newlines.
def isSeparator (c : Char) : Bool := c == '\u2028' || c == '\u2029'

def isBreak (c : Char) : Bool := c == '\n' || isSeparator c

def isBlank (c : Char) : Bool := c == ' ' || c == '\t'

def placedFrom (p : Place) : List Char → List Placed × Place
  | [] => ([], p)
  | '\r' :: '\n' :: cs =>
      let (rest, finish) := placedFrom (p.after true 2) cs
      (⟨'\n', p⟩ :: rest, finish)
  | c :: cs =>
      let c := if c == '\r' || c == '\u0085' then '\n' else c
      let (rest, finish) := placedFrom (p.after (isBreak c) 1) cs
      (⟨c, p⟩ :: rest, finish)

-- The mark that tells the order of bytes. It may stand in front of a text.
def byteOrderMark : Char := '\ufeff'

def isAllowed (c : Char) : Bool :=
  let n := c.toNat
  n == 0x9 || n == 0xa || n == 0xd || n == 0x85 || (0x20 ≤ n && n ≤ 0x7e) ||
    (0xa0 ≤ n && n ≤ 0xd7ff) || (0xe000 ≤ n && n ≤ 0xfffd) || 0x10000 ≤ n

structure Source where
  chars : List Placed
  finish : Place

def Source.ofText (text : List Char) : Except Error Source :=
  let text := if text.head? = some byteOrderMark then text.drop 1 else text
  if text.all isAllowed then
    let (chars, finish) := placedFrom ⟨0, 0, 0⟩ text
    .ok ⟨chars, finish⟩
  else .error .malformed

abbrev YamlReader (α : Type) := Reader Placed Error α

def beginsWith (text : List Char) (input : List Placed) : Bool :=
  (input.take text.length).map Placed.char == text

def atGap : List Placed → Bool
  | [] => true
  | p :: _ => isBlank p.char || isBreak p.char

def atLineEnd : List Placed → Bool
  | [] => true
  | p :: _ => isBreak p.char

def nextIs (p : Char → Bool) : List Placed → Bool
  | [] => false
  | c :: _ => p c.char

def atDocumentMark (input : List Placed) : Bool :=
  match input with
  | p :: _ =>
      p.place.column == 0 && atGap (input.drop 3) &&
        (beginsWith ['-', '-', '-'] input || beginsWith ['.', '.', '.'] input)
  | [] => false

def isNameChar (c : Char) : Bool := c.isAlphanum || c == '_' || c == '-'

namespace YamlReader

def takeWhile (p : Char → Bool) : YamlReader (List Char) := do
  let taken ← Reader.takeWhile fun x => p x.char
  pure (taken.map Placed.char)

def require (p : List Placed → Bool) : YamlReader Unit := do
  if p (← Reader.ahead) then pure () else Reader.fail .malformed

def take (p : Char → Bool) : YamlReader Char := do
  match ← Reader.next? with
  | some x => if p x.char then pure x.char else Reader.fail .malformed
  | none => Reader.fail .malformed

def skipIf (c : Char) : YamlReader Bool := do
  if nextIs (· == c) (← Reader.ahead) then do
    Reader.skip 1
    pure true
  else pure false

-- Passes over the rest of a line, where nothing but blanks and a comment may stand, and over the
-- break at its end.
def skipLineRest : YamlReader Unit := do
  let _ ← takeWhile isBlank
  if nextIs (· == '#') (← Reader.ahead) then
    let _ ← takeWhile (!isBreak ·)
  require atLineEnd
  Reader.skip 1

end YamlReader

end PathQuery.Yaml
