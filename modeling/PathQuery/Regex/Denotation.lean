import PathQuery.Regex.Ast
import PathQuery.Regex.Error
import PathQuery.Regex.Pattern

set_option autoImplicit false

namespace PathQuery.Regex

open PathQuery.Unicode

structure Flags where
  ignoreCase : Bool
  multiLine : Bool
  dotAll : Bool
  unicode : Bool
  crlf : Bool
deriving DecidableEq, Repr

def Flags.default (ignoreCase : Bool) : Flags := ⟨ignoreCase, false, false, true, false⟩

def Flags.set (f : Flags) (items : List FlagItem) : Flags :=
  { ignoreCase := (flagState? .ignoreCase items).getD f.ignoreCase
    multiLine := (flagState? .multiLine items).getD f.multiLine
    dotAll := (flagState? .dotAll items).getD f.dotAll
    unicode := (flagState? .unicode items).getD f.unicode
    crlf := (flagState? .crlf items).getD f.crlf }

def Flags.fold (f : Flags) (a : CharClass) : CharClass :=
  if !f.ignoreCase then a
  else if f.unicode then .folded a
  else a.asciiFolded

-- Folds a set and then takes its complement. The complement of a set of bytes has bytes beyond
-- ASCII in it.
def Flags.foldAndNegate (f : Flags) (negated : Bool) (a : CharClass) :
    Except Error CharClass :=
  if negated && !f.unicode then .error .invalidUtf8
  else .ok ((f.fold a).negatedIf negated)

def Literal.resolve (f : Flags) (l : Literal) : Except Error Char :=
  if !f.unicode && l.isByte && 0x80 ≤ l.char.toNat then .error .invalidUtf8 else .ok l.char

def Literal.resolveMember (f : Flags) (l : Literal) : Except Error Char := do
  let c ← l.resolve f
  if !f.unicode && 0x80 ≤ c.toNat then .error .unicodeNotAllowed else .ok c

def AsciiClass.toClass : AsciiClass → CharClass
  | .alnum => .ofList [.range '0' '9', .range 'A' 'Z', .range 'a' 'z']
  | .alpha => .ofList [.range 'A' 'Z', .range 'a' 'z']
  | .ascii => .ascii
  | .blank => .ofList [.single '\t', .single ' ']
  | .cntrl => .ofList [.range '\x00' '\x1f', .single '\x7f']
  | .digit => .range '0' '9'
  | .graph => .range '!' '~'
  | .lower => .range 'a' 'z'
  | .print => .range ' ' '~'
  | .punct => .ofList [.range '!' '/', .range ':' '@', .range '[' '\x60', .range '\x7b' '~']
  | .space => .ofList [.range '\t' '\r', .single ' ']
  | .upper => .range 'A' 'Z'
  | .word => .ofList [.range '0' '9', .range 'A' 'Z', .single '_', .range 'a' 'z']
  | .xdigit => .ofList [.range '0' '9', .range 'A' 'F', .range 'a' 'f']

def Shorthand.toAscii : Shorthand → AsciiClass
  | .digit => .digit
  | .space => .space
  | .word => .word

def Shorthand.resolve (f : Flags) (negated : Bool) (set : Shorthand) : Except Error CharClass :=
  if f.unicode then .ok ((CharClass.shorthand set).negatedIf negated)
  else if negated then .error .invalidUtf8
  else .ok set.toAscii.toClass

def resolveProperty (f : Flags) (negated : Bool) (query : PropertyQuery) :
    Except Error CharClass :=
  if !f.unicode then .error .unicodeNotAllowed
  else match query.find with
    | .error .unknownProperty => .error .propertyNotFound
    | .error .unknownValue => .error .propertyValueNotFound
    | .ok sets => f.foldAndNegate negated (.ofList (sets.map .codes))

def SetOp.apply : SetOp → CharClass → CharClass → CharClass
  | .intersection => .inter
  | .difference => .diff
  | .symmetricDifference => .symmDiff

-- The set that a bracketed class stands for. Both operands of an operator are folded before it is
-- applied.
def ClassSet.resolve (f : Flags) : ClassSet → Except Error CharClass
  | .empty => .ok .none
  | .literal l => do .ok (.single (← l.resolveMember f))
  | .range first last => do
      .ok (.range (← first.resolveMember f) (← last.resolveMember f))
  | .ascii negated set => f.foldAndNegate negated set.toClass
  | .property negated query => resolveProperty f negated query
  | .shorthand negated set => set.resolve f negated
  | .bracket negated set => do f.foldAndNegate negated (← set.resolve f)
  | .beside a b => do .ok (.union (← a.resolve f) (← b.resolve f))
  | .binary op a b => do
      let a ← a.resolve f
      let b ← b.resolve f
      .ok (op.apply (f.fold a) (f.fold b))

def charPattern (f : Flags) (c : Char) : Pattern :=
  if f.ignoreCase && (f.unicode || isAscii c) then .chars (f.fold (.single c))
  else .chars (.single c)

def dotPattern (f : Flags) : Except Error Pattern :=
  if !f.unicode then .error .invalidUtf8
  else if f.dotAll then .ok (.chars (.compl .none))
  else if f.crlf then .ok (.chars (.compl (.ofList [.single '\n', .single '\r'])))
  else .ok (.chars (.compl (.single '\n')))

def anchorLook (f : Flags) : Anchor → Look
  | .lineStart => if !f.multiLine then .start else if f.crlf then .crlfStart else .lineStart
  | .lineEnd => if !f.multiLine then .stop else if f.crlf then .crlfEnd else .lineEnd
  | .textStart => .start
  | .textEnd => .stop
  | .wordBoundary => .wordBoundary f.unicode
  | .notWordBoundary => .notWordBoundary f.unicode
  | .wordStart => .wordStart f.unicode
  | .wordEnd => .wordEnd f.unicode
  | .wordStartHalf => .wordStartHalf f.unicode
  | .wordEndHalf => .wordEndHalf f.unicode

-- What a pattern means under some flags, and the flags that hold after it. Flags that are set in a
-- group hold up to its end.
def Ast.denote (f : Flags) : Ast → Except Error (Pattern × Flags)
  | .empty => .ok (.empty, f)
  | .flags items => .ok (.empty, f.set items)
  | .literal l => do .ok (charPattern f (← l.resolve f), f)
  | .dot => do .ok (← dotPattern f, f)
  | .anchor a => .ok (.look (anchorLook f a), f)
  | .property negated query => do .ok (.chars (← resolveProperty f negated query), f)
  | .shorthand negated set => do .ok (.chars (← set.resolve f negated), f)
  | .bracket negated set => do .ok (.chars (← (ClassSet.bracket negated set).resolve f), f)
  | .repetition min max a => do
      let (p, _) ← a.denote f
      .ok (.rep min max p, f)
  | .group (.capture) a => do
      let (p, _) ← a.denote f
      .ok (p, f)
  | .group (.flags items) a => do
      let (p, _) ← a.denote (f.set items)
      .ok (p, f)
  | .cat a b => do
      let (p, f) ← a.denote f
      let (q, f) ← b.denote f
      .ok (.cat p q, f)
  | .alt a b => do
      let (p, f) ← a.denote f
      let (q, f) ← b.denote f
      .ok (.alt p q, f)

end PathQuery.Regex
