import PathQuery.Document.Yaml.Source
import PathQuery.Document.Yaml.Token
import PathQuery.Unicode.CodeSet
import PathQuery.Text.Utf8

set_option autoImplicit false

namespace PathQuery.Yaml

open PathQuery.Text

def readAnchorName : YamlReader String := do
  let name ← YamlReader.takeWhile isNameChar
  YamlReader.require fun input =>
    !name.isEmpty && (atGap input || nextIs (· ∈ ['?', ':', ',', ']', '\x7d', '%', '@', '`']) input)
  pure (String.ofList name)

-- The characters of tags. Names in full may also have commas and brackets.
def isTagChar (full : Bool) (c : Char) : Bool :=
  isNameChar c || c ∈ ";/?:@&=+$.%!~*'()".toList || (full && c ∈ [',', '[', ']'])

-- The bytes that a text with percent signs stands for. Two digits have to follow each of them.
def percentBytes? : List Char → Option (List UInt8)
  | [] => some []
  | '%' :: a :: b :: cs => do
      let high ← Unicode.hexDigit? a
      let low ← Unicode.hexDigit? b
      let rest ← percentBytes? cs
      some (UInt8.ofNat (16 * high + low) :: rest)
  | '%' :: _ => none
  | c :: cs => (String.utf8EncodeChar c ++ ·) <$> percentBytes? cs

def readTagText (full : Bool) : YamlReader String := do
  let written ← YamlReader.takeWhile (isTagChar full)
  match percentBytes? written with
  | none => Reader.fail .malformed
  | some bytes =>
      match Utf8.decode bytes with
      | .ok chars => pure (String.ofList chars)
      | .error _ => Reader.fail .malformed

def readTagWord (full : Bool) : YamlReader String := do
  let text ← readTagText full
  if text.isEmpty then Reader.fail .malformed else pure text

def readTagName : YamlReader TagName := do
  if ← YamlReader.skipIf '<' then
    let name ← readTagWord true
    let _ ← YamlReader.take (· == '>')
    pure ⟨"", name⟩
  else
    let word ← YamlReader.takeWhile isNameChar
    if ← YamlReader.skipIf '!' then
      pure ⟨String.ofList (['!'] ++ word ++ ['!']), ← readTagWord false⟩
    else
      let suffix := String.ofList word ++ (← readTagText false)
      pure (if suffix.isEmpty then ⟨"", "!"⟩ else ⟨"!", suffix⟩)

-- A tag. It ends with a gap, or before a comma where it is part of a collection in brackets.
def readTag (inFlow : Bool) : YamlReader TagName := do
  let name ← readTagName
  YamlReader.require fun input => atGap input || (inFlow && nextIs (· == ',') input)
  pure name

def readVersionPart : YamlReader Nat := do
  let digits ← YamlReader.takeWhile Char.isDigit
  if digits.isEmpty || 9 < digits.length then Reader.fail .malformed
  else pure (digits.foldl (fun n c => 10 * n + (c.toNat - '0'.toNat)) 0)

def readVersion : YamlReader Token := do
  let major ← readVersionPart
  let _ ← YamlReader.take (· == '.')
  pure (.version major (← readVersionPart))

def readTagHandle : YamlReader Token := do
  let _ ← YamlReader.take (· == '!')
  let word ← YamlReader.takeWhile isNameChar
  let closed ← YamlReader.skipIf '!'
  if !closed && !word.isEmpty then Reader.fail .malformed
  else
    let handle := ['!'] ++ word ++ if closed then ['!'] else []
    YamlReader.require (nextIs isBlank)
    let _ ← YamlReader.takeWhile isBlank
    let lead ← readTagWord true
    YamlReader.require atGap
    pure (.tagHandle (String.ofList handle) lead)

def readDirective : YamlReader Token := do
  let name ← YamlReader.takeWhile isNameChar
  YamlReader.require atGap
  let _ ← YamlReader.takeWhile isBlank
  let directive ←
    if name = "YAML".toList then readVersion
    else if name = "TAG".toList then readTagHandle
    else Reader.fail .malformed
  YamlReader.skipLineRest
  pure directive

end PathQuery.Yaml
