import PathQuery.Document.Value
import PathQuery.Text.Quoted

set_option autoImplicit false

namespace PathQuery.Json

def escapeChar (c : Char) : List Char :=
  if c = '"' ∨ c = '\\' then ['\\', c]
  else if c = '\x08' then ['\\', 'b']
  else if c = '\t' then ['\\', 't']
  else if c = '\n' then ['\\', 'n']
  else if c = '\x0c' then ['\\', 'f']
  else if c = '\r' then ['\\', 'r']
  else if c < ' ' then
    ['\\', 'u', '0', '0', Text.hexDigitChar (c.toNat / 16), Text.hexDigitChar (c.toNat % 16)]
  else [c]

def writeString (s : String) : List Char := ['"'] ++ s.toList.flatMap escapeChar ++ ['"']

mutual

def write : Value → List Char
  | .null => "null".toList
  | .bool b => (if b then "true" else "false").toList
  | .integer n => (toString n).toList
  | .float x => (x.literal?.getD "null").toList
  | .string s => writeString s
  | .sequence items => ['['] ++ writeItems items ++ [']']
  | .mapping entries => ['\x7b'] ++ writeEntries entries ++ ['\x7d']

def writeItems : List Value → List Char
  | [] => []
  | [item] => write item
  | item :: next :: rest => write item ++ [','] ++ writeItems (next :: rest)

def writeEntries : List (String × Value) → List Char
  | [] => []
  | [(key, value)] => writeString key ++ [':'] ++ write value
  | (key, value) :: next :: rest =>
      writeString key ++ [':'] ++ write value ++ [','] ++ writeEntries (next :: rest)

end

def text (v : Value) : String := String.ofList (write v)

end PathQuery.Json
