import PathQuery.Text.Quoted

set_option autoImplicit false

namespace PathQuery.Toml

inductive Form where
  | basic
  | literal
  | basicLines
  | literalLines
  -- Escaped, over several lines if there is a break.
  | escaped
deriving DecidableEq, Repr

def isControl (c : Char) : Bool := (c < ' ' && c != '\n' && c != '\t') || c == '\x7f'

-- How many times `c` stands in a row at most, given how many times it did just before.
def longestRun (c : Char) (run : Nat) : List Char → Nat
  | [] => run
  | d :: ds => if d = c then longestRun c (run + 1) ds else max run (longestRun c 0 ds)

def Form.ofText (s : List Char) : Form :=
  if s.any isControl then .escaped
  else if '\\' ∉ s ∧ '"' ∉ s ∧ '\n' ∉ s then .basic
  else if '\'' ∉ s ∧ '\n' ∉ s then .literal
  else if '\\' ∉ s ∧ longestRun '"' 0 s ≤ 2 then .basicLines
  else if longestRun '\'' 0 s ≤ 2 then .literalLines
  else .escaped

def upperHexDigit (n : Nat) : Char := (Text.hexDigitChar n).toUpper

def escapeChar (c : Char) : List Char :=
  if c = '"' ∨ c = '\\' then ['\\', c]
  else if c = '\x08' then ['\\', 'b']
  else if c = '\t' then ['\\', 't']
  else if c = '\n' then ['\\', 'n']
  else if c = '\x0c' then ['\\', 'f']
  else if c = '\r' then ['\\', 'r']
  else if c < ' ' ∨ c = '\x7f' then
    ['\\', 'u', '0', '0', upperHexDigit (c.toNat / 16), upperHexDigit (c.toNat % 16)]
  else [c]

-- Characters within three double quotes, given how many double quotes stand just before. Breaks
-- stay, and so do double quotes, up to the third in a row.
def escapeLines (quotes : Nat) : List Char → List Char
  | [] => []
  | '\n' :: cs => '\n' :: escapeLines 0 cs
  | '"' :: cs =>
      if quotes < 2 then '"' :: escapeLines (quotes + 1) cs else '\\' :: '"' :: escapeLines 0 cs
  | c :: cs => escapeChar c ++ escapeLines 0 cs

def inLines (mark : Char) (s body : List Char) : List Char :=
  List.replicate 3 mark ++ (if '\n' ∈ s then ['\n'] else []) ++ body ++ List.replicate 3 mark

def writeString (s : List Char) : List Char :=
  match Form.ofText s with
  | .basic => ['"'] ++ s.flatMap escapeChar ++ ['"']
  | .literal => ['\''] ++ s ++ ['\'']
  | .basicLines => inLines '"' s (escapeLines 0 s)
  | .literalLines => inLines '\'' s s
  | .escaped =>
      if '\n' ∈ s then inLines '"' s (escapeLines 0 s)
      else ['"'] ++ s.flatMap escapeChar ++ ['"']

def writeEntry (key : String) (value : List Char) : List Char :=
  key.toList ++ " = ".toList ++ value ++ ['\n']

end PathQuery.Toml
