import PathQuery.Query.Dialect
import PathQuery.Regex.Compile

set_option autoImplicit false

namespace PathQuery.Dialect

-- Bare dots lose their meaning. A bracket keeps its contents, but for a closing bracket in front,
-- which stands for itself there and gets a backslash.
def translateRegex : (inClass : Bool) → List Char → List Char
  | _, [] => []
  | _, ['\\'] => ['\\']
  | inClass, '\\' :: c :: cs => '\\' :: c :: translateRegex inClass cs
  | false, '[' :: '^' :: ']' :: cs => '[' :: '^' :: '\\' :: ']' :: translateRegex true cs
  | false, '[' :: '^' :: cs => '[' :: '^' :: translateRegex true cs
  | false, '[' :: ']' :: cs => '[' :: '\\' :: ']' :: translateRegex true cs
  | false, '[' :: cs => '[' :: translateRegex true cs
  | false, '.' :: cs => '\\' :: '.' :: translateRegex false cs
  | true, ']' :: cs => ']' :: translateRegex false cs
  | inClass, c :: cs => c :: translateRegex inClass cs

def translateGlobChar : Char → List Char
  | '*' => ['.', '*']
  | '?' => ['.']
  | c => Regex.escapeChar c

def translateGlob (s : List Char) : List Char := s.flatMap translateGlobChar

def isGrepOperator (c : Char) : Bool :=
  c ∈ ['\x7b', '\x7d', '+', '|', '(', ')', '?', '.']

def translateGrepEscape (c : Char) : List Char :=
  if c = '<' ∨ c = '>' then ['\\', 'b']
  else if isGrepOperator c then [c]
  else ['\\', c]

-- Takes the backslash from operators and lets the two anchors stand for the ends of the name.
def translateGrep : (inClass : Bool) → List Char → List Char
  | _, [] => []
  | _, ['\\'] => ['\\']
  | true, '\\' :: c :: cs => '\\' :: c :: translateGrep true cs
  | true, ']' :: cs => ']' :: translateGrep false cs
  | true, c :: cs => c :: translateGrep true cs
  | false, '\\' :: c :: cs => translateGrepEscape c ++ translateGrep false cs
  | false, '[' :: '^' :: ']' :: cs => '[' :: '^' :: '\\' :: ']' :: translateGrep true cs
  | false, '[' :: '^' :: cs => '[' :: '^' :: translateGrep true cs
  | false, '[' :: ']' :: cs => '[' :: '\\' :: ']' :: translateGrep true cs
  | false, '[' :: cs => '[' :: translateGrep true cs
  | false, '^' :: cs => '\\' :: 'A' :: translateGrep false cs
  | false, '$' :: cs => '\\' :: 'z' :: translateGrep false cs
  | false, c :: cs => c :: translateGrep false cs

def translate : Dialect → List Char → List Char
  | .regex => translateRegex false
  | .glob => translateGlob
  | .grep => translateGrep false
  | .literal => Regex.escapeText

def anchor (text : List Char) : List Char :=
  ['^', '(', '?', ':'] ++ text ++ [')', '$']

end PathQuery.Dialect
