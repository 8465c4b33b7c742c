import PathQuery.Unicode.Character

set_option autoImplicit false

namespace PathQuery

inductive Dialect where
  -- Regular expressions in which a bare dot is a dot.
  | regex
  -- A star for any run of characters and a question mark for any one.
  | glob
  | grep
  | literal
deriving DecidableEq, Repr

namespace Dialect

def all : List Dialect := [.regex, .glob, .grep, .literal]

def name : Dialect → String
  | .regex => "regex"
  | .glob => "glob"
  | .grep => "grep"
  | .literal => "literal"

-- Reads a name. Blanks around it and the case of its letters do not count.
def ofName? (text : String) : Option Dialect :=
  let folded := String.ofList ((Unicode.trimBlanks text.toList).map Char.toLower)
  all.find? (·.name = folded)

end Dialect

end PathQuery
