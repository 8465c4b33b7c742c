import PathQuery.Document.Yaml.Source

set_option autoImplicit false

namespace PathQuery.Yaml

inductive Gap where
  | blanks (text : List Char)
  -- The break of a line and those of the empty lines after it. A break that was escaped has no text
  -- of its own.
  | broken (first more : List Char)
deriving DecidableEq, Repr

namespace Gap

def none : Gap := .blanks []

def isBroken : Gap → Bool
  | .blanks _ => false
  | .broken _ _ => true

-- One more blank. After a break blanks only lay out the text.
def addBlank (c : Char) : Gap → Gap
  | .blanks text => .blanks (text ++ [c])
  | .broken first more => .broken first more

-- One more break. Blanks at the end of a line are dropped.
def addBreak (c : Char) : Gap → Gap
  | .blanks _ => .broken [c] []
  | .broken first more => .broken first (more ++ [c])

def text : Gap → List Char
  | .blanks text => text
  | .broken first more =>
      if first = ['\n'] then if more.isEmpty then [' '] else more else first ++ more

end Gap

end PathQuery.Yaml
