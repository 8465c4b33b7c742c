import PathQuery.Document.Yaml.Expansion
import PathQuery.Document.Yaml.Tokens

set_option autoImplicit false

namespace PathQuery.Yaml

open PathQuery.Text

namespace Node

-- The handles that directives give, and the tokens after them. There is one version at most, and
-- each handle is given once.
def readDirectives (handles : Handles) (versioned : Bool) :
    List Token → Except Error (Handles × List Token)
  | .version major minor :: rest =>
      if !versioned && major == 1 && (minor == 1 || minor == 2) then
        readDirectives handles true rest
      else .error .malformed
  | .tagHandle handle lead :: rest =>
      if (handles.lookup handle).isSome then .error .malformed
      else readDirectives ((handle, lead) :: handles) versioned rest
  | rest => .ok (handles ++ standardHandles, rest)

def isNoContent : Token → Bool
  | .version .. | .tagHandle .. | .documentStart | .documentEnd | .streamEnd => true
  | _ => false

def readDocument (tokens : List Token) : Except Error (NamedNode × List Token) := do
  match tokens with
  | .version .. :: _ | .tagHandle .. :: _ | .documentStart :: _ =>
      match ← readDirectives [] false tokens with
      | (handles, .documentStart :: rest) => do
          let node ← readUnless handles .block isNoContent rest
          .ok (node.value, node.rest)
      | _ => .error .malformed
  | .streamEnd :: _ => .ok (empty, tokens)
  | _ => do
      let node ← read standardHandles .block tokens
      .ok (node.value, node.rest)

def isEnd (rest : List Token) : Bool :=
  rest.dropWhile (· = .documentEnd) = [.streamEnd]

end Node

-- Reads a text. A key that is no string is reported before what is wrong behind the document.
def read (text : String) : Except Error Value := do
  let source ← Source.ofText text.toList
  let (node, rest) ← Node.readDocument (tokens source)
  match (← node.datum).value? with
  | none => .error .mismatched
  | some value => if Node.isEnd rest then .ok value else .error .malformed

end PathQuery.Yaml
