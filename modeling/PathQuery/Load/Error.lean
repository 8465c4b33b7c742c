import PathQuery.Document.Json.Number
import PathQuery.Document.Yaml.Source
import PathQuery.Files
import PathQuery.Gzip.Bits
import PathQuery.Text.Utf8

set_option autoImplicit false

namespace PathQuery

inductive LoadCause where
  | file (e : FileError)
  | gzip (e : Gzip.Error)
  | notText
  | encoding (e : Utf8.Error)
  | json (e : Json.Error)
  | yaml (e : Yaml.Error)
  | settings
deriving DecidableEq, Repr

structure LoadError where
  contexts : List String
  cause : LoadCause
deriving DecidableEq, Repr

namespace LoadCause

def message : LoadCause → String
  | .file e => e.message
  | .gzip .truncated => "unexpected end of data"
  | .gzip .corrupt => "corrupt data"
  | .notText => "stream did not contain valid UTF-8"
  | .encoding e => e.message
  | .json .endOfInput => "unexpected end of text"
  | .json .malformed => "malformed text"
  | .yaml .malformed => "malformed text"
  | .yaml .mismatched => "a key is not a string"
  | .settings => "TOML parse error"

end LoadCause

namespace LoadError

def message (e : LoadError) : String := String.intercalate ": " (e.contexts ++ [e.cause.message])

end LoadError

abbrev Loaded (α : Type) := Except LoadError α

namespace Loaded

def ofExcept {ε α : Type} (cause : ε → LoadCause) : Except ε α → Loaded α
  | .ok a => .ok a
  | .error e => .error ⟨[], cause e⟩

def within {α : Type} (context : String) : Loaded α → Loaded α
  | .ok a => .ok a
  | .error e => .error { e with contexts := context :: e.contexts }

end Loaded

end PathQuery
