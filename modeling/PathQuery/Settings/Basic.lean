import PathQuery.Query.Error
import PathQuery.Toml.Reader
import PathQuery.Toml.Writer

set_option autoImplicit false

namespace PathQuery

structure Settings where
  -- The name of a dialect, which need not be known.
  dialect : String
  ignoreCase : Bool
  -- How many results are shown at most. Zero stands for all of them.
  maxResults : Nat
  showNames : Bool
deriving DecidableEq, Repr

namespace Settings

def standard : Settings := ⟨Dialect.regex.name, false, 0, false⟩

def dialect? (s : Settings) : Except QueryError Dialect := Dialect.ofName s.dialect

def setting {α : Type} (entries : Toml.Entries) (key : String) (standard : α)
    (ofItem? : Toml.Item → Option α) : Except Toml.Error α :=
  match entries.lookup key with
  | none => .ok standard
  | some item =>
      match ofItem? item with
      | some a => .ok a
      | none => .error .mistyped

def string? : Toml.Item → Option String
  | .string s => some s
  | _ => none

def boolean? : Toml.Item → Option Bool
  | .boolean b => some b
  | _ => none

def count? : Toml.Item → Option Nat
  | .integer (.ofNat n) => some n
  | _ => none

-- Reads settings. Other entries do not matter.
def read (text : String) : Except Toml.Error Settings := do
  let entries ← Toml.read text
  .ok {
    dialect := ← setting entries "dialect" standard.dialect string?
    ignoreCase := ← setting entries "ignore_case" standard.ignoreCase boolean?
    maxResults := ← setting entries "max_results" standard.maxResults count?
    showNames := ← setting entries "show_names" standard.showNames boolean? }

def booleanText (b : Bool) : List Char := if b then "true".toList else "false".toList

def maxCount : Nat := Nat.pow 2 63 - 1

def text? (s : Settings) : Option String :=
  if s.maxResults ≤ maxCount then
    some (String.ofList
      (Toml.writeEntry "dialect" (Toml.writeString s.dialect.toList) ++
        Toml.writeEntry "ignore_case" (booleanText s.ignoreCase) ++
        Toml.writeEntry "max_results" (toString s.maxResults).toList ++
        Toml.writeEntry "show_names" (booleanText s.showNames)))
  else none

end Settings

end PathQuery
