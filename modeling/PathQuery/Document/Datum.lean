import PathQuery.Document.Value

set_option autoImplicit false

namespace PathQuery

open PathQuery.Numeral

/-- What a document holds before it is known of which kind its values are. An integer has 64 bits,
with a sign or without one, and the keys of a mapping can be anything. -/
inductive Datum where
  | null
  | bool (b : Bool)
  | integer (n : Int)
  | float (x : Binary64)
  | string (s : String)
  | sequence (items : List Datum)
  | mapping (entries : List (Datum × Datum))
deriving Inhabited

namespace Datum

def null? : Datum → Option Value
  | .null => some .null
  | _ => none

def bool? : Datum → Option Value
  | .bool b => some (.bool b)
  | _ => none

def integer? : Datum → Option Value
  | .integer n =>
      if -(Nat.pow 2 63 : Int) ≤ n ∧ n < Nat.pow 2 63 then some (.integer n) else none
  | _ => none

-- An integer is a float as well, of which only those come this far that were too great for one.
def float? : Datum → Option Value
  | .integer n => some (.float (.ofInt n))
  | .float x => some (.float x)
  | _ => none

def text? : Datum → Option String
  | .string s => some s
  | _ => none

mutual

-- The kinds are tried one after another, and the first that a datum fits counts.
def value? (d : Datum) : Option Value :=
  d.null? <|> d.bool? <|> d.integer? <|> d.float? <|> d.text?.map .string <|>
  (match d with
    | .sequence items => (values? items).map .sequence
    | _ => none) <|>
  match d with
    | .mapping entries => (entries? entries).map fun entries => .mapping (setEntries entries)
    | _ => none

def values? : List Datum → Option (List Value)
  | [] => some []
  | item :: rest => do
      let item ← value? item
      some (item :: (← values? rest))

-- A mapping has strings for its keys.
def entries? : List (Datum × Datum) → Option (List (String × Value))
  | [] => some []
  | (key, item) :: rest => do
      let key ← key.text?
      let item ← value? item
      some ((key, item) :: (← entries? rest))

end

end Datum

end PathQuery
