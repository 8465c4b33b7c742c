import PathQuery.Document.Value
import PathQuery.Toml.Text

set_option autoImplicit false

namespace PathQuery.Toml

open PathQuery.Numeral

inductive Origin where
  | header
  | implied
  | dotted
  | inline
deriving DecidableEq, Repr

inductive Item where
  | string (s : String)
  | integer (n : Int)
  | float (x : Binary64)
  | boolean (b : Bool)
  -- A date or a time, as it is written.
  | moment (text : String)
  | array (items : List Item)
  | table (origin : Origin) (entries : List (String × Item))
  -- The tables that headers in double brackets define, the latest first.
  | tables (elements : List (List (String × Item)))

abbrev Entries := List (String × Item)

namespace Entries

-- Changes the table that a path leads to. Tables that are missed on the way are made. Keys with
-- dots do not lead into tables that have a header.
def change (byDots : Bool) (f : Origin → Entries → Except Error Entries) :
    List String → Origin → Entries → Except Error Entries
  | [], origin, entries => f origin entries
  | key :: path, _, entries => do
      match entries.lookup key with
      | none =>
          let origin := if byDots then Origin.dotted else .implied
          .ok (setEntry key (.table origin (← change byDots f path origin [])) entries)
      | some (.table origin inner) =>
          if origin = .inline ∨ (byDots ∧ origin = .header) then .error .redefined
          else .ok (setEntry key (.table origin (← change byDots f path origin inner)) entries)
      | some (.tables (latest :: others)) =>
          .ok (setEntry key (.tables ((← change byDots f path .header latest) :: others)) entries)
      | some _ => .error .redefined

-- Defines a key with dots. The tables that it leads into have to be defined in the same way.
def define (path : List String) (value : Item) (origin : Origin) (entries : Entries) :
    Except Error Entries :=
  let outer := path.dropLast
  let key := path.getLast?.getD ""
  change true (fun origin entries =>
    if (origin = .dotted) = outer.isEmpty ∨ (entries.lookup key).isSome then .error .redefined
    else .ok (entries ++ [(key, value)])) outer origin entries

def beginTable (path : List String) (entries : Entries) : Except Error Entries :=
  let key := path.getLast?.getD ""
  change false (fun _ entries =>
    match entries.lookup key with
    | none => .ok (entries ++ [(key, .table .header [])])
    | some (.table .implied inner) => .ok (setEntry key (.table .header inner) entries)
    | some _ => .error .redefined) path.dropLast .header entries

def beginElement (path : List String) (entries : Entries) : Except Error Entries :=
  let key := path.getLast?.getD ""
  change false (fun _ entries =>
    match entries.lookup key with
    | none => .ok (entries ++ [(key, .tables [[]])])
    | some (.tables elements) => .ok (setEntry key (.tables ([] :: elements)) entries)
    | some _ => .error .redefined) path.dropLast .header entries

end Entries

end PathQuery.Toml
