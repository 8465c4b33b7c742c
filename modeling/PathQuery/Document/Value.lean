import PathQuery.Numeral.Shortest
import PathQuery.Tree.Basic

set_option autoImplicit false

namespace PathQuery

open PathQuery.Numeral

/-- A nested value. The keys of a mapping are in the order of the document. -/
inductive Value where
  | null
  | bool (b : Bool)
  | integer (n : Int)
  | float (x : Binary64)
  | string (s : String)
  | sequence (items : List Value)
  | mapping (entries : List (String × Value))
deriving Inhabited

-- Sets a key. One that is there keeps its place.
def setEntry {α : Type} (key : String) (value : α) : List (String × α) → List (String × α)
  | [] => [(key, value)]
  | (k, v) :: rest =>
      if k = key then (k, value) :: rest else (k, v) :: setEntry key value rest

def setEntries {α : Type} (entries : List (String × α)) : List (String × α) :=
  entries.foldl (fun done (k, v) => setEntry k v done) []

namespace Value

-- The text of a value that holds no others. Null has none.
def scalarText? : Value → Option String
  | .bool b => some (if b then "true" else "false")
  | .integer n => some (toString n)
  | .float x => some x.text
  | .string s => some s
  | .null | .sequence _ | .mapping _ => none

def isContainer : Value → Bool
  | .sequence _ | .mapping _ => true
  | _ => false

end Value

namespace Tree

def addChild (t : Tree) (parent : Nat) (name : String) : Tree :=
  (t.add? parent name).getD t

def addScalar (t : Tree) (parent : Nat) (v : Value) : Tree :=
  match v.scalarText? with
  | some text => t.addChild parent text
  | none => t

mutual

-- Adds what a value holds below a node: keys become children, and a scalar becomes a leaf with its
-- text for a name.
def addValue (t : Tree) (parent : Nat) : Value → Tree
  | .null => t
  | .mapping entries => addEntries t parent entries
  | .sequence items => addItems t parent 0 items
  | .bool b => addScalar t parent (.bool b)
  | .integer n => addScalar t parent (.integer n)
  | .float x => addScalar t parent (.float x)
  | .string s => addScalar t parent (.string s)

def addEntries (t : Tree) (parent : Nat) : List (String × Value) → Tree
  | [] => t
  | (key, value) :: rest =>
      addEntries (addValue (t.addChild parent key) t.size value) parent rest

def addItems (t : Tree) (parent index : Nat) : List Value → Tree
  | [] => t
  | item :: rest =>
      let t :=
        if item.isContainer then addValue (t.addChild parent (toString index)) t.size item
        else addValue t parent item
      addItems t parent (index + 1) rest

end

def ofValue (v : Value) : Tree := (new "").addValue root v

end Tree

end PathQuery
