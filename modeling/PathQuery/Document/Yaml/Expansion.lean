import PathQuery.Document.Yaml.Node
import PathQuery.Document.Yaml.Schema

set_option autoImplicit false

namespace PathQuery.Yaml.Node

abbrev Names := List (String × Nat)

-- The number of the next anchor: as many names as there were before. A name that is used again does
-- not count twice.
def Names.next (names : Names) : Nat := (names.map Prod.fst).eraseDups.length

abbrev Numbering (α : Type) := StateT Names (Except Error) α

def numberProperties (p : Properties String) : Numbering (Properties Nat) := do
  match p.anchor with
  | none => pure ⟨none, p.tag⟩
  | some name => do
      let names ← get
      let n := names.next
      set ((name, n) :: names)
      pure ⟨some n, p.tag⟩

mutual

-- Replaces names by numbers. The anchor of a collection is known within it.
def number : NamedNode → Numbering (Node Nat)
  | .alias name => do
      match (← get).lookup name with
      | some n => pure (.alias n)
      | none => throw .malformed
  | .scalar p plain text => do pure (.scalar (← numberProperties p) plain text)
  | .sequence p items => do
      let p ← numberProperties p
      pure (.sequence p (← numberItems items))
  | .mapping p entries => do
      let p ← numberProperties p
      pure (.mapping p (← numberEntries entries))

def numberItems : List NamedNode → Numbering (List (Node Nat))
  | [] => pure []
  | item :: items => do
      let item ← number item
      pure (item :: (← numberItems items))

def numberEntries : List (NamedNode × NamedNode) → Numbering (List (Node Nat × Node Nat))
  | [] => pure []
  | (key, value) :: entries => do
      let key ← number key
      let value ← number value
      pure ((key, value) :: (← numberEntries entries))

end

abbrev Anchored := List (Nat × Node Nat)

def anchoredBy (p : Properties Nat) (node : Node Nat) : Anchored :=
  p.anchor.toList.map fun n => (n, node)

mutual

def anchored : Node Nat → Anchored
  | .alias _ => []
  | .scalar p plain text => anchoredBy p (.scalar p plain text)
  | .sequence p items => anchoredBy p (.sequence p items) ++ anchoredItems items
  | .mapping p entries => anchoredBy p (.mapping p entries) ++ anchoredEntries entries

def anchoredItems : List (Node Nat) → Anchored
  | [] => []
  | item :: items => anchored item ++ anchoredItems items

def anchoredEntries : List (Node Nat × Node Nat) → Anchored
  | [] => []
  | (key, value) :: entries => anchored key ++ anchored value ++ anchoredEntries entries

end

mutual

-- How many parts a node has. Collections count for their two ends.
def parts : Node Nat → Nat
  | .alias _ => 1
  | .scalar _ _ _ => 1
  | .sequence _ items => partsOfItems items + 2
  | .mapping _ entries => partsOfEntries entries + 2

def partsOfItems : List (Node Nat) → Nat
  | [] => 0
  | item :: items => parts item + partsOfItems items

def partsOfEntries : List (Node Nat × Node Nat) → Nat
  | [] => 0
  | (key, value) :: entries => parts key + parts value + partsOfEntries entries

end

structure Aliases where
  -- The latest of the nodes with a number comes first.
  anchored : Anchored
  limit : Nat

abbrev Expanding (α : Type) := StateT Nat (Except Error) α

def follow (a : Aliases) : Node Nat → Expanding (Node Nat)
  | .alias n => do
      let followed ← get
      if a.limit ≤ followed then throw .malformed
      set (followed + 1)
      match a.anchored.lookup n with
      | some node => pure node
      | none => throw .malformed
  | node => pure node

def scalarDatum (p : Properties Nat) (plain : Bool) (text : String) : Except Error Datum :=
  match p.tag with
  | some tag => taggedDatum tag text
  | none => if plain then plainDatum text else .ok (.string text)

def checkTag (p : Properties Nat) : Except Error Unit :=
  if p.tag.any isPrivate then .error .malformed else .ok ()

-- What a node holds, where `depth` more levels may be opened.
def expand (a : Aliases) (depth : Nat) (node : Node Nat) : Expanding Datum := do
  match ← follow a node, depth with
  | .scalar p plain text, _ => scalarDatum p plain text
  | .sequence p items, depth + 1 => do
      checkTag p
      pure (.sequence (← items.mapM (expand a depth)))
  | .mapping p entries, depth + 1 => do
      checkTag p
      pure (.mapping (← entries.mapM fun (key, value) => do
        let key ← expand a depth key
        pure (key, ← expand a depth value)))
  | _, _ => throw .malformed

def depthLimit : Nat := 128

def datum (node : NamedNode) : Except Error Datum := do
  let (node, _) ← (number node).run []
  let aliases : Aliases := ⟨node.anchored.reverse, 100 * node.parts⟩
  let (datum, _) ← (expand aliases depthLimit node).run 0
  .ok datum

end PathQuery.Yaml.Node
