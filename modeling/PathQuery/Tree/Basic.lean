import PathQuery.Path
import PathQuery.Search.Unvisited

/-!
Named trees. Nodes are numbered in the order in which they are added, and links between them are
kept at both ends. Links can be added later on, so that a tree can have loops; paths are cut off
where they come back to a node.
-/

set_option autoImplicit false

namespace PathQuery

structure Node where
  name : String
  parent : Option Nat
  children : List Nat
deriving DecidableEq, Repr

structure Tree where
  nodes : Array Node
deriving DecidableEq

namespace Tree

def new (name : String) : Tree := ⟨#[⟨name, none, []⟩]⟩

def root : Nat := 0

def size (t : Tree) : Nat := t.nodes.size

def has (t : Tree) (id : Nat) : Bool := id < t.size

def name (t : Tree) (id : Nat) : String := (t.nodes[id]?).elim "" Node.name

def parent? (t : Tree) (id : Nat) : Option Nat := (t.nodes[id]?).bind Node.parent

def children (t : Tree) (id : Nat) : List Nat := (t.nodes[id]?).elim [] Node.children

def addLink (t : Tree) (parent child : Nat) : Tree :=
  ⟨t.nodes.modify parent fun n => { n with children := n.children ++ [child] }⟩

-- Adds a node below another one, which has to be there. The number of the new node is the size of
-- the tree before.
def add? (t : Tree) (parent : Nat) (name : String) : Option Tree :=
  if t.has parent then some ((Tree.mk (t.nodes.push ⟨name, some parent, []⟩)).addLink parent t.size)
  else none

-- Makes a node a child of another one besides those that it has. Both have to be there.
def link? (t : Tree) (parent child : Nat) : Option Tree :=
  if t.has parent && t.has child then some (t.addLink parent child) else none

-- Changes the parent of a node, and nothing else. Both have to be there.
def setParent? (t : Tree) (id : Nat) (parent : Option Nat) : Option Tree :=
  if t.has id && parent.all t.has then
    some ⟨t.nodes.modify id fun n => { n with parent }⟩
  else none

-- A node and those above it, up to the root or to one that was `seen`.
def lineageFrom (t : Tree) (seen : List Nat) (id : Nat) : List Nat :=
  if _h : t.has id ∧ id ∉ seen then
    id :: match t.parent? id with
      | none => []
      | some parent => lineageFrom t (id :: seen) parent
  else []
termination_by unvisited (List.range t.size) seen
decreasing_by
  exact unvisited_cons_lt (by simpa [has] using _h.1) _h.2

def lineage (t : Tree) (id : Nat) : List Nat := t.lineageFrom [] id

-- The names from the top down to a node. Empty names are no part of a path.
def segments (t : Tree) (id : Nat) : List String :=
  ((t.lineage id).map t.name |>.filter (· ≠ "")).reverse

def path (t : Tree) (id : Nat) : String := pathText (t.segments id)

def findPath? (t : Tree) (path : String) : Option Nat :=
  (List.range t.size).find? fun id => t.segments id = pathNames path

end Tree

end PathQuery
