import PathQuery.Query.Basic
import PathQuery.Search.Basic
import PathQuery.Tree.Basic

set_option autoImplicit false

namespace PathQuery

def Tree.graph (t : Tree) : Graph Nat where
  nodes := List.range t.size
  children := t.children
  mem_nodes a linked := by
    simp only [List.mem_range, Tree.size]
    apply Classical.byContradiction
    intro outside
    apply linked
    simp [Tree.children, Array.getElem?_eq_none (Nat.le_of_not_lt outside)]

namespace Query

def matchesNode (q : Query) (t : Tree) (id : Nat) : Bool := q.isMatch (t.segments id)

-- A search from `start` that leaves out what the frontier has visited. A query without steps only
-- ever finds the start.
def search (q : Query) (start : Nat) (frontier : Frontier Nat) : Search Nat :=
  Search.begin (!q.steps.isEmpty) start frontier

def next (q : Query) (t : Tree) (s : Search Nat) : Option Nat × Search Nat :=
  s.next t.graph (q.matchesNode t)

-- The next nodes that a search of the tree finds, `limit` of them at most.
def take (q : Query) (t : Tree) (limit : Nat) (s : Search Nat) : List Nat × Search Nat :=
  s.take t.graph (q.matchesNode t) limit

end Query

end PathQuery
