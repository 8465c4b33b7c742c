import PathQuery.Search.Frontier
import PathQuery.Search.Unvisited

set_option autoImplicit false

namespace PathQuery

-- Only finitely many nodes have links.
structure Graph (α : Type) where
  nodes : List α
  children : α → List α
  mem_nodes : ∀ a, children a ≠ [] → a ∈ nodes

-- A search under way. One that looks for its start alone never looks further.
structure Search (α : Type) where
  frontier : Frontier α
  follows : Bool
  -- The start, as long as a search that does not follow links has yet to give it.
  only : Option α

namespace Search

variable {α : Type} [DecidableEq α]

def begin (follows : Bool) (start : α) (frontier : Frontier α) : Search α :=
  if follows then ⟨(frontier.push start).2, true, none⟩
  else ⟨frontier, false, if frontier.isVisited start then none else some start⟩

-- Visits the next node that was not visited before. Its children wait behind what already waits.
def visit? (g : Graph α) (f : Frontier α) : Option (α × Frontier α) :=
  match f.pop with
  | (none, _) => none
  | (some a, next) => some (a, next.pushAll (g.children a))

theorem visit?_eq_some {g : Graph α} {f next : Frontier α} {a : α}
    (visits : visit? g f = some (a, next)) :
    ∃ rest, Frontier.nextFresh? f.visited f.pending = some (a, rest) ∧
      next = (Frontier.mk rest (a :: f.visited)).pushAll (g.children a) := by
  cases fresh : Frontier.nextFresh? f.visited f.pending with
  | none => simp [visit?, Frontier.pop, fresh] at visits
  | some found =>
    obtain ⟨b, rest⟩ := found
    simp only [visit?, Frontier.pop, fresh, Option.some.injEq, Prod.mk.injEq] at visits
    obtain ⟨rfl, rfl⟩ := visits
    exact ⟨rest, rfl, rfl⟩

/-- Every visit leaves fewer nodes or, where a node has no links, fewer items that wait. -/
theorem visit?_decreases {g : Graph α} {f next : Frontier α} {a : α}
    (visits : visit? g f = some (a, next)) :
    Prod.Lex (· < ·) (· < ·) (unvisited g.nodes next.visited, next.pending.length)
      (unvisited g.nodes f.visited, f.pending.length) := by
  obtain ⟨rest, popped, rfl⟩ := visit?_eq_some visits
  obtain ⟨fresh, skipped, split, _⟩ := Frontier.nextFresh?_some popped
  by_cases leaf : g.children a = []
  · rcases Nat.lt_or_eq_of_le (unvisited_cons_le g.nodes f.visited a) with less | same
    · exact Prod.Lex.left _ _ less
    · simp only [Frontier.pushAll, leaf, List.filter_nil, List.append_nil, same]
      refine Prod.Lex.right _ ?_
      rw [split, List.length_append, List.length_cons]
      omega
  · exact Prod.Lex.left _ _ (unvisited_cons_lt (g.mem_nodes a leaf) fresh)

def seek (g : Graph α) (accepts : α → Bool) (f : Frontier α) : Option α × Frontier α :=
  match _h : visit? g f with
  | none => (none, { f with pending := [] })
  | some (a, next) => if accepts a then (some a, next) else seek g accepts next
termination_by (unvisited g.nodes f.visited, f.pending.length)
decreasing_by exact visit?_decreases _h

def next (g : Graph α) (accepts : α → Bool) (s : Search α) : Option α × Search α :=
  if s.follows then
    let (found, frontier) := seek g accepts s.frontier
    (found, { s with frontier })
  else match s.only with
    | none => (none, s)
    | some a => (some a, { s with frontier := (s.frontier.mark a).2, only := none })

def take (g : Graph α) (accepts : α → Bool) : (limit : Nat) → Search α → List α × Search α
  | 0, s => ([], s)
  | limit + 1, s =>
      match s.next g accepts with
      | (none, s) => ([], s)
      | (some a, s) =>
          let (found, s) := take g accepts limit s
          (a :: found, s)

end Search

end PathQuery
