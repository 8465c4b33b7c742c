set_option autoImplicit false

namespace PathQuery

structure Frontier (α : Type) where
  -- What waits, the next one first. It may wait twice, and it may have been visited since.
  pending : List α
  visited : List α

namespace Frontier

variable {α : Type} [DecidableEq α]

def empty : Frontier α := ⟨[], []⟩

def isVisited (f : Frontier α) (a : α) : Bool := f.visited.contains a

-- Lets an item wait behind all others. One that was visited does not wait again.
def push (f : Frontier α) (a : α) : Bool × Frontier α :=
  if f.isVisited a then (false, f) else (true, { f with pending := f.pending ++ [a] })

def pushAll (f : Frontier α) (items : List α) : Frontier α :=
  { f with pending := f.pending ++ items.filter (!f.isVisited ·) }

def nextFresh? (visited : List α) : List α → Option (α × List α)
  | [] => none
  | a :: rest => if visited.contains a then nextFresh? visited rest else some (a, rest)

def pop (f : Frontier α) : Option α × Frontier α :=
  match nextFresh? f.visited f.pending with
  | none => (none, { f with pending := [] })
  | some (a, rest) => (some a, ⟨rest, a :: f.visited⟩)

def mark (f : Frontier α) (a : α) : Bool × Frontier α :=
  if f.isVisited a then (false, f) else (true, { f with visited := a :: f.visited })

def fork (f : Frontier α) : Frontier α := { f with pending := [] }

def isDone (f : Frontier α) : Bool := f.pending.all f.isVisited

theorem nextFresh?_eq_none {visited pending : List α} :
    nextFresh? visited pending = none ↔ ∀ a ∈ pending, a ∈ visited := by
  induction pending with
  | nil => simp [nextFresh?]
  | cons b pending ih =>
      by_cases seen : b ∈ visited <;> simp [nextFresh?, seen, ih]

theorem nextFresh?_some {visited pending : List α} {a : α} {rest : List α}
    (popped : nextFresh? visited pending = some (a, rest)) :
    a ∉ visited ∧ ∃ skipped, pending = skipped ++ a :: rest ∧ ∀ b ∈ skipped, b ∈ visited := by
  induction pending with
  | nil => simp [nextFresh?] at popped
  | cons b pending ih =>
      by_cases seen : b ∈ visited
      · obtain ⟨fresh, skipped, rfl, stale⟩ := ih (by simpa [nextFresh?, seen] using popped)
        exact ⟨fresh, b :: skipped, rfl, List.forall_mem_cons.mpr ⟨seen, stale⟩⟩
      · obtain ⟨rfl, rfl⟩ : b = a ∧ pending = rest := by simpa [nextFresh?, seen] using popped
        exact ⟨seen, [], rfl, by simp⟩

end Frontier

end PathQuery
