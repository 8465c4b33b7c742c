import Mathlib.Data.Finset.Dedup
import Mathlib.Data.Finset.Insert
import PathQuery.Proofs.Search.Marking

set_option autoImplicit false

namespace PathQuery

/-- Distinct items, in the order in which they wait, and the items that were visited. None of these
waits. -/
@[ext] structure Queue (α : Type) where
  waiting : List α
  visited : Finset α
  nodup : waiting.Nodup
  fresh : ∀ a ∈ waiting, a ∉ visited

namespace Queue

variable {α : Type} [DecidableEq α]

def add (q : Queue α) (a : α) (new : a ∉ q.waiting) (fresh : a ∉ q.visited) : Queue α where
  waiting := q.waiting ++ [a]
  visited := q.visited
  nodup := by simpa using q.nodup.concat new
  fresh b waits := by
    rcases List.mem_append.mp waits with old | only
    · exact q.fresh b old
    · exact List.mem_singleton.mp only ▸ fresh

-- Whether the item was not visited. It waits behind the others then, unless it waits already.
def push (q : Queue α) (a : α) : Bool × Queue α :=
  if fresh : a ∈ q.visited then (false, q)
  else (true, if new : a ∈ q.waiting then q else q.add a new fresh)

def pop : Queue α → Option α × Queue α
  | ⟨[], visited, nodup, fresh⟩ => (none, ⟨[], visited, nodup, fresh⟩)
  | ⟨a :: rest, visited, nodup, fresh⟩ => (some a,
      { waiting := rest
        visited := insert a visited
        nodup := (List.nodup_cons.mp nodup).2
        fresh := by
          intro b waits seen
          rcases Finset.mem_insert.mp seen with rfl | old
          · exact (List.nodup_cons.mp nodup).1 waits
          · exact fresh b (List.mem_cons_of_mem a waits) old })

theorem pop_of_nil {q : Queue α} (idle : q.waiting = []) : q.pop = (none, q) := by
  obtain ⟨waiting, visited, nodup, fresh⟩ := q
  subst idle
  rfl

theorem pop_of_cons {q : Queue α} {a : α} {rest : List α} (front : q.waiting = a :: rest) :
    q.pop.1 = some a ∧ q.pop.2.waiting = rest ∧ q.pop.2.visited = insert a q.visited := by
  obtain ⟨waiting, visited, nodup, fresh⟩ := q
  subst front
  exact ⟨rfl, rfl, rfl⟩

theorem mem_of_pop {q : Queue α} {a : α} (given : q.pop.1 = some a) :
    a ∈ q.waiting ∧ a ∈ q.pop.2.visited := by
  cases front : q.waiting with
  | nil => simp [pop_of_nil front] at given
  | cons b rest =>
    obtain ⟨first, _, visited⟩ := pop_of_cons front
    obtain rfl : b = a := by simpa [first] using given
    exact ⟨List.mem_cons_self, by simp [visited]⟩

-- Whether the item was not visited. It waits no more.
def mark (q : Queue α) (a : α) : Bool × Queue α :=
  (a ∉ q.visited,
    { waiting := q.waiting.erase a
      visited := insert a q.visited
      nodup := q.nodup.erase a
      fresh := by
        intro b waits seen
        rcases Finset.mem_insert.mp seen with rfl | old
        · exact q.nodup.not_mem_erase waits
        · exact q.fresh b (List.mem_of_mem_erase waits) old })

def isVisited (q : Queue α) (a : α) : Bool := a ∈ q.visited

def isDone (q : Queue α) : Bool := q.waiting.isEmpty

def fork (q : Queue α) : Queue α := ⟨[], q.visited, List.nodup_nil, by simp⟩

end Queue

namespace Frontier

variable {α : Type} [DecidableEq α]

def queue (f : Frontier α) : Queue α where
  waiting := Marking.firsts f.visited f.pending
  visited := f.visited.toFinset
  nodup := Marking.nodup_firsts f.visited f.pending
  fresh a waits := by simpa using (Marking.mem_firsts.mp waits).2

theorem queue_push (f : Frontier α) (a : α) :
    f.queue.push a = ((f.push a).1, (f.push a).2.queue) := by
  by_cases seen : a ∈ f.visited
  · simp [Queue.push, push, isVisited, queue, seen]
  · have pushed : f.push a = (true, ⟨f.pending ++ [a], f.visited⟩) := by
      simp [push, isVisited, seen]
    have behind := Marking.firsts_concat f.visited f.pending a
    simp only [seen, false_or] at behind
    have waits : a ∈ f.queue.waiting ↔ a ∈ f.pending := by
      simp [queue, Marking.mem_firsts, seen]
    rw [pushed, Queue.push, dif_neg (by simpa [queue] using seen)]
    ext1
    · rfl
    by_cases old : a ∈ f.pending
    · rw [dif_pos (waits.mpr old)]
      apply Queue.ext
      · simpa [queue, old] using behind.symm
      · rfl
    · rw [dif_neg (mt waits.mp old)]
      apply Queue.ext
      · simpa [queue, Queue.add, old] using behind.symm
      · rfl

theorem queue_pop (f : Frontier α) : f.queue.pop = (f.pop.1, f.pop.2.queue) := by
  cases popped : nextFresh? f.visited f.pending with
  | none =>
    have stale := nextFresh?_eq_none.mp popped
    have idle : f.queue.waiting = [] := Marking.firsts_eq_nil stale
    have left : f.pop = (none, { f with pending := [] }) := by simp [pop, popped]
    rw [left, Queue.pop_of_nil idle]
    ext1
    · rfl
    · apply Queue.ext
      · rw [idle]
        rfl
      · rfl
  | some found =>
    obtain ⟨a, rest⟩ := found
    obtain ⟨fresh, skipped, split, stale⟩ := nextFresh?_some popped
    have front : f.queue.waiting = a :: Marking.firsts (a :: f.visited) rest := by
      have begun : Marking.begin f.visited (skipped ++ a :: rest) = _ :=
        Marking.begin_of_fresh stale fresh
      rw [← split] at begun
      exact congrArg Marking.queue begun
    have left : f.pop = (some a, ⟨rest, a :: f.visited⟩) := by simp [pop, popped]
    obtain ⟨given, waiting, visited⟩ := Queue.pop_of_cons front
    rw [left]
    ext1
    · exact given
    · apply Queue.ext
      · exact waiting
      · rw [visited]
        simp [queue]

theorem queue_mark (f : Frontier α) (a : α) :
    f.queue.mark a = ((f.mark a).1, (f.mark a).2.queue) := by
  by_cases seen : a ∈ f.visited
  · have absent : a ∉ f.queue.waiting := fun waits => (Marking.mem_firsts.mp waits).2 seen
    have same : f.mark a = (false, f) := by simp [mark, isVisited, seen]
    rw [same]
    ext1
    · simp [Queue.mark, queue, seen]
    · apply Queue.ext
      · exact List.erase_of_not_mem absent
      · exact Finset.insert_eq_of_mem (by simpa [queue] using seen)
  · have marked : f.mark a = (true, { f with visited := a :: f.visited }) := by
      simp [mark, isVisited, seen]
    rw [marked]
    ext1
    · simp [Queue.mark, queue, seen]
    · apply Queue.ext
      · exact (Marking.firsts_visit f.visited f.pending a).symm
      · simp [Queue.mark, queue]

theorem queue_isVisited (f : Frontier α) (a : α) : f.queue.isVisited a = f.isVisited a := by
  simp [Queue.isVisited, isVisited, queue]

theorem isDone_iff (f : Frontier α) : f.isDone = true ↔ f.pop.1 = none := by
  have stale : f.isDone = true ↔ nextFresh? f.visited f.pending = none := by
    simp [isDone, isVisited, nextFresh?_eq_none]
  rw [stale]
  cases popped : nextFresh? f.visited f.pending <;> simp [pop, popped]

theorem pending_of_pop_eq_none {f : Frontier α} (idle : f.pop.1 = none) : f.pop.2.pending = [] := by
  cases popped : nextFresh? f.visited f.pending with
  | none => simp [pop, popped]
  | some found => simp [pop, popped] at idle

theorem queue_isDone (f : Frontier α) : f.queue.isDone = f.isDone := by
  have idle : f.queue.waiting = [] ↔ f.isDone = true := by
    simp [List.eq_nil_iff_forall_not_mem, queue, Marking.mem_firsts, isDone, isVisited]
  rw [Bool.eq_iff_iff, ← idle, Queue.isDone, List.isEmpty_iff]

theorem queue_fork (f : Frontier α) : f.queue.fork = f.fork.queue := by
  simp [Queue.fork, fork, queue, Marking.firsts]

end Frontier

end PathQuery
