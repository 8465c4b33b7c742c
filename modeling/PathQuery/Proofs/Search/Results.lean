import PathQuery.Proofs.Search.Reach
import PathQuery.Tree.Search

set_option autoImplicit false

namespace PathQuery

namespace Search

variable {α : Type} [DecidableEq α] {g : Graph α} {accepts : α → Bool}

/-- A run of a search up to the first time that it gives nothing. -/
inductive Drains (g : Graph α) (accepts : α → Bool) : Search α → List α → Search α → Prop where
  | done {s last : Search α} (stops : s.next g accepts = (none, last)) : Drains g accepts s [] last
  | more {s after last : Search α} {a : α} {found : List α}
      (gives : s.next g accepts = (some a, after)) (rest : Drains g accepts after found last) :
      Drains g accepts s (a :: found) last

namespace Drains

theorem of_next_eq {s after last : Search α} {found : List α}
    (same : s.next g accepts = after.next g accepts) (drains : Drains g accepts after found last) :
    Drains g accepts s found last := by
  cases drains with
  | done stops => exact .done (same.trans stops)
  | more gives rest => exact .more (same.trans gives) rest

end Drains

theorem seek_of_idle {f : Frontier α} (idle : visit? g f = none) :
    seek g accepts f = (none, { f with pending := [] }) := by
  rw [seek]
  split
  case h_1 => rfl
  case h_2 visits => simp [idle] at visits

theorem seek_of_visit {f after : Frontier α} {a : α} (visits : visit? g f = some (a, after)) :
    seek g accepts f = if accepts a then (some a, after) else seek g accepts after := by
  rw [seek]
  split
  case h_1 idle => simp [visits] at idle
  case h_2 b other visits' =>
    obtain ⟨rfl, rfl⟩ : a = b ∧ after = other := by simpa [visits] using visits'
    rfl

theorem next_of_idle {f : Frontier α} (idle : visit? g f = none) :
    (Search.mk f true none).next g accepts = (none, ⟨{ f with pending := [] }, true, none⟩) := by
  simp [next, seek_of_idle idle]

theorem next_of_visit {f after : Frontier α} {a : α} (visits : visit? g f = some (a, after)) :
    (Search.mk f true none).next g accepts =
      if accepts a then (some a, ⟨after, true, none⟩)
      else (Search.mk after true none).next g accepts := by
  by_cases good : accepts a <;> simp [next, seek_of_visit visits, good]

/-- The results of a search that follows links and the frontier at its end, in terms of what the
frontier had in reach at the start. -/
structure Complete (g : Graph α) (accepts : α → Bool) (f : Frontier α) (found : List α)
    (last : Frontier α) : Prop where
  nodup : found.Nodup
  mem_found : ∀ b, b ∈ found ↔ accepts b = true ∧ f.Covers g b
  mem_visited : ∀ b, b ∈ last.visited ↔ b ∈ f.visited ∨ f.Covers g b
  idle : last.pending = []

namespace Complete

variable {f next last : Frontier α} {a : α} {found : List α}

theorem of_idle (idle : visit? g f = none) :
    Complete g accepts f [] { f with pending := [] } where
  nodup := List.nodup_nil
  mem_found b := by simp [Frontier.not_covers_of_visit?_eq_none idle]
  mem_visited b := by simp [Frontier.not_covers_of_visit?_eq_none idle]
  idle := rfl

theorem mem_visited_of_visit (visits : visit? g f = some (a, next))
    (complete : Complete g accepts next found last) (b : α) :
    b ∈ last.visited ↔ b ∈ f.visited ∨ f.Covers g b := by
  rw [complete.mem_visited, Frontier.visited_of_visit visits, Frontier.covers_iff_of_visit visits,
    List.mem_cons, or_assoc, or_left_comm]

-- The node of this visit is not given again: it is out of reach of the rest.
theorem of_accepted (visits : visit? g f = some (a, next)) (good : accepts a = true)
    (complete : Complete g accepts next found last) :
    Complete g accepts f (a :: found) last where
  nodup := by
    refine List.nodup_cons.mpr ⟨fun again => ?_, complete.nodup⟩
    have covers := ((complete.mem_found a).mp again).2
    exact covers.fresh (by simp [Frontier.visited_of_visit visits])
  mem_found b := by
    rw [List.mem_cons, complete.mem_found, Frontier.covers_iff_of_visit visits]
    by_cases same : b = a <;> simp [same, good]
  mem_visited := complete.mem_visited_of_visit visits
  idle := complete.idle

theorem of_rejected (visits : visit? g f = some (a, next)) (bad : accepts a = false)
    (complete : Complete g accepts next found last) : Complete g accepts f found last where
  nodup := complete.nodup
  mem_found b := by
    rw [complete.mem_found, Frontier.covers_iff_of_visit visits]
    by_cases same : b = a
    · simp [same, bad]
    · simp [same]
  mem_visited := complete.mem_visited_of_visit visits
  idle := complete.idle

end Complete

theorem drains_complete (g : Graph α) (accepts : α → Bool) (f : Frontier α) :
    ∃ found last, Drains g accepts ⟨f, true, none⟩ found ⟨last, true, none⟩ ∧
      Complete g accepts f found last := by
  induction f using Frontier.visit_induction g with
  | idle f idle => exact ⟨[], _, .done (next_of_idle idle), .of_idle idle⟩
  | visit f a next visits ih =>
    obtain ⟨found, last, drains, complete⟩ := ih
    have step := @next_of_visit _ _ _ accepts _ _ _ visits
    by_cases good : accepts a = true
    · rw [if_pos good] at step
      exact ⟨a :: found, last, .more step drains, complete.of_accepted visits good⟩
    · rw [if_neg good] at step
      exact ⟨found, last, drains.of_next_eq step,
        complete.of_rejected visits (Bool.eq_false_iff.mpr good)⟩

theorem seek_accepts {f after : Frontier α} {a : α} (found : seek g accepts f = (some a, after)) :
    accepts a = true := by
  induction f using Frontier.visit_induction g with
  | idle f idle => simp [seek_of_idle idle] at found
  | visit f b next visits ih =>
    rw [seek_of_visit visits] at found
    split at found
    next good =>
      obtain ⟨rfl, _⟩ : b = a ∧ next = after := by simpa using found
      exact good
    · exact ih found

theorem Drains.accepted {s last : Search α} {found : List α}
    (drains : Drains g accepts s found last) (follows : s.follows = true) :
    ∀ a ∈ found, accepts a = true := by
  induction drains with
  | done _ => simp
  | @more s after last a found gives rest ih =>
    obtain ⟨given, rfl⟩ : (seek g accepts s.frontier).1 = some a ∧
        { s with frontier := (seek g accepts s.frontier).2 } = after := by
      simpa [next, follows] using gives
    have good : accepts a = true := seek_accepts (Prod.ext given rfl)
    exact List.forall_mem_cons.mpr ⟨good, ih follows⟩

theorem next_of_pending_nil {f : Frontier α} (empty : f.pending = []) :
    (Search.mk f true none).next g accepts = (none, ⟨f, true, none⟩) := by
  obtain ⟨pending, visited⟩ := f
  subst empty
  exact next_of_idle rfl

end Search

namespace Frontier

variable {α : Type} [DecidableEq α]

theorem covers_push (g : Graph α) (f : Frontier α) (start b : α) :
    (f.push start).2.Covers g b ↔ ∃ a ∈ start :: f.pending, g.Leads f.visited a b := by
  by_cases seen : start ∈ f.visited
  · have same : (f.push start).2 = f := by simp [push, isVisited, seen]
    rw [same]
    constructor
    · rintro ⟨a, waits, walk⟩
      exact ⟨a, List.mem_cons_of_mem _ waits, walk⟩
    · rintro ⟨a, waits, walk⟩
      rcases List.mem_cons.mp waits with rfl | waits
      · exact absurd seen walk.start_free
      · exact ⟨a, waits, walk⟩
  · have added : (f.push start).2 = { f with pending := f.pending ++ [start] } := by
      simp [push, isVisited, seen]
    simp [added, Covers, or_comm]

theorem push_visited (f : Frontier α) (start : α) : (f.push start).2.visited = f.visited := by
  by_cases seen : f.isVisited start <;> simp [push, seen]

end Frontier

theorem Query.search_of_steps {q : Query} (steps : q.steps ≠ []) (start : Nat) (f : Frontier Nat) :
    q.search start f = ⟨(f.push start).2, true, none⟩ := by
  simp [search, Search.begin, steps]

theorem Query.search_finds_reachable (q : Query) (t : Tree) (start : Nat) (f : Frontier Nat) :
    ∃ found last,
      Search.Drains t.graph (q.matchesNode t) (q.search start f) found last ∧
      q.next t last = (none, last) ∧
      found.Nodup ∧
      if q.steps = [] then
        found = if start ∈ f.visited then [] else [start]
      else
        (∀ n, n ∈ found ↔ q.matchesNode t n = true ∧
          ∃ a ∈ start :: f.pending, t.graph.Leads f.visited a n) ∧
        ∀ n, n ∈ last.frontier.visited ↔ n ∈ f.visited ∨
          ∃ a ∈ start :: f.pending, t.graph.Leads f.visited a n := by
  by_cases bare : q.steps = []
  · simp only [bare, if_true]
    by_cases seen : start ∈ f.visited
    · have idle : q.search start f = ⟨f, false, none⟩ := by
        simp [search, Search.begin, bare, Frontier.isVisited, seen]
      exact ⟨[], _, .done (by rw [idle]; rfl), rfl, List.nodup_nil, by simp [seen]⟩
    · have alone : q.search start f = ⟨f, false, some start⟩ := by
        simp [search, Search.begin, bare, Frontier.isVisited, seen]
      exact ⟨[start], _, .more (by rw [alone]; rfl) (.done rfl), rfl, by simp, by simp [seen]⟩
  · have follows : q.search start f = ⟨(f.push start).2, true, none⟩ := by
      simp [search, Search.begin, bare]
    obtain ⟨found, last, drains, complete⟩ :=
      Search.drains_complete t.graph (q.matchesNode t) (f.push start).2
    simp only [bare, if_false, ← Frontier.covers_push, follows]
    refine ⟨found, _, drains, Search.next_of_pending_nil complete.idle, complete.nodup,
      complete.mem_found, fun n => ?_⟩
    rw [complete.mem_visited, Frontier.push_visited]

end PathQuery
