import Mathlib
import PathQuery.Proofs.Search.Marking

set_option autoImplicit false

namespace PathQuery

namespace Search

variable {α : Type} [DecidableEq α] {g : Graph α} {accepts : α → Bool} {f next last : Frontier α}
  {a : α} {passed more : List α}

-- Asks a search a number of times, also after it has given all that it had.
def calls (g : Graph α) (accepts : α → Bool) : (count : Nat) → Search α → List (Option α) × Search α
  | 0, s => ([], s)
  | count + 1, s =>
      let (found, s) := s.next g accepts
      let (rest, s) := calls g accepts count s
      (found :: rest, s)

/-- A frontier as another one leaves it once it has been taken past the first nodes of its order.
What it ever knew, waiting or visited, it still knows. -/
structure Passes (g : Graph α) (f : Frontier α) (passed : List α) (last : Frontier α) : Prop where
  order_eq : order g f = passed ++ order g last
  visited_eq : last.visited = passed.reverse ++ f.visited
  known : ∀ a, a ∈ f.visited ∨ a ∈ f.pending → a ∈ last.visited ∨ a ∈ last.pending

namespace Passes

theorem refl (g : Graph α) (f : Frontier α) : Passes g f [] f := ⟨rfl, rfl, fun _ known => known⟩

theorem trans (first : Passes g f passed next) (second : Passes g next more last) :
    Passes g f (passed ++ more) last where
  order_eq := by rw [first.order_eq, second.order_eq, List.append_assoc]
  visited_eq := by simp [first.visited_eq, second.visited_eq]
  known a known := second.known a (first.known a known)

theorem of_idle (idle : visit? g f = none) : Passes g f [] { f with pending := [] } where
  order_eq := by rw [order_of_idle idle, order_of_idle rfl, List.append_nil]
  visited_eq := rfl
  known a known := by
    rcases known with seen | waits
    · exact .inl seen
    · exact .inl (Frontier.stale_of_visit?_eq_none idle a waits)

theorem of_visit (visits : visit? g f = some (a, next)) : Passes g f [a] next where
  order_eq := order_of_visit visits
  visited_eq := Frontier.visited_of_visit visits
  known b known := by
    rw [Frontier.visited_of_visit visits]
    obtain ⟨rest, popped, rfl⟩ := visit?_eq_some visits
    obtain ⟨_, skipped, split, stale⟩ := Frontier.nextFresh?_some popped
    rw [split, List.mem_append, List.mem_cons] at known
    rcases known with seen | behind | rfl | ahead
    · exact .inl (List.mem_cons_of_mem a seen)
    · exact .inl (List.mem_cons_of_mem a (stale b behind))
    · exact .inl List.mem_cons_self
    · exact .inr (List.mem_append_left _ ahead)

end Passes

-- One result costs the visits up to the first node that is accepted.
theorem next_passes (g : Graph α) (accepts : α → Bool) (f : Frontier α) :
    ∃ found passed last, (Search.mk f true none).next g accepts = (found, ⟨last, true, none⟩) ∧
      Passes g f passed last ∧ passed.filter accepts = found.toList := by
  induction f using Frontier.visit_induction g with
  | idle f idle => exact ⟨none, [], _, next_of_idle idle, .of_idle idle, rfl⟩
  | visit f a next visits ih =>
    have step := @next_of_visit _ _ _ accepts _ _ _ visits
    by_cases good : accepts a = true
    · rw [if_pos good] at step
      exact ⟨some a, [a], next, step, .of_visit visits, by simp [good]⟩
    · rw [if_neg good] at step
      obtain ⟨found, passed, last, gives, passes, filtered⟩ := ih
      exact ⟨found, a :: passed, last, step.trans gives, (Passes.of_visit visits).trans passes,
        by simpa [good] using filtered⟩

theorem calls_passes (g : Graph α) (accepts : α → Bool) (count : Nat) (f : Frontier α) :
    ∃ found passed last, calls g accepts count ⟨f, true, none⟩ = (found, ⟨last, true, none⟩) ∧
      Passes g f passed last ∧ passed.filter accepts = found.filterMap id := by
  induction count generalizing f with
  | zero => exact ⟨[], [], f, rfl, .refl g f, rfl⟩
  | succ count ih =>
    obtain ⟨found, passed, after, gives, passes, filtered⟩ := next_passes g accepts f
    obtain ⟨rest, more, last, gives', passes', filtered'⟩ := ih after
    refine ⟨found :: rest, passed ++ more, last, ?_, passes.trans passes', ?_⟩
    · simp [calls, gives, gives']
    · rw [List.filter_append, filtered, filtered']
      cases found <;> simp

-- The start is known to a frontier that once had it, so it makes no difference to add it again.
theorem Passes.drains_rest {start : α} (passes : Passes g (f.push start).2 passed last) :
    Drains g accepts ⟨(last.push start).2, true, none⟩ ((order g last).filter accepts)
      ⟨exhausted g (f.push start).2, true, none⟩ := by
  have known : start ∈ last.visited ∨ start ∈ last.pending := by
    refine passes.known start ?_
    by_cases seen : start ∈ f.visited <;> simp [Frontier.push, Frontier.isVisited, seen]
  have drains := drains_order g accepts (last.push start).2
  rw [exhausted, order_push_known known, Frontier.push_visited] at drains
  simpa [exhausted, passes.order_eq, passes.visited_eq] using drains

end Search

namespace Query

open Search

/-- The search that takes over gives what the rest of the order holds for it. A query that takes over
from itself gives what it would have given without the stop. -/
theorem search_hands_over (q q' : Query) (t : Tree) (start : Nat) (f : Frontier Nat) (count : Nat)
    (steps : q.steps ≠ []) (steps' : q'.steps ≠ []) :
    let order := Search.order t.graph (q'.search start f).frontier
    let finished : Search Nat := ⟨⟨[], order.reverse ++ f.visited⟩, true, none⟩
    Drains t.graph (q'.matchesNode t) (q'.search start f) (order.filter (q'.matchesNode t)) finished ∧
    ∃ found stopped j, calls t.graph (q.matchesNode t) count (q.search start f) = (found, stopped) ∧
      j ≤ order.length ∧ stopped.frontier.visited = (order.take j).reverse ++ f.visited ∧
      Drains t.graph (q'.matchesNode t) (q'.search start stopped.frontier)
        ((order.drop j).filter (q'.matchesNode t)) finished ∧
      ∃ rest, Drains t.graph (q.matchesNode t) (q.search start stopped.frontier) rest finished ∧
        Drains t.graph (q.matchesNode t) (q.search start f) (found.filterMap id ++ rest) finished := by
  have whole := fun q : Query => drains_order t.graph (q.matchesNode t) (f.push start).2
  obtain ⟨found, passed, last, gives, passes, filtered⟩ :=
    calls_passes t.graph (q.matchesNode t) count (f.push start).2
  have visited := passes.visited_eq
  have rest := fun q : Query => @Passes.drains_rest _ _ _ (q.matchesNode t) _ _ _ _ passes
  simp only [exhausted, Frontier.push_visited] at whole visited rest
  simp only [search_of_steps steps, search_of_steps steps', passes.order_eq] at whole rest ⊢
  refine ⟨whole q', found, _, passed.length, gives, by simp, ?_, ?_, _, rest q, ?_⟩
  · simpa using visited
  · simpa using rest q'
  · rw [← filtered, ← List.filter_append]
    exact whole q

theorem search_hands_over_after_two :
    ∃ (q q' : Query) (t : Tree) (stopped : Search Nat), q.steps ≠ [] ∧ q'.steps ≠ [] ∧
      calls t.graph (q.matchesNode t) 2 (q.search 0 .empty) = ([some 0, some 1], stopped) ∧
      stopped.frontier.visited = [1, 0] ∧
      Drains t.graph (q'.matchesNode t) (q'.search 0 stopped.frontier) [2]
        ⟨⟨[], [3, 2, 1, 0]⟩, true, none⟩ := by
  let q : Query := ⟨"**", .glob, false, [.descendantOf]⟩
  let q' : Query := ⟨"*", .glob, false, [.childOf]⟩
  let t : Tree := ⟨#[⟨"", none, [1, 2, 1]⟩, ⟨"a", some 0, [2, 0, 3]⟩, ⟨"b", some 0, [3]⟩,
    ⟨"c", some 1, []⟩]⟩
  have order : Search.order t.graph (q'.search 0 .empty).frontier = [0, 1, 2, 3] := by cbv
  have two : calls t.graph (q.matchesNode t) 2 (q.search 0 .empty) =
      ([some 0, some 1], ⟨⟨[2, 1, 2, 3], [1, 0]⟩, true, none⟩) := by cbv
  have matched : [2, 3].filter (q'.matchesNode t) = [2] := by cbv
  obtain ⟨_, found, stopped, j, gives, _, visited, drains, _⟩ :=
    search_hands_over q q' t 0 .empty 2 (by simp [q]) (by simp [q'])
  obtain ⟨rfl, rfl⟩ := Prod.mk.inj (two.symm.trans gives)
  have passed : j = 2 := by
    have size := congrArg List.length visited
    rw [order] at size
    simp [Frontier.empty] at size
    omega
  rw [order, passed] at drains
  refine ⟨q, q', t, _, by simp [q], by simp [q'], two, rfl, ?_⟩
  rw [← matched]
  exact drains

end Query

end PathQuery
