import PathQuery.Proofs.Search.Results

set_option autoImplicit false

namespace PathQuery

namespace Search

variable {α : Type} [DecidableEq α] {g : Graph α} {accepts : α → Bool}

-- The nodes that are visited from a frontier on, in turn.
def order (g : Graph α) (f : Frontier α) : List α :=
  match _h : visit? g f with
  | none => []
  | some (a, next) => a :: order g next
termination_by (unvisited g.nodes f.visited, f.pending.length)
decreasing_by exact visit?_decreases _h

theorem order_of_idle {f : Frontier α} (idle : visit? g f = none) : order g f = [] := by
  rw [order]
  split
  case h_1 => rfl
  case h_2 visits => simp [idle] at visits

theorem order_of_visit {f next : Frontier α} {a : α} (visits : visit? g f = some (a, next)) :
    order g f = a :: order g next := by
  rw [order]
  split
  case h_1 idle => simp [visits] at idle
  case h_2 b other visits' =>
    obtain ⟨rfl, rfl⟩ : a = b ∧ next = other := by simpa [visits] using visits'
    rfl

def exhausted (g : Graph α) (f : Frontier α) : Frontier α :=
  ⟨[], (order g f).reverse ++ f.visited⟩

theorem exhausted_of_visit {f next : Frontier α} {a : α} (visits : visit? g f = some (a, next)) :
    exhausted g f = exhausted g next := by
  simp [exhausted, order_of_visit visits, Frontier.visited_of_visit visits]

theorem drains_order (g : Graph α) (accepts : α → Bool) (f : Frontier α) :
    Drains g accepts ⟨f, true, none⟩ ((order g f).filter accepts) ⟨exhausted g f, true, none⟩ := by
  induction f using Frontier.visit_induction g with
  | idle f idle =>
    rw [exhausted, order_of_idle idle]
    exact .done (next_of_idle idle)
  | visit f a next visits ih =>
    have step := @next_of_visit _ _ _ accepts _ _ _ visits
    rw [exhausted_of_visit visits, order_of_visit visits]
    by_cases good : accepts a = true
    · rw [if_pos good] at step
      rw [List.filter_cons_of_pos good]
      exact .more step ih
    · rw [if_neg good] at step
      rw [List.filter_cons_of_neg good]
      exact ih.of_next_eq step

end Search

end PathQuery
