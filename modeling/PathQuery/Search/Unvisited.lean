set_option autoImplicit false

namespace PathQuery

variable {α : Type} [DecidableEq α]

-- Goes down with every visit, which is why walks over loops end.
def unvisited (nodes visited : List α) : Nat :=
  nodes.countP (· ∉ visited)

theorem unvisited_cons_le (nodes visited : List α) (a : α) :
    unvisited nodes (a :: visited) ≤ unvisited nodes visited :=
  List.countP_mono_left fun b _ fresh => by
    simp only [List.mem_cons, not_or, decide_eq_true_eq] at fresh ⊢
    exact fresh.2

theorem unvisited_cons_lt {nodes visited : List α} {a : α} (member : a ∈ nodes)
    (fresh : a ∉ visited) : unvisited nodes (a :: visited) < unvisited nodes visited := by
  induction nodes with
  | nil => simp at member
  | cons b nodes ih =>
      have le := unvisited_cons_le nodes visited a
      unfold unvisited at le ih ⊢
      rw [List.countP_cons, List.countP_cons]
      by_cases hab : b = a
      · subst hab
        rw [if_neg (by simp), if_pos (by simpa using fresh)]
        omega
      · have lt := ih (by simpa [Ne.symm hab] using member)
        by_cases seen : b ∈ visited <;> simp [hab, seen] at lt ⊢ <;> omega

end PathQuery
