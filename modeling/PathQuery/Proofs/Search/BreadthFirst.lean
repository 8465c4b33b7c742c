import Mathlib
import PathQuery.Proofs.Search.Marking

set_option autoImplicit false

namespace PathQuery

namespace Graph

variable {α : Type} {g : Graph α} {start a b : α} {m n : Nat}

inductive Walk (g : Graph α) (start : α) : Nat → α → Prop where
  | here : Walk g start 0 start
  | link {n : Nat} {a b : α} (walk : Walk g start n a) (child : b ∈ g.children a) :
      Walk g start (n + 1) b

structure Distance (g : Graph α) (start a : α) (n : Nat) : Prop where
  walk : g.Walk start n a
  least : ∀ m, g.Walk start m a → n ≤ m

def NoFarther (g : Graph α) (start a b : α) : Prop :=
  ∃ m n, g.Distance start a m ∧ g.Distance start b n ∧ m ≤ n

theorem Distance.unique (first : g.Distance start a m) (second : g.Distance start a n) : m = n :=
  Nat.le_antisymm (first.least n second.walk) (second.least m first.walk)

theorem distance_start (g : Graph α) (start : α) : g.Distance start start 0 :=
  ⟨.here, fun _ _ => Nat.zero_le _⟩

theorem Walk.distance (walk : g.Walk start n a) : ∃ m ≤ n, g.Distance start a m := by
  induction n using Nat.strongRecOn with
  | ind n ih =>
    by_cases least : ∀ m, g.Walk start m a → n ≤ m
    · exact ⟨n, Nat.le_refl n, walk, least⟩
    · obtain ⟨m, shorter, less⟩ : ∃ m, g.Walk start m a ∧ m < n := by simpa using least
      obtain ⟨k, le, distance⟩ := ih m less shorter
      exact ⟨k, Nat.le_trans le (Nat.le_of_lt less), distance⟩

theorem Distance.before (distance : g.Distance start b (n + 1)) :
    ∃ a, g.Distance start a n ∧ b ∈ g.children a := by
  obtain ⟨walk, least⟩ := distance
  cases walk with
  | @link _ a _ walk child =>
    refine ⟨a, ⟨walk, fun m shorter => ?_⟩, child⟩
    exact Nat.le_of_succ_le_succ (least (m + 1) (shorter.link child))

end Graph

namespace Marking

variable {α : Type} {g : Graph α} {start a : α} {n : Nat} {near far marked : List α}

/-- The queue holds nodes of one distance and, behind them, nodes of the next one. Nothing nearer is
left to be marked. -/
structure Layered (g : Graph α) (start : α) (n : Nat) (near far marked : List α) : Prop where
  near_distance : ∀ a ∈ near, g.Distance start a n
  far_distance : ∀ a ∈ far, g.Distance start a (n + 1)
  marked_of_distance : ∀ a m, g.Distance start a m → m ≤ n → a ∈ marked
  closed : ∀ a ∈ marked, a ∈ near ++ far ∨ ∀ b ∈ g.children a, b ∈ marked

namespace Layered

theorem of_start (g : Graph α) (start : α) : Layered g start 0 [start] [] [start] where
  near_distance a only := List.mem_singleton.mp only ▸ g.distance_start start
  far_distance a none := absurd none (by simp)
  marked_of_distance a m distance le := by
    obtain rfl := Nat.le_zero.mp le
    cases distance.walk
    simp
  closed a only := .inl (by simpa using only)

-- A node of the next distance has a parent of this one, which has left the queue already.
theorem next (layered : Layered g start n [] far marked) :
    Layered g start (n + 1) far [] marked where
  near_distance := layered.far_distance
  far_distance a none := absurd none (by simp)
  marked_of_distance b m distance le := by
    rcases Nat.lt_or_eq_of_le le with less | rfl
    · exact layered.marked_of_distance b m distance (Nat.le_of_lt_succ less)
    · obtain ⟨a, before, child⟩ := distance.before
      rcases layered.closed a (layered.marked_of_distance a n before (Nat.le_refl n)) with
        waits | children
      · have := before.unique (layered.far_distance a (by simpa using waits))
        omega
      · exact children b child
  closed a old := by simpa using layered.closed a old

variable [DecidableEq α]

theorem visit (layered : Layered g start n (a :: near) far marked) :
    Layered g start n near (far ++ firsts marked (g.children a))
      ((firsts marked (g.children a)).reverse ++ marked) where
  near_distance b member := layered.near_distance b (List.mem_cons_of_mem a member)
  far_distance b member := by
    rcases List.mem_append.mp member with old | new
    · exact layered.far_distance b old
    · obtain ⟨child, fresh⟩ := mem_firsts.mp new
      have walk := (layered.near_distance a (by simp)).walk.link child
      refine ⟨walk, fun m shorter => Nat.lt_of_not_le fun le => fresh ?_⟩
      obtain ⟨k, less, distance⟩ := shorter.distance
      exact layered.marked_of_distance b k distance (Nat.le_trans less le)
  marked_of_distance b m distance le :=
    List.mem_append_right _ (layered.marked_of_distance b m distance le)
  closed b member := by
    by_cases old : b ∈ marked
    · rcases layered.closed b old with waits | children
      · by_cases same : b = a
        · refine .inr fun c child => ?_
          by_cases seen : c ∈ marked
          · simp [seen]
          · simp [mem_firsts, seen, same ▸ child]
        · left
          simp only [List.cons_append, List.mem_cons, same, false_or] at waits
          rw [← List.append_assoc]
          exact List.mem_append_left _ waits
      · exact .inr fun c child => List.mem_append_right _ (children c child)
    · left
      have new : b ∈ firsts marked (g.children a) := by simpa [old] using member
      simp [new]

end Layered

variable [DecidableEq α]

-- What is taken out of the queue is at least as far away as the layer in front.
theorem order_sorted {s : Marking α} (queue : s.queue = near ++ far)
    (layered : Layered g start n near far s.marked) :
    (order g s).Pairwise (g.NoFarther start) ∧
      ∀ b ∈ order g s, ∃ m, n ≤ m ∧ g.Distance start b m := by
  fun_induction order g s generalizing n near far with
  | case1 => simp
  | case2 marked a rest ih =>
    obtain ⟨m, near', far', le, rfl, layered'⟩ : ∃ m near' far', n ≤ m ∧ rest = near' ++ far' ∧
        Layered g start m (a :: near') far' marked := by
      cases near with
      | nil =>
        obtain rfl : a :: rest = far := by simpa using queue
        exact ⟨n + 1, rest, [], Nat.le_succ n, by simp, layered.next⟩
      | cons b near =>
        obtain ⟨rfl, rfl⟩ : a = b ∧ rest = near ++ far := by simpa using queue
        exact ⟨n, near, far, Nat.le_refl n, rfl, layered⟩
    have here : g.Distance start a m := layered'.near_distance a (by simp)
    have after := layered'.visit
    rw [enqueueAll_eq] at ih
    obtain ⟨sorted, farther⟩ := ih (by simp) after
    rw [enqueueAll_eq]
    refine ⟨List.pairwise_cons.mpr ⟨fun b later => ?_, sorted⟩, List.forall_mem_cons.mpr ⟨?_, ?_⟩⟩
    · obtain ⟨k, le', distance⟩ := farther b later
      exact ⟨m, k, here, distance, le'⟩
    · exact ⟨m, le, here⟩
    · intro b later
      obtain ⟨k, le', distance⟩ := farther b later
      exact ⟨k, Nat.le_trans le le', distance⟩

theorem order_from_start (g : Graph α) (start : α) :
    (order g (begin [] [start])).Pairwise (g.NoFarther start) :=
  (order_sorted (s := begin [] [start]) rfl (.of_start g start)).1

end Marking

namespace Query

/-- Nodes are visited as a search visits them that marks nodes when it puts them into its queue, and
the results are the nodes on this way that the query matches. -/
theorem search_visits_breadth_first (q : Query) (t : Tree) (start : Nat) (f : Frontier Nat)
    (steps : q.steps ≠ []) :
    let visits := Marking.order t.graph (.begin f.visited (f.pending ++ [start]))
    Search.Drains t.graph (q.matchesNode t) (q.search start f) (visits.filter (q.matchesNode t))
      ⟨⟨[], visits.reverse ++ f.visited⟩, true, none⟩ ∧
    ∃ found last, Search.Drains t.graph (q.matchesNode t) (q.search start .empty) found last ∧
      found.Pairwise (t.graph.NoFarther start) := by
  have drains := fun f : Frontier Nat => Search.drains_order t.graph (q.matchesNode t) (f.push start).2
  simp only [Search.exhausted, Search.order_push, Frontier.push_visited, ← search_of_steps steps]
    at drains
  exact ⟨drains f, _, _, drains .empty, (Marking.order_from_start t.graph start).filter _⟩

theorem search_visits_breadth_first_around_loop :
    ∃ (q : Query) (t : Tree), q.steps ≠ [] ∧ t.children 0 = [1, 2, 1] ∧ t.children 1 = [2, 0, 3] ∧
      Search.Drains t.graph (q.matchesNode t) (q.search 0 ⟨[2, 3, 2], [3]⟩) [2, 0, 1]
        ⟨⟨[], [1, 0, 2, 3]⟩, true, none⟩ := by
  let q : Query := ⟨"**", .glob, false, [.descendantOf]⟩
  let t : Tree := ⟨#[⟨"", none, [1, 2, 1]⟩, ⟨"a", some 0, [2, 0, 3]⟩, ⟨"b", some 0, [3]⟩,
    ⟨"c", some 1, []⟩]⟩
  have visits : Marking.order t.graph (.begin [3] ([2, 3, 2] ++ [0])) = [2, 0, 1] := by cbv
  have matched : [2, 0, 1].filter (q.matchesNode t) = [2, 0, 1] := by cbv
  have drains := (search_visits_breadth_first q t 0 ⟨[2, 3, 2], [3]⟩ (by simp [q])).1
  rw [visits, matched] at drains
  exact ⟨q, t, by simp [q], rfl, rfl, drains⟩

end Query

end PathQuery
