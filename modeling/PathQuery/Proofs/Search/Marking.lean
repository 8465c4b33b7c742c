import Mathlib.Tactic.SplitIfs
import PathQuery.Proofs.Search.Order

/-!
Breadth-first search as textbooks have it: a node is marked when it is put into the queue, so that
no node ever waits twice. A search that marks nodes when it takes them out visits the same nodes in
the same order.
-/

set_option autoImplicit false

namespace PathQuery

/-- The nodes that are marked, which are those visited and those in the queue, and the queue. -/
structure Marking (α : Type) where
  marked : List α
  queue : List α

namespace Marking

variable {α : Type}

def linked (g : Graph α) : List α := g.nodes.flatMap g.children

theorem mem_linked {g : Graph α} {a b : α} (child : b ∈ g.children a) : b ∈ linked g :=
  List.mem_flatMap.mpr ⟨a, g.mem_nodes a (List.ne_nil_of_mem child), child⟩

variable [DecidableEq α] {visited items : List α} {a : α}

-- The first occurrences of items, without those that were visited.
def firsts (visited items : List α) : List α := (items.filter (· ∉ visited)).eraseDups

theorem mem_firsts : a ∈ firsts visited items ↔ a ∈ items ∧ a ∉ visited := by
  simp [firsts]

theorem firsts_eq_nil (seen : ∀ a ∈ items, a ∈ visited) : firsts visited items = [] := by
  have none_left : items.filter (· ∉ visited) = [] := by
    rw [List.filter_eq_nil_iff]
    exact fun a member => by simp [seen a member]
  rw [firsts, none_left, List.eraseDups_nil]

theorem firsts_cons_of_mem (seen : a ∈ visited) :
    firsts visited (a :: items) = firsts visited items := by
  simp [firsts, seen]

theorem firsts_cons_of_not_mem (fresh : a ∉ visited) :
    firsts visited (a :: items) = a :: firsts (a :: visited) items := by
  have later : (items.filter (· ∉ visited)).filter (fun b => !b == a) =
      items.filter (· ∉ a :: visited) := by
    rw [List.filter_filter]
    refine List.filter_congr fun b _ => ?_
    by_cases same : b = a <;> simp [same]
  rw [firsts, List.filter_cons_of_pos (by simp [fresh]), List.eraseDups_cons, later, firsts]

theorem firsts_filter {seen : List α} (fewer : ∀ a ∈ visited, a ∈ seen) :
    firsts seen (items.filter (· ∉ visited)) = firsts seen items := by
  have same : (items.filter (· ∉ visited)).filter (· ∉ seen) = items.filter (· ∉ seen) := by
    rw [List.filter_filter]
    refine List.filter_congr fun a _ => ?_
    by_cases old : a ∈ visited
    · simp [fewer a old]
    · simp [old]
  rw [firsts, same, firsts]

theorem nodup_firsts (visited items : List α) : (firsts visited items).Nodup := by
  induction items generalizing visited with
  | nil => simp [firsts]
  | cons a items ih =>
    by_cases seen : a ∈ visited
    · rw [firsts_cons_of_mem seen]
      exact ih visited
    · rw [firsts_cons_of_not_mem seen, List.nodup_cons]
      exact ⟨fun again => (mem_firsts.mp again).2 List.mem_cons_self, ih (a :: visited)⟩

theorem length_firsts_le (visited items : List α) :
    (firsts visited items).length ≤ items.length := by
  induction items generalizing visited with
  | nil => simp [firsts]
  | cons a items ih =>
    by_cases seen : a ∈ visited
    · rw [firsts_cons_of_mem seen]
      exact Nat.le_succ_of_le (ih visited)
    · rw [firsts_cons_of_not_mem seen]
      exact Nat.succ_le_succ (ih (a :: visited))

theorem firsts_congr {seen : List α} (same : ∀ a, a ∈ visited ↔ a ∈ seen) :
    firsts visited items = firsts seen items := by
  simp only [firsts, same]

theorem firsts_visit (visited items : List α) (a : α) :
    firsts (a :: visited) items = (firsts visited items).erase a := by
  induction items generalizing visited with
  | nil => simp [firsts]
  | cons b items ih =>
    by_cases seen : b ∈ visited
    · rw [firsts_cons_of_mem seen, firsts_cons_of_mem (List.mem_cons_of_mem a seen), ih]
    · rw [firsts_cons_of_not_mem seen]
      by_cases same : b = a
      · subst same
        rw [firsts_cons_of_mem List.mem_cons_self, List.erase_cons_head]
      · have swap : firsts (b :: a :: visited) items = firsts (a :: b :: visited) items :=
          firsts_congr fun c => by simp only [List.mem_cons, or_left_comm]
        rw [firsts_cons_of_not_mem (by simp [same, seen]), swap, ih,
          List.erase_cons_tail (by simpa using same)]

def begin (visited items : List α) : Marking α :=
  ⟨(firsts visited items).reverse ++ visited, firsts visited items⟩

def enqueue (s : Marking α) (a : α) : Marking α :=
  if a ∈ s.marked then s else ⟨a :: s.marked, s.queue ++ [a]⟩

def enqueueAll (s : Marking α) (items : List α) : Marking α :=
  items.foldl enqueue s

@[simp] theorem enqueueAll_nil (s : Marking α) : s.enqueueAll [] = s := rfl

@[simp] theorem enqueueAll_cons (s : Marking α) (a : α) (items : List α) :
    s.enqueueAll (a :: items) = (s.enqueue a).enqueueAll items := rfl

theorem enqueueAll_append (s : Marking α) (items more : List α) :
    s.enqueueAll (items ++ more) = (s.enqueueAll items).enqueueAll more :=
  List.foldl_append

-- Either nothing is put into the queue, or fewer nodes are left to be marked.
theorem enqueueAll_decreases (s : Marking α) {nodes : List α} (member : ∀ a ∈ items, a ∈ nodes) :
    s.enqueueAll items = s ∨
      unvisited nodes (s.enqueueAll items).marked < unvisited nodes s.marked := by
  induction items generalizing s with
  | nil => exact .inl rfl
  | cons a items ih =>
    have rest := fun s => ih s fun b later => member b (List.mem_cons_of_mem a later)
    by_cases seen : a ∈ s.marked
    · have same : s.enqueue a = s := by simp [enqueue, seen]
      rw [enqueueAll_cons, same]
      exact rest s
    · right
      have added : (s.enqueue a).marked = a :: s.marked := by simp [enqueue, seen]
      have fewer : unvisited nodes (s.enqueue a).marked < unvisited nodes s.marked := by
        rw [added]
        exact unvisited_cons_lt (member a (by simp)) seen
      rw [enqueueAll_cons]
      rcases rest (s.enqueue a) with same | less
      · rwa [same]
      · exact Nat.lt_trans less fewer

theorem order_decreases (g : Graph α) (marked queue : List α) (a : α) :
    Prod.Lex (· < ·) (· < ·)
      (unvisited (linked g) ((mk marked queue).enqueueAll (g.children a)).marked,
        ((mk marked queue).enqueueAll (g.children a)).queue.length)
      (unvisited (linked g) marked, queue.length + 1) := by
  rcases enqueueAll_decreases (mk marked queue) (fun _ => mem_linked (a := a)) with same | less
  · rw [same]
    exact Prod.Lex.right _ (Nat.lt_succ_self _)
  · exact Prod.Lex.left _ _ less

-- The nodes that are taken out of the queue, in turn.
def order (g : Graph α) (s : Marking α) : List α :=
  match s with
  | ⟨_, []⟩ => []
  | ⟨marked, a :: queue⟩ => a :: order g ((mk marked queue).enqueueAll (g.children a))
termination_by (unvisited (linked g) s.marked, s.queue.length)
decreasing_by exact order_decreases g marked queue a

theorem order_nil (g : Graph α) (marked : List α) : order g ⟨marked, []⟩ = [] := by
  rw [order]

theorem order_cons (g : Graph α) (marked queue : List α) (a : α) :
    order g ⟨marked, a :: queue⟩ = a :: order g ((mk marked queue).enqueueAll (g.children a)) := by
  rw [order]

theorem enqueueAll_eq (s : Marking α) (items : List α) :
    s.enqueueAll items =
      ⟨(firsts s.marked items).reverse ++ s.marked, s.queue ++ firsts s.marked items⟩ := by
  induction items generalizing s with
  | nil => simp [firsts]
  | cons a items ih =>
    rw [enqueueAll_cons, ih]
    by_cases seen : a ∈ s.marked
    · simp [enqueue, seen, firsts_cons_of_mem]
    · simp [enqueue, seen, firsts_cons_of_not_mem]

theorem begin_eq (visited items : List α) : begin visited items = enqueueAll ⟨visited, []⟩ items := by
  simp [begin, enqueueAll_eq]

theorem enqueueAll_of_marked (s : Marking α) (seen : ∀ a ∈ items, a ∈ s.marked) :
    s.enqueueAll items = s := by
  simp [enqueueAll_eq, firsts_eq_nil seen]

theorem enqueueAll_filter (s : Marking α) (items : List α) (seen : ∀ a ∈ visited, a ∈ s.marked) :
    s.enqueueAll (items.filter (· ∉ visited)) = s.enqueueAll items := by
  simp only [enqueueAll_eq, firsts_filter seen]

theorem mem_marked_begin : a ∈ (begin visited items).marked ↔ a ∈ visited ∨ a ∈ items := by
  by_cases old : a ∈ visited <;> simp [begin, mem_firsts, old]

theorem begin_append (visited items more : List α) :
    begin visited (items ++ more) = (begin visited items).enqueueAll more := by
  rw [begin_eq, begin_eq, enqueueAll_append]

theorem firsts_concat (visited items : List α) (a : α) :
    firsts visited (items ++ [a]) =
      if a ∈ visited ∨ a ∈ items then firsts visited items else firsts visited items ++ [a] := by
  have behind : firsts visited (items ++ [a]) =
      firsts visited items ++ firsts (begin visited items).marked [a] := by
    have queues := congrArg Marking.queue (begin_append visited items [a])
    rw [enqueueAll_eq] at queues
    exact queues
  rw [behind]
  split_ifs with known
  · rw [firsts_cons_of_mem (mem_marked_begin.mpr known)]
    simp [firsts]
  · rw [firsts_cons_of_not_mem (mt mem_marked_begin.mp known)]
    simp [firsts]

-- Items that were visited stand for nothing, and the first one that was not is the first to go.
theorem begin_of_fresh {skipped rest : List α} (stale : ∀ b ∈ skipped, b ∈ visited)
    (fresh : a ∉ visited) :
    begin visited (skipped ++ a :: rest) =
      ⟨(begin (a :: visited) rest).marked, a :: (begin (a :: visited) rest).queue⟩ := by
  have passed : enqueueAll ⟨visited, []⟩ skipped = ⟨visited, []⟩ := enqueueAll_of_marked _ stale
  rw [begin_eq, enqueueAll_append, passed, enqueueAll_eq]
  simp [firsts_cons_of_not_mem fresh, begin]

theorem begin_known (known : a ∈ visited ∨ a ∈ items) :
    begin visited (items ++ [a]) = begin visited items := by
  rw [begin_append]
  refine enqueueAll_of_marked _ fun b only => ?_
  rw [List.mem_singleton.mp only]
  exact mem_marked_begin.mpr known

end Marking

namespace Search

variable {α : Type} [DecidableEq α] {g : Graph α}

-- The queue of the textbook is what waits on the frontier, once repetitions and visited nodes are
-- left out.
theorem order_eq_marking_order (g : Graph α) (f : Frontier α) :
    order g f = Marking.order g (.begin f.visited f.pending) := by
  induction f using Frontier.visit_induction g with
  | idle f idle =>
    have stale := Frontier.stale_of_visit?_eq_none idle
    rw [order_of_idle idle, Marking.begin, Marking.firsts_eq_nil stale, Marking.order_nil]
  | visit f a next visits ih =>
    rw [order_of_visit visits, ih]
    obtain ⟨rest, popped, rfl⟩ := visit?_eq_some visits
    obtain ⟨fresh, skipped, split, stale⟩ := Frontier.nextFresh?_some popped
    have old : ∀ b ∈ a :: f.visited, b ∈ (Marking.begin (a :: f.visited) rest).marked :=
      fun b seen => Marking.mem_marked_begin.mpr (.inl seen)
    have behind : Marking.begin (a :: f.visited)
        (rest ++ (g.children a).filter (· ∉ a :: f.visited)) =
          (Marking.begin (a :: f.visited) rest).enqueueAll (g.children a) := by
      rw [Marking.begin_append, Marking.enqueueAll_filter _ _ old]
    rw [split, Marking.begin_of_fresh stale fresh, Marking.order_cons, ← behind]
    simp [Frontier.pushAll, Frontier.isVisited]

theorem order_push_known {f : Frontier α} {a : α} (known : a ∈ f.visited ∨ a ∈ f.pending) :
    order g (f.push a).2 = order g f := by
  by_cases seen : a ∈ f.visited
  · simp [Frontier.push, Frontier.isVisited, seen]
  · simp only [Frontier.push, Frontier.isVisited, List.contains_eq_mem, seen, decide_false,
      Bool.false_eq_true, if_false]
    rw [order_eq_marking_order, order_eq_marking_order, Marking.begin_known known]

theorem order_push (f : Frontier α) (a : α) :
    order g (f.push a).2 = Marking.order g (.begin f.visited (f.pending ++ [a])) := by
  by_cases seen : a ∈ f.visited
  · rw [order_push_known (.inl seen), order_eq_marking_order, Marking.begin_known (.inl seen)]
  · simp [Frontier.push, Frontier.isVisited, seen, order_eq_marking_order]

end Search

end PathQuery
