import PathQuery.Proofs.Search.Queue

set_option autoImplicit false

namespace PathQuery

structure Discipline (α σ : Type) where
  push : σ → α → Bool × σ
  pop : σ → Option α × σ
  mark : σ → α → Bool × σ
  isVisited : σ → α → Bool
  isDone : σ → Bool
  fork : σ → σ

inductive Operation (α : Type) where
  | push (a : α)
  | pop
  | mark (a : α)
  | isVisited (a : α)
  | isDone
  | fork
  | clone
deriving DecidableEq

structure Command (α : Type) where
  on : Nat
  operation : Operation α
deriving DecidableEq

inductive Answer (α : Type) where
  | truth (b : Bool)
  | item (a : Option α)
  -- The family has a new member behind all others.
  | made
  -- The family has no such member.
  | absent
deriving DecidableEq

namespace Discipline

variable {α σ τ : Type}

-- The answer, what becomes of the member, and the members that are made from it.
def perform (d : Discipline α σ) (s : σ) : Operation α → Answer α × σ × List σ
  | .push a => (.truth (d.push s a).1, (d.push s a).2, [])
  | .pop => (.item (d.pop s).1, (d.pop s).2, [])
  | .mark a => (.truth (d.mark s a).1, (d.mark s a).2, [])
  | .isVisited a => (.truth (d.isVisited s a), s, [])
  | .isDone => (.truth (d.isDone s), s, [])
  | .fork => (.made, s, [d.fork s])
  | .clone => (.made, s, [s])

def step (d : Discipline α σ) (family : List σ) (c : Command α) : Answer α × List σ :=
  match family[c.on]? with
  | none => (.absent, family)
  | some s =>
      let (answer, s', made) := d.perform s c.operation
      (answer, family.set c.on s' ++ made)

-- Commands with the answers to them.
def events (d : Discipline α σ) : List σ → List (Command α) → List (Command α × Answer α)
  | _, [] => []
  | family, c :: rest => (c, (d.step family c).1) :: d.events (d.step family c).2 rest

def after (d : Discipline α σ) (family : List σ) (commands : List (Command α)) : List σ :=
  commands.foldl (fun family c => (d.step family c).2) family

def Settles (k : Nat) (a : α) (event : Command α × Answer α) : Prop :=
  event = (⟨k, .pop⟩, .item (some a)) ∨ ∃ b, event = (⟨k, .mark a⟩, .truth b)

/-- One discipline does what another one does, as far as a view of its states shows. -/
structure Refines (d : Discipline α σ) (d' : Discipline α τ) (view : σ → τ) : Prop where
  push : ∀ s a, d'.push (view s) a = ((d.push s a).1, view (d.push s a).2)
  pop : ∀ s, d'.pop (view s) = ((d.pop s).1, view (d.pop s).2)
  mark : ∀ s a, d'.mark (view s) a = ((d.mark s a).1, view (d.mark s a).2)
  isVisited : ∀ s a, d'.isVisited (view s) a = d.isVisited s a
  isDone : ∀ s, d'.isDone (view s) = d.isDone s
  fork : ∀ s, d'.fork (view s) = view (d.fork s)

namespace Refines

variable {d : Discipline α σ} {d' : Discipline α τ} {view : σ → τ}

theorem perform (refines : Refines d d' view) (s : σ) (operation : Operation α) :
    d'.perform (view s) operation =
      ((d.perform s operation).1, view (d.perform s operation).2.1,
        (d.perform s operation).2.2.map view) := by
  cases operation with
  | push a => simp [Discipline.perform, refines.push]
  | pop => simp [Discipline.perform, refines.pop]
  | mark a => simp [Discipline.perform, refines.mark]
  | isVisited a => simp [Discipline.perform, refines.isVisited]
  | isDone => simp [Discipline.perform, refines.isDone]
  | fork => simp [Discipline.perform, refines.fork]
  | clone => simp [Discipline.perform]

theorem step (refines : Refines d d' view) (family : List σ) (c : Command α) :
    d'.step (family.map view) c = ((d.step family c).1, (d.step family c).2.map view) := by
  cases member : family[c.on]? with
  | none => simp [Discipline.step, member]
  | some s => simp [Discipline.step, member, refines.perform]

theorem after (refines : Refines d d' view) (family : List σ) (commands : List (Command α)) :
    d'.after (family.map view) commands = (d.after family commands).map view := by
  induction commands generalizing family with
  | nil => rfl
  | cons c rest ih =>
    have next := ih (d.step family c).2
    simpa [Discipline.after, refines.step] using next

theorem events (refines : Refines d d' view) (family : List σ) (commands : List (Command α)) :
    d'.events (family.map view) commands = d.events family commands := by
  induction commands generalizing family with
  | nil => rfl
  | cons c rest ih => simp [Discipline.events, refines.step, ih]

end Refines

theorem getElem?_step (d : Discipline α σ) {family : List σ} {k : Nat} {s : σ}
    (member : family[k]? = some s) (c : Command α) :
    (d.step family c).2[k]? = some (if c.on = k then (d.perform s c.operation).2.1 else s) := by
  have inside : k < family.length := (List.getElem?_eq_some_iff.mp member).1
  by_cases here : c.on = k
  · simp only [step, here, member, if_true]
    rw [List.getElem?_append_left (by simpa using inside), List.getElem?_set_self inside]
  · rw [if_neg here, ← member]
    cases other : family[c.on]? with
    | none => simp [step, other]
    | some s' =>
      simp only [step, other]
      rw [List.getElem?_append_left (by simpa using inside), List.getElem?_set_ne here]

theorem step_of_member (d : Discipline α σ) {family : List σ} {k : Nat} {s : σ}
    (member : family[k]? = some s) (operation : Operation α) :
    (d.step family ⟨k, operation⟩).1 = (d.perform s operation).1 := by
  simp [step, member]

theorem Settles.on_member {d : Discipline α σ} {family : List σ} {c : Command α} {k : Nat} {a : α}
    (settles : Settles k a (c, (d.step family c).1)) :
    c.on = k ∧ ∃ s, family[k]? = some s ∧
      (c.operation = .pop ∧ (d.perform s c.operation).1 = .item (some a) ∨
        c.operation = .mark a) := by
  cases member : family[k]? with
  | none =>
    rcases settles with popped | ⟨b, marked⟩
    · obtain ⟨rfl, answer⟩ := Prod.mk.inj popped
      simp [step, member] at answer
    · obtain ⟨rfl, answer⟩ := Prod.mk.inj marked
      simp [step, member] at answer
  | some s =>
    rcases settles with popped | ⟨b, marked⟩
    · obtain ⟨rfl, answer⟩ := Prod.mk.inj popped
      rw [d.step_of_member member] at answer
      exact ⟨rfl, s, rfl, .inl ⟨rfl, answer⟩⟩
    · obtain ⟨rfl, _⟩ := Prod.mk.inj marked
      exact ⟨rfl, s, rfl, .inr rfl⟩

end Discipline

namespace Queue

open Discipline

variable {α : Type} [DecidableEq α]

def discipline : Discipline α (Queue α) := ⟨push, pop, mark, isVisited, isDone, fork⟩

theorem push_visited (q : Queue α) (a : α) : (q.push a).2.visited = q.visited := by
  unfold push
  split_ifs <;> rfl

theorem waiting_prefix_push (q : Queue α) (a : α) : q.waiting <+: (q.push a).2.waiting := by
  unfold push
  split_ifs
  · exact List.prefix_rfl
  · exact List.prefix_rfl
  · exact List.prefix_append q.waiting [a]

theorem mem_waiting_push {q : Queue α} {a : α} (accepted : (q.push a).1 = true) :
    a ∈ (q.push a).2.waiting := by
  unfold push at accepted ⊢
  split_ifs at accepted ⊢ with _ old
  · exact old
  · exact List.mem_append_right q.waiting List.mem_cons_self

theorem mem_take_erase {waiting : List α} {n : Nat} {a b : α} (early : a ∈ waiting.take n)
    (other : a ≠ b) : a ∈ (waiting.erase b).take n := by
  induction waiting generalizing n with
  | nil => simp at early
  | cons c waiting ih =>
    cases n with
    | zero => simp at early
    | succ n =>
      rw [List.take_succ_cons, List.mem_cons] at early
      by_cases same : c = b
      · subst same
        rw [List.erase_cons_head]
        have rest : a ∈ waiting.take n := early.resolve_left other
        exact List.take_subset_take_left waiting (Nat.le_succ n) rest
      · rw [List.erase_cons_tail (by simpa using same), List.take_succ_cons, List.mem_cons]
        exact early.imp_right ih

theorem perform_visited (q : Queue α) (operation : Operation α) :
    q.visited ⊆ (discipline.perform q operation).2.1.visited := by
  cases operation with
  | push a => exact (push_visited q a).symm.subset
  | pop =>
    cases front : q.waiting with
    | nil => simp [Discipline.perform, discipline, pop_of_nil front]
    | cons a rest =>
      simp only [Discipline.perform, discipline]
      rw [(pop_of_cons front).2.2]
      exact Finset.subset_insert a q.visited
  | mark a => exact Finset.subset_insert a q.visited
  | isVisited a | isDone | fork | clone => exact Finset.Subset.refl q.visited

theorem perform_due {q : Queue α} {a : α} {n : Nat} (early : a ∈ q.waiting.take n)
    (operation : Operation α) :
    (operation = .pop ∧ (discipline.perform q operation).1 = .item (some a)) ∨
    operation = .mark a ∨
    a ∈ (discipline.perform q operation).2.1.waiting.take
      (n - if operation = .pop then 1 else 0) := by
  cases operation with
  | push b =>
    right
    right
    exact ((waiting_prefix_push q b).take n).subset early
  | pop =>
    cases front : q.waiting with
    | nil => simp [front] at early
    | cons b rest =>
      obtain ⟨given, left, _⟩ := pop_of_cons front
      cases n with
      | zero => simp at early
      | succ n =>
        rw [front, List.take_succ_cons, List.mem_cons] at early
        rcases early with rfl | later
        · exact .inl ⟨rfl, congrArg Answer.item given⟩
        · right
          right
          simpa [Discipline.perform, discipline, left] using later
  | mark b =>
    by_cases same : a = b
    · exact .inr (.inl (same ▸ rfl))
    · exact .inr (.inr (mem_take_erase early same))
  | isVisited b | isDone | fork | clone => exact .inr (.inr early)

section Family

variable {family : List (Queue α)} {k n : Nat} {a : α}

def HasVisited (family : List (Queue α)) (k : Nat) (a : α) : Prop :=
  ∃ q, family[k]? = some q ∧ a ∈ q.visited

def Due (family : List (Queue α)) (k : Nat) (a : α) (n : Nat) : Prop :=
  ∃ q, family[k]? = some q ∧ a ∈ q.waiting.take n

theorem HasVisited.step (visited : HasVisited family k a) (c : Command α) :
    HasVisited (discipline.step family c).2 k a := by
  obtain ⟨q, member, seen⟩ := visited
  refine ⟨_, discipline.getElem?_step member c, ?_⟩
  split_ifs
  · exact perform_visited q c.operation seen
  · exact seen

theorem HasVisited.after (visited : HasVisited family k a) (commands : List (Command α)) :
    HasVisited (discipline.after family commands) k a := by
  induction commands generalizing family with
  | nil => exact visited
  | cons c rest ih => exact ih (visited.step c)

theorem HasVisited.not_popped (visited : HasVisited family k a) :
    (discipline.step family ⟨k, .pop⟩).1 ≠ .item (some a) := by
  obtain ⟨q, member, seen⟩ := visited
  rw [discipline.step_of_member member]
  intro popped
  have waits : a ∈ q.waiting := (mem_of_pop (Answer.item.inj popped)).1
  exact q.fresh a waits seen

theorem hasVisited_of_settles {c : Command α}
    (settles : Settles k a (c, (discipline.step family c).1)) :
    HasVisited (discipline.step family c).2 k a := by
  obtain ⟨here, q, member, operation⟩ := settles.on_member
  refine ⟨_, discipline.getElem?_step member c, ?_⟩
  rw [if_pos here]
  rcases operation with ⟨pop, popped⟩ | mark
  · rw [pop] at popped ⊢
    exact (mem_of_pop (Answer.item.inj popped)).2
  · rw [mark]
    exact Finset.mem_insert_self a q.visited

theorem hasVisited_of_events {commands : List (Command α)}
    (settled : ∃ e ∈ discipline.events family commands, Settles k a e) :
    HasVisited (discipline.after family commands) k a := by
  obtain ⟨e, member, settles⟩ := settled
  induction commands generalizing family with
  | nil => simp [Discipline.events] at member
  | cons c rest ih =>
    rcases List.mem_cons.mp member with rfl | later
    · exact (hasVisited_of_settles settles).after rest
    · exact ih later

theorem Due.step (due : Due family k a n) (c : Command α) :
    Settles k a (c, (discipline.step family c).1) ∨
      Due (discipline.step family c).2 k a (n - if c = ⟨k, .pop⟩ then 1 else 0) := by
  obtain ⟨q, member, early⟩ := due
  obtain ⟨on, operation⟩ := c
  have becomes := discipline.getElem?_step member ⟨on, operation⟩
  by_cases here : on = k
  · subst here
    rw [if_pos rfl] at becomes
    rcases perform_due early operation with ⟨rfl, answer⟩ | rfl | early
    · left
      left
      rw [discipline.step_of_member member, answer]
    · left
      right
      rw [discipline.step_of_member member]
      exact ⟨_, rfl⟩
    · right
      exact ⟨_, becomes, by simpa using early⟩
  · right
    rw [if_neg here] at becomes
    exact ⟨q, becomes, by simpa [here] using early⟩

theorem Due.after (due : Due family k a n) (commands : List (Command α)) :
    (∃ e ∈ discipline.events family commands, Settles k a e) ∨
      Due (discipline.after family commands) k a (n - commands.count ⟨k, .pop⟩) := by
  induction commands generalizing family n with
  | nil => exact .inr due
  | cons c rest ih =>
    rcases due.step c with settles | due'
    · exact .inl ⟨_, List.mem_cons_self, settles⟩
    · rcases ih due' with ⟨e, member, settles⟩ | due''
      · exact .inl ⟨e, List.mem_cons_of_mem _ member, settles⟩
      · right
        have fewer : n - (c :: rest).count ⟨k, .pop⟩ =
            n - (if c = ⟨k, .pop⟩ then 1 else 0) - rest.count ⟨k, .pop⟩ := by
          rw [List.count_cons]
          simp only [beq_iff_eq]
          omega
        rw [fewer]
        exact due''

theorem Due.not_done (due : Due family k a n) :
    0 < n ∧ (discipline.step family ⟨k, .isDone⟩).1 = .truth false := by
  obtain ⟨q, member, early⟩ := due
  rw [discipline.step_of_member member]
  constructor
  · rcases Nat.eq_zero_or_pos n with rfl | positive
    · simp at early
    · exact positive
  · have waits : a ∈ q.waiting := List.mem_of_mem_take early
    have busy : q.isDone = false := by
      cases front : q.waiting with
      | nil => simp [front] at waits
      | cons b rest => simp [isDone, front]
    exact congrArg Answer.truth busy

end Family

end Queue

namespace Frontier

open Discipline

variable {α : Type} [DecidableEq α]

def discipline : Discipline α (Frontier α) := ⟨push, pop, mark, isVisited, isDone, fork⟩

theorem refines_queue : Refines (discipline (α := α)) Queue.discipline queue where
  push := queue_push
  pop := queue_pop
  mark := queue_mark
  isVisited := queue_isVisited
  isDone := queue_isDone
  fork := queue_fork

theorem due_of_push {family : List (Frontier α)} {k : Nat} {a : α} {f : Frontier α}
    (member : family[k]? = some f) (accepted : (f.push a).1 = true) :
    Queue.Due ((discipline.step family ⟨k, .push a⟩).2.map queue) k a (f.pending.length + 1) := by
  have member' : (family.map queue)[k]? = some f.queue := by simp [member]
  have becomes := Queue.discipline.getElem?_step member' ⟨k, .push a⟩
  rw [if_pos rfl, refines_queue.step] at becomes
  have pushed : (f.queue.push a).2 = (f.push a).2.queue := by rw [queue_push]
  have waits : a ∈ (f.queue.push a).2.waiting := by
    apply Queue.mem_waiting_push
    rw [queue_push, accepted]
  have short : (f.queue.push a).2.waiting.length ≤ f.pending.length + 1 := by
    have length : (f.push a).2.pending.length ≤ f.pending.length + 1 := by
      unfold push
      split <;> simp
    rw [pushed]
    exact Nat.le_trans (Marking.length_firsts_le _ _) length
  refine ⟨(f.queue.push a).2, becomes, ?_⟩
  rwa [List.take_of_length_le short]

/-- Frontiers answer as queues without duplicates do. Nothing is popped again that was popped or
marked, and what is pushed is popped within as many pops as items wait, unless it is marked before
that; until then the frontier is not done. One that is done pops nothing, and it is empty then. -/
theorem family_behaves_as_queues (family : List (Frontier α)) (commands : List (Command α)) :
    Queue.discipline.events (family.map queue) commands = discipline.events family commands ∧
    Queue.discipline.after (family.map queue) commands =
      (discipline.after family commands).map queue ∧
    (∀ k a, (∃ e ∈ discipline.events family commands, Settles k a e) →
      (discipline.step (discipline.after family commands) ⟨k, .pop⟩).1 ≠ .item (some a)) ∧
    (∀ k a f, family[k]? = some f → (f.push a).1 = true →
      (∃ e ∈ discipline.events family (⟨k, .push a⟩ :: commands), Settles k a e) ∨
      commands.count ⟨k, .pop⟩ ≤ f.pending.length ∧
        (discipline.step (discipline.after family (⟨k, .push a⟩ :: commands)) ⟨k, .isDone⟩).1 =
          .truth false) ∧
    ∀ f : Frontier α,
      (f.isDone = true ↔ f.pop.1 = none) ∧ (f.pop.1 = none → f.pop.2.pending = []) := by
  have same (family : List (Frontier α)) (c : Command α) :
      (Queue.discipline.step (family.map queue) c).1 = (discipline.step family c).1 := by
    rw [refines_queue.step]
  refine ⟨refines_queue.events family commands, refines_queue.after family commands, ?_, ?_,
    fun f => ⟨isDone_iff f, pending_of_pop_eq_none⟩⟩
  · intro k a settled
    rw [← refines_queue.events] at settled
    rw [← same, ← refines_queue.after]
    exact (Queue.hasVisited_of_events settled).not_popped
  · intro k a f member accepted
    rcases (due_of_push member accepted).after commands with ⟨e, later, settles⟩ | due
    · left
      rw [refines_queue.events] at later
      exact ⟨e, List.mem_cons_of_mem _ later, settles⟩
    · right
      obtain ⟨few, busy⟩ := due.not_done
      rw [refines_queue.after, same] at busy
      exact ⟨by omega, busy⟩

theorem family_behaves_as_queues_with_fork :
    ∃ (family : List (Frontier Nat)) (commands : List (Command Nat)),
      discipline.events family commands =
        [(⟨0, .pop⟩, .item (some 7)), (⟨0, .fork⟩, .made), (⟨1, .push 8⟩, .truth true),
          (⟨0, .mark 8⟩, .truth true), (⟨1, .pop⟩, .item (some 8)), (⟨0, .isDone⟩, .truth true)] ∧
      Queue.discipline.events (family.map queue) commands = discipline.events family commands ∧
      (discipline.step (discipline.after family commands) ⟨0, .pop⟩).1 ≠ .item (some 8) := by
  let family : List (Frontier Nat) := [⟨[7, 8, 7], []⟩]
  let commands : List (Command Nat) :=
    [⟨0, .pop⟩, ⟨0, .fork⟩, ⟨1, .push 8⟩, ⟨0, .mark 8⟩, ⟨1, .pop⟩, ⟨0, .isDone⟩]
  obtain ⟨same, _, settled, _⟩ := family_behaves_as_queues family commands
  have listed : discipline.events family commands =
      [(⟨0, .pop⟩, .item (some 7)), (⟨0, .fork⟩, .made), (⟨1, .push 8⟩, .truth true),
        (⟨0, .mark 8⟩, .truth true), (⟨1, .pop⟩, .item (some 8)), (⟨0, .isDone⟩, .truth true)] := by
    decide
  have marked : ∃ e ∈ discipline.events family commands, Settles 0 8 e :=
    ⟨(⟨0, .mark 8⟩, .truth true), by simp [listed], .inr ⟨true, rfl⟩⟩
  exact ⟨family, commands, listed, same, settled 0 8 marked⟩

end Frontier

end PathQuery
