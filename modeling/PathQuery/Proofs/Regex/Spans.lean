import PathQuery.Regex.Pattern

set_option autoImplicit false

namespace PathQuery.Regex

def contextAt (text : List Char) : Nat → Context
  | 0 => ⟨none, text[0]?⟩
  | i + 1 => ⟨text[i]?, text[i + 1]?⟩

def Repeats (step : Nat → Nat → Prop) : Nat → Nat → Nat → Prop
  | 0, i, j => i = j
  | n + 1, i, j => ∃ k, step i k ∧ Repeats step n k j

/-- A pattern stands for the part of the text from `i` to `j`. A repetition whose bounds exclude each
other is taken as often as the lower one says. -/
def Pattern.Spans (text : List Char) : Pattern → Nat → Nat → Prop
  | .empty, i, j => i = j
  | .chars set, i, j => j = i + 1 ∧ ∃ c, text[i]? = some c ∧ set.contains c = true
  | .look l, i, j => i = j ∧ l.holds (contextAt text i) = true
  | .cat a b, i, j => ∃ k, a.Spans text i k ∧ b.Spans text k j
  | .alt a b, i, j => a.Spans text i j ∨ b.Spans text i j
  | .rep min max a, i, j =>
      ∃ n, min ≤ n ∧ (∀ most, max = some most → n ≤ most ∨ n = min) ∧
        Repeats (a.Spans text) n i j

theorem getElem?_contexts (text : List Char) {i : Nat} (inside : i ≤ text.length) :
    (contexts text)[i]? = some (contextAt text i) := by
  have from_before : ∀ (before : Option Char) (text : List Char) (i : Nat), i ≤ text.length →
      (contextsFrom before text)[i]? =
        some ⟨if i = 0 then before else text[i - 1]?, text[i]?⟩ := by
    intro before text i inside
    induction text generalizing before i with
    | nil =>
      obtain rfl : i = 0 := by simpa using inside
      simp [contextsFrom]
    | cons c cs ih =>
      cases i with
      | zero => simp [contextsFrom]
      | succ i =>
        rw [contextsFrom, List.getElem?_cons_succ, ih _ _ (by simpa using inside)]
        cases i <;> simp
  rw [contexts, from_before none text i inside]
  cases i <;> simp [contextAt]

namespace Marks

def On (m : Marks) (i : Nat) : Prop := m[i]? = some true

theorem On.lt {m : Marks} {i : Nat} (on : m.On i) : i < m.length :=
  (List.getElem?_eq_some_iff.mp on).1

theorem on_union {a b : Marks} (same : a.length = b.length) (i : Nat) :
    (a.union b).On i ↔ a.On i ∨ b.On i := by
  rw [On, union, List.getElem?_zipWith]
  by_cases inside : i < a.length
  · have inside' : i < b.length := same ▸ inside
    simp [On, inside, inside']
  · have outside' : ¬i < b.length := same ▸ inside
    simp [On, inside, outside']

theorem on_minus {a b : Marks} (same : a.length = b.length) (i : Nat) :
    (a.minus b).On i ↔ a.On i ∧ ¬b.On i := by
  rw [On, minus, List.getElem?_zipWith]
  by_cases inside : i < a.length
  · have inside' : i < b.length := same ▸ inside
    simp [On, inside, inside']
  · have outside' : ¬i < b.length := same ▸ inside
    simp [On, inside, outside']

/-- Sets of as many positions as the text has are taken to the positions one step further. -/
def Follows (text : List Char) (f : Marks → Marks) (step : Nat → Nat → Prop) : Prop :=
  ∀ m : Marks, m.length = text.length + 1 →
    (f m).length = text.length + 1 ∧ ∀ j, (f m).On j ↔ ∃ i, m.On i ∧ step i j

theorem length_contexts (text : List Char) : (contexts text).length = text.length + 1 :=
  length_contextsFrom none text

theorem on_test {text : List Char} {m : Marks} (size : m.length = text.length + 1)
    (test : Context → Bool) (i : Nat) :
    On (List.zipWith (fun on x => on && test x) m (contexts text)) i ↔
      m.On i ∧ test (contextAt text i) = true := by
  rw [On, List.getElem?_zipWith]
  by_cases inside : i ≤ text.length
  · have marked : i < m.length := by omega
    simp [On, getElem?_contexts text inside, marked]
  · have outside : ¬i < m.length := by omega
    simp [On, outside]

theorem follows_keep (text : List Char) (l : Look) :
    Follows text (keep (contexts text) l) (Pattern.Spans text (.look l)) := by
  intro m size
  refine ⟨by simp [keep, size, length_contexts], fun j => ?_⟩
  rw [keep, on_test size]
  constructor
  · rintro ⟨on, holds⟩
    exact ⟨j, on, rfl, holds⟩
  · rintro ⟨i, on, rfl, holds⟩
    exact ⟨on, holds⟩

theorem follows_advance (text : List Char) (set : CharClass) :
    Follows text (advance (contexts text) set) (Pattern.Spans text (.chars set)) := by
  intro m size
  refine ⟨by simp [advance, size, length_contexts], fun j => ?_⟩
  cases j with
  | zero => simp [advance, On, Pattern.Spans]
  | succ i =>
    have after : (contextAt text i).after = text[i]? := by cases i <;> rfl
    have tested := on_test size (fun x => x.after.any set.contains) i
    rw [after] at tested
    have last : (advance (contexts text) set m).On (i + 1) ↔
        i < text.length ∧ On (List.zipWith (fun on x => on && x.after.any set.contains) m
          (contexts text)) i := by
      simp [advance, On, List.getElem?_dropLast, size, length_contexts]
    rw [last, tested]
    constructor
    · rintro ⟨inside, on, member⟩
      refine ⟨i, on, rfl, text[i], List.getElem?_eq_getElem inside, ?_⟩
      simpa [inside] using member
    · rintro ⟨k, on, next, c, here, member⟩
      obtain rfl : i = k := by omega
      exact ⟨(List.getElem?_eq_some_iff.mp here).1, on, by simp [here, member]⟩

variable {text : List Char} {f g : Marks → Marks} {step step' : Nat → Nat → Prop}

theorem Follows.comp (first : Follows text f step) (second : Follows text g step') :
    Follows text (fun m => g (f m)) fun i j => ∃ k, step i k ∧ step' k j := by
  intro m size
  obtain ⟨size', on⟩ := first m size
  obtain ⟨size'', on'⟩ := second (f m) size'
  refine ⟨size'', fun j => ?_⟩
  simp only [on', on]
  constructor
  · rintro ⟨k, ⟨i, start, here⟩, there⟩
    exact ⟨i, start, k, here, there⟩
  · rintro ⟨i, start, k, here, there⟩
    exact ⟨k, ⟨i, start, here⟩, there⟩

theorem Follows.union (first : Follows text f step) (second : Follows text g step') :
    Follows text (fun m => (f m).union (g m)) fun i j => step i j ∨ step' i j := by
  intro m size
  obtain ⟨size', on⟩ := first m size
  obtain ⟨size'', on'⟩ := second m size
  refine ⟨by simp [Marks.union, size', size''], fun j => ?_⟩
  rw [on_union (size'.trans size''.symm), on, on']
  constructor
  · rintro (⟨i, start, here⟩ | ⟨i, start, here⟩)
    · exact ⟨i, start, .inl here⟩
    · exact ⟨i, start, .inr here⟩
  · rintro ⟨i, start, here | here⟩
    · exact .inl ⟨i, start, here⟩
    · exact .inr ⟨i, start, here⟩

-- Once a step changes nothing, neither does any number of steps.
theorem Follows.fixed (follows : Follows text f step) {m : Marks}
    (size : m.length = text.length + 1) (fixed : f m = m) (n j : Nat) :
    m.On j ↔ ∃ i, m.On i ∧ Repeats step n i j := by
  induction n generalizing j with
  | zero => simp [Repeats]
  | succ n ih =>
    have on := (follows m size).2
    rw [fixed] at on
    rw [ih]
    constructor
    · rintro ⟨i, start, rest⟩
      obtain ⟨h, start', first⟩ := (on i).mp start
      exact ⟨h, start', i, first, rest⟩
    · rintro ⟨h, start, i, first, rest⟩
      exact ⟨i, (on i).mpr ⟨h, start, first⟩, rest⟩

theorem Follows.iterate (follows : Follows text f step) (n : Nat) :
    Follows text (iterate f n) (Repeats step n) := by
  induction n with
  | zero =>
    intro m size
    exact ⟨size, fun j => by simp [Marks.iterate, Repeats]⟩
  | succ n ih =>
    intro m size
    by_cases fixed : f m = m
    · rw [Marks.iterate, if_pos fixed]
      exact ⟨size, follows.fixed size fixed (n + 1)⟩
    · rw [Marks.iterate, if_neg fixed]
      exact follows.comp ih m size

variable {seen fresh : Marks}

def Explored (step : Nat → Nat → Prop) (seen fresh : Marks) : Prop :=
  ∀ i j, seen.On i → ¬fresh.On i → step i j → seen.On j

theorem Explored.repeats (explored : Explored step seen fresh) {n i j : Nat}
    (start : seen.On i) (steps : Repeats step n i j) :
    seen.On j ∨ ∃ k ≤ n, ∃ i', fresh.On i' ∧ Repeats step k i' j := by
  induction n generalizing i with
  | zero => exact .inl (steps ▸ start)
  | succ n ih =>
    by_cases new : fresh.On i
    · exact .inr ⟨n + 1, Nat.le_refl _, i, new, steps⟩
    · obtain ⟨i', first, rest⟩ := steps
      rcases ih (explored i i' start new first) rest with seen | ⟨k, fewer, i'', new', rest'⟩
      · exact .inl seen
      · exact .inr ⟨k, Nat.le_succ_of_le fewer, i'', new', rest'⟩

theorem any_iff_exists_on (m : Marks) : m.any id = true ↔ ∃ i, m.On i := by
  simp only [List.any_eq_true, id_eq, exists_eq_right, On, List.mem_iff_getElem?]

theorem Follows.on_new (follows : Follows text f step)
    (size : seen.length = text.length + 1) (size' : fresh.length = text.length + 1) (j : Nat) :
    ((f fresh).minus seen).On j ↔ (∃ i, fresh.On i ∧ step i j) ∧ ¬seen.On j := by
  obtain ⟨size'', on⟩ := follows fresh size'
  rw [on_minus (size''.trans size.symm), on]

theorem Explored.step_on (explored : Explored step seen fresh) (follows : Follows text f step)
    (size : seen.length = text.length + 1) (size' : fresh.length = text.length + 1) {i j : Nat}
    (start : seen.On i) (first : step i j) : seen.On j ∨ ((f fresh).minus seen).On j := by
  by_cases new : fresh.On i
  · by_cases old : seen.On j
    · exact .inl old
    · exact .inr ((follows.on_new size size' j).mpr ⟨⟨i, new, first⟩, old⟩)
  · exact .inl (explored i j start new first)

-- The positions that are new are those that the next round begins at.
theorem Explored.round (explored : Explored step seen fresh) (follows : Follows text f step)
    (size : seen.length = text.length + 1) (size' : fresh.length = text.length + 1) :
    ((f fresh).minus seen).length = text.length + 1 ∧
      (seen.union ((f fresh).minus seen)).length = text.length + 1 ∧
      (∀ j, (seen.union ((f fresh).minus seen)).On j ↔
        seen.On j ∨ ((f fresh).minus seen).On j) ∧
      Explored step (seen.union ((f fresh).minus seen)) ((f fresh).minus seen) := by
  have size_new : ((f fresh).minus seen).length = text.length + 1 := by
    simp [minus, size, (follows fresh size').1]
  have on_seen := on_union (size.trans size_new.symm)
  refine ⟨size_new, by simp [Marks.union, size, size_new], on_seen, ?_⟩
  intro i j start old first
  have start' := ((on_seen i).mp start).resolve_right old
  exact (on_seen j).mpr (explored.step_on follows size size' start' first)

-- Where a round finds nothing new, what was seen is closed under steps.
theorem Explored.closed (explored : Explored step seen fresh) (follows : Follows text f step)
    (size : seen.length = text.length + 1) (size' : fresh.length = text.length + 1)
    (nothing : ∀ i, ¬((f fresh).minus seen).On i) {n i j : Nat} (start : seen.On i)
    (steps : Repeats step n i j) : seen.On j := by
  have closed : Explored step seen ((f fresh).minus seen) := fun i j start _ first =>
    (explored.step_on follows size size' start first).resolve_right (nothing j)
  refine (closed.repeats start steps).resolve_right ?_
  rintro ⟨_, _, i', new, _⟩
  exact nothing i' new

theorem Follows.spread (follows : Follows text f step) (n : Nat) {seen fresh : Marks}
    (size : seen.length = text.length + 1) (size' : fresh.length = text.length + 1)
    (within : ∀ i, fresh.On i → seen.On i) (explored : Explored step seen fresh) :
    (spread f n seen fresh).length = text.length + 1 ∧
      ∀ j, (spread f n seen fresh).On j ↔
        seen.On j ∨ ∃ k ≤ n, ∃ i, fresh.On i ∧ Repeats step k i j := by
  induction n generalizing seen fresh with
  | zero =>
    refine ⟨size, fun j => ⟨.inl, ?_⟩⟩
    rintro (old | ⟨k, none, i, start, steps⟩)
    · exact old
    · obtain rfl : k = 0 := Nat.le_zero.mp none
      exact within j (steps ▸ start)
  | succ n ih =>
    have on_new := follows.on_new size size'
    by_cases more : ((f fresh).minus seen).any id
    · obtain ⟨size_new, size_union, on_seen, explored'⟩ := explored.round follows size size'
      obtain ⟨size_rest, on_rest⟩ :=
        ih size_union size_new (fun i new => (on_seen i).mpr (.inr new)) explored'
      rw [Marks.spread, if_pos more]
      refine ⟨size_rest, fun j => (on_rest j).trans ⟨?_, ?_⟩⟩
      · rintro (seen | ⟨k, fewer, i, new, steps⟩)
        · rcases (on_seen j).mp seen with old | new
          · exact .inl old
          · obtain ⟨i, start, first⟩ := ((on_new j).mp new).1
            exact .inr ⟨1, by omega, i, start, j, first, rfl⟩
        · obtain ⟨h, start, first⟩ := ((on_new i).mp new).1
          exact .inr ⟨k + 1, by omega, h, start, i, first, steps⟩
      · rintro (old | ⟨k, fewer, i, start, steps⟩)
        · exact .inl ((on_seen j).mpr (.inl old))
        · cases k with
          | zero => exact .inl ((on_seen j).mpr (.inl (steps ▸ within i start)))
          | succ k =>
            obtain ⟨i', first, rest⟩ := steps
            have start' := (on_seen i').mpr
              (explored.step_on follows size size' (within i start) first)
            rcases explored'.repeats start' rest with seen | ⟨k', fewer', found⟩
            · exact .inl seen
            · exact .inr ⟨k', by omega, found⟩
    · have nothing : ∀ i, ¬((f fresh).minus seen).On i := fun i new =>
        more ((any_iff_exists_on _).mpr ⟨i, new⟩)
      rw [Marks.spread, if_neg more]
      refine ⟨size, fun j => ⟨.inl, ?_⟩⟩
      rintro (old | ⟨k, _, i, start, steps⟩)
      · exact old
      · exact explored.closed follows size size' nothing (within i start) steps

end Marks

theorem Repeats.le {step : Nat → Nat → Prop} (le : ∀ i j, step i j → i ≤ j) {n i j : Nat}
    (steps : Repeats step n i j) : i ≤ j := by
  induction n generalizing i with
  | zero => exact Nat.le_of_eq steps
  | succ n ih =>
    obtain ⟨k, first, rest⟩ := steps
    exact Nat.le_trans (le i k first) (ih rest)

theorem Repeats.within {step : Nat → Nat → Prop} {size : Nat}
    (within : ∀ i j, step i j → i ≤ size → j ≤ size) {n i j : Nat}
    (steps : Repeats step n i j) (start : i ≤ size) : j ≤ size := by
  induction n generalizing i with
  | zero => exact steps ▸ start
  | succ n ih =>
    obtain ⟨k, first, rest⟩ := steps
    exact ih rest (within i k first start)

-- Steps that stay where they are can be left out.
theorem Repeats.shorten {step : Nat → Nat → Prop} (le : ∀ i j, step i j → i ≤ j) {n i j : Nat}
    (steps : Repeats step n i j) : ∃ k ≤ j - i, Repeats step k i j := by
  induction n generalizing i with
  | zero => exact ⟨0, Nat.zero_le _, steps⟩
  | succ n ih =>
    obtain ⟨i', first, rest⟩ := steps
    obtain ⟨k, few, rest'⟩ := ih rest
    rcases Nat.eq_or_lt_of_le (le i i' first) with rfl | less
    · exact ⟨k, few, rest'⟩
    · have := rest'.le le
      exact ⟨k + 1, by omega, i', first, rest'⟩

theorem Repeats.append {step : Nat → Nat → Prop} {m n i j : Nat} :
    Repeats step (m + n) i j ↔ ∃ k, Repeats step m i k ∧ Repeats step n k j := by
  induction m generalizing i with
  | zero => simp [Repeats]
  | succ m ih =>
    rw [Nat.succ_add]
    constructor
    · rintro ⟨i', first, rest⟩
      obtain ⟨k, before, behind⟩ := ih.mp rest
      exact ⟨k, ⟨i', first, before⟩, behind⟩
    · rintro ⟨k, ⟨i', first, before⟩, behind⟩
      exact ⟨i', first, ih.mpr ⟨k, before, behind⟩⟩

namespace Pattern

theorem Spans.le {text : List Char} {p : Pattern} {i j : Nat} (spans : p.Spans text i j) :
    i ≤ j := by
  induction p generalizing i j with
  | empty => exact Nat.le_of_eq spans
  | chars set => exact spans.1 ▸ Nat.le_succ i
  | look l => exact Nat.le_of_eq spans.1
  | cat a b iha ihb =>
    obtain ⟨k, first, second⟩ := spans
    exact Nat.le_trans (iha first) (ihb second)
  | alt a b iha ihb => exact spans.elim iha ihb
  | rep min max a ih =>
    obtain ⟨n, _, _, steps⟩ := spans
    exact steps.le fun _ _ => ih

theorem Spans.within {text : List Char} {p : Pattern} {i j : Nat} (spans : p.Spans text i j)
    (start : i ≤ text.length) : j ≤ text.length := by
  induction p generalizing i j with
  | empty => exact spans ▸ start
  | chars set =>
    obtain ⟨rfl, c, here, _⟩ := spans
    exact (List.getElem?_eq_some_iff.mp here).1
  | look l => exact spans.1 ▸ start
  | cat a b iha ihb =>
    obtain ⟨k, first, second⟩ := spans
    exact ihb second (iha first start)
  | alt a b iha ihb => exact spans.elim (iha · start) (ihb · start)
  | rep min max a ih =>
    obtain ⟨n, _, _, steps⟩ := spans
    exact steps.within (fun _ _ => ih) start

theorem follows_rep {text : List Char} {a : Pattern} (min : Nat) (max : Option Nat)
    (follows : Marks.Follows text (a.reach (contexts text)) (a.Spans text)) :
    Marks.Follows text ((Pattern.rep min max a).reach (contexts text))
      ((Pattern.rep min max a).Spans text) := by
  intro m size
  obtain ⟨size', least⟩ := follows.iterate min m size
  have spread := fun rounds =>
    follows.spread rounds size' size' (fun _ on => on) fun _ _ on off _ => absurd on off
  cases max with
  | none =>
    obtain ⟨size'', reached⟩ := spread (contexts text).length
    refine ⟨size'', fun j => (reached j).trans ⟨?_, ?_⟩⟩
    · rintro (on | ⟨k, _, h, on, steps⟩)
      · obtain ⟨i, start, steps⟩ := (least j).mp on
        exact ⟨i, start, min, Nat.le_refl _, by simp, steps⟩
      · obtain ⟨i, start, steps'⟩ := (least h).mp on
        exact ⟨i, start, min + k, by omega, by simp, Repeats.append.mpr ⟨h, steps', steps⟩⟩
    · rintro ⟨i, start, n, enough, _, steps⟩
      rw [← Nat.add_sub_cancel' enough, Repeats.append] at steps
      obtain ⟨h, before, behind⟩ := steps
      have begin_inside : i ≤ text.length := by
        have := start.lt
        omega
      have inside := before.within (fun _ _ => Spans.within) begin_inside
      have inside' := behind.within (fun _ _ => Spans.within) inside
      obtain ⟨k, few, steps⟩ := behind.shorten fun _ _ => Spans.le
      rw [Marks.length_contexts]
      exact .inr ⟨k, by omega, h, (least h).mpr ⟨i, start, before⟩, steps⟩
  | some most =>
    obtain ⟨size'', reached⟩ := spread (most - min)
    refine ⟨size'', fun j => (reached j).trans ⟨?_, ?_⟩⟩
    · rintro (on | ⟨k, few, h, on, steps⟩)
      · obtain ⟨i, start, steps⟩ := (least j).mp on
        exact ⟨i, start, min, Nat.le_refl _, by simp, steps⟩
      · obtain ⟨i, start, steps'⟩ := (least h).mp on
        refine ⟨i, start, min + k, by omega, ?_, Repeats.append.mpr ⟨h, steps', steps⟩⟩
        rintro _ ⟨rfl⟩
        omega
    · rintro ⟨i, start, n, enough, bound, steps⟩
      rw [← Nat.add_sub_cancel' enough, Repeats.append] at steps
      obtain ⟨h, before, behind⟩ := steps
      have := bound most rfl
      exact .inr ⟨n - min, by omega, h, (least h).mpr ⟨i, start, before⟩, behind⟩

theorem follows_reach (text : List Char) (p : Pattern) :
    Marks.Follows text (p.reach (contexts text)) (p.Spans text) := by
  induction p with
  | empty =>
    intro m size
    exact ⟨size, fun j => by simp [reach, Spans]⟩
  | chars set => exact Marks.follows_advance text set
  | look l => exact Marks.follows_keep text l
  | cat a b iha ihb => exact iha.comp ihb
  | alt a b iha ihb => exact iha.union ihb
  | rep min max a ih => exact follows_rep min max ih

theorem start_holds {text : List Char} {i : Nat} (inside : i ≤ text.length) :
    Look.start.holds (contextAt text i) = true ↔ i = 0 := by
  cases i with
  | zero => simp [Look.holds, contextAt]
  | succ i =>
    have here : i < text.length := inside
    simp [Look.holds, contextAt, here]

theorem stop_holds {text : List Char} {i : Nat} (inside : i ≤ text.length) :
    Look.stop.holds (contextAt text i) = true ↔ i = text.length := by
  have after : (contextAt text i).after = text[i]? := by cases i <;> rfl
  rw [Look.holds, after, Option.isNone_iff_eq_none, List.getElem?_eq_none_iff]
  omega

/-- A pattern between the two ends of the text matches where it stands for the whole text. -/
theorem isMatch_anchored (p : Pattern) (text : List Char) :
    (Pattern.cat (.look .start) (.cat p (.look .stop))).isMatch text = true ↔
      p.Spans text 0 text.length := by
  have size : ((contexts text).map fun _ => true).length = text.length + 1 := by
    simp [Marks.length_contexts]
  have on := (follows_reach text (.cat (.look .start) (.cat p (.look .stop))) _ size).2
  have all : ∀ i, Marks.On ((contexts text).map fun _ => true) i ↔ i ≤ text.length := fun i => by
    rw [Marks.On, List.getElem?_map]
    by_cases inside : i ≤ text.length
    · simp [getElem?_contexts text inside, inside]
    · have outside : (contexts text).length ≤ i := by
        rw [Marks.length_contexts]
        omega
      simp [List.getElem?_eq_none outside, inside]
  rw [isMatch, Marks.any_iff_exists_on]
  simp only [on, all]
  constructor
  · rintro ⟨j, i, inside, _, ⟨rfl, first⟩, k, spans, rfl, last⟩
    obtain rfl := (start_holds inside).mp first
    exact (stop_holds (spans.within inside)).mp last ▸ spans
  · intro spans
    refine ⟨text.length, 0, Nat.zero_le _, 0, ⟨rfl, ?_⟩, text.length, spans, rfl, ?_⟩
    · exact (start_holds (Nat.zero_le _)).mpr rfl
    · exact (stop_holds (Nat.le_refl _)).mpr rfl

end Pattern

end PathQuery.Regex
