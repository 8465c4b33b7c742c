import PathQuery.Proofs.Regex.Anchored
import PathQuery.Proofs.Regex.Spans
import PathQuery.Regex.Compile

set_option autoImplicit false

namespace PathQuery.Regex

open PathQuery.Text PathQuery.Unicode

def Pattern.ofItems : List Pattern → Pattern := chain .empty .cat

namespace Pattern

variable {text : List Char} {i j : Nat}

theorem spans_ofItems_cons (p : Pattern) (ps : List Pattern) :
    (ofItems (p :: ps)).Spans text i j ↔ ∃ k, p.Spans text i k ∧ (ofItems ps).Spans text k j := by
  cases ps with
  | nil => simp [ofItems, chain, Spans]
  | cons q ps => rfl

theorem spans_chars_iff (set : CharClass) :
    (Pattern.chars set).Spans text i j ↔
      ∃ c, text.drop i = c :: text.drop j ∧ j = i + 1 ∧ set.contains c = true := by
  constructor
  · rintro ⟨rfl, c, here, member⟩
    obtain ⟨inside, rfl⟩ := List.getElem?_eq_some_iff.mp here
    exact ⟨_, List.drop_eq_getElem_cons inside, rfl, member⟩
  · rintro ⟨c, ahead, rfl, member⟩
    refine ⟨rfl, c, ?_, member⟩
    rw [← List.head?_drop, ahead, List.head?_cons]

theorem repeats_chars_iff (set : CharClass) (n : Nat) :
    Repeats ((Pattern.chars set).Spans text) n i j ↔
      ∃ run, text.drop i = run ++ text.drop j ∧ j = i + n ∧ run.length = n ∧
        ∀ c ∈ run, set.contains c = true := by
  induction n generalizing i with
  | zero =>
    constructor
    · rintro rfl
      exact ⟨[], rfl, rfl, rfl, by simp⟩
    · rintro ⟨_, _, same, _⟩
      exact same.symm
  | succ n ih =>
    constructor
    · rintro ⟨k, first, rest⟩
      obtain ⟨c, ahead, rfl, member⟩ := (spans_chars_iff set).mp first
      obtain ⟨run, behind, rfl, rfl, members⟩ := ih.mp rest
      refine ⟨c :: run, by rw [ahead, behind, List.cons_append], by omega, rfl, ?_⟩
      exact List.forall_mem_cons.mpr ⟨member, members⟩
    · rintro ⟨run, ahead, rfl, size, members⟩
      obtain ⟨c, run, rfl⟩ := List.exists_cons_of_length_eq_add_one size
      obtain ⟨member, members⟩ := List.forall_mem_cons.mp members
      have next : text.drop (i + 1) = run ++ text.drop (i + (n + 1)) := by
        rw [← List.tail_drop, ahead]
        rfl
      refine ⟨i + 1, (spans_chars_iff set).mpr ⟨c, by rw [ahead, next]; rfl, rfl, member⟩, ?_⟩
      exact ih.mpr ⟨run, next, by omega, by simpa using size, members⟩

theorem spans_run_iff (set : CharClass) :
    (Pattern.rep 0 none (.chars set)).Spans text i j ↔
      ∃ run, text.drop i = run ++ text.drop j ∧ j = i + run.length ∧
        ∀ c ∈ run, set.contains c = true := by
  constructor
  · rintro ⟨n, _, _, steps⟩
    obtain ⟨run, ahead, rfl, rfl, members⟩ := (repeats_chars_iff set n).mp steps
    exact ⟨run, ahead, rfl, members⟩
  · rintro ⟨run, ahead, rfl, members⟩
    refine ⟨run.length, Nat.zero_le _, by simp, ?_⟩
    exact (repeats_chars_iff set _).mpr ⟨run, ahead, rfl, rfl, members⟩

theorem size_ofItems_map_le {β : Type} {pattern : β → Pattern} {cost : Nat}
    (each : ∀ b, (pattern b).size ≤ cost) (items : List β) :
    (ofItems (items.map pattern)).size ≤ stateSize + cost * items.length := by
  induction items with
  | nil => exact Nat.le_refl _
  | cons a items ih =>
    have first := each a
    cases items with
    | nil =>
      simp only [List.map_cons, List.map_nil, ofItems, chain, List.length_singleton]
      omega
    | cons b items =>
      simp only [List.map_cons, ofItems, chain, size, List.length_cons, Nat.mul_add] at ih ⊢
      omega

end Pattern

namespace Ast

theorem depth_ofItems_le {items : List Ast} {limit : Nat} (shallow : ∀ a ∈ items, a.depth ≤ limit) :
    (ofItems items).depth ≤ limit + 1 := by
  induction items with
  | nil => exact Nat.zero_le _
  | cons a rest ih =>
    obtain ⟨first, others⟩ := List.forall_mem_cons.mp shallow
    cases rest with
    | nil => exact Nat.le_succ_of_le first
    | cons b rest =>
      have later := ih others
      cases rest with
      | nil =>
        obtain ⟨second, _⟩ := List.forall_mem_cons.mp others
        cases b <;> simp only [ofItems, chain, depth] at later second ⊢ <;> omega
      | cons c rest =>
        simp only [ofItems, chain, depth] at later ⊢
        omega

theorem denote_ofItems {β : Type} {f : Flags} {ast : β → Ast} {pattern : β → Pattern}
    (meaning : ∀ b, (ast b).denote f = .ok (pattern b, f)) (items : List β) :
    (ofItems (items.map ast)).denote f = .ok (.ofItems (items.map pattern), f) := by
  induction items with
  | nil => rfl
  | cons a items ih =>
    cases items with
    | nil => exact meaning a
    | cons b items =>
      have first := meaning a
      simp only [List.map_cons, ofItems, Pattern.ofItems, chain, denote] at ih ⊢
      rw [first]
      simp only [bind, Except.bind, ih]

end Ast

namespace ReadState

def pushAll (s : ReadState) (items : List Ast) : ReadState :=
  { s with items := items.reverse ++ s.items }

theorem pushAll_append (s : ReadState) (items more : List Ast) :
    s.pushAll (items ++ more) = (s.pushAll items).pushAll more := by
  simp [pushAll]

theorem read_plain {s : ReadState} (plain : s.verbose = false) (c : Char) (input : List Char) :
    s.read (c :: input) =
      match (s.step c).outcome input with
      | .error e => .error e
      | .ok (next, rest) => next.read rest :=
  read_cons (by simp [afterBlanks, plain])

end ReadState

/-- A text is read as some items wherever it stands, unless it is the question mark behind it that
makes its last repetition lazy. -/
structure ReadsAs (text : List Char) (items : List Ast) : Prop where
  head : text.head? ≠ some '?'
  read : ∀ (s : ReadState) (rest : List Char), s.verbose = false → rest.head? ≠ some '?' →
    s.read (text ++ rest) = (s.pushAll items).read rest

namespace ReadsAs

theorem nil : ReadsAs [] [] := ⟨by simp, fun _ _ _ _ => rfl⟩

theorem append {text text' : List Char} {items items' : List Ast} (first : ReadsAs text items)
    (second : ReadsAs text' items') : ReadsAs (text ++ text') (items ++ items') where
  head := by
    cases text with
    | nil => exact second.head
    | cons c text => exact first.head
  read s rest plain lazy := by
    have lazy' : (text' ++ rest).head? ≠ some '?' := by
      cases text' with
      | nil => exact lazy
      | cons c text' => exact second.head
    rw [List.append_assoc, first.read s _ plain lazy', second.read (s.pushAll items) rest plain lazy,
      ReadState.pushAll_append]

theorem flatMap {β : Type} {text : β → List Char} {ast : β → Ast}
    (each : ∀ b, ReadsAs (text b) [ast b]) (items : List β) :
    ReadsAs (items.flatMap text) (items.map ast) := by
  induction items with
  | nil => exact .nil
  | cons b items ih => exact (each b).append ih

theorem meta_escapable {c : Char} (special : isMeta c = true) :
    c.isDigit = false ∧ isEscapable c = true := by
  have each : ∀ c ∈ ['\\', '.', '+', '*', '?', '(', ')', '|', '[', ']', '\x7b', '\x7d', '^', '$', '#',
      '&', '-', '~'], c.isDigit = false ∧ isEscapable c = true := by decide
  exact each c (by simpa [isMeta] using special)

theorem step_of_not_meta (s : ReadState) {c : Char} (plain : isMeta c = false) :
    s.step c = pure (s.push (.literal ⟨c, false⟩)) := by
  unfold ReadState.step
  split
  case h_13 => rfl
  all_goals simp [isMeta] at plain

theorem escapeChar (c : Char) : ReadsAs (escapeChar c) [.literal ⟨c, false⟩] := by
  by_cases special : isMeta c = true
  · obtain ⟨digit, escapable⟩ := meta_escapable special
    rw [Regex.escapeChar, if_pos special]
    refine ⟨by simp, fun s rest plain _ => ?_⟩
    have taken := outcome_escape_of_escapable s.verbose digit escapable rest
    rw [List.cons_append, ReadState.read_plain plain]
    simp [ReadState.step, taken, ReadState.push, ReadState.pushAll]
  · have plain := Bool.eq_false_iff.mpr special
    rw [Regex.escapeChar, if_neg special]
    refine ⟨fun mark => ?_, fun s rest compact _ => ?_⟩
    · obtain rfl : c = '?' := by simpa using mark
      simp [isMeta] at plain
    · rw [List.cons_append, ReadState.read_plain compact, step_of_not_meta s plain]
      rfl

theorem dot : ReadsAs ['.'] [.dot] where
  head := by decide
  read s rest plain _ := by
    rw [List.cons_append, ReadState.read_plain plain]
    rfl

theorem anyRun : ReadsAs ['.', '*'] [.repetition 0 none .dot] where
  head := by decide
  read s rest plain lazy := by
    have bare : ['?'].isPrefixOf rest = false := by
      cases rest with
      | nil => rfl
      | cons c rest => simpa [List.isPrefixOf] using fun same => lazy (by rw [← same]; rfl)
    rw [List.cons_append, ReadState.read_plain plain]
    simp only [ReadState.step, Reader.outcome_pure, List.cons_append, List.nil_append]
    rw [ReadState.read_plain (by exact plain)]
    simp [ReadState.step, ReadState.repeatLast, ReadState.popItem, ReadState.push, liftExcept,
      Reader.outcome_skipText, bare, ReadState.pushAll]

end ReadsAs

end PathQuery.Regex
