import PathQuery.Proofs.Query.Scanning

set_option autoImplicit false

namespace PathQuery

open PathQuery.Text PathQuery.Regex PathQuery.Dialect

/-- What the reader takes from a clear text it also takes from the translation. -/
def Copies {α : Type} (verbose inClass : Bool) (r : PatternReader α) (input : List Char) : Prop :=
  Clear verbose input → ∀ a rest, r.outcome input = .ok (a, rest) →
    r.outcome (translatedRest inClass input) = .ok (a, translatedRest inClass rest) ∧
      Clear verbose rest

namespace Copies

variable {α β : Type} {verbose inClass : Bool} {r : PatternReader α} {f : α → PatternReader β}
  {input : List Char}

theorem bind (first : Copies verbose inClass r input)
    (second : ∀ a rest, r.outcome input = .ok (a, rest) → Copies verbose inClass (f a) rest) :
    Copies verbose inClass (r >>= f) input := by
  intro clear b rest read
  obtain ⟨a, left, taken, read'⟩ := Reader.of_outcome_bind read
  obtain ⟨taken', clear'⟩ := first clear _ _ taken
  rw [Reader.outcome_bind_ok taken']
  exact second _ _ taken clear' _ _ read'

theorem pure (a : α) : Copies verbose inClass (Pure.pure a) input := by
  intro clear b rest read
  obtain ⟨rfl, rfl⟩ : a = b ∧ input = rest := by simpa using read
  exact ⟨rfl, clear⟩

theorem of_fails (fails : r.Fails) : Copies verbose inClass r input :=
  fun _ _ _ read => (fails _ _ _ read).elim

theorem fail (e : Error) : Copies verbose inClass (Reader.fail e : PatternReader α) input :=
  of_fails (.fail e)

theorem liftExcept (result : Except Error α) :
    Copies verbose inClass (liftExcept result) input := by
  cases result with
  | error e => exact fail e
  | ok a => exact pure a

theorem ite {r' : PatternReader α} {c : Prop} [Decidable c]
    (yes : c → Copies verbose inClass r input) (no : ¬c → Copies verbose inClass r' input) :
    Copies verbose inClass (if c then r else r') input := by
  by_cases holds : c
  · rw [if_pos holds]
    exact yes holds
  · rw [if_neg holds]
    exact no holds

theorem peek_bind_of_fails {next : Option Char → PatternReader α} (stop : (next none).Fails)
    (dot : next (some '\\') = next (some '.'))
    (ahead : ∀ c cs, input = c :: cs → Copies verbose inClass (next (some c)) input) :
    Copies verbose inClass (Reader.peek >>= next) input := by
  intro clear a rest read
  cases input with
  | nil => exact (stop _ _ _ (by simpa using read)).elim
  | cons c cs =>
    have copied := ahead c cs rfl clear _ _ (by simpa using read)
    obtain ⟨c', cs', behind, rfl | ⟨rfl, rfl⟩⟩ := translatedRest_cons inClass c cs
    · simpa [behind] using copied
    · rw [← dot] at copied
      simpa [behind] using copied

theorem peek_bind {next : Option Char → PatternReader α} (blind : next none = next (some ')'))
    (dot : next (some '\\') = next (some '.'))
    (ahead : ∀ c, Copies verbose inClass (next (some c)) input) :
    Copies verbose inClass (Reader.peek >>= next) input := by
  intro clear a rest read
  cases input with
  | nil =>
    have copied := ahead ')' clear _ _ (by simpa [← blind] using read)
    simpa [closing] using copied
  | cons c cs =>
    have copied := ahead c clear _ _ (by simpa using read)
    obtain ⟨c', cs', behind, rfl | ⟨rfl, rfl⟩⟩ := translatedRest_cons inClass c cs
    · simpa [behind] using copied
    · rw [← dot] at copied
      simpa [behind] using copied

theorem next?_bind {next : Option Char → PatternReader α} (stop : (next none).Fails)
    (special : ∀ c cs, input = c :: cs → ¬IsPlain c → (next (some c)).Fails)
    (ahead : ∀ c cs, input = c :: cs → Copies verbose inClass (next (some c)) cs) :
    Copies verbose inClass (Reader.next? >>= next) input := by
  intro clear a rest read
  cases input with
  | nil => exact (stop _ _ _ (by simpa using read)).elim
  | cons c cs =>
    have read' : (next (some c)).outcome cs = .ok (a, rest) := by simpa using read
    by_cases plain : IsPlain c
    · simpa [translatedRest_plain plain] using ahead c cs rfl clear.tail _ _ read'
    · exact (special c cs rfl plain _ _ _ read').elim

theorem needMore (e : Error) : Copies verbose inClass (needMore e) input :=
  peek_bind_of_fails (.fail e) rfl fun _ _ _ => pure ()

theorem blanks : Copies verbose inClass (blanks verbose) input := by
  intro clear _ rest read
  obtain rfl : afterBlanks verbose input = rest := by simpa using read
  exact ⟨by simp [afterBlanks_translatedRest inClass clear], clear.behindBlanks⟩

theorem skipText {expected : List Char} (plain : ∀ c ∈ expected, IsPlain c ∧ c ≠ ')') :
    Copies verbose inClass (Reader.skipText expected) input := by
  intro clear here rest read
  have same : expected <+: translatedRest inClass input ↔ expected <+: input :=
    prefix_translatedRest plain input
  rw [Reader.outcome_skipText] at read ⊢
  by_cases there : expected <+: input
  · obtain ⟨rest', rfl⟩ := there
    obtain ⟨rfl, rfl⟩ : true = here ∧ rest' = rest := by simpa using read
    refine ⟨?_, clear.of_suffix (List.suffix_append _ _)⟩
    simp [translatedRest_append fun c member _ => translatedRest_plain (plain c member).1]
  · obtain ⟨rfl, rfl⟩ : false = here ∧ input = rest := by simpa [there] using read
    exact ⟨by simp [mt same.mp there], clear⟩

theorem skipAnyOf {texts : List (List Char)}
    (plain : ∀ text ∈ texts, ∀ c ∈ text, IsPlain c ∧ c ≠ ')') :
    Copies verbose inClass (Reader.skipAnyOf texts) input := by
  induction texts generalizing input with
  | nil => exact pure false
  | cons text texts ih =>
    obtain ⟨first, later⟩ := List.forall_mem_cons.mp plain
    exact (skipText first).bind fun here rest _ => ite (fun _ => pure true) fun _ => ih later

theorem skip_one {c : Char} {cs : List Char} (plain : IsPlain c) :
    Copies verbose inClass (Reader.skip 1) (c :: cs) := by
  intro clear _ rest read
  obtain rfl : cs = rest := by simpa using read
  exact ⟨by simp [translatedRest_plain plain], clear.tail⟩

theorem takeWhile {p : Char → Bool} (stop : p ')' = false)
    (special : ∀ c ∈ ['\\', '.', '[', ']'], p c = false) :
    Copies verbose inClass (Reader.takeWhile p) input := by
  intro clear taken rest read
  obtain ⟨rfl, rfl⟩ : input.takeWhile p = taken ∧ input.dropWhile p = rest := by simpa using read
  obtain ⟨taken, left⟩ := @dropWhile_translatedRest inClass input p stop special
  exact ⟨by rw [Reader.outcome_takeWhile, taken, left],
    clear.of_suffix (List.dropWhile_suffix p)⟩

theorem spaced_of_plain {p : Char → Bool}
    (plain : ∀ c ∈ (spacedPart verbose p input).value, IsPlain c)
    (stop : ∀ c, (translatedRest inClass (spacedPart verbose p input).rest).head? = some c →
      p c = false) :
    Copies verbose inClass (spaced verbose p) input := by
  intro clear taken rest read
  obtain ⟨rfl, rfl⟩ : (spacedPart verbose p input).value = taken ∧
      (spacedPart verbose p input).rest = rest := by simpa using read
  clear read
  refine ⟨?_, clear.of_suffix (spacedPart_suffix verbose p input)⟩
  fun_induction spacedPart verbose p input with
  | case1 => exact outcome_spaced_of_neg (stop ')' rfl) ['$']
  | case2 c cs taken _ t ih =>
    obtain ⟨first, later⟩ := List.forall_mem_cons.mp plain
    rw [translatedRest_plain first, outcome_spaced_of_pos taken,
      afterBlanks_translatedRest inClass clear.tail, ih later stop clear.tail.behindBlanks]
  | case3 c cs taken =>
    obtain ⟨c', cs', behind, _⟩ := translatedRest_cons inClass c cs
    have left : p c' = false := stop c' (by simp [behind])
    simp only [behind, outcome_spaced_of_neg left]

theorem spaced {p : Char → Bool} (stop : p ')' = false)
    (special : ∀ c ∈ ['\\', '.', '[', ']'], p c = false) :
    Copies verbose inClass (spaced verbose p) input := by
  obtain ⟨taken, left⟩ := spacedPart_taken verbose p input
  refine spaced_of_plain (fun c member => isPlain_of special (taken c member)) fun c front => ?_
  cases rest : (spacedPart verbose p input).rest with
  | nil =>
    obtain rfl : ')' = c := by simpa [rest, closing] using front
    exact stop
  | cons d ds =>
    obtain ⟨d', ds', behind, rfl | ⟨_, rfl⟩⟩ := translatedRest_cons inClass d ds
    · obtain rfl : d' = c := by simpa [rest, behind] using front
      exact left d' (by simp [rest])
    · obtain rfl : '\\' = c := by simpa [rest, behind] using front
      exact special '\\' (by simp)

theorem takeWhile_name {p : Char → Bool} {sign : Char} {rest : List Char}
    (left : input.dropWhile p = sign :: rest)
    (name : ∀ rest, translatedRest inClass (input.takeWhile p ++ rest) =
      input.takeWhile p ++ translatedRest inClass rest) (plain : IsPlain sign) :
    Copies verbose inClass (Reader.takeWhile p) input := by
  intro clear taken rest' read
  obtain ⟨rfl, rfl⟩ : input.takeWhile p = taken ∧ input.dropWhile p = rest' := by simpa using read
  have copied := translatedRest_name left name plain
  refine ⟨?_, clear.of_suffix (List.dropWhile_suffix p)⟩
  rw [Reader.outcome_takeWhile, copied.1, copied.2, left, translatedRest_plain plain]

end Copies

end PathQuery
