import PathQuery.Proofs.Regex.Classes

set_option autoImplicit false

namespace PathQuery.Regex

open PathQuery.Text PathQuery.Unicode

theorem Steady.groupName (taken : List String) : Steady (groupName taken) := by
  refine (Steady.takeWhile _).bind fun name => .ite _ (.fail _) (Steady.next?.bind fun c => ?_)
  split
  · exact .fail _
  · exact .ite _ (.fail _) (.ite _ (.fail _) (.pure _))
  · exact .fail _

theorem outcome_flagItems_cons (items : List FlagItem) (c : Char) (input : List Char) :
    Reader.outcome (flagItems items) (c :: input) =
      if c = ':' ∨ c = ')' then
        if items.getLast? = some .negation then .error .flagDanglingNegation
        else .ok ((items, c), input)
      else match addFlag items c with
        | .error e => .error e
        | .ok items => Reader.outcome (flagItems items) input := by
  unfold Reader.outcome
  rw [flagItems]
  by_cases sign : c = ':' ∨ c = ')'
  · by_cases dangling : items.getLast? = some .negation <;> simp [sign, dangling, Taken.item]
  · simp only [sign, if_false]
    cases addFlag items c with
    | error e => rfl
    | ok items =>
      dsimp only
      cases flagItems items input <;> rfl

theorem flagItems_closing (items : List FlagItem) :
    Swallows (Reader.outcome (flagItems items) closing) := by
  intro value rest read
  rw [closing, outcome_flagItems_cons] at read
  by_cases dangling : items.getLast? = some .negation
  · simp [dangling] at read
  · obtain ⟨_, rfl⟩ : (items, ')') = value ∧ ['$'] = rest := by simpa [dangling] using read
    simp

theorem Steady.flagItems (items : List FlagItem) :
    Steady (flagItems items : PatternReader (List FlagItem × Char)) := by
  refine ⟨fun input => ?_, fun input => ?_⟩
  · induction input generalizing items with
    | nil =>
      intro value rest read
      simp [Reader.outcome, Regex.flagItems] at read
    | cons c cs ih =>
      intro value rest read
      rw [outcome_flagItems_cons] at read
      by_cases sign : c = ':' ∨ c = ')'
      · by_cases dangling : items.getLast? = some .negation
        · simp [sign, dangling] at read
        · obtain ⟨_, rfl⟩ : (items, c) = value ∧ cs = rest := by
            simpa [sign, dangling] using read
          exact List.suffix_cons c cs
      · simp only [sign, if_false] at read
        cases added : addFlag items c with
        | error e => simp [added] at read
        | ok more => exact (ih more value rest (by simpa [added] using read)).trans (List.suffix_cons c cs)
  · induction input generalizing items with
    | nil => exact .swallows (flagItems_closing items)
    | cons c cs ih =>
      have before := outcome_flagItems_cons items c cs
      have behind := outcome_flagItems_cons items c (cs ++ closing)
      by_cases sign : c = ':' ∨ c = ')'
      · by_cases dangling : items.getLast? = some .negation
        · simp only [sign, dangling, if_true] at behind
          exact .swallows (.of_error _ behind)
        · simp only [sign, dangling, if_true, if_false] at before behind
          exact .same before behind
      · simp only [sign, if_false] at before behind
        cases added : addFlag items c with
        | error e =>
          rw [added] at behind
          exact .swallows (.of_error e behind)
        | ok more =>
          rw [added] at before behind
          exact (ih more).congr before behind

theorem Steady.flagOpening : Steady flagOpening :=
  (Steady.flagItems []).bind fun _ => .ite _ (.pure _) (.ite _ (.fail _) (.pure _))

theorem flagOpening_closing : Swallows (flagOpening.outcome closing) := by
  refine (flagItems_closing []).bind fun _ => Loose.trims (Steady.toLoose ?_)
  exact .ite _ (.pure _) (.ite _ (.fail _) (.pure _))

theorem Steady.groupOpening (verbose : Bool) (taken : List String) :
    Steady (groupOpening verbose taken) := by
  refine (Steady.blanks verbose).bind fun _ => ?_
  refine (Steady.skipAnyOf _ (by decide)).bind fun look => .ite _ (.fail _) ?_
  refine (Steady.skipAnyOf _ (by decide)).bind fun named => .ite _ ?_ ?_
  · exact (Steady.groupName taken).bind fun _ => .pure _
  · refine (Steady.skipText ['?'] (by decide)).bind fun flagged => .ite _ ?_ (.pure _)
    exact .bind_of_loose (.needMore _) (fun _ => .flagOpening) fun _ => flagOpening_closing

theorem Steady.decimal (verbose : Bool) : Steady (decimal verbose) := by
  refine (Steady.takeWhile _).bind fun _ => (Steady.spaced verbose _).bind fun digits => ?_
  exact (Steady.takeWhile _).bind fun _ => .pure _

theorem outcome_decimal_closing (verbose : Bool) :
    (decimal verbose).outcome closing = .ok (.error .repetitionCountDecimalEmpty, closing) := by
  have blank : isBlank ')' = false := by decide
  have digit : ')'.isDigit = false := by decide
  simp [decimal, closing, blank, spacedPart, digit]

theorem outcome_needMore_closing (e : Error) : (needMore e).outcome closing = .ok ((), closing) :=
  rfl

theorem outcome_countsEnd_closing (verbose : Bool) (counts : Nat × Option Nat) :
    (countsEnd verbose counts).outcome closing = .error .repetitionCountUnclosed := by
  simp [countsEnd, closing, Reader.outcome_skipText]

theorem Steady.countsEnd (verbose : Bool) (counts : Nat × Option Nat) :
    Steady (countsEnd verbose counts) := by
  refine (Steady.skipText ['}'] (by decide)).bind fun closes => .ite _ ?_ (.fail _)
  refine (Steady.blanks verbose).bind fun _ => (Steady.skipText ['?'] (by decide)).bind fun _ => ?_
  exact .ite _ (.pure _) (.fail _)

theorem moreCounts_closing (verbose : Bool) (first : Except Error Nat) :
    Swallows ((moreCounts verbose first).outcome closing) := by
  have comma : (Reader.skipText [','] : PatternReader Bool).outcome closing = .ok (false, closing) := by
    rfl
  cases first with
  | error e => exact .of_error e (by simp [moreCounts, comma, liftExcept])
  | ok n =>
    refine .of_error .repetitionCountUnclosed ?_
    simp [moreCounts, comma, liftExcept, outcome_countsEnd_closing]

theorem Steady.moreCounts (verbose : Bool) (first : Except Error Nat) :
    Steady (moreCounts verbose first) := by
  have second : ∀ min, Steady (Regex.decimal verbose >>= fun max => Regex.liftExcept max >>= fun max =>
      Regex.countsEnd verbose (min, some max)) := fun min =>
    (Steady.decimal verbose).bind fun max => (Steady.liftExcept max).bind fun max =>
      .countsEnd verbose (min, some max)
  refine (Steady.skipText [','] (by decide)).bind fun comma => .ite _ ?_ ?_
  · refine (Steady.blanks verbose).bind fun _ => ?_
    refine .bind_of_loose (.needMore _) (fun _ => ?_) fun _ => ?_
    · refine (Steady.liftExcept first).bind fun min => .peek_bind (by simp) fun c => ?_
      exact .ite _ (.countsEnd verbose _) (second min)
    · cases first with
      | error e => exact .of_error e (by simp [Regex.liftExcept])
      | ok min =>
        refine .of_error .repetitionCountDecimalEmpty ?_
        have head : closing.head? ≠ some '}' := by decide
        simp [head, Regex.liftExcept, outcome_decimal_closing]
  · exact (Steady.liftExcept first).bind fun n => .countsEnd verbose _

theorem repetitionCounts_closing {verbose : Bool} {input : List Char}
    (left : afterBlanks verbose input = closing) :
    Swallows ((repetitionCounts verbose).outcome input) := by
  have counts := moreCounts_closing verbose (.error .repetitionCountDecimalEmpty)
  simpa [repetitionCounts, left, outcome_decimal_closing, outcome_needMore_closing] using counts

theorem Steady.repetitionCounts (verbose : Bool) : Steady (repetitionCounts verbose) := by
  refine (Steady.blanks verbose).bind fun _ => ?_
  refine .bind_of_loose (.needMore _) (fun _ => ?_) fun _ => ?_
  · refine (Steady.decimal verbose).bind fun first => ?_
    exact .bind_of_loose (.needMore _) (fun _ => .moreCounts verbose first) fun _ =>
      moreCounts_closing verbose first
  · have counts := moreCounts_closing verbose (.error .repetitionCountDecimalEmpty)
    simpa [outcome_decimal_closing, outcome_needMore_closing] using counts

end PathQuery.Regex
