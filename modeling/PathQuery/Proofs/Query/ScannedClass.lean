import PathQuery.Proofs.Query.ScannedRange

set_option autoImplicit false

namespace PathQuery

open PathQuery.Text PathQuery.Regex PathQuery.Unicode PathQuery.Dialect

variable {verbose inClass : Bool} {c : Char} {cs input rest stop : List Char}

theorem outcome_classFront_closing (cs : List Char) :
    (classFront verbose).outcome (']' :: cs) =
      if afterBlanks verbose cs = [] then .error .classUnclosed
      else .ok ([.literal ⟨']', false⟩], afterBlanks verbose cs) := by
  have dashes : (spaced verbose (· == '-')).outcome (']' :: cs) = .ok ([], ']' :: cs) :=
    outcome_spaced_of_neg rfl cs
  rw [classFront, Reader.outcome_bind_ok dashes]
  cases left : afterBlanks verbose cs <;> simp [needMore, Reader.outcome_skipText, left]

theorem outcome_classFront (bare : input.head? ≠ some ']') :
    (classFront verbose).outcome input =
      match (spaced verbose (· == '-')).outcome input with
      | .error e => .error e
      | .ok (_, []) => .error .classUnclosed
      | .ok (dashes, rest) => .ok (dashes.map fun c => .literal ⟨c, false⟩, rest) := by
  obtain ⟨dashes, rest, taken⟩ : ∃ dashes rest,
      (spaced verbose (· == '-')).outcome input = .ok (dashes, rest) := ⟨_, _, outcome_spaced _ _ _⟩
  rw [classFront, Reader.outcome_bind_ok taken, taken]
  cases rest with
  | nil => simp [needMore]
  | cons d ds =>
    cases dashes with
    | nil =>
      have other : d ≠ ']' := by
        rintro rfl
        exact bare (by rw [← eq_of_outcome_spaced_nil taken]; rfl)
      simp [needMore, Reader.outcome_skipText, other.symm]
    | cons c cs => simp [needMore]

theorem outcome_classFront_nil : (classFront verbose).outcome [] = .error .classUnclosed := by
  rw [outcome_classFront (by simp)]
  simp [spacedPart]

theorem classFront_translated (inner : ClearClass verbose stop input) {items : List ClassSet}
    (read : (classFront verbose).outcome input = .ok (items, rest)) :
    ∃ inClass, (classFront verbose).outcome (translatedRest true input) =
      .ok (items, translatedRest inClass rest) ∧ Free verbose inClass stop rest := by
  by_cases closes : input.head? = some ']'
  · obtain ⟨cs, rfl⟩ := List.head?_eq_some_iff.mp closes
    rw [outcome_classFront_closing] at read
    by_cases more : afterBlanks verbose cs = []
    · simp [more] at read
    · obtain ⟨rfl, rfl⟩ :
          [ClassSet.literal ⟨']', false⟩] = items ∧ afterBlanks verbose cs = rest := by
        simpa [more] using read
      refine ⟨false, ?_, (inner.free false).of_suffix (afterBlanks_suffix verbose cs)⟩
      rw [translatedRest_close, outcome_classFront_closing,
        afterBlanks_translatedRest _ inner.tail.clear]
      simp [translatedRest_ne_nil]
  · have bare : (translatedRest true input).head? ≠ some ']' :=
      mt (head?_translatedRest (by decide)).mp closes
    have copied : Copies verbose true (spaced verbose (· == '-')) input :=
      .spaced (by decide) (by decide)
    rw [outcome_classFront closes] at read
    rw [outcome_classFront bare]
    cases taken : (spaced verbose (· == '-')).outcome input with
    | error e => simp [taken] at read
    | ok found =>
      obtain ⟨dashes, left⟩ := found
      cases left with
      | nil => simp [taken] at read
      | cons d ds =>
        obtain ⟨rfl, rfl⟩ : _ = items ∧ d :: ds = rest := by simpa [taken] using read
        obtain ⟨d', ds', front, _⟩ := translatedRest_cons true d ds
        refine ⟨true, ?_, .inside⟩
        rw [(copied inner.clear _ _ taken).1, front]

theorem outcome_classOpening_negated (left : afterBlanks verbose input = '^' :: cs) :
    (classOpening verbose).outcome input =
      (classFront verbose >>= fun items => pure (true, items)).outcome
        (afterBlanks verbose cs) := by
  cases behind : afterBlanks verbose cs with
  | nil =>
    simp [classOpening, needMore, Reader.outcome_skipText, left, behind, outcome_classFront_nil]
  | cons d ds => simp [classOpening, needMore, Reader.outcome_skipText, left, behind]

theorem outcome_classOpening (bare : (afterBlanks verbose input).head? ≠ some '^') :
    (classOpening verbose).outcome input =
      (classFront verbose >>= fun items => pure (false, items)).outcome
        (afterBlanks verbose input) := by
  cases left : afterBlanks verbose input with
  | nil => simp [classOpening, needMore, left, outcome_classFront_nil]
  | cons c cs =>
    have other : ¬['^'] <+: c :: cs := by simpa [left, eq_comm] using bare
    simp [classOpening, needMore, Reader.outcome_skipText, left, other]

theorem classFront_bind_translated (negated : Bool) (inner : ClearClass verbose stop input)
    {front : Bool × List ClassSet}
    (read : (classFront verbose >>= fun items => pure (negated, items)).outcome input =
      .ok (front, rest)) :
    ∃ inClass, (classFront verbose >>= fun items => pure (negated, items)).outcome
        (translatedRest true input) = .ok (front, translatedRest inClass rest) ∧
      Free verbose inClass stop rest := by
  obtain ⟨items, left, taken, given⟩ := Reader.of_outcome_bind read
  obtain ⟨rfl, rfl⟩ : (negated, items) = front ∧ left = rest := by simpa using given
  obtain ⟨inClass, taken', free⟩ := classFront_translated inner taken
  exact ⟨inClass, by rw [Reader.outcome_bind_ok taken', Reader.outcome_pure], free⟩

theorem classOpening_translated (inner : ClearClass verbose stop input)
    {front : Bool × List ClassSet}
    (read : (classOpening verbose).outcome input = .ok (front, rest)) :
    ∃ inClass, (classOpening verbose).outcome (translatedRest true input) =
      .ok (front, translatedRest inClass rest) ∧ Free verbose inClass stop rest := by
  have behind := afterBlanks_translatedRest true inner.clear
  by_cases circumflex : (afterBlanks verbose input).head? = some '^'
  · obtain ⟨cs, left⟩ := List.head?_eq_some_iff.mp circumflex
    have inner' : ClearClass verbose stop cs := inner.of_suffix (suffix_of_afterBlanks left)
    rw [left, translatedRest_plain (by decide)] at behind
    rw [outcome_classOpening_negated left] at read
    rw [outcome_classOpening_negated behind, afterBlanks_translatedRest _ inner'.clear]
    exact classFront_bind_translated true inner'.behindBlanks read
  · rw [outcome_classOpening circumflex] at read
    rw [outcome_classOpening, behind]
    · exact classFront_bind_translated false inner.behindBlanks read
    · rw [behind]
      exact mt (head?_translatedRest (by decide)).mp circumflex

theorem classFront_bind_closing {negated : Bool} {front : Bool × List ClassSet}
    (read : (classFront verbose >>= fun items => pure (negated, items)).outcome (']' :: cs) =
      .ok (front, rest)) :
    front = (negated, [.literal ⟨']', false⟩]) ∧ rest = afterBlanks verbose cs := by
  obtain ⟨items, left, taken, given⟩ := Reader.of_outcome_bind read
  obtain ⟨rfl, rfl⟩ : (negated, items) = front ∧ left = rest := by simpa using given
  rw [outcome_classFront_closing] at taken
  by_cases more : afterBlanks verbose cs = []
  · simp [more] at taken
  · simpa [more, eq_comm] using taken

theorem classOpening_translatedFront (clear : Clear verbose ('[' :: input))
    (neverReopens : NeverReopens verbose stop input) {front : Bool × List ClassSet}
    (read : (classOpening verbose).outcome input = .ok (front, rest)) :
    (∃ inClass, (classOpening verbose).outcome (translatedFront input) =
      .ok (front, translatedRest inClass rest) ∧ Free verbose inClass stop rest) ∨
    ∃ cs, front.2 = [.literal ⟨']', false⟩] ∧ rest = afterBlanks verbose cs ∧ Clear verbose cs ∧
      beginsRange verbose cs = false ∧
      (classOpening verbose).outcome (translatedFront input) =
        .ok ((front.1, []), '\\' :: ']' :: translatedRest true cs) := by
  -- A closing bracket in front gets a backslash, which makes it an item like any other: no dash
  -- may make a range of it.
  have escaped : ∀ cs, (classFront verbose).outcome ('\\' :: cs) = .ok ([], '\\' :: cs) := by
    intro cs
    rw [outcome_classFront (by simp), outcome_spaced_of_neg rfl]
    rfl
  have circumflex : ∀ cs, afterBlanks verbose ('^' :: cs) = '^' :: cs :=
    afterBlanks_cons_of_ne (by decide) (by decide)
  have closes : ∀ cs, afterBlanks verbose (']' :: cs) = ']' :: cs :=
    afterBlanks_cons_of_ne (by decide) (by decide)
  have backslash : ∀ cs, afterBlanks verbose ('\\' :: cs) = '\\' :: cs :=
    afterBlanks_cons_of_ne (by decide) (by decide)
  have unmistakable := clear.front
  unfold translatedFront
  split
  case h_1 cs =>
    right
    rw [outcome_classOpening_negated (circumflex _), closes] at read
    obtain ⟨rfl, rfl⟩ := classFront_bind_closing read
    refine ⟨cs, rfl, rfl, clear.tail.tail.tail, unmistakable, ?_⟩
    rw [outcome_classOpening_negated (circumflex _), backslash, Reader.outcome_bind_ok (escaped _),
      Reader.outcome_pure]
  case h_2 cs =>
    right
    rw [outcome_classOpening (by simp [closes]), closes] at read
    obtain ⟨rfl, rfl⟩ := classFront_bind_closing read
    refine ⟨cs, rfl, rfl, clear.tail.tail, unmistakable, ?_⟩
    rw [outcome_classOpening (by simp [backslash]), backslash, Reader.outcome_bind_ok (escaped _),
      Reader.outcome_pure]
  case h_3 => exact .inl (classOpening_translated ⟨clear.tail, neverReopens⟩ read)

theorem asciiClass_none_translatedFront (nothing : asciiClass.outcome input = .ok (none, input)) :
    asciiClass.outcome (translatedFront input) = .ok (none, translatedFront input) := by
  have other : ∀ {c cs}, c ≠ ':' → asciiClass.outcome (c :: cs) = .ok (none, c :: cs) := by
    intro c cs colon
    simp [asciiClass, Reader.outcome_optional, Reader.outcome_skipText, Ne.symm colon]
  unfold translatedFront
  split
  · exact other (by decide)
  · exact other (by decide)
  · exact asciiClass_none_translated nothing

theorem outcome_classStep_close (s : ClassState) :
    (s.step verbose ']').outcome cs = .ok (s.close, cs) := by
  simp [ClassState.step]

def openedClass (around : List ClassSet) (outer : List OpenClass) (front : Bool × List ClassSet) :
    ClassState :=
  ⟨⟨around, front.1, none⟩, outer, front.2.reverse⟩

theorem outcome_classStep_open (s : ClassState) :
    (s.step verbose '[').outcome cs =
      match asciiClass.outcome cs with
      | .error e => .error e
      | .ok (some item, rest) => .ok (.more (s.push item), rest)
      | .ok (none, rest) =>
          match (classOpening verbose).outcome rest with
          | .error e => .error e
          | .ok (front, rest) =>
              .ok (.more (openedClass s.items (s.current :: s.outer) front), rest) := by
  simp only [ClassState.step, if_true, Reader.outcome_bind]
  cases asciiClass.outcome cs with
  | error e => rfl
  | ok found =>
    obtain ⟨item, rest⟩ := found
    cases item with
    | some item => rfl
    | none =>
      simp only [Reader.outcome_bind]
      cases (classOpening verbose).outcome rest <;> rfl

theorem outcome_classStep_item (s : ClassState) (opens : c ≠ '[') (closes : c ≠ ']') :
    (s.step verbose c).outcome cs =
      match cs.head?.bind (setOp? c) with
      | some op => .ok (.more (s.operator op), cs.drop 1)
      | none => (classRange verbose c >>= fun item => pure (.more (s.push item))).outcome cs := by
  simp only [ClassState.step, opens, closes, if_false, Reader.outcome_bind, Reader.outcome_peek]
  cases cs.head?.bind (setOp? c) with
  | some op => simp
  | none => simp

theorem classRead_escaped_closing (s : ClassState) (clear : Clear verbose cs)
    (front : beginsRange verbose cs = false) :
    Reader.outcome (s.read verbose) ('\\' :: ']' :: translatedRest true cs) =
      Reader.outcome ((s.push (.literal ⟨']', false⟩)).read verbose)
        (translatedRest true (afterBlanks verbose cs)) := by
  have left := afterBlanks_translatedRest true clear
  have item : ∀ ds, afterBlanks verbose (translatedRest true cs) = '-' :: ds →
      afterDash? verbose ds = some ']' ∨ afterDash? verbose ds = some '-' := by
    intro ds same
    rw [left] at same
    obtain ⟨ds, behind, rfl⟩ := eq_cons_of_translatedRest (by decide) (by decide) same
    rw [afterDash?_translatedRest (by decide), afterDash?_translatedRest (by decide)]
    simpa [beginsRange, behind, Decidable.or_iff_not_imp_left] using front
  have range : (classRange verbose '\\').outcome (']' :: translatedRest true cs) =
      .ok (.literal ⟨']', false⟩, translatedRest true (afterBlanks verbose cs)) := by
    have primitive : (classPrimitive verbose '\\').outcome (']' :: translatedRest true cs) =
        .ok (.literal ⟨']', false⟩, translatedRest true cs) :=
      outcome_escape_of_escapable verbose rfl rfl _
    rw [classRange, Reader.outcome_bind_ok primitive, outcome_rangeFrom_item _ item, left]
    · rfl
    · rw [left]
      exact translatedRest_ne_nil _
  have step : (s.step verbose '\\').outcome (']' :: translatedRest true cs) =
      .ok (.more (s.push (.literal ⟨']', false⟩)),
        translatedRest true (afterBlanks verbose cs)) := by
    rw [outcome_classStep_item s (by decide) (by decide)]
    exact Reader.outcome_bind_ok range
  rw [outcome_classRead_cons (afterBlanks_cons_of_ne (by decide) (by decide) _), step]

theorem setOp?_eq_some {d : Char} {op : SetOp} (seen : setOp? c d = some op) :
    d = c ∧ IsPlain c ∧ c ≠ ')' := by
  unfold setOp? at seen
  split at seen
  case isTrue signs => exact ⟨by rw [signs.1, signs.2], by rw [signs.1]; decide⟩
  split at seen
  case isTrue signs => exact ⟨by rw [signs.1, signs.2], by rw [signs.1]; decide⟩
  split at seen
  case isTrue signs => exact ⟨by rw [signs.1, signs.2], by rw [signs.1]; decide⟩
  simp at seen

theorem operator_translated {op : SetOp} (seen : cs.head?.bind (setOp? c) = some op) :
    ∃ ds, cs = c :: ds ∧ IsPlain c ∧ c ≠ ')' := by
  cases cs with
  | nil => simp at seen
  | cons d ds =>
    obtain ⟨rfl, plain, parenthesis⟩ := setOp?_eq_some (by simpa using seen)
    exact ⟨ds, rfl, plain, parenthesis⟩

theorem classStep_translated (s : ClassState) (opens : c ≠ '[') (closes : c ≠ ']')
    (inner : ClearClass verbose stop (c :: cs)) (free : Free verbose inClass stop cs)
    {next : ClassStep} (read : (s.step verbose c).outcome cs = .ok (next, rest))
    (ahead : stop.length ≤ rest.length) :
    ∃ c' cs' inClass', translatedRest inClass (c :: cs) = c' :: cs' ∧
      (s.step verbose c').outcome cs' = .ok (next, translatedRest inClass' rest) ∧
      Free verbose inClass' stop rest := by
  rw [outcome_classStep_item s opens closes] at read
  cases seen : cs.head?.bind (setOp? c) with
  | some op =>
    rw [seen] at read
    obtain ⟨ds, rfl, plain, _⟩ := operator_translated seen
    obtain ⟨rfl, rfl⟩ : .more (s.operator op) = next ∧ ds = rest := by simpa using read
    refine ⟨c, c :: translatedRest inClass ds, inClass, ?_, ?_,
      free.of_suffix (List.suffix_cons _ _)⟩
    · rw [translatedRest_plain plain, translatedRest_plain plain]
    · rw [outcome_classStep_item s opens closes]
      have seen' : (c :: translatedRest inClass ds).head?.bind (setOp? c) = some op := seen
      rw [seen']
      rfl
  | none =>
    simp only [seen] at read
    obtain ⟨item, left, taken, given⟩ := Reader.of_outcome_bind read
    obtain ⟨rfl, rfl⟩ : .more (s.push item) = next ∧ left = rest := by simpa using given
    obtain ⟨c', cs', inClass', behind, front, taken', free'⟩ :=
      classRange_translated opens inner free taken ahead
    have opens' : c' ≠ '[' := by
      rcases front with rfl | ⟨_, rfl⟩
      · exact opens
      · decide
    have closes' : c' ≠ ']' := by
      rcases front with rfl | ⟨_, rfl⟩
      · exact closes
      · decide
    have seen' : cs'.head?.bind (setOp? c') = none := by
      cases there : cs'.head?.bind (setOp? c') with
      | none => rfl
      | some op =>
        obtain ⟨ds', rfl, plain, parenthesis⟩ := operator_translated there
        obtain ⟨_, same, behind'⟩ := eq_cons_of_translatedRest plain parenthesis behind
        obtain ⟨rfl, rfl⟩ := List.cons.inj same
        obtain ⟨ds, rfl, _⟩ := eq_cons_of_translatedRest plain parenthesis behind'.symm
        simp only [List.head?_cons, Option.bind_some] at there seen
        simp [there] at seen
    refine ⟨c', cs', inClass', behind, ?_, free'⟩
    rw [outcome_classStep_item s opens' closes', seen']
    exact Reader.outcome_bind_ok taken'

theorem classStep_ascii_translated (s : ClassState) {negated : Bool} {name : List Char}
    {set : AsciiClass} (named : AsciiClass.ofName? (String.ofList name) = some set) :
    ∃ cs', translatedRest inClass ('[' :: asciiText negated name rest) = '[' :: cs' ∧
      (s.step verbose '[').outcome cs' =
        .ok (.more (s.push (.ascii negated set)), translatedRest false rest) := by
  have step : (s.step verbose '[').outcome (translatedRest true (asciiText negated name rest)) =
      .ok (.more (s.push (.ascii negated set)), translatedRest false rest) := by
    rw [translatedRest_asciiText named, outcome_classStep_open, outcome_asciiClass_text named]
  cases inClass with
  | true => exact ⟨_, translatedRest_open_inside, step⟩
  | false =>
    refine ⟨_, translatedRest_open, ?_⟩
    rw [translatedFront_eq (by simp [asciiText, asciiFront]) (by simp [asciiText, asciiFront])]
    exact step

theorem classRead_translatedFront (clear : Clear verbose ('[' :: input))
    (neverReopens : NeverReopens verbose stop input) {front : Bool × List ClassSet}
    {left : List Char}
    (opened : (classOpening verbose).outcome input = .ok (front, left))
    (around : List ClassSet) (outer : List OpenClass) :
    ∃ front' left' inClass, (classOpening verbose).outcome (translatedFront input) =
        .ok (front', left') ∧
      Reader.outcome ((openedClass around outer front').read verbose) left' =
        Reader.outcome ((openedClass around outer front).read verbose)
          (translatedRest inClass left) ∧
      Free verbose inClass stop left := by
  obtain ⟨negated, items⟩ := front
  rcases classOpening_translatedFront clear neverReopens opened with
    ⟨inClass, opened', free⟩ | ⟨cs, rfl, rfl, clear', range, opened'⟩
  · exact ⟨_, _, inClass, opened', rfl, free⟩
  · exact ⟨_, _, true, opened', classRead_escaped_closing _ clear' range, .inside⟩

theorem classRead_open_translated (s : ClassState) (inner : ClearClass verbose stop ('[' :: cs))
    (nothing : asciiClass.outcome cs = .ok (none, cs)) {front : Bool × List ClassSet}
    {left : List Char} (opened : (classOpening verbose).outcome cs = .ok (front, left)) :
    ∃ inClass', Reader.outcome (s.read verbose) (translatedRest inClass ('[' :: cs)) =
        Reader.outcome ((openedClass s.items (s.current :: s.outer) front).read verbose)
          (translatedRest inClass' left) ∧
      Free verbose inClass' stop left := by
  have bracket : ∀ cs, afterBlanks verbose ('[' :: cs) = '[' :: cs :=
    afterBlanks_cons_of_ne (by decide) (by decide)
  cases inClass with
  | true =>
    obtain ⟨inClass', opened', free⟩ := classOpening_translated inner.tail opened
    refine ⟨inClass', ?_, free⟩
    rw [translatedRest_open_inside, outcome_classRead_cons (bracket _), outcome_classStep_open,
      asciiClass_none_translated nothing]
    simp only [opened']
  | false =>
    obtain ⟨front', left', inClass', opened', same, free⟩ :=
      classRead_translatedFront inner.clear inner.tail.neverReopens opened s.items
        (s.current :: s.outer)
    refine ⟨inClass', ?_, free⟩
    rw [translatedRest_open, outcome_classRead_cons (bracket _), outcome_classStep_open,
      asciiClass_none_translatedFront nothing, ← same]
    simp only [opened']

theorem outcome_classRead_afterBlanks (s : ClassState) (input : List Char) :
    Reader.outcome (s.read verbose) (afterBlanks verbose input) =
      Reader.outcome (s.read verbose) input := by
  cases left : afterBlanks verbose input with
  | nil => rw [outcome_classRead_nil left, outcome_classRead_nil (left ▸ afterBlanks_idem input)]
  | cons c cs =>
    rw [outcome_classRead_cons left, outcome_classRead_cons (left ▸ afterBlanks_idem input)]

/-- Within a class both go on side by side, whether or not the translation is in one as well. Behind
the class neither is. -/
theorem classRead_translated {inClass : Bool} {input rest : List Char} (s : ClassState)
    (inner : ClearClass verbose rest input) (free : Free verbose inClass rest input)
    {value : Bool × ClassSet} (read : Reader.outcome (s.read verbose) input = .ok (value, rest)) :
    Reader.outcome (s.read verbose) (translatedRest inClass input) =
      .ok (value, translatedRest false rest) := by
  have behind := afterBlanks_translatedRest inClass inner.clear
  have inner := inner.behindBlanks
  have free := free.of_suffix (afterBlanks_suffix verbose input)
  rw [← outcome_classRead_afterBlanks, behind]
  cases front : afterBlanks verbose input with
  | nil => simp [outcome_classRead_nil front] at read
  | cons c cs =>
    rw [outcome_classRead_cons front] at read
    have shorter := length_lt_of_afterBlanks front
    rw [front] at inner free behind
    -- No blanks are in front of the translation either.
    have start : afterBlanks verbose (translatedRest inClass (c :: cs)) =
        translatedRest inClass (c :: cs) := by rw [← behind, afterBlanks_idem]
    by_cases closes : c = ']'
    · subst closes
      rw [outcome_classStep_close] at read
      rw [translatedRest_close] at start ⊢
      rw [outcome_classRead_cons start, outcome_classStep_close]
      cases closed : s.close with
      | done negated set =>
        obtain ⟨rfl, rfl⟩ : (negated, set) = value ∧ cs = rest := by simpa [closed] using read
        rfl
      | more state =>
        simp only [closed] at read
        exact classRead_translated state inner.tail (inner.free false) read
    · by_cases opens : c = '['
      · subst opens
        rw [outcome_classStep_open] at read
        rcases outcome_asciiClass cs with nothing | ⟨negated, name, set, left, named, rfl⟩
        · rw [nothing] at read
          cases opened : (classOpening verbose).outcome cs with
          | error e => simp [opened] at read
          | ok found =>
            obtain ⟨opening, left⟩ := found
            have within := (Loose.classOpening verbose).trims _ _ _ opened
            have shorter' := within.length_le
            simp only [opened] at read
            obtain ⟨inClass', same, free'⟩ := classRead_open_translated s inner nothing opened
            rw [same]
            exact classRead_translated _ (inner.tail.of_suffix within) free' read
        · have within : (']' :: left) <:+ asciiText negated name left := List.suffix_append _ _
          have shorter' := within.length_le
          obtain ⟨cs', opened, step⟩ := classStep_ascii_translated s named
          rw [outcome_asciiClass_text named] at read
          rw [opened] at start ⊢
          rw [outcome_classRead_cons start, step]
          have inner' := inner.tail.of_suffix within
          exact classRead_translated _ inner'.tail (inner'.free false) read
      · cases step : (s.step verbose c).outcome cs with
        | error e => simp [step] at read
        | ok found =>
          obtain ⟨next, left⟩ := found
          obtain ⟨state, rfl⟩ := classStep_more closes _ _ _ step
          have within := (Loose.classStep verbose s c).trims _ _ _ step
          have shorter' := within.length_le
          simp only [step] at read
          obtain ⟨c', cs', inClass', opened, step', free'⟩ := classStep_translated s opens closes
            inner (free.of_suffix (List.suffix_cons _ _)) step
            (classRead_trims verbose state _ _ _ read).length_le
          rw [opened] at start ⊢
          rw [outcome_classRead_cons start, step']
          exact classRead_translated state (inner.tail.of_suffix within) free' read
termination_by input.length
decreasing_by
  all_goals
    subst_vars
    simp only [List.length_cons] at *
    omega

theorem outcome_bracketClass {front : Bool × List ClassSet} {left : List Char}
    (opened : (classOpening verbose).outcome input = .ok (front, left)) :
    (bracketClass verbose).outcome input =
      match Reader.outcome ((openedClass [] [] front).read verbose) left with
      | .error e => .error e
      | .ok ((negated, set), rest) => .ok (.bracket negated set, rest) := by
  rw [bracketClass, Reader.outcome_bind_ok opened]
  cases closed : Reader.outcome ((openedClass [] [] front).read verbose) left with
  | error e => exact Reader.outcome_bind_error closed
  | ok found => exact Reader.outcome_bind_ok closed

theorem bracketClass_translated (clear : Clear verbose ('[' :: cs)) {a : Ast}
    (read : (bracketClass verbose).outcome cs = .ok (a, rest)) :
    (bracketClass verbose).outcome (translatedFront cs) = .ok (a, translatedRest false rest) := by
  have neverReopens := clear.neverReopens read
  obtain ⟨front, left, opened, _⟩ := Reader.of_outcome_bind read
  have within := (Loose.classOpening verbose).trims _ _ _ opened
  rw [outcome_bracketClass opened] at read
  cases closed : Reader.outcome ((openedClass [] [] front).read verbose) left with
  | error e => simp [closed] at read
  | ok found =>
    obtain ⟨⟨negated, set⟩, behind⟩ := found
    obtain ⟨rfl, rfl⟩ : .bracket negated set = a ∧ behind = rest := by simpa [closed] using read
    obtain ⟨front', left', inClass, opened', same, free⟩ :=
      classRead_translatedFront clear neverReopens opened [] []
    have inner : ClearClass verbose behind cs := ⟨clear.tail, neverReopens⟩
    rw [outcome_bracketClass opened', same,
      classRead_translated _ (inner.of_suffix within) free closed]

end PathQuery
