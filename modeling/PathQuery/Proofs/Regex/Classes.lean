import PathQuery.Proofs.Regex.Escapes

set_option autoImplicit false

namespace PathQuery.Regex

open PathQuery.Text PathQuery.Unicode

theorem liftExcept_fails {α : Type} {result : Except Error α} {e : Error}
    (failed : result = .error e) : (liftExcept result).Fails := by
  rw [failed]
  exact .fail e

-- No class has a word boundary in it, so it does not matter how far the name of one goes.
theorem Loose.classPrimitive_bind {α : Type} (verbose : Bool) (c : Char)
    {next : Ast → PatternReader α} (loose : ∀ a, Loose (next a))
    (anchors : ∀ x, (next (.anchor x)).Fails) : Loose (classPrimitive verbose c >>= next) := by
  by_cases backslash : c = '\\'
  · rw [classPrimitive, if_pos backslash, escape]
    refine .congr ?_ fun input => Reader.outcome_bind_assoc next
    refine Steady.next?.toLoose.bind fun c => ?_
    cases c with
    | none => exact .of_fails (Reader.Fails.bind_left (.fail _))
    | some c =>
      by_cases boundary : c = 'b'
      · refine .of_fails (.bind (boundary ▸ escaped_boundary_anchor verbose) ?_)
        rintro _ ⟨x, rfl⟩
        exact anchors x
      · exact (Steady.escaped verbose c boundary).toLoose.bind loose
  · rw [classPrimitive, if_neg backslash]
    exact (Steady.pure _).toLoose.bind loose

theorem dropWhile_isBlank_closing (input : List Char) :
    (input ++ closing).dropWhile isBlank = input.dropWhile isBlank ++ closing := by
  induction input with
  | nil => decide
  | cons c cs ih => by_cases blank : isBlank c <;> simp [blank, ih]

theorem afterDash?_append_closing (verbose : Bool) (input : List Char) :
    afterDash? verbose (input ++ closing) = (afterDash? verbose input).or (some ')') := by
  cases verbose with
  | false => cases input <;> rfl
  | true =>
    simp only [afterDash?, if_true, dropWhile_isBlank_closing]
    cases input.dropWhile isBlank with
    | nil => rfl
    | cons c rest =>
      by_cases comment : c = '#'
      · subst comment
        simp only [List.cons_append, dropWhile_isBlank_closing]
        cases rest.dropWhile isBlank <;> rfl
      · simp [comment]

theorem rangeFrom_fails (verbose : Bool) (x : Anchor) : (rangeFrom verbose (.anchor x)).Fails := by
  refine .bind_right fun _ => .bind_right fun _ => .bind_right fun seen => ?_
  have item : (liftExcept (Ast.anchor x).classItem?).Fails := liftExcept_fails rfl
  split
  · dsimp only
    split
    · exact item
    · refine .bind_right fun _ => .bind_right fun _ => .bind_right fun d => ?_
      cases d with
      | none => exact .fail _
      | some d => exact .bind_right fun _ => .bind_left (liftExcept_fails rfl)
  · exact item

theorem Loose.rangeFrom (verbose : Bool) (first : Ast) : Loose (rangeFrom verbose first) := by
  refine (Steady.blanks verbose).toLoose.bind fun _ => (Loose.needMore _).bind fun _ => ?_
  refine .ahead_bind (fun input => ?_) fun seen => ?_
  · cases input with
    | nil => rfl
    | cons c cs =>
      by_cases dash : c = '-'
      · subst dash
        simp only [List.cons_append, afterDash?_append_closing]
        cases afterDash? verbose cs <;> simp
      · simp [dash]
  · split
    · refine .ite _ (Steady.liftExcept _).toLoose ?_
      refine (Steady.skip 1).toLoose.bind fun _ => (Steady.blanks verbose).toLoose.bind fun _ => ?_
      refine Steady.next?.toLoose.bind fun d => ?_
      cases d with
      | none => exact (Steady.fail _).toLoose
      | some d =>
        refine .classPrimitive_bind verbose d (fun last => ?_) fun x => ?_
        · refine Steady.toLoose ?_
          refine (Steady.liftExcept _).bind fun a => (Steady.liftExcept _).bind fun b => ?_
          exact .ite _ (.pure _) (.fail _)
        · exact .bind_right fun _ => .bind_left (liftExcept_fails rfl)
    · exact (Steady.liftExcept _).toLoose

theorem Loose.classRange (verbose : Bool) (c : Char) : Loose (classRange verbose c) :=
  .classPrimitive_bind verbose c (.rangeFrom verbose) (rangeFrom_fails verbose)

theorem Loose.classFront (verbose : Bool) : Loose (classFront verbose) := by
  refine (Steady.spaced verbose _).toLoose.bind fun dashes => (Loose.needMore _).bind fun _ => ?_
  refine .ite _ ?_ (Steady.pure _).toLoose
  refine (Steady.skipText [']'] (by decide)).toLoose.bind fun closes => ?_
  refine .ite _ ?_ (Steady.pure _).toLoose
  refine (Steady.blanks verbose).toLoose.bind fun _ => (Loose.needMore _).bind fun _ => ?_
  exact (Steady.pure _).toLoose

theorem Loose.classOpening (verbose : Bool) : Loose (classOpening verbose) := by
  have blank := (Steady.blanks verbose).toLoose
  refine blank.bind fun _ => (Loose.needMore _).bind fun _ => ?_
  refine (Steady.skipText ['^'] (by decide)).toLoose.bind fun negated => ?_
  have front := (Loose.classFront verbose).bind fun items => (Steady.pure (negated, items)).toLoose
  exact .ite _ (blank.bind fun _ => (Loose.needMore _).bind fun _ => front) front

theorem Steady.asciiName (negated : Bool) : Steady (asciiName negated) := by
  refine (Steady.takeWhile _).bind fun name => ?_
  exact (Steady.skipText [':', ']'] (by decide)).bind fun closes => .pure _

-- A name that runs to the end of the text runs through the closing, and neither is a name at all.
theorem asciiName_append_closing (negated : Bool) (input : List Char) :
    ∃ item rest, (asciiName negated).outcome input = .ok (item, rest) ∧
      ∃ behind, (asciiName negated).outcome (input ++ closing) = .ok (item, behind) ∧
        (item.isSome → behind = rest ++ closing) := by
  have passes : closing.dropWhile (· != ':') = [] := by decide
  have sign : ')' ∉ [':', ']'] := by decide
  by_cases open_name : input.dropWhile (· != ':') = []
  · have behind : (input ++ closing).dropWhile (· != ':') = [] := by
      simp [List.dropWhile_append, open_name, passes]
    refine ⟨none, [], ?_, [], ?_, by simp⟩
    · simp [asciiName, Reader.outcome_skipText, open_name]
    · simp [asciiName, Reader.outcome_skipText, behind]
  · rcases takeWhile_append_closing (· != ':') input with ⟨name, behind⟩ | gone
    · obtain ⟨closes, rest, alone, closed⟩ :=
        skipText_append_closing sign (input.dropWhile (· != ':'))
      let set := AsciiClass.ofName? (String.ofList (input.takeWhile (· != ':')))
      refine ⟨if closes then set.map (.ascii negated) else none, rest, ?_, rest ++ closing, ?_,
        fun _ => rfl⟩
      · simp only [asciiName, Reader.outcome_bind, Reader.outcome_takeWhile, alone]
        rfl
      · simp only [asciiName, Reader.outcome_bind, Reader.outcome_takeWhile, name, behind, closed]
        rfl
    · simp [List.dropWhile_append, open_name, closing] at gone

theorem asciiClass_settles (input : List Char) : Settles asciiClass input := by
  have colon : ')' ∉ [':'] := by decide
  have circumflex : ')' ∉ ['^'] := by decide
  obtain ⟨named, rest, alone, closed⟩ := skipText_append_closing colon input
  cases named with
  | false =>
    refine @Settles.same _ _ _ none input ?_ ?_
    · simp [asciiClass, Reader.outcome_optional, alone]
    · simp [asciiClass, Reader.outcome_optional, closed]
  | true =>
    obtain ⟨negated, rest', alone', closed'⟩ := skipText_append_closing circumflex rest
    obtain ⟨item, left, before, behind, after, same⟩ := asciiName_append_closing negated rest'
    cases item with
    | none =>
      refine @Settles.same _ _ _ none input ?_ ?_
      · simp [asciiClass, Reader.outcome_optional, alone, alone', before]
      · simp [asciiClass, Reader.outcome_optional, closed, closed', after]
    | some item =>
      refine @Settles.same _ _ _ (some item) left ?_ ?_
      · simp [asciiClass, Reader.outcome_optional, alone, alone', before]
      · simp [asciiClass, Reader.outcome_optional, closed, closed', after, same]

theorem Steady.asciiClass : Steady asciiClass := by
  refine ⟨Reader.Trims.optional ?_, asciiClass_settles⟩
  refine (Steady.skipText [':'] (by decide)).trims.bind fun named => ?_
  cases named with
  | true =>
    exact (Steady.skipText ['^'] (by decide)).trims.bind fun negated =>
      (Steady.asciiName negated).trims
  | false => exact .pure none

theorem Loose.classStep (verbose : Bool) (s : ClassState) (c : Char) :
    Loose (s.step verbose c) := by
  refine .ite _ ?_ (.ite _ (Steady.pure _).toLoose ?_)
  · refine Steady.asciiClass.toLoose.bind fun item => ?_
    cases item with
    | some item => exact (Steady.pure _).toLoose
    | none => exact (Loose.classOpening verbose).bind fun _ => (Steady.pure _).toLoose
  · refine .peek_bind (by simp [setOp?]) fun d => ?_
    split
    · exact (Steady.skip 1).toLoose.bind fun _ => (Steady.pure _).toLoose
    · exact (Loose.classRange verbose c).bind fun _ => (Steady.pure _).toLoose

theorem classStep_more {verbose : Bool} {s : ClassState} {c : Char} (goes_on : c ≠ ']') :
    (s.step verbose c).Gives fun step => ∃ state, step = .more state := by
  unfold ClassState.step
  rw [if_neg goes_on]
  refine .ite (.bind (.any _) fun item _ => ?_) fun _ => .bind (.any _) fun seen _ => ?_
  · cases item with
    | some item => exact .pure ⟨_, rfl⟩
    | none => exact .bind (.any _) fun _ _ => .pure ⟨_, rfl⟩
  · split
    · exact .bind (.any _) fun _ _ => .pure ⟨_, rfl⟩
    · exact .bind (.any _) fun _ _ => .pure ⟨_, rfl⟩

theorem outcome_classRead_nil {verbose : Bool} {s : ClassState} {input : List Char}
    (left : afterBlanks verbose input = []) :
    Reader.outcome (s.read verbose) input = .error .classUnclosed := by
  have failed : s.read verbose input = .error .classUnclosed := by
    unfold ClassState.read
    split
    · rfl
    · simp_all
  simp [Reader.outcome, failed]

theorem outcome_classRead_cons {verbose : Bool} {s : ClassState} {input cs : List Char} {c : Char}
    (left : afterBlanks verbose input = c :: cs) :
    Reader.outcome (s.read verbose) input =
      match (s.step verbose c).outcome cs with
      | .error e => .error e
      | .ok (.done negated set, rest) => .ok ((negated, set), rest)
      | .ok (.more state, rest) => Reader.outcome (state.read verbose) rest := by
  unfold Reader.outcome
  generalize result : s.read verbose input = whole
  unfold ClassState.read at result
  split at result
  case h_1 empty => simp [left] at empty
  case h_2 c' cs' more =>
    obtain ⟨rfl, rfl⟩ : c = c' ∧ cs = cs' := by simpa [left] using more
    subst result
    cases s.step verbose c cs with
    | error e => rfl
    | ok taken =>
      obtain ⟨step, rest, _⟩ := taken
      cases step with
      | done negated set => rfl
      | more state =>
        dsimp only
        cases state.read verbose rest <;> rfl

theorem classRead_suffix {verbose : Bool} {s : ClassState} {input rest : List Char}
    {value : Bool × ClassSet} (read : Reader.outcome (s.read verbose) input = .ok (value, rest)) :
    ∃ c cs, afterBlanks verbose input = c :: cs ∧ rest <:+ cs := by
  cases left : afterBlanks verbose input with
  | nil => simp [outcome_classRead_nil left] at read
  | cons c cs =>
    refine ⟨c, cs, rfl, ?_⟩
    have shorter := length_lt_of_afterBlanks left
    rw [outcome_classRead_cons left] at read
    cases step : (s.step verbose c).outcome cs with
    | error e => simp [step] at read
    | ok found =>
      obtain ⟨value', rest'⟩ := found
      have passed := (Loose.classStep verbose s c).trims _ _ _ step
      cases value' with
      | done negated set =>
        obtain ⟨_, rfl⟩ : (negated, set) = value ∧ rest' = rest := by simpa [step] using read
        exact passed
      | more state =>
        have := passed.length_le
        obtain ⟨c', cs', left', shorter'⟩ :=
          classRead_suffix (by simpa [step] using read : Reader.outcome (state.read verbose) rest' = _)
        exact (shorter'.trans (suffix_of_afterBlanks left')).trans passed
termination_by input.length

theorem classRead_trims (verbose : Bool) (s : ClassState) :
    Reader.Trims (s.read verbose : PatternReader (Bool × ClassSet)) := by
  intro input value rest read
  obtain ⟨c, cs, left, shorter⟩ := classRead_suffix read
  exact shorter.trans (suffix_of_afterBlanks left)

theorem classRead_closing {verbose : Bool} {input : List Char}
    (left : afterBlanks verbose input = closing) (s : ClassState) :
    Swallows (Reader.outcome (s.read verbose) input) := by
  intro value rest read
  obtain ⟨c, cs, left', shorter⟩ := classRead_suffix read
  obtain ⟨rfl, rfl⟩ : ')' = c ∧ ['$'] = cs := by rwa [left, closing, List.cons.injEq] at left'
  exact not_mem_of_suffix_dollar shorter

theorem classRead_swallows {verbose : Bool} {s : ClassState} {input cs : List Char} {c : Char}
    (left : afterBlanks verbose input = c :: cs)
    (swallows : Swallows ((s.step verbose c).outcome cs)) :
    Swallows (Reader.outcome (s.read verbose) input) := by
  rw [outcome_classRead_cons left]
  cases step : (s.step verbose c).outcome cs with
  | error e => exact .of_error e rfl
  | ok found =>
    obtain ⟨value, rest⟩ := found
    have gone := swallows _ _ step
    cases value with
    | done negated set =>
      intro value' rest' read
      obtain ⟨_, rfl⟩ : (negated, set) = value' ∧ rest = rest' := by simpa using read
      exact gone
    | more state => exact .of_trims (classRead_trims verbose state) gone

theorem classStep_stalls_more {verbose : Bool} {s : ClassState} {c : Char} {input rest : List Char}
    {e : Error} {a : ClassStep} (alone : (s.step verbose c).outcome input = .error e)
    (closed : (s.step verbose c).outcome (input ++ closing) = .ok (a, rest)) :
    ∃ state, a = .more state := by
  by_cases closes : c = ']'
  · simp [ClassState.step, closes] at alone
  · exact classStep_more closes _ _ _ closed

-- A class is closed within the text or else it goes on through the closing: what it takes from there
-- first is the parenthesis.
theorem classRead_settles (verbose : Bool) (s : ClassState) (input : List Char) :
    Settles (s.read verbose : PatternReader (Bool × ClassSet)) input := by
  rcases afterBlanks_append_closing verbose input with behind | behind
  · cases left : afterBlanks verbose input with
    | nil => exact .swallows (classRead_closing (by rw [behind, left, List.nil_append]) s)
    | cons c cs =>
      rw [left, List.cons_append] at behind
      have shorter := length_lt_of_afterBlanks left
      have before := @outcome_classRead_cons verbose s _ _ _ left
      have after := @outcome_classRead_cons verbose s _ _ _ behind
      cases (Loose.classStep verbose s c).meets cs with
      | @same a rest alone closed =>
        rw [alone] at before
        rw [closed] at after
        cases a with
        | done negated set => exact .same before after
        | more state =>
          have passed := ((Loose.classStep verbose s c).trims _ _ _ alone).length_le
          exact (classRead_settles verbose state rest).congr before after
      | swallows closed => exact .swallows (classRead_swallows behind closed)
      | stalls alone closed =>
        obtain ⟨state, rfl⟩ := classStep_stalls_more alone closed
        refine .swallows ?_
        rw [after, closed]
        exact classRead_closing (afterBlanks_closing verbose) state
  · exact .swallows (.of_error _ (outcome_classRead_nil behind))
termination_by input.length

theorem Steady.classRead (verbose : Bool) (s : ClassState) :
    Steady (s.read verbose : PatternReader (Bool × ClassSet)) :=
  ⟨classRead_trims verbose s, classRead_settles verbose s⟩

theorem Steady.bracketClass (verbose : Bool) : Steady (bracketClass verbose) := by
  refine .bind_of_loose (.classOpening verbose) (fun _ => ?_) fun _ => ?_
  · exact (Steady.classRead verbose _).bind fun _ => .pure _
  · exact (classRead_closing (afterBlanks_closing verbose) _).bind fun _ => .pure _

end PathQuery.Regex
