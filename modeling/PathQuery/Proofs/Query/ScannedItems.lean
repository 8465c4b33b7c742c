import PathQuery.Proofs.Query.Copying

set_option autoImplicit false

namespace PathQuery

open PathQuery.Text PathQuery.Regex PathQuery.Unicode PathQuery.Dialect

namespace Copies

variable {verbose inClass : Bool} {input : List Char}

theorem hexDigits (n : Nat) : Copies verbose inClass (hexDigits verbose n) input := by
  have digits : ∀ c ∈ ['\\', '.', '[', ']'], isHexDigit c = false := by decide
  induction n generalizing input with
  | zero => exact pure []
  | succ n ih =>
    refine next?_bind (.fail _) (fun c _ _ special => ?_) fun c cs _ => ?_
    · dsimp only
      rw [if_neg fun digit => special (isPlain_of digits digit)]
      exact .fail _
    · refine ite (fun _ => ?_) fun _ => fail _
      exact blanks.bind fun _ _ _ => ih.bind fun _ _ _ => pure _

theorem hexLiteral (n : Nat) : Copies verbose inClass (hexLiteral verbose n) input := by
  refine blanks.bind fun _ _ _ => peek_bind_of_fails (.fail _) rfl fun c cs front => ?_
  split
  case h_1 none => simp at none
  case h_2 brace =>
    obtain rfl := Option.some.inj brace
    subst front
    refine (skip_one (by decide)).bind fun _ _ _ => blanks.bind fun _ _ _ => ?_
    refine (spaced (by decide) (by decide)).bind fun code _ _ => ?_
    refine next?_bind (.fail _) (fun c _ _ special => ?_) fun c cs _ => ?_
    · split
      · exact .fail _
      case h_2 brace =>
        obtain rfl := Option.some.inj brace
        exact absurd (by decide) special
      · exact .fail _
    · split
      · exact fail _
      · refine blanks.bind fun _ _ _ => ite (fun _ => fail _) fun _ => ?_
        split
        · exact fail _
        · exact pure _
      · exact fail _
  case h_3 =>
    refine (hexDigits _).bind fun code _ _ => ?_
    split
    · exact fail _
    · exact pure _

theorem namedBoundary : Copies verbose inClass (namedBoundary verbose) input := by
  refine (spaced (by decide) (by decide)).bind fun name _ _ => ?_
  refine next?_bind (.fail _) (fun c _ _ special => ?_) fun c cs _ => ?_
  · split
    case h_1 brace =>
      obtain rfl := Option.some.inj brace
      exact absurd (by decide) special
    · exact .fail _
  · split
    · split
      · exact pure _
      · exact fail _
    · exact fail _

theorem boundaryName : Copies verbose inClass (boundaryName verbose) input := by
  have names : ∀ c ∈ ['\\', '.', '[', ']'], isBoundaryNameChar c = false := by decide
  intro clear special rest read
  by_cases brace : input.head? = some '{'
  · obtain ⟨cs, rfl⟩ := List.head?_eq_some_iff.mp brace
    have opened : translatedRest inClass ('{' :: cs) = '{' :: translatedRest inClass cs :=
      translatedRest_plain (by decide)
    rw [outcome_boundaryName_brace] at read
    rw [opened, outcome_boundaryName_brace, afterBlanks_translatedRest inClass clear.tail]
    cases left : afterBlanks verbose cs with
    | nil => simp [left] at read
    | cons d ds =>
      by_cases name : isBoundaryNameChar d = true
      · have named : Copies verbose inClass
            (Regex.namedBoundary verbose >>= fun a => Pure.pure (some a)) (d :: ds) :=
          namedBoundary.bind fun a _ _ => pure (some a)
        have copied := named (left ▸ clear.tail.behindBlanks) _ _ (by simpa [left, name] using read)
        rw [translatedRest_plain (isPlain_of names name)] at copied ⊢
        simpa only [name, if_true] using copied
      · obtain ⟨rfl, rfl⟩ : none = special ∧ '{' :: cs = rest := by simpa [left, name] using read
        refine ⟨?_, clear⟩
        obtain ⟨d', ds', front, rfl | ⟨rfl, rfl⟩⟩ := translatedRest_cons inClass d ds
        · simp [front, name, opened]
        · simp [front, names, opened]
  · rw [outcome_boundaryName verbose brace] at read
    obtain ⟨rfl, rfl⟩ : none = special ∧ input = rest := by simpa using read
    exact ⟨outcome_boundaryName verbose
      (mt (head?_translatedRest (by decide)).mp brace), clear⟩

theorem propertyName (negated : Bool)
    (plain : ∀ c ∈ (spacedPart verbose (· != '}') input).value, IsPlain c) :
    Copies verbose inClass (Regex.spaced verbose (· != '}') >>= fun name => do
      match ← Reader.next? with
      | none => Reader.fail .escapeUnexpectedEnd
      | some _ => Pure.pure (Ast.property negated (propertyQuery name))) input := by
  cases left : (spacedPart verbose (· != '}') input).rest with
  | nil =>
    intro clear a rest read
    simp [left] at read
  | cons d ds =>
    obtain rfl : d = '}' := by simpa [left] using (spacedPart_taken verbose (· != '}') input).2
    refine (spaced_of_plain plain fun c front => ?_).bind fun name rest taken => ?_
    · rw [left, translatedRest_plain (by decide)] at front
      obtain rfl : '}' = c := by simpa using front
      rfl
    · obtain ⟨_, rfl⟩ : _ ∧ '}' :: ds = rest := by simpa [left] using taken
      refine next?_bind (.fail _) (fun c cs same special => ?_) fun c _ _ => pure _
      obtain ⟨rfl, _⟩ : '}' = c ∧ ds = cs := by simpa using same
      exact absurd (by decide) special

theorem propertyEscape (negated : Bool)
    (plain : isPlainProperty verbose (afterBlanks verbose input) = true) :
    Copies verbose inClass (propertyEscape verbose negated) input := by
  refine blanks.bind fun _ left same => ?_
  obtain rfl : afterBlanks verbose input = left := by simpa using same
  refine next?_bind (.fail _) (fun c cs front special => ?_) fun c cs front => ?_
  · rw [front] at plain
    by_cases brace : c = '{'
    · subst brace
      exact absurd (by decide) special
    · exact absurd (by simpa [isPlainProperty, brace] using plain) special
  · split
    · exact fail _
    case h_2 brace =>
      obtain rfl := Option.some.inj brace
      refine blanks.bind fun _ left same => ?_
      obtain rfl : afterBlanks verbose cs = left := by simpa using same
      exact propertyName negated (by simpa [front, isPlainProperty] using plain)
    · exact fail _
    · exact pure _

theorem escaped (c : Char)
    (plain : c = 'p' ∨ c = 'P' → isPlainProperty verbose (afterBlanks verbose input) = true) :
    Copies verbose inClass (escaped verbose c) input := by
  refine ite (fun _ => fail _) fun _ => ite (fun _ => pure _) fun _ => ?_
  split
  case h_1 => exact hexLiteral 2
  case h_2 => exact hexLiteral 4
  case h_3 => exact hexLiteral 8
  case h_4 => exact propertyEscape false (plain (.inl rfl))
  case h_5 => exact propertyEscape true (plain (.inr rfl))
  case h_20 => exact boundaryName.bind fun _ _ _ => pure _
  case h_24 => exact fail _
  all_goals exact pure _

theorem escape {c : Char} {cs : List Char} (clear : Clear verbose ('\\' :: c :: cs)) {a : Ast}
    {rest : List Char} (read : (Regex.escape verbose).outcome (c :: cs) = .ok (a, rest)) :
    (Regex.escape verbose).outcome (c :: translatedRest inClass cs) =
      .ok (a, translatedRest inClass rest) ∧ Clear verbose rest := by
  have opened : ∀ cs, (Regex.escape verbose).outcome (c :: cs) =
      (Regex.escaped verbose c).outcome cs := fun cs => by simp [Regex.escape]
  rw [opened] at read ⊢
  exact escaped c clear.property clear.tail.tail _ _ read

theorem groupName (taken : List String)
    (plain : ∀ c ∈ input.takeWhile isNameChar, c ≠ '.' ∧ c ≠ '[') :
    Copies verbose false (groupName taken) input := by
  by_cases ends : ∃ rest, input.dropWhile isNameChar = '>' :: rest
  · obtain ⟨rest, left⟩ := ends
    have copied : ∀ c ∈ input.takeWhile isNameChar, ∀ cs,
        translatedRest false (c :: cs) = c :: translatedRest false cs := by
      intro c member cs
      by_cases closes : c = ']'
      · rw [closes, translatedRest_close]
      · have backslash : c ≠ '\\' := by
          rintro rfl
          have taken := List.all_eq_true.mp List.all_takeWhile _ member
          exact absurd taken (by decide)
        obtain ⟨dot, opens⟩ := plain c member
        exact translatedRest_plain (isPlain_iff.mpr ⟨backslash, dot, opens, closes⟩)
    refine (takeWhile_name left (fun _ => translatedRest_append copied) (by decide)).bind
      fun name _ _ => ite (fun _ => fail _) fun _ => ?_
    refine next?_bind (.fail _) (fun c _ _ special => ?_) fun c cs _ => ?_
    · split
      · exact .fail _
      case h_2 bracket =>
        obtain rfl := Option.some.inj bracket
        exact absurd (by decide) special
      · exact .fail _
    · split
      · exact fail _
      · exact ite (fun _ => fail _) fun _ => ite (fun _ => fail _) fun _ => pure _
      · exact fail _
  · intro clear a rest read
    cases left : input.dropWhile isNameChar with
    | nil =>
      by_cases start : (input.takeWhile isNameChar).head?.any (!isNameStart ·) = true
      · simp [Regex.groupName, start] at read
      · simp [Regex.groupName, start, left] at read
    | cons c cs =>
      have other : c ≠ '>' := fun same => ends ⟨cs, by rw [left, same]⟩
      by_cases start : (input.takeWhile isNameChar).head?.any (!isNameStart ·) = true
      · simp [Regex.groupName, start] at read
      · simp [Regex.groupName, start, left] at read

theorem addFlag_plain {items more : List FlagItem} {c : Char} (added : addFlag items c = .ok more) :
    IsPlain c := by
  intro special
  have refused : ∀ c ∈ ['\\', '.', '[', ']'], flagOf? c = none ∧ c ≠ '-' := by decide
  obtain ⟨unknown, dash⟩ := refused c special
  simp [addFlag, unknown, dash] at added

theorem flagItems (items : List FlagItem) :
    Copies verbose inClass (flagItems items : PatternReader (List FlagItem × Char)) input := by
  induction input generalizing items with
  | nil =>
    intro clear a rest read
    simp [Reader.outcome, Regex.flagItems] at read
  | cons c cs ih =>
    intro clear a rest read
    rw [outcome_flagItems_cons] at read
    by_cases sign : c = ':' ∨ c = ')'
    · have plain : IsPlain c := by
        obtain rfl | rfl := sign
        all_goals decide
      rw [translatedRest_plain plain, outcome_flagItems_cons]
      by_cases dangling : items.getLast? = some .negation
      · simp [sign, dangling] at read
      · obtain ⟨rfl, rfl⟩ : (items, c) = a ∧ cs = rest := by simpa [sign, dangling] using read
        exact ⟨by simp [sign, dangling], clear.tail⟩
    · cases added : addFlag items c with
      | error e => simp [sign, added] at read
      | ok more =>
        rw [translatedRest_plain (addFlag_plain added), outcome_flagItems_cons]
        simp only [sign, added, if_false] at read ⊢
        exact ih more clear.tail a rest read

theorem flagOpening : Copies verbose inClass flagOpening input :=
  (flagItems []).bind fun _ _ _ =>
    ite (fun _ => pure _) fun _ => ite (fun _ => fail _) fun _ => pure _

theorem groupOpening (taken : List String)
    (plain : isPlainGroupName (afterBlanks verbose input) = true) :
    Copies verbose false (groupOpening verbose taken) input := by
  refine blanks.bind fun _ rest same => ?_
  obtain rfl : afterBlanks verbose input = rest := by simpa using same
  generalize afterBlanks verbose input = opening at plain
  refine (skipAnyOf (by decide)).bind fun look rest same => ite (fun _ => fail _) fun other => ?_
  obtain rfl := Reader.eq_of_outcome_skipAnyOf_false (Bool.eq_false_iff.mpr other ▸ same)
  refine (skipAnyOf (by decide)).bind fun named name same => ite (fun signed => ?_) fun _ => ?_
  · have plain' : ∀ c ∈ name.takeWhile isNameChar, c ≠ '.' ∧ c ≠ '[' := by
      obtain ⟨sign, member, rfl⟩ := Reader.append_of_outcome_skipAnyOf_true (signed ▸ same)
      obtain rfl | rfl : sign = ['?', 'P', '<'] ∨ sign = ['?', '<'] := by simpa using member
      all_goals simpa [isPlainGroupName] using plain
    exact (groupName taken plain').bind fun _ _ _ => pure _
  · refine (skipText (by decide)).bind fun flagged _ _ => ite (fun _ => ?_) fun _ => pure _
    exact (needMore _).bind fun _ _ _ => flagOpening

theorem decimal : Copies verbose inClass (decimal verbose) input := by
  refine (takeWhile (by decide) (by decide)).bind fun _ _ _ => ?_
  refine (spaced (by decide) (by decide)).bind fun digits _ _ => ?_
  exact (takeWhile (by decide) (by decide)).bind fun _ _ _ => pure _

theorem countsEnd (counts : Nat × Option Nat) :
    Copies verbose inClass (countsEnd verbose counts) input := by
  refine (skipText (by decide)).bind fun closes _ _ => ite (fun _ => ?_) fun _ => fail _
  refine blanks.bind fun _ _ _ => (skipText (by decide)).bind fun _ _ _ => ?_
  exact ite (fun _ => pure _) fun _ => fail _

theorem moreCounts (first : Except Error Nat) :
    Copies verbose inClass (moreCounts verbose first) input := by
  refine (skipText (by decide)).bind fun comma _ _ => ite (fun _ => ?_) fun _ => ?_
  · refine blanks.bind fun _ _ _ => (needMore _).bind fun _ _ _ => ?_
    refine (liftExcept first).bind fun min _ _ => peek_bind (by simp) (by simp) fun c => ?_
    refine ite (fun _ => countsEnd _) fun _ => decimal.bind fun max _ _ => ?_
    exact (liftExcept max).bind fun max _ _ => countsEnd _
  · exact (liftExcept first).bind fun n _ _ => countsEnd _

theorem repetitionCounts : Copies verbose inClass (repetitionCounts verbose) input := by
  refine blanks.bind fun _ _ _ => (needMore _).bind fun _ _ _ => decimal.bind fun first _ _ => ?_
  exact (needMore _).bind fun _ _ _ => moreCounts first

end Copies

end PathQuery
