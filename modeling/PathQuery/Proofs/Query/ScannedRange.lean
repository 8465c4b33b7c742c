import PathQuery.Proofs.Query.ScannedItems

set_option autoImplicit false

namespace PathQuery

open PathQuery.Text PathQuery.Regex PathQuery.Unicode PathQuery.Dialect

variable {verbose inClass : Bool} {c : Char} {cs input rest stop : List Char}

-- An ASCII set as it is written behind a bracket, up to its second colon.
def asciiFront (negated : Bool) (name : List Char) : List Char :=
  ':' :: ((if negated then ['^'] else []) ++ (name ++ [':']))

def asciiText (negated : Bool) (name rest : List Char) : List Char :=
  asciiFront negated name ++ ']' :: rest

theorem ofName?_chars {name : List Char} {set : AsciiClass}
    (named : AsciiClass.ofName? (String.ofList name) = some set) :
    ∀ c ∈ name, (IsPlain c ∧ c ≠ ')') ∧ c ≠ ':' ∧ c ≠ '^' := by
  unfold AsciiClass.ofName? at named
  split at named
  case h_15 => simp at named
  all_goals
    rename_i same
    have chars := congrArg String.toList same
    rw [String.toList_ofList] at chars
    rw [chars]
    decide

theorem outcome_asciiName (negated : Bool) (input : List Char) :
    (asciiName negated).outcome input =
      if [':', ']'].isPrefixOf (input.dropWhile (· != ':')) then
        .ok ((AsciiClass.ofName? (String.ofList (input.takeWhile (· != ':')))).map (.ascii negated),
          (input.dropWhile (· != ':')).drop 2)
      else .ok (none, input.dropWhile (· != ':')) := by
  simp only [asciiName, Reader.outcome_bind, Reader.outcome_takeWhile, Reader.outcome_skipText]
  by_cases closes : [':', ']'].isPrefixOf (input.dropWhile (· != ':')) = true <;> simp [closes]

theorem outcome_asciiName_some {negated : Bool} {item : ClassSet}
    (read : (asciiName negated).outcome input = .ok (some item, rest)) :
    ∃ name set, AsciiClass.ofName? (String.ofList name) = some set ∧ item = .ascii negated set ∧
      input = name ++ ':' :: ']' :: rest := by
  rw [outcome_asciiName] at read
  by_cases closes : [':', ']'] <+: input.dropWhile (· != ':')
  · obtain ⟨left, behind⟩ := closes
    cases named : AsciiClass.ofName? (String.ofList (input.takeWhile (· != ':'))) with
    | none => simp [← behind, named] at read
    | some set =>
      obtain ⟨rfl, rfl⟩ : .ascii negated set = item ∧ left = rest := by
        simpa [← behind, named] using read
      have parts := List.takeWhile_append_dropWhile (p := (· != ':')) (l := input)
      rw [← behind] at parts
      exact ⟨_, set, named, rfl, parts.symm⟩
  · simp [closes] at read

theorem outcome_asciiClass_text {negated : Bool} {name : List Char} {set : AsciiClass}
    (named : AsciiClass.ofName? (String.ofList name) = some set) (rest : List Char) :
    asciiClass.outcome (asciiText negated name rest) = .ok (some (.ascii negated set), rest) := by
  have chars := ofName?_chars named
  have colons : ∀ c ∈ name, (c != ':') = true := fun c member => by simpa using (chars c member).2.1
  have taken : (name ++ ':' :: ']' :: rest).takeWhile (· != ':') = name := by
    simp [List.takeWhile_append_of_pos colons]
  have left : (name ++ ':' :: ']' :: rest).dropWhile (· != ':') = ':' :: ']' :: rest := by
    simp [List.dropWhile_append_of_pos colons]
  have bare : ¬['^'] <+: name ++ ':' :: ']' :: rest := by
    cases name with
    | nil => simp
    | cons c name => simpa using (chars c (by simp)).2.2.symm
  cases negated with
  | false =>
    simp [asciiClass, asciiText, asciiFront, Reader.outcome_optional, Reader.outcome_skipText, bare,
      outcome_asciiName, taken, left, named]
  | true =>
    simp [asciiClass, asciiText, asciiFront, Reader.outcome_optional, Reader.outcome_skipText,
      outcome_asciiName, taken, left, named]

theorem outcome_asciiClass (input : List Char) :
    asciiClass.outcome input = .ok (none, input) ∨
      ∃ negated name set rest, AsciiClass.ofName? (String.ofList name) = some set ∧
        input = asciiText negated name rest := by
  cases input with
  | nil => exact .inl (by simp [asciiClass, Reader.outcome_optional, Reader.outcome_skipText])
  | cons c cs =>
    by_cases colon : c = ':'
    · subst colon
      obtain ⟨negated, body, rfl, opened⟩ : ∃ negated body,
          cs = (if negated then ['^'] else []) ++ body ∧
            (Reader.skipText ['^'] : PatternReader Bool).outcome cs = .ok (negated, body) := by
        by_cases circumflex : ['^'] <+: cs
        · obtain ⟨body, rfl⟩ := circumflex
          exact ⟨true, body, rfl, by simp [Reader.outcome_skipText]⟩
        · exact ⟨false, cs, rfl, by simp [Reader.outcome_skipText, circumflex]⟩
      obtain ⟨item, left, read⟩ : ∃ item left,
          (asciiName negated).outcome body = .ok (item, left) := by
        rw [outcome_asciiName]
        split <;> exact ⟨_, _, rfl⟩
      cases item with
      | none =>
        left
        have colon : ∀ cs, (Reader.skipText [':'] : PatternReader Bool).outcome (':' :: cs) =
            .ok (true, cs) := fun cs => by simp [Reader.outcome_skipText]
        simp [asciiClass, Reader.outcome_optional, colon, opened, read]
      | some item =>
        obtain ⟨name, set, named, _, rfl⟩ := outcome_asciiName_some read
        exact .inr ⟨negated, name, set, left, named, by simp [asciiText, asciiFront]⟩
    · left
      simp [asciiClass, Reader.outcome_optional, Reader.outcome_skipText, Ne.symm colon]

theorem asciiFront_plain {negated : Bool} {name : List Char} {set : AsciiClass}
    (named : AsciiClass.ofName? (String.ofList name) = some set) :
    ∀ c ∈ asciiFront negated name, IsPlain c ∧ c ≠ ')' := by
  have chars := ofName?_chars named
  have signs : ∀ c ∈ [':', '^'], IsPlain c ∧ c ≠ ')' := by decide
  intro c member
  have parts : c = ':' ∨ c = '^' ∨ c ∈ name := by
    cases negated <;> simp [asciiFront] at member <;> grind
  rcases parts with rfl | rfl | member
  · exact signs ':' (by simp)
  · exact signs '^' (by simp)
  · exact (chars c member).1

theorem translatedRest_asciiText {negated : Bool} {name : List Char} {set : AsciiClass}
    (named : AsciiClass.ofName? (String.ofList name) = some set) (rest : List Char) :
    translatedRest true (asciiText negated name rest) =
      asciiText negated name (translatedRest false rest) := by
  rw [asciiText, translatedRest_append fun c member _ =>
    translatedRest_plain (asciiFront_plain named c member).1, translatedRest_close, asciiText]

theorem asciiClass_none_translated (nothing : asciiClass.outcome input = .ok (none, input)) :
    asciiClass.outcome (translatedRest true input) = .ok (none, translatedRest true input) := by
  rcases outcome_asciiClass (translatedRest true input) with
    nothing' | ⟨negated, name, set, rest, named, same⟩
  · exact nothing'
  · -- A name in the translation is one in the segment, since it has no backslash in it.
    have plain := @asciiFront_plain negated _ _ named
    have front : asciiFront negated name <+: translatedRest true input := ⟨_, same.symm⟩
    obtain ⟨more, rfl⟩ := (prefix_translatedRest plain input).mp front
    rw [translatedRest_append fun c member _ => translatedRest_plain (plain c member).1, asciiText,
      List.append_cancel_left_eq] at same
    cases more with
    | nil => simp [closing] at same
    | cons c cs =>
      obtain ⟨c', cs', behind, rfl | ⟨rfl, rfl⟩⟩ := translatedRest_cons true c cs
      · obtain ⟨rfl, _⟩ : c' = ']' ∧ cs' = rest := by simpa [behind] using same
        have read := @outcome_asciiClass_text negated _ _ named cs
        rw [asciiText, nothing] at read
        simp at read
      · simp [behind] at same

theorem classPrimitive_trims (verbose : Bool) (c : Char) : (classPrimitive verbose c).Trims := by
  unfold classPrimitive
  split
  · exact escape_trims verbose
  · exact .pure _

theorem classPrimitive_translated (inner : ClearClass verbose stop (c :: cs))
    (free : Free verbose inClass stop cs)
    (opens : c = '[' → inClass = false → translatedFront cs = translatedRest true cs) {a : Ast}
    (read : (classPrimitive verbose c).outcome cs = .ok (a, rest)) :
    ∃ c' cs' inClass', translatedRest inClass (c :: cs) = c' :: cs' ∧
      (c' = c ∨ c = '.' ∧ c' = '\\') ∧
      (classPrimitive verbose c').outcome cs' = .ok (a, translatedRest inClass' rest) ∧
      Free verbose inClass' stop rest := by
  by_cases backslash : c = '\\'
  · subst backslash
    rw [classPrimitive, if_pos rfl] at read
    have within := escape_trims verbose _ _ _ read
    cases cs with
    | nil => simp [escape] at read
    | cons d ds =>
      refine ⟨'\\', _, inClass, translatedRest_escape, .inl rfl, ?_, free.of_suffix within⟩
      rw [classPrimitive, if_pos rfl]
      exact (Copies.escape inner.clear read).1
  · obtain ⟨rfl, rfl⟩ : .literal ⟨c, false⟩ = a ∧ cs = rest := by
      simpa [classPrimitive, backslash] using read
    have literal : ∀ cs, (classPrimitive verbose c).outcome cs = .ok (.literal ⟨c, false⟩, cs) := by
      intro cs
      simp [classPrimitive, backslash]
    by_cases plain : IsPlain c
    · exact ⟨_, _, inClass, translatedRest_plain plain, .inl rfl, literal _, free⟩
    · obtain rfl | rfl | rfl : c = '.' ∨ c = '[' ∨ c = ']' := by
        have special : c ∈ ['\\', '.', '[', ']'] := Decidable.not_not.mp plain
        simpa [backslash] using special
      · cases inClass with
        | true => exact ⟨_, _, true, translatedRest_dot_inside, .inl rfl, literal _, free⟩
        | false =>
          refine ⟨_, _, false, translatedRest_dot, .inr ⟨rfl, rfl⟩, ?_, free⟩
          rw [classPrimitive, if_pos rfl]
          exact outcome_escape_of_escapable verbose rfl rfl _
      · cases inClass with
        | true => exact ⟨_, _, true, translatedRest_open_inside, .inl rfl, literal _, free⟩
        | false =>
          refine ⟨_, _, true, translatedRest_open, .inl rfl, ?_, .inside⟩
          rw [opens rfl rfl]
          exact literal _
      · exact ⟨_, _, false, translatedRest_close, .inl rfl, literal _, inner.free false⟩

theorem outcome_rangeFrom_item {first : Ast} (more : afterBlanks verbose input ≠ [])
    (item : ∀ ds, afterBlanks verbose input = '-' :: ds →
      afterDash? verbose ds = some ']' ∨ afterDash? verbose ds = some '-') :
    (rangeFrom verbose first).outcome input =
      (liftExcept first.classItem?).outcome (afterBlanks verbose input) := by
  cases left : afterBlanks verbose input with
  | nil => exact absurd left more
  | cons c cs =>
    by_cases dash : c = '-'
    · subst dash
      simp [rangeFrom, needMore, left, item cs left]
    · simp [rangeFrom, needMore, left, dash]

def rangeBetween (first last : Ast) : PatternReader ClassSet := do
  let a ← liftExcept first.rangeEnd?
  let b ← liftExcept last.rangeEnd?
  if a.char ≤ b.char then pure (.range a b) else Reader.fail .classRangeInvalid

theorem rangeBetween_trims (first last : Ast) : (rangeBetween first last).Trims :=
  Steady.trims ((Steady.liftExcept _).bind fun _ => (Steady.liftExcept _).bind fun _ =>
    .ite _ (.pure _) (.fail _))

theorem rangeBetween_copies (first last : Ast) :
    Copies verbose inClass (rangeBetween first last) input :=
  (Copies.liftExcept _).bind fun _ _ _ => (Copies.liftExcept _).bind fun _ _ _ =>
    .ite (fun _ => .pure _) fun _ => .fail _

theorem outcome_rangeFrom_range {first : Ast} (left : afterBlanks verbose input = '-' :: cs)
    (other : ¬(afterDash? verbose cs = some ']' ∨ afterDash? verbose cs = some '-')) :
    (rangeFrom verbose first).outcome input =
      match afterBlanks verbose cs with
      | [] => .error .classUnclosed
      | d :: ds => (classPrimitive verbose d >>= rangeBetween first).outcome ds := by
  cases behind : afterBlanks verbose cs <;>
    simp [rangeFrom, rangeBetween, needMore, left, other, behind]

theorem rangeFrom_range_translated {first : Ast} (inner : ClearClass verbose stop ('-' :: cs))
    (free : Free verbose inClass stop ('-' :: cs)) (left : afterBlanks verbose input = '-' :: cs)
    (behind : afterBlanks verbose (translatedRest inClass input) = translatedRest inClass ('-' :: cs))
    (other : ¬(afterDash? verbose cs = some ']' ∨ afterDash? verbose cs = some '-'))
    {item : ClassSet} (read : (rangeFrom verbose first).outcome input = .ok (item, rest))
    (ahead : stop.length ≤ rest.length) :
    ∃ inClass', (rangeFrom verbose first).outcome (translatedRest inClass input) =
      .ok (item, translatedRest inClass' rest) ∧ Free verbose inClass' stop rest := by
  rw [translatedRest_plain (by decide)] at behind
  rw [outcome_rangeFrom_range left other] at read
  have other' : ¬(afterDash? verbose (translatedRest inClass cs) = some ']' ∨
      afterDash? verbose (translatedRest inClass cs) = some '-') := by
    rwa [afterDash?_translatedRest (by decide), afterDash?_translatedRest (by decide)]
  rw [outcome_rangeFrom_range behind other', afterBlanks_translatedRest inClass inner.tail.clear]
  cases front : afterBlanks verbose cs with
  | nil => simp [front] at read
  | cons d ds =>
    simp only [front] at read
    have within := suffix_of_afterBlanks front
    have inner' : ClearClass verbose stop (d :: ds) := front ▸ inner.tail.behindBlanks
    obtain ⟨last, left', taken, read⟩ := Reader.of_outcome_bind read
    have within' := classPrimitive_trims verbose d _ _ _ taken
    have further := (rangeBetween_trims _ _ _ _ _ read).trans within'
    have opens : d = '[' → inClass = false → translatedFront ds = translatedRest true ds := by
      rintro rfl outside
      exact (free outside).opening front (Nat.le_trans ahead further.length_le)
    obtain ⟨d', ds', inClass', behind', _, taken', free'⟩ := classPrimitive_translated inner'
      (free.of_suffix (within.trans (List.suffix_cons _ _))) opens taken
    refine ⟨inClass', ?_, free'.of_suffix (rangeBetween_trims _ _ _ _ _ read)⟩
    rw [behind']
    exact (Reader.outcome_bind_ok taken').trans
      (rangeBetween_copies first last (inner'.tail.of_suffix within').clear _ _ read).1

-- A dash at the end of the class or before another dash makes no range, and none in the translation
-- either.
theorem rangeFrom_item_translated {first : Ast}
    (clear : Clear verbose (afterBlanks verbose input))
    (behind : afterBlanks verbose (translatedRest inClass input) =
      translatedRest inClass (afterBlanks verbose input))
    (alone : ∀ ds, afterBlanks verbose input = '-' :: ds →
      afterDash? verbose ds = some ']' ∨ afterDash? verbose ds = some '-')
    {item : ClassSet} (read : (rangeFrom verbose first).outcome input = .ok (item, rest)) :
    (rangeFrom verbose first).outcome (translatedRest inClass input) =
        .ok (item, translatedRest inClass rest) ∧
      rest <:+ afterBlanks verbose input := by
  have more : afterBlanks verbose input ≠ [] := by
    intro nothing
    simp [rangeFrom, needMore, nothing] at read
  rw [outcome_rangeFrom_item more alone] at read
  refine ⟨?_, (Steady.liftExcept _).trims _ _ _ read⟩
  rw [outcome_rangeFrom_item, behind]
  · exact (Copies.liftExcept _ clear _ _ read).1
  · rw [behind]
    exact translatedRest_ne_nil _
  · intro ds same
    rw [behind] at same
    obtain ⟨ds, left, rfl⟩ := eq_cons_of_translatedRest (by decide) (by decide) same
    rw [afterDash?_translatedRest (by decide), afterDash?_translatedRest (by decide)]
    exact alone ds left

theorem rangeFrom_translated {first : Ast} (inner : ClearClass verbose stop input)
    (free : Free verbose inClass stop input) {item : ClassSet}
    (read : (rangeFrom verbose first).outcome input = .ok (item, rest))
    (ahead : stop.length ≤ rest.length) :
    ∃ inClass', (rangeFrom verbose first).outcome (translatedRest inClass input) =
      .ok (item, translatedRest inClass' rest) ∧ Free verbose inClass' stop rest := by
  have free := free.of_suffix (afterBlanks_suffix verbose input)
  have behind := afterBlanks_translatedRest inClass inner.clear
  have inner := inner.behindBlanks
  by_cases range : ∃ cs, afterBlanks verbose input = '-' :: cs ∧
      ¬(afterDash? verbose cs = some ']' ∨ afterDash? verbose cs = some '-')
  · obtain ⟨cs, left, other⟩ := range
    rw [left] at inner free behind
    exact rangeFrom_range_translated inner free left behind other read ahead
  · have alone : ∀ ds, afterBlanks verbose input = '-' :: ds →
        afterDash? verbose ds = some ']' ∨ afterDash? verbose ds = some '-' := fun ds left =>
      Decidable.of_not_not fun other => range ⟨ds, left, other⟩
    obtain ⟨read', within⟩ := rangeFrom_item_translated inner.clear behind alone read
    exact ⟨inClass, read', free.of_suffix within⟩

theorem classRange_translated (opens : c ≠ '[') (inner : ClearClass verbose stop (c :: cs))
    (free : Free verbose inClass stop cs) {item : ClassSet}
    (read : (classRange verbose c).outcome cs = .ok (item, rest))
    (ahead : stop.length ≤ rest.length) :
    ∃ c' cs' inClass', translatedRest inClass (c :: cs) = c' :: cs' ∧
      (c' = c ∨ c = '.' ∧ c' = '\\') ∧
      (classRange verbose c').outcome cs' = .ok (item, translatedRest inClass' rest) ∧
      Free verbose inClass' stop rest := by
  rw [classRange] at read
  obtain ⟨first, left, taken, read⟩ := Reader.of_outcome_bind read
  have within := classPrimitive_trims verbose c _ _ _ taken
  obtain ⟨c', cs', inClass', behind, front, taken', free'⟩ :=
    classPrimitive_translated inner free (fun same => absurd same opens) taken
  obtain ⟨inClass'', read', free''⟩ :=
    rangeFrom_translated (inner.tail.of_suffix within) free' read ahead
  refine ⟨c', cs', inClass'', behind, front, ?_, free''⟩
  rw [classRange, Reader.outcome_bind_ok taken', read']

end PathQuery
