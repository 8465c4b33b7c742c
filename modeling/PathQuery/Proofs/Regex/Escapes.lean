import PathQuery.Proofs.Regex.Closing

set_option autoImplicit false

namespace PathQuery.Regex

open PathQuery.Text PathQuery.Unicode

theorem Steady.hexDigits (verbose : Bool) (n : Nat) : Steady (hexDigits verbose n) := by
  induction n with
  | zero => exact .pure []
  | succ n ih =>
    refine Steady.next?.bind fun c => ?_
    cases c with
    | none => exact .fail _
    | some c =>
      refine .ite _ ?_ (.fail _)
      exact (Steady.blanks verbose).bind fun _ => ih.bind fun _ => .pure _

theorem Steady.hexLiteral (verbose : Bool) (n : Nat) : Steady (hexLiteral verbose (n + 1)) := by
  refine (Steady.blanks verbose).bind fun _ => ?_
  refine .peek_bind_of_fail rfl (fun c => ?_) ?_
  · split
    · simp at *
    · refine (Steady.skip 1).bind fun _ => (Steady.blanks verbose).bind fun _ => ?_
      refine (Steady.spaced verbose _).bind fun code => Steady.next?.bind fun c => ?_
      split
      · exact .fail _
      · refine (Steady.blanks verbose).bind fun _ => .ite _ (.fail _) ?_
        split
        · exact .fail _
        · exact .pure _
      · exact .fail _
    · refine (Steady.hexDigits verbose _).bind fun code => ?_
      split
      · exact .fail _
      · exact .pure _
  · have digit : isHexDigit ')' = false := by decide
    exact .of_error .escapeHexInvalidDigit (by simp [Regex.hexDigits, closing, digit])

theorem Steady.propertyEscape (verbose negated : Bool) :
    Steady (propertyEscape verbose negated) := by
  refine (Steady.blanks verbose).bind fun _ => Steady.next?.bind fun c => ?_
  split
  · exact .fail _
  · refine (Steady.blanks verbose).bind fun _ => (Steady.spaced verbose _).bind fun _ => ?_
    refine Steady.next?.bind fun c => ?_
    cases c with
    | none => exact .fail _
    | some c => exact .pure _
  · exact .fail _
  · exact .pure _

theorem Steady.namedBoundary (verbose : Bool) : Steady (namedBoundary verbose) := by
  refine (Steady.spaced verbose _).bind fun name => Steady.next?.bind fun c => ?_
  split
  · split
    · exact .pure _
    · exact .fail _
  · exact .fail _

theorem Steady.escaped (verbose : Bool) (c : Char) (plain : c ≠ 'b') :
    Steady (escaped verbose c) := by
  unfold Regex.escaped
  refine .ite _ (.fail _) (.ite _ (.pure _) ?_)
  split
  case h_1 => exact .hexLiteral verbose 1
  case h_2 => exact .hexLiteral verbose 3
  case h_3 => exact .hexLiteral verbose 7
  case h_4 => exact .propertyEscape verbose false
  case h_5 => exact .propertyEscape verbose true
  case h_20 => exact absurd rfl plain
  case h_24 => exact .fail _
  all_goals exact .pure _

theorem outcome_escape_of_escapable (verbose : Bool) {c : Char} (digit : c.isDigit = false)
    (escapable : isEscapable c = true) (cs : List Char) :
    (escape verbose).outcome (c :: cs) = .ok (.literal ⟨c, false⟩, cs) := by
  simp [escape, escaped, digit, escapable]

theorem boundaryName_trims (verbose : Bool) : (boundaryName verbose).Trims := by
  refine Reader.Trims.optional (Loose.trims ?_)
  refine .peek_bind rfl fun c => ?_
  split
  · refine (Steady.skip 1).toLoose.bind fun _ => (Steady.blanks verbose).toLoose.bind fun _ => ?_
    refine .peek_bind_of_fail rfl fun c => .ite _ ?_ (Steady.pure none).toLoose
    exact (Steady.namedBoundary verbose).toLoose.bind fun _ => (Steady.pure _).toLoose
  · exact (Steady.pure none).toLoose

theorem outcome_boundaryName_brace (verbose : Bool) (input : List Char) :
    (boundaryName verbose).outcome ('{' :: input) =
      match afterBlanks verbose input with
      | [] => .error .wordBoundaryUnexpectedEnd
      | c :: cs =>
          if isBoundaryNameChar c then
            (namedBoundary verbose >>= fun a => pure (some a)).outcome (c :: cs)
          else .ok (none, '{' :: input) := by
  rw [boundaryName, Reader.outcome_optional]
  cases left : afterBlanks verbose input with
  | nil => simp [left]
  | cons c cs =>
    by_cases name : isBoundaryNameChar c
    · cases read : (namedBoundary verbose).outcome (c :: cs) <;> simp [left, name, read]
    · simp [left, name]

theorem outcome_boundaryName (verbose : Bool) {input : List Char} (bare : input.head? ≠ some '{') :
    (boundaryName verbose).outcome input = .ok (none, input) := by
  rw [boundaryName, Reader.outcome_optional]
  simp only [Reader.outcome_bind, Reader.outcome_peek]
  split <;> simp_all

/-- A brace with nothing but blanks behind it. At the end of a text it is refused, and before the
closing it is left for a repetition. -/
structure BareBrace (verbose : Bool) (blank : List Char) : Prop where
  alone : afterBlanks verbose blank = []
  closed : afterBlanks verbose (blank ++ closing) = closing

theorem boundaryName_settles (verbose : Bool) (input : List Char) :
    Settles (boundaryName verbose) input ∨
      ∃ blank, input = '{' :: blank ∧ BareBrace verbose blank := by
  by_cases brace : input.head? = some '{'
  · obtain ⟨blank, rfl⟩ : ∃ blank, input = '{' :: blank := by
      cases input with
      | nil => simp at brace
      | cons c cs => exact ⟨cs, by simpa using brace⟩
    have before := outcome_boundaryName_brace verbose blank
    have behind := outcome_boundaryName_brace verbose (blank ++ closing)
    rcases afterBlanks_append_closing verbose blank with left | left
    · cases alone : afterBlanks verbose blank with
      | nil =>
        right
        exact ⟨blank, rfl, alone, by simp [left, alone]⟩
      | cons c cs =>
        left
        simp only [alone, left, List.cons_append] at before behind
        by_cases name : isBoundaryNameChar c
        · have named := (Steady.namedBoundary verbose).bind fun a => .pure (some a)
          simp only [name, if_true] at before behind
          exact (named.settles (c :: cs)).congr before behind
        · simp only [name] at before behind
          exact .same before behind
    · left
      simp only [left] at behind
      exact .swallows (.of_error _ behind)
  · have bare : (input ++ closing).head? ≠ some '{' := by
      cases input with
      | nil => simp [closing]
      | cons c cs => simpa using brace
    exact .inl (.same (outcome_boundaryName verbose brace) (outcome_boundaryName verbose bare))

theorem escaped_boundary (verbose : Bool) :
    escaped verbose 'b' =
      boundaryName verbose >>= fun special => pure (.anchor (special.getD .wordBoundary)) := by
  have digit : 'b'.isDigit = false := by decide
  have escapable : isEscapable 'b' = false := by decide
  simp [escaped, digit, escapable]

theorem escaped_boundary_anchor (verbose : Bool) :
    (escaped verbose 'b').Gives fun a => ∃ x, a = .anchor x := by
  rw [escaped_boundary]
  exact .bind (.any _) fun _ _ => .pure ⟨_, rfl⟩

theorem escaped_trims (verbose : Bool) (c : Char) : (escaped verbose c).Trims := by
  by_cases boundary : c = 'b'
  · rw [boundary, escaped_boundary]
    exact (boundaryName_trims verbose).bind fun _ => .pure _
  · exact (Steady.escaped verbose c boundary).trims

theorem escape_trims (verbose : Bool) : (escape verbose).Trims := by
  refine Steady.next?.trims.bind fun c => ?_
  cases c with
  | none => exact .fail _
  | some c => exact escaped_trims verbose c

theorem escape_settles (verbose : Bool) (input : List Char) :
    Settles (escape verbose) input ∨
      ∃ blank x, BareBrace verbose blank ∧
        (escape verbose).outcome (input ++ closing) =
          .ok (.anchor x, '{' :: (blank ++ closing)) := by
  have opened : ∀ c cs, (escape verbose).outcome (c :: cs) = (escaped verbose c).outcome cs :=
    fun c cs => by simp [escape]
  cases input with
  | nil =>
    left
    refine .swallows ?_
    rw [closing, List.nil_append, opened]
    exact .of_trims (escaped_trims verbose ')') (by simp)
  | cons c cs =>
    by_cases boundary : c = 'b'
    · subst boundary
      have named : ∀ cs, (escape verbose).outcome ('b' :: cs) =
          (boundaryName verbose >>= fun special =>
            pure (.anchor (special.getD .wordBoundary))).outcome cs := fun cs => by
        rw [opened, escaped_boundary]
      rcases boundaryName_settles verbose cs with settles | ⟨blank, rfl, bare⟩
      · exact .inl ((settles.map _).congr (named cs) (named (cs ++ closing)))
      · right
        refine ⟨blank, .wordBoundary, bare, ?_⟩
        have left_over := outcome_boundaryName_brace verbose (blank ++ closing)
        rw [bare.closed] at left_over
        simp only [List.cons_append, named, Reader.outcome_bind, left_over]
        rfl
    · left
      exact ((Steady.escaped verbose c boundary).settles cs).congr (opened c cs)
        (opened c (cs ++ closing))

end PathQuery.Regex
