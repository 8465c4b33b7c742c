import PathQuery.Proofs.Text.Outcome
import PathQuery.Regex.Reader.Group

/-!
How readers of pattern text take a parenthesis and a dollar sign that are put behind the text. Most
of them read the text as they would without; the others run past its end, and then they take the
parenthesis for something else.
-/

set_option autoImplicit false

namespace PathQuery.Regex

open PathQuery.Text PathQuery.Unicode

-- A fact about listed characters is decided by the list, and not by going through all characters.
instance (priority := 2000) decidableListed {p : Char → Prop} [DecidablePred p] (cs : List Char) :
    Decidable (∀ c ∈ cs, p c) :=
  List.decidableBAll p cs

def closing : List Char := [')', '$']

/-- Whatever is left, the closing parenthesis is not in it. -/
def Swallows {α : Type} (o : Except Error (α × List Char)) : Prop :=
  ∀ a rest, o = .ok (a, rest) → ')' ∉ rest

namespace Swallows

variable {α β : Type} {r : PatternReader α} {f : α → PatternReader β} {input : List Char}

theorem of_error {o : Except Error (α × List Char)} (e : Error) (failed : o = .error e) :
    Swallows o := by
  intro a rest read
  simp [failed] at read

theorem of_trims (trims : r.Trims) (gone : ')' ∉ input) : Swallows (r.outcome input) := by
  intro a rest read member
  exact gone ((trims _ _ _ read).mem member)

theorem of_maps {h : α → β} {r' : PatternReader β} (maps : Reader.Maps h r r')
    (swallows : Swallows (r.outcome input)) : Swallows (r'.outcome input) := by
  intro b rest read
  rw [maps input] at read
  cases taken : r.outcome input with
  | error e => simp [taken] at read
  | ok found =>
    obtain ⟨_, rfl⟩ : h found.1 = b ∧ found.2 = rest := by simpa [taken] using read
    exact swallows _ _ taken

theorem bind (first : Swallows (r.outcome input)) (second : ∀ a, (f a).Trims) :
    Swallows ((r >>= f).outcome input) := by
  cases read : r.outcome input with
  | error e => exact of_error e (Reader.outcome_bind_error read)
  | ok taken =>
    rw [Reader.outcome_bind_ok read]
    exact of_trims (second _) (first _ _ read)

end Swallows

theorem not_mem_of_suffix_dollar {rest : List Char} (suffix : rest <:+ ['$']) : ')' ∉ rest := by
  intro member
  simpa using suffix.mem member

theorem takeWhile_append_closing (p : Char → Bool) (input : List Char) :
    ((input ++ closing).takeWhile p = input.takeWhile p ∧
      (input ++ closing).dropWhile p = input.dropWhile p ++ closing) ∨
    ')' ∉ (input ++ closing).dropWhile p := by
  induction input with
  | nil =>
    by_cases taken : p ')'
    · right
      rw [closing, List.nil_append, List.dropWhile_cons_of_pos taken]
      exact not_mem_of_suffix_dollar (List.dropWhile_suffix p)
    · simp [closing, taken]
  | cons c cs ih =>
    by_cases taken : p c
    · simpa [taken] using ih
    · simp [taken]

theorem prefix_append_closing {expected : List Char} (open_text : ')' ∉ expected)
    (input : List Char) : expected <+: input ++ closing ↔ expected <+: input := by
  refine ⟨fun longer => ?_, fun here => here.trans (List.prefix_append _ _)⟩
  rcases List.prefix_or_prefix_of_prefix longer (List.prefix_append input closing) with
    inside | ⟨more, rfl⟩
  · exact inside
  · cases more with
    | nil => simp
    | cons c more =>
      obtain ⟨rfl, _⟩ : c = ')' ∧ more <+: ['$'] := by simpa [closing] using longer
      exact absurd (by simp) open_text

theorem skipText_append_closing {expected : List Char} (open_text : ')' ∉ expected)
    (input : List Char) :
    ∃ here rest, (Reader.skipText expected : PatternReader Bool).outcome input = .ok (here, rest) ∧
      (Reader.skipText expected : PatternReader Bool).outcome (input ++ closing) =
        .ok (here, rest ++ closing) := by
  have same := prefix_append_closing open_text input
  by_cases here : expected <+: input
  · refine ⟨true, input.drop expected.length, by simp [Reader.outcome_skipText, here], ?_⟩
    simp [Reader.outcome_skipText, same.mpr here, List.drop_append_of_le_length here.length_le]
  · refine ⟨false, input, by simp [Reader.outcome_skipText, here], ?_⟩
    simp [Reader.outcome_skipText, mt same.mp here]

/-- What a reader takes from a text stays the same with the closing behind the text, or else the
closing loses its parenthesis. -/
inductive Settles {α : Type} (r : PatternReader α) (input : List Char) : Prop where
  | same {a : α} {rest : List Char} (alone : r.outcome input = .ok (a, rest))
      (closed : r.outcome (input ++ closing) = .ok (a, rest ++ closing))
  | swallows (closed : Swallows (r.outcome (input ++ closing)))

/-- The same for a reader that may also stall: it misses something at the end of the text and is
content with the closing in its place. -/
inductive Meets {α : Type} (r : PatternReader α) (input : List Char) : Prop where
  | same {a : α} {rest : List Char} (alone : r.outcome input = .ok (a, rest))
      (closed : r.outcome (input ++ closing) = .ok (a, rest ++ closing))
  | swallows (closed : Swallows (r.outcome (input ++ closing)))
  | stalls {e : Error} {a : α} (alone : r.outcome input = .error e)
      (closed : r.outcome (input ++ closing) = .ok (a, closing))

structure Loose {α : Type} (r : PatternReader α) : Prop where
  trims : r.Trims
  meets : ∀ input, Meets r input

structure Steady {α : Type} (r : PatternReader α) : Prop where
  trims : r.Trims
  settles : ∀ input, Settles r input

section

variable {α β : Type} {r r' : PatternReader α} {f : α → PatternReader β} {input : List Char}

theorem Settles.congr {input' : List Char} (settles : Settles r' input')
    (before : r.outcome input = r'.outcome input')
    (behind : r.outcome (input ++ closing) = r'.outcome (input' ++ closing)) :
    Settles r input := by
  cases settles with
  | same alone closed => exact .same (before.trans alone) (behind.trans closed)
  | swallows closed => exact .swallows (by rwa [behind])

theorem Settles.map (settles : Settles r input) (h : α → β) :
    Settles (r >>= fun a => pure (h a)) input := by
  cases settles with
  | same alone closed =>
    exact .same (Reader.outcome_bind_ok alone) (Reader.outcome_bind_ok closed)
  | swallows closed => exact .swallows (closed.bind fun _ => .pure _)

theorem Meets.congr {input' : List Char} (meets : Meets r' input')
    (before : r.outcome input = r'.outcome input')
    (behind : r.outcome (input ++ closing) = r'.outcome (input' ++ closing)) : Meets r input := by
  cases meets with
  | same alone closed => exact .same (before.trans alone) (behind.trans closed)
  | swallows closed => exact .swallows (by rwa [behind])
  | stalls alone closed => exact .stalls (before.trans alone) (behind.trans closed)

theorem Steady.toLoose (steady : Steady r) : Loose r where
  trims := steady.trims
  meets input := by
    cases steady.settles input with
    | same alone closed => exact .same alone closed
    | swallows closed => exact .swallows closed

namespace Loose

theorem congr (loose : Loose r') (same : ∀ input, r.outcome input = r'.outcome input) :
    Loose r :=
  ⟨loose.trims.congr same, fun input => (loose.meets input).congr (same _) (same _)⟩

theorem of_fails (fails : r.Fails) : Loose r where
  trims _ _ _ read := (fails _ _ _ read).elim
  meets _ := .swallows fun _ _ read => (fails _ _ _ read).elim

theorem bind (first : Loose r) (second : ∀ a, Loose (f a)) : Loose (r >>= f) where
  trims := first.trims.bind fun a => (second a).trims
  meets input := by
    cases first.meets input with
    | @same a rest alone closed =>
      have before := Reader.outcome_bind_ok (f := f) alone
      have behind := Reader.outcome_bind_ok (f := f) closed
      exact ((second a).meets rest).congr before behind
    | swallows closed => exact .swallows (closed.bind fun a => (second a).trims)
    | @stalls e a alone closed =>
      have before := Reader.outcome_bind_error (f := f) alone
      have behind := Reader.outcome_bind_ok (f := f) closed
      -- The second reader is given nothing but the closing.
      cases (second a).meets [] with
      | same alone closed =>
        obtain rfl := List.suffix_nil.mp ((second a).trims _ _ _ alone)
        exact .stalls before (behind.trans closed)
      | swallows closed => exact .swallows (by rwa [behind])
      | stalls alone closed => exact .stalls before (behind.trans closed)

theorem ite {r' : PatternReader α} (c : Prop) [Decidable c] (yes : Loose r) (no : Loose r') :
    Loose (if c then r else r') := by
  by_cases holds : c
  · rwa [if_pos holds]
  · rwa [if_neg holds]

end Loose

namespace Steady

theorem bind (first : Steady r) (second : ∀ a, Steady (f a)) : Steady (r >>= f) where
  trims := first.trims.bind fun a => (second a).trims
  settles input := by
    cases first.settles input with
    | @same a rest alone closed =>
      exact ((second a).settles rest).congr (Reader.outcome_bind_ok alone)
        (Reader.outcome_bind_ok closed)
    | swallows closed => exact .swallows (closed.bind fun a => (second a).trims)

theorem bind_of_loose (first : Loose r) (second : ∀ a, Steady (f a))
    (ends : ∀ a, Swallows ((f a).outcome closing)) : Steady (r >>= f) where
  trims := first.trims.bind fun a => (second a).trims
  settles input := by
    cases first.meets input with
    | @same a rest alone closed =>
      exact ((second a).settles rest).congr (Reader.outcome_bind_ok alone)
        (Reader.outcome_bind_ok closed)
    | swallows closed => exact .swallows (closed.bind fun a => (second a).trims)
    | @stalls e a alone closed =>
      refine .swallows ?_
      rw [Reader.outcome_bind_ok closed]
      exact ends a

theorem ite {r' : PatternReader α} (c : Prop) [Decidable c] (yes : Steady r) (no : Steady r') :
    Steady (if c then r else r') := by
  by_cases holds : c
  · rwa [if_pos holds]
  · rwa [if_neg holds]

theorem pure (a : α) : Steady (Pure.pure a : PatternReader α) :=
  ⟨.pure a, fun _ => .same rfl rfl⟩

theorem fail (e : Error) : Steady (Reader.fail e : PatternReader α) :=
  ⟨.fail e, fun _ => .swallows (.of_error e rfl)⟩

theorem liftExcept (result : Except Error α) : Steady (liftExcept result) := by
  cases result with
  | error e => exact fail e
  | ok a => exact pure a

theorem next? : Steady (Reader.next? : PatternReader (Option Char)) := by
  refine ⟨?_, fun input => ?_⟩
  · intro input a rest read
    cases input with
    | nil =>
      obtain ⟨_, rfl⟩ : none = a ∧ [] = rest := by simpa using read
      exact List.suffix_refl _
    | cons c cs =>
      obtain ⟨_, rfl⟩ : some c = a ∧ cs = rest := by simpa using read
      exact List.suffix_cons c cs
  · cases input with
    | nil =>
      refine .swallows ?_
      intro a rest read
      obtain ⟨_, rfl⟩ : some ')' = a ∧ ['$'] = rest := by simpa [closing] using read
      simp
    | cons c cs => exact .same rfl rfl

theorem skip (n : Nat) : Steady (Reader.skip n : PatternReader Unit) := by
  refine ⟨?_, fun input => ?_⟩
  · intro input a rest read
    obtain rfl : input.drop n = rest := by simpa using read
    exact List.drop_suffix n input
  · by_cases within : n ≤ input.length
    · exact .same rfl (by simp [List.drop_append_of_le_length within])
    · refine .swallows ?_
      intro a rest read
      obtain rfl : (input ++ closing).drop n = rest := by simpa using read
      have beyond : n - input.length = (n - input.length - 1) + 1 := by omega
      rw [List.drop_append, List.drop_eq_nil_of_le (by omega), List.nil_append, beyond, closing,
        List.drop_succ_cons]
      exact not_mem_of_suffix_dollar (List.drop_suffix _ _)

theorem takeWhile (p : Char → Bool) :
    Steady (Reader.takeWhile p : PatternReader (List Char)) := by
  refine ⟨?_, fun input => ?_⟩
  · intro input a rest read
    obtain ⟨_, rfl⟩ : input.takeWhile p = a ∧ input.dropWhile p = rest := by simpa using read
    exact List.dropWhile_suffix p
  · rcases takeWhile_append_closing p input with ⟨taken, left⟩ | gone
    · exact .same rfl (by simp [taken, left])
    · refine .swallows ?_
      intro a rest read
      obtain ⟨_, rfl⟩ : (input ++ closing).takeWhile p = a ∧
        (input ++ closing).dropWhile p = rest := by simpa using read
      exact gone

theorem skipText (expected : List Char) (open_text : ')' ∉ expected) :
    Steady (Reader.skipText expected : PatternReader Bool) := by
  refine ⟨?_, fun input => ?_⟩
  · intro input a rest read
    by_cases here : expected.isPrefixOf input
    · obtain ⟨_, rfl⟩ : true = a ∧ input.drop expected.length = rest := by
        simpa [Reader.outcome_skipText, here] using read
      exact List.drop_suffix _ input
    · obtain ⟨_, rfl⟩ : false = a ∧ input = rest := by simpa [Reader.outcome_skipText, here] using read
      exact List.suffix_refl _
  · obtain ⟨here, rest, alone, closed⟩ := skipText_append_closing open_text input
    exact .same alone closed

theorem skipAnyOf (texts : List (List Char)) (open_texts : ∀ text ∈ texts, ')' ∉ text) :
    Steady (Reader.skipAnyOf texts : PatternReader Bool) := by
  induction texts with
  | nil => exact pure false
  | cons text texts ih =>
    refine (skipText text (open_texts text (by simp))).bind fun here => ite _ (pure true) (ih ?_)
    intro other member
    exact open_texts other (by simp [member])

end Steady

theorem dropBlanks_suffix (inComment : Bool) (input : List Char) :
    dropBlanks inComment input <:+ input := by
  fun_induction dropBlanks inComment input with
  | case1 => exact List.suffix_refl _
  | case2 c cs ih => exact ih.trans (List.suffix_cons c cs)
  | case3 c cs _ ih => exact ih.trans (List.suffix_cons c cs)
  | case4 cs _ ih => exact ih.trans (List.suffix_cons '#' cs)
  | case5 => exact List.suffix_refl _

theorem afterBlanks_suffix (verbose : Bool) (input : List Char) :
    afterBlanks verbose input <:+ input := by
  cases verbose
  · exact List.suffix_refl _
  · exact dropBlanks_suffix false input

theorem dropBlanks_idem (inComment : Bool) (input : List Char) :
    dropBlanks false (dropBlanks inComment input) = dropBlanks inComment input := by
  fun_induction dropBlanks inComment input with
  | case1 => rfl
  | case2 c cs ih => exact ih
  | case3 c cs blank ih => exact ih
  | case4 cs blank ih => exact ih
  | case5 c cs blank sign => simp [dropBlanks, blank, sign]

theorem afterBlanks_idem {verbose : Bool} (input : List Char) :
    afterBlanks verbose (afterBlanks verbose input) = afterBlanks verbose input := by
  cases verbose with
  | false => rfl
  | true => exact dropBlanks_idem false input

theorem afterBlanks_cons_of_ne {verbose : Bool} {c : Char} (blank : isBlank c = false) (sign : c ≠ '#')
    (cs : List Char) : afterBlanks verbose (c :: cs) = c :: cs := by
  cases verbose <;> simp [afterBlanks, dropBlanks, blank, sign]

theorem length_lt_of_afterBlanks {verbose : Bool} {input cs : List Char} {c : Char}
    (left : afterBlanks verbose input = c :: cs) : cs.length < input.length := by
  have le := length_afterBlanks_le verbose input
  rw [left, List.length_cons] at le
  omega

theorem suffix_of_afterBlanks {verbose : Bool} {input cs : List Char} {c : Char}
    (left : afterBlanks verbose input = c :: cs) : cs <:+ input :=
  (List.suffix_cons c cs).trans (left ▸ afterBlanks_suffix verbose input)

-- A comment that is open at the end of the text runs through the closing.
theorem dropBlanks_append_closing (inComment : Bool) (input : List Char) :
    dropBlanks inComment (input ++ closing) = dropBlanks inComment input ++ closing ∨
      dropBlanks inComment (input ++ closing) = [] := by
  fun_induction dropBlanks inComment input with
  | case1 inComment => cases inComment <;> decide
  | case2 c cs ih => simpa [dropBlanks] using ih
  | case3 c cs blank ih => simpa [dropBlanks, blank] using ih
  | case4 cs blank ih => simpa [dropBlanks, blank] using ih
  | case5 c cs blank comment => simp [dropBlanks, blank, comment]

theorem afterBlanks_append_closing (verbose : Bool) (input : List Char) :
    afterBlanks verbose (input ++ closing) = afterBlanks verbose input ++ closing ∨
      afterBlanks verbose (input ++ closing) = [] := by
  cases verbose
  · exact .inl rfl
  · exact dropBlanks_append_closing false input

@[simp] theorem outcome_blanks (verbose : Bool) (input : List Char) :
    (blanks verbose).outcome input = .ok ((), afterBlanks verbose input) := rfl

@[simp] theorem afterBlanks_closing (verbose : Bool) : afterBlanks verbose closing = closing := by
  cases verbose <;> decide

theorem Steady.blanks (verbose : Bool) : Steady (blanks verbose) := by
  refine ⟨?_, fun input => ?_⟩
  · intro input a rest read
    obtain rfl : afterBlanks verbose input = rest := by simpa using read
    exact afterBlanks_suffix verbose input
  · rcases afterBlanks_append_closing verbose input with left | left
    · exact .same rfl (by simp [left])
    · refine .swallows ?_
      intro a rest read
      obtain rfl : [] = rest := by simpa [left] using read
      simp

theorem spacedPart_suffix (verbose : Bool) (p : Char → Bool) (input : List Char) :
    (spacedPart verbose p input).rest <:+ input := by
  fun_induction spacedPart verbose p input with
  | case1 => exact List.suffix_refl _
  | case2 c cs _ _ t ih =>
    exact (ih.trans (afterBlanks_suffix verbose cs)).trans (List.suffix_cons c cs)
  | case3 => exact List.suffix_refl _

theorem spacedPart_append_closing (verbose : Bool) (p : Char → Bool) (input : List Char) :
    ((spacedPart verbose p (input ++ closing)).value = (spacedPart verbose p input).value ∧
      (spacedPart verbose p (input ++ closing)).rest =
        (spacedPart verbose p input).rest ++ closing) ∨
    ')' ∉ (spacedPart verbose p (input ++ closing)).rest := by
  fun_induction spacedPart verbose p input with
  | case1 =>
    by_cases taken : p ')'
    · right
      simp only [List.nil_append, closing, spacedPart, taken, if_true]
      refine not_mem_of_suffix_dollar ((spacedPart_suffix _ _ _).trans ?_)
      exact afterBlanks_suffix verbose ['$']
    · simp [closing, spacedPart, taken]
  | case2 c cs taken _ t ih =>
    simp only [List.cons_append, spacedPart, taken, if_true]
    rcases afterBlanks_append_closing verbose cs with left | left
    · rw [left]
      simpa using ih
    · rw [left]
      simp [spacedPart]
  | case3 c cs taken => simp [spacedPart, taken]

@[simp] theorem outcome_spaced (verbose : Bool) (p : Char → Bool) (input : List Char) :
    (spaced verbose p).outcome input =
      .ok ((spacedPart verbose p input).value, (spacedPart verbose p input).rest) := rfl

theorem outcome_spaced_of_pos {verbose : Bool} {p : Char → Bool} {c : Char} (taken : p c = true) (cs : List Char) :
    (spaced verbose p).outcome (c :: cs) =
      match (spaced verbose p).outcome (afterBlanks verbose cs) with
      | .error e => .error e
      | .ok (name, rest) => .ok (c :: name, rest) := by
  simp [spacedPart, taken]

theorem outcome_spaced_of_neg {verbose : Bool} {p : Char → Bool} {c : Char} (left : p c = false) (cs : List Char) :
    (spaced verbose p).outcome (c :: cs) = .ok ([], c :: cs) := by
  simp [spacedPart, left]

theorem eq_of_outcome_spaced_nil {verbose : Bool} {p : Char → Bool} {input rest : List Char}
    (taken : (spaced verbose p).outcome input = .ok ([], rest)) : rest = input := by
  cases input with
  | nil => simpa [spacedPart, eq_comm] using taken
  | cons c cs =>
    by_cases here : p c = true
    · simp [outcome_spaced_of_pos here] at taken
    · rw [outcome_spaced_of_neg (by simpa using here)] at taken
      simpa [eq_comm] using taken

theorem spacedPart_taken (verbose : Bool) (p : Char → Bool) (input : List Char) :
    (∀ c ∈ (spacedPart verbose p input).value, p c = true) ∧
      ∀ c ∈ (spacedPart verbose p input).rest.head?, p c = false := by
  fun_induction spacedPart verbose p input with
  | case1 => simp
  | case2 c cs taken _ t ih => exact ⟨List.forall_mem_cons.mpr ⟨taken, ih.1⟩, ih.2⟩
  | case3 c cs taken => simpa using taken

theorem Steady.spaced (verbose : Bool) (p : Char → Bool) : Steady (spaced verbose p) := by
  refine ⟨?_, fun input => ?_⟩
  · intro input a rest read
    obtain ⟨_, rfl⟩ : (spacedPart verbose p input).value = a ∧
      (spacedPart verbose p input).rest = rest := by simpa using read
    exact spacedPart_suffix verbose p input
  · rcases spacedPart_append_closing verbose p input with ⟨taken, left⟩ | gone
    · exact .same rfl (by simp [taken, left])
    · refine .swallows ?_
      intro a rest read
      obtain ⟨_, rfl⟩ : (spacedPart verbose p (input ++ closing)).value = a ∧
        (spacedPart verbose p (input ++ closing)).rest = rest := by simpa using read
      exact gone

section

variable {next : Option Char → PatternReader α}

-- At the end of the text the one reader looks at nothing and the other at the parenthesis.
theorem Loose.peek_bind (blind : next none = next (some ')')) (ahead : ∀ c, Loose (next (some c))) :
    Loose (Reader.peek >>= next) where
  trims := Reader.Trims.peek.bind fun seen => by
    cases seen with
    | none => exact blind ▸ (ahead ')').trims
    | some c => exact (ahead c).trims
  meets input := by
    cases input with
    | nil => exact ((ahead ')').meets []).congr (by simp [blind]) (by simp [closing])
    | cons c cs => exact ((ahead c).meets (c :: cs)).congr (by simp) (by simp)

theorem Loose.peek_bind_of_fail {e : Error} (stop : next none = Reader.fail e)
    (ahead : ∀ c, Loose (next (some c))) : Loose (Reader.peek >>= next) where
  trims := Reader.Trims.peek.bind fun seen => by
    cases seen with
    | none => exact stop ▸ Reader.Trims.fail e
    | some c => exact (ahead c).trims
  meets input := by
    cases input with
    | nil =>
      have before : (Reader.peek >>= next).outcome [] = .error e := by simp [stop]
      cases (ahead ')').meets [] with
      | same alone closed =>
        obtain rfl := List.suffix_nil.mp ((ahead ')').trims _ _ _ alone)
        exact .stalls before (by simpa [closing] using closed)
      | swallows closed => exact .swallows (by simpa [closing] using closed)
      | stalls alone closed => exact .stalls before (by simpa [closing] using closed)
    | cons c cs => exact ((ahead c).meets (c :: cs)).congr (by simp) (by simp)

theorem Steady.peek_bind (blind : next none = next (some ')'))
    (ahead : ∀ c, Steady (next (some c))) : Steady (Reader.peek >>= next) where
  trims := (Loose.peek_bind blind fun c => (ahead c).toLoose).trims
  settles input := by
    cases input with
    | nil => exact ((ahead ')').settles []).congr (by simp [blind]) (by simp [closing])
    | cons c cs => exact ((ahead c).settles (c :: cs)).congr (by simp) (by simp)

theorem Steady.peek_bind_of_fail {e : Error} (stop : next none = Reader.fail e)
    (ahead : ∀ c, Steady (next (some c))) (ends : Swallows ((next (some ')')).outcome closing)) :
    Steady (Reader.peek >>= next) where
  trims := (Loose.peek_bind_of_fail stop fun c => (ahead c).toLoose).trims
  settles input := by
    cases input with
    | nil => exact .swallows (by simpa [closing] using ends)
    | cons c cs => exact ((ahead c).settles (c :: cs)).congr (by simp) (by simp)

theorem Loose.ahead_bind {next : List Char → PatternReader α}
    (blind : ∀ input, next (input ++ closing) = next input) (ahead : ∀ seen, Loose (next seen)) :
    Loose (Reader.ahead >>= next) where
  trims := by
    intro input a rest read
    exact (ahead input).trims _ _ _ (by simpa using read)
  meets input := ((ahead input).meets input).congr (by simp) (by simp [blind])

end

theorem Loose.needMore (e : Error) : Loose (needMore e) :=
  peek_bind_of_fail rfl fun _ => (Steady.pure ()).toLoose

end

end PathQuery.Regex
