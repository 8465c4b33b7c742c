import Mathlib.Data.List.Infix
import PathQuery.Proofs.Regex.Groups
import PathQuery.Query.Translation

/-!
The translation in which bare dots get a backslash, for what is left of a segment. It knows brackets
and backslashes only, and can mistake a bracket or a dot that means something else to the reader.
-/

set_option autoImplicit false

namespace PathQuery

open PathQuery.Text PathQuery.Regex PathQuery.Unicode

namespace Dialect

def translatedRest (inClass : Bool) (rest : List Char) : List Char :=
  translateRegex inClass rest ++ closing

def translatedFront : List Char → List Char
  | '^' :: ']' :: cs => '^' :: '\\' :: ']' :: translatedRest true cs
  | ']' :: cs => '\\' :: ']' :: translatedRest true cs
  | cs => translatedRest true cs

def IsPlain (c : Char) : Prop := c ∉ ['\\', '.', '[', ']']

instance (c : Char) : Decidable (IsPlain c) := inferInstanceAs (Decidable (¬_))

theorem isPlain_of {p : Char → Bool} (special : ∀ c ∈ ['\\', '.', '[', ']'], p c = false) {c : Char}
    (holds : p c = true) : IsPlain c := fun member => by simp [special c member] at holds

theorem isPlain_iff {c : Char} : IsPlain c ↔ c ≠ '\\' ∧ c ≠ '.' ∧ c ≠ '[' ∧ c ≠ ']' := by
  simp [IsPlain]

section

attribute [local simp] translateRegex

variable {inClass : Bool} {c : Char} {cs input : List Char}

@[simp] theorem translatedRest_nil : translatedRest inClass [] = closing := by
  cases inClass <;> rfl

theorem translatedRest_plain (plain : IsPlain c) :
    translatedRest inClass (c :: cs) = c :: translatedRest inClass cs := by
  obtain ⟨backslash, dot, opens, closes⟩ := isPlain_iff.mp plain
  cases inClass <;> simp [translatedRest, *]

@[simp] theorem translatedRest_escape :
    translatedRest inClass ('\\' :: c :: cs) = '\\' :: c :: translatedRest inClass cs := by
  cases inClass <;> simp [translatedRest]

@[simp] theorem translatedRest_close :
    translatedRest inClass (']' :: cs) = ']' :: translatedRest false cs := by
  cases inClass <;> simp [translatedRest]

@[simp] theorem translatedRest_dot :
    translatedRest false ('.' :: cs) = '\\' :: '.' :: translatedRest false cs := by
  simp [translatedRest]

@[simp] theorem translatedRest_dot_inside :
    translatedRest true ('.' :: cs) = '.' :: translatedRest true cs := by
  simp [translatedRest]

@[simp] theorem translatedRest_open_inside :
    translatedRest true ('[' :: cs) = '[' :: translatedRest true cs := by
  simp [translatedRest]

@[simp] theorem translatedRest_open :
    translatedRest false ('[' :: cs) = '[' :: translatedFront cs := by
  unfold translatedFront
  split
  · simp [translatedRest]
  · simp [translatedRest]
  case h_3 negated closes =>
    by_cases circumflex : ∃ ds, cs = '^' :: ds
    · obtain ⟨ds, rfl⟩ := circumflex
      have behind : translatedRest true ('^' :: ds) = '^' :: translatedRest true ds :=
        translatedRest_plain (by decide)
      rw [behind, translatedRest, translateRegex.eq_5 ds fun es same => negated es (by rw [same])]
      rfl
    · rw [translatedRest, translateRegex]
      · rfl
      · exact negated
      · exact fun ds same => circumflex ⟨ds, same⟩
      · exact closes

theorem translatedFront_eq (bare : cs.head? ≠ some ']')
    (bare' : ∀ ds, cs ≠ '^' :: ']' :: ds) : translatedFront cs = translatedRest true cs := by
  unfold translatedFront
  split
  · exact absurd rfl (bare' _)
  · exact absurd rfl bare
  · rfl

theorem translatedRest_append {w : List Char}
    (copied : ∀ c ∈ w, ∀ cs, translatedRest inClass (c :: cs) = c :: translatedRest inClass cs) :
    translatedRest inClass (w ++ cs) = w ++ translatedRest inClass cs := by
  induction w with
  | nil => rfl
  | cons c w ih =>
    obtain ⟨first, later⟩ := List.forall_mem_cons.mp copied
    rw [List.cons_append, first, ih later, List.cons_append]

theorem translatedRest_name {p : Char → Bool} {sign : Char} {rest : List Char}
    (left : cs.dropWhile p = sign :: rest)
    (name : ∀ rest, translatedRest inClass (cs.takeWhile p ++ rest) =
      cs.takeWhile p ++ translatedRest inClass rest) (plain : IsPlain sign) :
    (translatedRest inClass cs).takeWhile p = cs.takeWhile p ∧
      (translatedRest inClass cs).dropWhile p = sign :: translatedRest inClass rest := by
  have parts : cs.takeWhile p ++ sign :: rest = cs := by
    rw [← left, List.takeWhile_append_dropWhile]
  have stop : p sign = false := by simpa [left] using List.head?_dropWhile_not p cs
  have taken : ∀ c ∈ cs.takeWhile p, p c = true := List.all_eq_true.mp List.all_takeWhile
  have behind : translatedRest inClass cs =
      cs.takeWhile p ++ sign :: translatedRest inClass rest := by
    rw [← translatedRest_plain plain, ← name, parts]
  rw [behind, List.takeWhile_append_of_pos taken, List.dropWhile_append_of_pos taken]
  simp [stop]

theorem translatedRest_cons (inClass : Bool) (c : Char) (cs : List Char) :
    ∃ c' cs', translatedRest inClass (c :: cs) = c' :: cs' ∧ (c' = c ∨ c = '.' ∧ c' = '\\') := by
  by_cases plain : IsPlain c
  · exact ⟨c, _, translatedRest_plain plain, .inl rfl⟩
  · obtain rfl | rfl | rfl | rfl : c = '\\' ∨ c = '.' ∨ c = '[' ∨ c = ']' := by
      have special : c ∈ ['\\', '.', '[', ']'] := Decidable.not_not.mp plain
      simpa using special
    · cases cs with
      | nil => exact ⟨'\\', closing, by cases inClass <;> rfl, .inl rfl⟩
      | cons d ds => exact ⟨'\\', _, translatedRest_escape, .inl rfl⟩
    · cases inClass with
      | false => exact ⟨'\\', _, translatedRest_dot, .inr ⟨rfl, rfl⟩⟩
      | true => exact ⟨'.', _, translatedRest_dot_inside, .inl rfl⟩
    · cases inClass with
      | false => exact ⟨'[', _, translatedRest_open, .inl rfl⟩
      | true => exact ⟨'[', _, translatedRest_open_inside, .inl rfl⟩
    · exact ⟨']', _, translatedRest_close, .inl rfl⟩

theorem translatedRest_ne_nil (input : List Char) : translatedRest inClass input ≠ [] := by
  simp [translatedRest, closing]

theorem eq_cons_of_translatedRest (plain : IsPlain c) (parenthesis : c ≠ ')')
    (behind : translatedRest inClass input = c :: cs) :
    ∃ ds, input = c :: ds ∧ cs = translatedRest inClass ds := by
  cases input with
  | nil => simp [closing, parenthesis.symm] at behind
  | cons d ds =>
    obtain ⟨d', ds', front, rfl | ⟨_, rfl⟩⟩ := translatedRest_cons inClass d ds
    · obtain ⟨rfl, rfl⟩ : d' = c ∧ ds' = cs := by simpa [front] using behind
      rw [translatedRest_plain plain] at front
      exact ⟨ds, rfl, by simpa [eq_comm] using front⟩
    · obtain ⟨rfl, _⟩ : '\\' = c ∧ ds' = cs := by simpa [front] using behind
      exact absurd plain (by decide)

theorem head?_translatedRest (other : c ∉ ['\\', '.', ')']) :
    (translatedRest inClass input).head? = some c ↔ input.head? = some c := by
  obtain ⟨backslash, dot, parenthesis⟩ : c ≠ '\\' ∧ c ≠ '.' ∧ c ≠ ')' := by simpa using other
  cases input with
  | nil => simpa [closing] using parenthesis.symm
  | cons d ds =>
    obtain ⟨d', ds', behind, rfl | ⟨rfl, rfl⟩⟩ := translatedRest_cons inClass d ds
    · simp [behind]
    · simp [behind, backslash.symm, dot.symm]

theorem dropWhile_translatedRest {p : Char → Bool} (stop : p ')' = false)
    (special : ∀ c ∈ ['\\', '.', '[', ']'], p c = false) :
    (translatedRest inClass input).takeWhile p = input.takeWhile p ∧
      (translatedRest inClass input).dropWhile p =
        translatedRest inClass (input.dropWhile p) := by
  induction input with
  | nil => simp [closing, stop]
  | cons c cs ih =>
    by_cases taken : p c = true
    · simpa [translatedRest_plain (isPlain_of special taken), taken] using ih
    · obtain ⟨c', cs', behind, rfl | ⟨rfl, rfl⟩⟩ := translatedRest_cons inClass c cs
      · simp [behind, taken]
      · simp [behind, special]

theorem prefix_translatedRest {expected : List Char}
    (plain : ∀ c ∈ expected, IsPlain c ∧ c ≠ ')') (input : List Char) :
    expected <+: translatedRest inClass input ↔ expected <+: input := by
  induction expected generalizing input with
  | nil => simp
  | cons d expected ih =>
    obtain ⟨⟨first, parenthesis⟩, later⟩ := List.forall_mem_cons.mp plain
    obtain ⟨backslash, dot, _⟩ := isPlain_iff.mp first
    cases input with
    | nil => simp [closing, parenthesis]
    | cons c cs =>
      by_cases same : d = c
      · subst same
        rw [translatedRest_plain first]
        simp [ih later]
      · obtain ⟨c', cs', behind, rfl | ⟨rfl, rfl⟩⟩ := translatedRest_cons inClass c cs
        · simp [behind, same]
        · simp [behind, dot, backslash]

end

-- A dash that does not stand for itself behind the first item of a range.
def beginsRange (verbose : Bool) (text : List Char) : Bool :=
  match afterBlanks verbose text with
  | '-' :: cs => afterDash? verbose cs != some ']' && afterDash? verbose cs != some '-'
  | _ => false

-- A dash begins a range with the closing bracket in front of a class.
def rangeFromFront (verbose : Bool) : List Char → Bool
  | ']' :: cs | '^' :: ']' :: cs => beginsRange verbose cs
  | _ => false

-- A dash and what would be the opening of a class with a closing bracket in front.
def rangeToOpening (verbose : Bool) : List Char → Bool
  | '-' :: cs =>
      match afterBlanks verbose cs with
      | '[' :: ']' :: _ | '[' :: '^' :: ']' :: _ => true
      | _ => false
  | _ => false

/-- No range ends with a bracket that the translation takes for an opening, as far as `stop`. -/
def NoRangeToOpening (verbose : Bool) (stop text : List Char) : Prop :=
  ∀ rest ∈ text.tails, stop.length < rest.length → rangeToOpening verbose rest = false

instance (verbose : Bool) (stop text : List Char) :
    Decidable (NoRangeToOpening verbose stop text) :=
  inferInstanceAs (Decidable (∀ rest ∈ text.tails, _))

/-- Behind none of its closing brackets the translation can be led back into a class. -/
def NeverReopens (verbose : Bool) (stop text : List Char) : Prop :=
  ∀ rest ∈ text.tails, rest.head? = some ']' → NoRangeToOpening verbose stop rest

instance (verbose : Bool) (stop text : List Char) : Decidable (NeverReopens verbose stop text) :=
  inferInstanceAs (Decidable (∀ rest ∈ text.tails, _))

-- A class that the translation leaves too early, and enters again at the end of a range.
def isReopened (verbose : Bool) (text : List Char) : Bool :=
  match (bracketClass verbose).outcome text with
  | .error _ => false
  | .ok (_, rest) => !NeverReopens verbose rest text

def isPlainGroupName : List Char → Bool
  | '?' :: 'P' :: '<' :: cs | '?' :: '<' :: cs =>
      (cs.takeWhile isNameChar).all fun c => c != '.' && c != '['
  | _ => true

def isPlainProperty (verbose : Bool) : List Char → Bool
  | '{' :: cs =>
      (spacedPart verbose (· != '}') (afterBlanks verbose cs)).value.all fun c => IsPlain c
  | c :: _ => IsPlain c
  | [] => true

-- A comment up to the end of its line, with nothing in it that the translation may take for the
-- bounds of a class.
def isPlainComment : List Char → Bool
  | [] => false
  | c :: cs => c == '\n' || (c ∉ ['\\', '[', ']'] && isPlainComment cs)

-- A bracket in front that would begin a range, an opening that is none, and names and comments that
-- are not copied.
def isMistakable (verbose : Bool) : List Char → Bool
  | '[' :: cs => rangeFromFront verbose cs || isReopened verbose cs
  | '(' :: cs => !isPlainGroupName (afterBlanks verbose cs)
  | '\\' :: 'p' :: cs | '\\' :: 'P' :: cs => !isPlainProperty verbose (afterBlanks verbose cs)
  | '#' :: cs => verbose && !isPlainComment cs
  | _ => false

/-- A text that has nothing in it for which the translation mistakes a dot or a bracket. In verbose
mode blanks and comments are passed over. -/
def Clear (verbose : Bool) (text : List Char) : Prop :=
  ∀ rest ∈ text.tails, isMistakable verbose rest = false

instance (verbose : Bool) (text : List Char) : Decidable (Clear verbose text) :=
  inferInstanceAs (Decidable (∀ rest ∈ text.tails, _))

-- The flags that a text begins with, up to the sign behind them.
def flagSigns (text : List Char) : List Char :=
  text.takeWhile fun c => c == '-' || (flagOf? c).isSome

def setsVerbose : List Char → Bool
  | '(' :: '?' :: cs => 'x' ∈ flagSigns cs
  | _ => false

def StaysCompact (text : List Char) : Prop := ∀ rest ∈ text.tails, setsVerbose rest = false

instance (text : List Char) : Decidable (StaysCompact text) :=
  inferInstanceAs (Decidable (∀ rest ∈ text.tails, _))

/-- A text that is clear in each of the ways in which it may be read. -/
def Translatable (text : List Char) : Prop :=
  Clear false text ∧ (StaysCompact text ∨ Clear true text)

instance (text : List Char) : Decidable (Translatable text) := inferInstanceAs (Decidable (_ ∧ _))

/-- Where the translation is in no class by its own count, it must not find an opening before the
class is left. -/
def Free (verbose inClass : Bool) (stop text : List Char) : Prop :=
  inClass = false → NoRangeToOpening verbose stop text

theorem forall_tails_of_suffix {p : List Char → Prop} {text rest : List Char}
    (all : ∀ left ∈ text.tails, p left) (suffix : rest <:+ text) : ∀ left ∈ rest.tails, p left := by
  simp only [List.mem_tails] at all ⊢
  exact fun left within => all left (within.trans suffix)

namespace NoRangeToOpening

variable {verbose : Bool} {cs stop text rest : List Char}

theorem of_suffix (free : NoRangeToOpening verbose stop text) (suffix : rest <:+ text) :
    NoRangeToOpening verbose stop rest :=
  forall_tails_of_suffix free suffix

theorem opening (free : NoRangeToOpening verbose stop ('-' :: text))
    (left : afterBlanks verbose text = '[' :: cs) (ahead : stop.length ≤ cs.length) :
    translatedFront cs = translatedRest true cs := by
  have longer := (suffix_of_afterBlanks left).length_le
  have front := free ('-' :: text) (by simp) (by simp only [List.length_cons]; omega)
  simp only [rangeToOpening, left] at front
  refine translatedFront_eq (fun closes => ?_) ?_
  · obtain ⟨cs, rfl⟩ := List.head?_eq_some_iff.mp closes
    simp at front
  · rintro ds rfl
    simp at front

end NoRangeToOpening

namespace Free

variable {verbose inClass : Bool} {stop text rest : List Char}

theorem inside : Free verbose true stop text := by simp [Free]

theorem of_suffix (free : Free verbose inClass stop text) (suffix : rest <:+ text) :
    Free verbose inClass stop rest := fun outside => (free outside).of_suffix suffix

end Free

namespace Clear

variable {verbose : Bool} {c d : Char} {cs text rest : List Char}

theorem of_suffix (clear : Clear verbose text) (suffix : rest <:+ text) : Clear verbose rest :=
  forall_tails_of_suffix clear suffix

theorem tail (clear : Clear verbose (c :: cs)) : Clear verbose cs :=
  clear.of_suffix (List.suffix_cons c cs)

theorem not_mistakable (clear : Clear verbose text) : isMistakable verbose text = false :=
  clear text (by simp)

theorem front (clear : Clear verbose ('[' :: cs)) : rangeFromFront verbose cs = false :=
  (Bool.or_eq_false_iff.mp clear.not_mistakable).1

theorem neverReopens (clear : Clear verbose ('[' :: cs)) {a : Ast}
    (read : (bracketClass verbose).outcome cs = .ok (a, rest)) : NeverReopens verbose rest cs := by
  have kept := (Bool.or_eq_false_iff.mp clear.not_mistakable).2
  simpa [isReopened, read] using kept

theorem groupName (clear : Clear verbose ('(' :: cs)) :
    isPlainGroupName (afterBlanks verbose cs) = true := by
  simpa [isMistakable] using clear.not_mistakable

theorem property (clear : Clear verbose ('\\' :: c :: cs)) (sign : c = 'p' ∨ c = 'P') :
    isPlainProperty verbose (afterBlanks verbose cs) = true := by
  rcases sign with rfl | rfl <;> simpa [isMistakable] using clear.not_mistakable

theorem comment (clear : Clear true ('#' :: cs)) : isPlainComment cs = true := by
  simpa [isMistakable] using clear.not_mistakable

end Clear

section

variable {verbose inClass : Bool} {input : List Char}

-- In a comment a dot may get a backslash: it is passed over all the same.
theorem dropBlanks_translatedRest_comment {c : Char} (harmless : c ∉ ['\\', '[', ']'])
    (cs : List Char) : dropBlanks true (translatedRest inClass (c :: cs)) =
      dropBlanks (c != '\n') (translatedRest inClass cs) := by
  by_cases dot : c = '.'
  · subst dot
    cases inClass <;> simp [dropBlanks]
  · have plain : IsPlain c := by
      simp only [List.mem_cons, List.not_mem_nil, or_false, not_or] at harmless
      exact isPlain_iff.mpr ⟨harmless.1, dot, harmless.2⟩
    rw [translatedRest_plain plain, dropBlanks]

theorem dropBlanks_translatedRest {inComment : Bool} (clear : Clear true input)
    (comment : inComment = true → isPlainComment input = true) :
    dropBlanks inComment (translatedRest inClass input) =
      translatedRest inClass (dropBlanks inComment input) := by
  have blanks : ∀ c ∈ ['\\', '.', '[', ']'], isBlank c = false := by decide
  induction input generalizing inComment with
  | nil =>
    cases inComment with
    | false => simp only [dropBlanks, translatedRest_nil]; decide
    | true => simp [isPlainComment] at comment
  | cons c cs ih =>
    cases inComment with
    | true =>
      have plain : c = '\n' ∨ c ∉ ['\\', '[', ']'] ∧ isPlainComment cs = true := by
        simpa [isPlainComment] using comment rfl
      rw [dropBlanks_translatedRest_comment, dropBlanks, ih clear.tail]
      · intro same_line
        rcases plain with rfl | ⟨_, later⟩
        · simp at same_line
        · exact later
      · rcases plain with rfl | ⟨harmless, _⟩
        · decide
        · exact harmless
    | false =>
      by_cases blank : isBlank c = true
      · simp [translatedRest_plain (isPlain_of blanks blank), dropBlanks, blank, ih clear.tail]
      · by_cases sign : c = '#'
        · subst sign
          have plain : IsPlain '#' := by decide
          simp [translatedRest_plain plain, dropBlanks, blank, ih clear.tail, clear.comment]
        · obtain ⟨c', cs', behind, rfl | ⟨rfl, rfl⟩⟩ := translatedRest_cons inClass c cs
          · simp [behind, dropBlanks, blank, sign]
          · simp [behind, dropBlanks, blanks]

theorem afterBlanks_translatedRest (inClass : Bool) (clear : Clear verbose input) :
    afterBlanks verbose (translatedRest inClass input) =
      translatedRest inClass (afterBlanks verbose input) := by
  cases verbose with
  | false => rfl
  | true => exact dropBlanks_translatedRest clear (by simp)

theorem afterDash?_of_ne (other : (input.dropWhile isBlank).head? ≠ some '#') :
    afterDash? true input = (input.dropWhile isBlank).head? := by
  simp only [afterDash?, if_true]
  split
  case h_1 sign => simp [sign] at other
  · rfl

theorem afterDash?_translatedRest {c : Char} (other : c ∉ ['\\', '.', ')']) :
    afterDash? verbose (translatedRest inClass input) = some c ↔
      afterDash? verbose input = some c := by
  have dropped : ∀ input, (translatedRest inClass input).dropWhile isBlank =
      translatedRest inClass (input.dropWhile isBlank) := fun input =>
    (dropWhile_translatedRest (by decide) (by decide)).2
  cases verbose with
  | false => exact head?_translatedRest other
  | true =>
    by_cases sign : (input.dropWhile isBlank).head? = some '#'
    · obtain ⟨cs, left⟩ := List.head?_eq_some_iff.mp sign
      simp only [afterDash?, if_true, dropped, left]
      rw [translatedRest_plain (by decide)]
      simp only [dropped]
      exact head?_translatedRest other
    · have sign' : (translatedRest inClass (input.dropWhile isBlank)).head? ≠ some '#' :=
        mt (head?_translatedRest (by decide)).mp sign
      rw [← dropped] at sign'
      rw [afterDash?_of_ne sign, afterDash?_of_ne sign', dropped]
      exact head?_translatedRest other

theorem Clear.behindBlanks (clear : Clear verbose input) :
    Clear verbose (afterBlanks verbose input) :=
  clear.of_suffix (afterBlanks_suffix verbose input)

end

structure ClearClass (verbose : Bool) (stop text : List Char) : Prop where
  clear : Clear verbose text
  neverReopens : NeverReopens verbose stop text

namespace ClearClass

variable {verbose : Bool} {c : Char} {cs stop text rest : List Char}

theorem of_suffix (inner : ClearClass verbose stop text) (suffix : rest <:+ text) :
    ClearClass verbose stop rest :=
  ⟨inner.clear.of_suffix suffix, forall_tails_of_suffix inner.neverReopens suffix⟩

theorem tail (inner : ClearClass verbose stop (c :: cs)) : ClearClass verbose stop cs :=
  inner.of_suffix (List.suffix_cons c cs)

theorem behindBlanks (inner : ClearClass verbose stop text) :
    ClearClass verbose stop (afterBlanks verbose text) :=
  inner.of_suffix (afterBlanks_suffix verbose text)

theorem free (inner : ClearClass verbose stop (']' :: cs)) (inClass : Bool) :
    Free verbose inClass stop cs := fun _ =>
  (inner.neverReopens (']' :: cs) (by simp) rfl).of_suffix (List.suffix_cons ']' cs)

end ClearClass

end Dialect

end PathQuery
