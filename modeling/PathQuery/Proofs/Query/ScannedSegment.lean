import PathQuery.Proofs.Query.ScannedClass
import PathQuery.Proofs.Regex.Dotted

set_option autoImplicit false

namespace PathQuery

open PathQuery.Text PathQuery.Regex PathQuery.Dialect

variable {input rest cs : List Char} {c : Char}

theorem flagState?_eq_none {f : Flag} {items : List FlagItem} (unset : .flag f ∉ items) :
    flagState? f items = none := by
  induction items with
  | nil => rfl
  | cons item items ih =>
    obtain ⟨other, later⟩ : .flag f ≠ item ∧ .flag f ∉ items := by simpa using unset
    cases item with
    | flag g =>
      have differs : f ≠ g := fun same => other (by rw [same])
      simp [flagState?, differs, ih later]
    | negation => simp [flagState?, later]

theorem addFlag_eq_ok {items more : List FlagItem} (added : addFlag items c = .ok more) :
    (c == '-' || (flagOf? c).isSome) = true ∧
      ∃ item, more = items ++ [item] ∧ (item = .flag .verbose → c = 'x') := by
  have verbose : flagOf? c = some .verbose → c = 'x' := by
    unfold flagOf?
    split <;> simp
  unfold addFlag at added
  split at added
  case isTrue dash =>
    by_cases repeated : items.contains .negation = true
    · simp only [repeated, if_true] at added
      cases added
    · simp only [repeated] at added
      exact ⟨by simp [dash], .negation, (Except.ok.inj added).symm, by simp⟩
  case isFalse =>
    cases known : flagOf? c with
    | none => simp [known] at added
    | some f =>
      by_cases repeated : items.contains (.flag f) = true
      · simp only [known, repeated, if_true] at added
        cases added
      · simp only [known, repeated] at added
        refine ⟨by simp, .flag f, (Except.ok.inj added).symm, fun same => ?_⟩
        obtain rfl := FlagItem.flag.inj same
        exact verbose known

theorem flagItems_compact {items more : List FlagItem} {sign : Char}
    (read : Reader.outcome (flagItems items) input = .ok ((more, sign), rest))
    (compact : 'x' ∉ flagSigns input) (unset : .flag .verbose ∉ items) :
    .flag .verbose ∉ more := by
  induction input generalizing items with
  | nil => simp [Reader.outcome, flagItems] at read
  | cons c cs ih =>
    rw [outcome_flagItems_cons] at read
    by_cases ends : c = ':' ∨ c = ')'
    · by_cases dangling : items.getLast? = some .negation
      · simp [ends, dangling] at read
      · obtain ⟨⟨rfl, _⟩, _⟩ : (items = more ∧ c = sign) ∧ cs = rest := by
          simpa [ends, dangling] using read
        exact unset
    · cases added : addFlag items c with
      | error e => simp [ends, added] at read
      | ok items' =>
        simp only [ends, added, if_false] at read
        obtain ⟨known, item, rfl, verbose⟩ := addFlag_eq_ok added
        have taken : flagSigns (c :: cs) = c :: flagSigns cs := List.takeWhile_cons_of_pos known
        rw [taken, List.mem_cons, not_or] at compact
        obtain ⟨other, compact'⟩ := compact
        refine ih read compact' ?_
        simp only [List.mem_append, List.mem_singleton, not_or]
        exact ⟨unset, fun same => other (verbose same.symm).symm⟩

def Regex.Opening.Compact : Opening → Prop
  | .group .capture _ => True
  | .group (.flags items) _ | .flags items => .flag .verbose ∉ items

theorem flagOpening_compact {opening : Opening} (compact : 'x' ∉ flagSigns input)
    (read : flagOpening.outcome input = .ok (opening, rest)) : opening.Compact := by
  obtain ⟨⟨items, sign⟩, left, taken, read⟩ := Reader.of_outcome_bind read
  have unset := flagItems_compact taken compact (by simp)
  by_cases colon : sign = ':'
  · obtain ⟨rfl, _⟩ : .group (.flags items) none = opening ∧ left = rest := by
      simpa [colon] using read
    exact unset
  · by_cases empty : items = []
    · simp [colon, empty] at read
    · obtain ⟨rfl, _⟩ : .flags items = opening ∧ left = rest := by simpa [colon, empty] using read
      exact unset

theorem groupOpening_compact {taken : List String} {opening : Opening}
    (compact : StaysCompact ('(' :: input))
    (read : (groupOpening false taken).outcome input = .ok (opening, rest)) : opening.Compact := by
  have start : (blanks false).outcome input = .ok ((), input) := rfl
  rw [groupOpening, Reader.outcome_bind_ok start] at read
  obtain ⟨look, left, looks, read'⟩ := Reader.of_outcome_bind read
  cases look with
  | true => simp at read'
  | false =>
    obtain rfl := Reader.eq_of_outcome_skipAnyOf_false looks
    simp only [Bool.false_eq_true, if_false] at read'
    obtain ⟨named, left', names, read''⟩ := Reader.of_outcome_bind read'
    cases named with
    | true =>
      simp only [if_true] at read''
      obtain ⟨name, _, _, given⟩ := Reader.of_outcome_bind read''
      obtain ⟨rfl, _⟩ : .group .capture (some name) = opening ∧ _ = rest := by simpa using given
      trivial
    | false =>
      obtain rfl := Reader.eq_of_outcome_skipAnyOf_false names
      by_cases mark : ['?'] <+: left'
      · obtain ⟨flags, rfl⟩ := mark
        have opened : flagOpening.outcome flags = .ok (opening, rest) := by
          cases flags with
          | nil => simp [Reader.outcome_skipText, needMore] at read''
          | cons c cs => simpa [Reader.outcome_skipText, needMore] using read''
        have unset := compact ('(' :: '?' :: flags) (by simp)
        exact flagOpening_compact (by simpa [setsVerbose] using unset) opened
      · obtain ⟨rfl, _⟩ : .group .capture none = opening ∧ left' = rest := by
          simpa [Reader.outcome_skipText, mark] using read''
        trivial

namespace Regex.ReadState

structure Compact (s : ReadState) : Prop where
  verbose : s.verbose = false
  groups : ∀ g ∈ s.groups, g.verbose = false

theorem step_compact_of_ne {s : ReadState} (compact : s.Compact) (other : c ≠ '(') :
    (s.step c).Gives Compact := by
  have pushed : ∀ a, (s.push a).Compact := fun a => ⟨compact.verbose, compact.groups⟩
  have popped : (liftExcept s.popItem).Gives fun popped => popped.2.Compact := by
    intro input popped rest read
    obtain ⟨groups, verbose⟩ := s.popItem_same _ _ _ read
    exact ⟨verbose.trans compact.verbose, groups ▸ compact.groups⟩
  have repeated : ∀ min max, (s.repeatLast min max).Gives Compact := fun min max =>
    .bind popped fun _ compact => .bind (.any _) fun _ _ => .pure ⟨compact.verbose, compact.groups⟩
  unfold step
  split
  case h_1 => exact absurd rfl other
  case h_2 =>
    unfold closeGroup
    cases groups : s.groups with
    | nil => exact .fail
    | cons g groups' =>
      have compact' := compact.groups
      rw [groups] at compact'
      obtain ⟨first, later⟩ := List.forall_mem_cons.mp compact'
      exact .pure ⟨first, later⟩
  case h_3 => exact .pure ⟨compact.verbose, compact.groups⟩
  case h_4 => exact .bind (.any _) fun _ _ => .pure (pushed _)
  case h_5 => exact repeated 0 (some 1)
  case h_6 => exact repeated 0 none
  case h_7 => exact repeated 1 none
  case h_8 =>
    exact .bind popped fun _ compact => .bind (.any _) fun _ _ =>
      .pure ⟨compact.verbose, compact.groups⟩
  case h_9 => exact .bind (.any _) fun _ _ => .pure (pushed _)
  all_goals exact .pure (pushed _)

theorem step_compact {s next : ReadState} (compact : s.Compact) (stays : StaysCompact (c :: cs))
    (read : (s.step c).outcome cs = .ok (next, rest)) : next.Compact := by
  by_cases opens : c = '('
  · subst opens
    simp only [step, compact.verbose] at read
    obtain ⟨opening, left, taken, given⟩ := Reader.of_outcome_bind read
    have unset := groupOpening_compact stays taken
    cases opening with
    | group kind name =>
      obtain ⟨rfl, _⟩ : s.openGroup kind name = next ∧ left = rest := by simpa using given
      refine ⟨?_, List.forall_mem_cons.mpr ⟨compact.verbose, compact.groups⟩⟩
      cases kind with
      | capture => exact compact.verbose
      | flags items =>
        have same : flagState? .verbose items = none := flagState?_eq_none unset
        simp [openGroup, same, compact.verbose]
    | flags items =>
      obtain ⟨rfl, _⟩ : s.setFlags items = next ∧ left = rest := by simpa using given
      have same : flagState? .verbose items = none := flagState?_eq_none unset
      exact ⟨by simp [setFlags, same, compact.verbose], compact.groups⟩
  · exact step_compact_of_ne compact opens _ _ _ read

/-- What is left is clear in the way in which it is read now and may be read from now on. -/
structure Reads (s : ReadState) (input : List Char) : Prop where
  compact : Clear false input
  verbose : s.Compact ∧ StaysCompact input ∨ Clear true input

namespace Reads

variable {s next : ReadState}

theorem clear (reads : s.Reads input) : Clear s.verbose input := by
  rcases reads.verbose with ⟨compact, _⟩ | clear
  · rw [compact.verbose]
    exact reads.compact
  · cases s.verbose with
    | false => exact reads.compact
    | true => exact clear

theorem of_suffix (reads : s.Reads input) (suffix : rest <:+ input) : s.Reads rest :=
  ⟨reads.compact.of_suffix suffix,
    reads.verbose.imp (And.imp_right (forall_tails_of_suffix · suffix)) (Clear.of_suffix · suffix)⟩

theorem step (reads : s.Reads (c :: cs)) (read : (s.step c).outcome cs = .ok (next, rest)) :
    next.Reads rest := by
  have within := (step_trims s c _ _ _ read).trans (List.suffix_cons c cs)
  refine ⟨reads.compact.of_suffix within, reads.verbose.imp ?_ (Clear.of_suffix · within)⟩
  rintro ⟨compact, stays⟩
  exact ⟨step_compact compact stays read, forall_tails_of_suffix stays within⟩

end Reads

theorem repeatLast_copies (s : ReadState) (verbose : Bool) (min : Nat) (max : Option Nat) :
    Copies verbose false (s.repeatLast min max) input := by
  refine (Copies.liftExcept _).bind fun _ _ _ => ?_
  exact (Copies.skipText (by decide)).bind fun _ _ _ => .pure _

theorem step_copies {s : ReadState} (clear : Clear s.verbose (c :: cs))
    (other : c ≠ '[' ∧ c ≠ '\\') : Copies s.verbose false (s.step c) cs := by
  unfold step
  split
  case h_1 =>
    refine (Copies.groupOpening _ clear.groupName).bind fun opening _ _ => ?_
    cases opening with
    | group kind name => exact .pure _
    | flags items => exact .pure _
  case h_2 => exact .liftExcept _
  case h_4 => exact absurd rfl other.1
  case h_5 => exact s.repeatLast_copies _ 0 (some 1)
  case h_6 => exact s.repeatLast_copies _ 0 none
  case h_7 => exact s.repeatLast_copies _ 1 none
  case h_8 =>
    refine (Copies.liftExcept _).bind fun popped rest taken => ?_
    have same : popped.2.verbose = s.verbose := (s.popItem_same _ _ _ taken).2
    obtain ⟨a, s'⟩ := popped
    dsimp only at same ⊢
    rw [← same]
    exact Copies.repetitionCounts.bind fun _ _ _ => .pure _
  case h_9 => exact absurd rfl other.2
  all_goals exact .pure _

theorem step_translated {s next : ReadState} (clear : Clear s.verbose (c :: cs)) (other : c ≠ '.')
    (read : (s.step c).outcome cs = .ok (next, rest)) :
    ∃ cs', translatedRest false (c :: cs) = c :: cs' ∧
      (s.step c).outcome cs' = .ok (next, translatedRest false rest) := by
  by_cases bracket : c = '['
  · subst bracket
    refine ⟨_, translatedRest_open, ?_⟩
    simp only [step] at read ⊢
    obtain ⟨a, left, taken, given⟩ := Reader.of_outcome_bind read
    obtain ⟨rfl, rfl⟩ : s.push a = next ∧ left = rest := by simpa using given
    exact Reader.outcome_bind_ok (bracketClass_translated clear taken)
  · by_cases backslash : c = '\\'
    · subst backslash
      simp only [step] at read ⊢
      cases cs with
      | nil => simp [escape] at read
      | cons d ds =>
        obtain ⟨a, left, taken, given⟩ := Reader.of_outcome_bind read
        obtain ⟨rfl, rfl⟩ : s.push a = next ∧ left = rest := by simpa using given
        exact ⟨_, translatedRest_escape, Reader.outcome_bind_ok (Copies.escape clear taken).1⟩
    · have front : translatedRest false (c :: cs) = c :: translatedRest false cs := by
        by_cases closes : c = ']'
        · rw [closes, translatedRest_close]
        · exact translatedRest_plain (isPlain_iff.mpr ⟨backslash, other, bracket, closes⟩)
      exact ⟨_, front, (step_copies clear ⟨bracket, backslash⟩ clear.tail _ _ read).1⟩

theorem step_dotted {s next : ReadState} (g : OpenGroup) (clear : Clear s.verbose (c :: cs))
    (read : (s.step c).outcome cs = .ok (next, rest)) :
    ∃ c' cs', translatedRest false (c :: cs) = c' :: cs' ∧
      ((s.dotted.inside g).step c').outcome cs' =
        .ok (next.dotted.inside g, translatedRest false rest) := by
  by_cases dot : c = '.'
  · subst dot
    obtain ⟨rfl, rfl⟩ : s.push .dot = next ∧ cs = rest := by simpa [step] using read
    refine ⟨_, _, translatedRest_dot, ?_⟩
    exact Reader.outcome_bind_ok (outcome_escape_of_escapable _ rfl rfl _)
  · obtain ⟨cs', behind, taken⟩ := step_translated clear dot read
    have opened : c = ')' → s.dotted.groups ≠ [] := by
      rintro rfl bottom
      have bottom' : s.groups = [] := by simpa [dotted] using bottom
      simp [step, closeGroup, bottom', liftExcept] at read
    refine ⟨c, cs', behind, ?_⟩
    rw [inside_step s.dotted g c opened cs', dotted_step s dot cs', taken]

/-- The segment and its anchored translation side by side. -/
theorem read_translated {input : List Char} {s : ReadState} (g : OpenGroup) (reads : s.Reads input)
    {a : Ast} (read : s.read input = .ok a) :
    (s.dotted.inside g).read (translatedRest false input) = .ok (closed g a.dotted).body := by
  have start : afterBlanks (s.dotted.inside g).verbose (translatedRest false input) =
      translatedRest false (afterBlanks s.verbose input) :=
    afterBlanks_translatedRest false reads.clear
  have reads := reads.of_suffix (afterBlanks_suffix s.verbose input)
  cases left : afterBlanks s.verbose input with
  | nil =>
    rw [read_nil left, finish] at read
    rw [left, translatedRest_nil] at start
    cases groups : s.groups with
    | nil =>
      obtain rfl : s.body = a := by simpa [groups] using read
      rw [← body_dotted]
      exact read_closing g (by simp [dotted, groups]) start
    | cons h groups => simp [groups] at read
  | cons c cs =>
    rw [read_cons left] at read
    rw [left] at reads start
    cases taken : (s.step c).outcome cs with
    | error e => simp [taken] at read
    | ok found =>
      obtain ⟨next, rest⟩ := found
      have shorter : rest.length < input.length :=
        Nat.lt_of_le_of_lt (step_trims s c _ _ _ taken).length_le (length_lt_of_afterBlanks left)
      obtain ⟨c', cs', behind, taken'⟩ := step_dotted g reads.clear taken
      rw [read_cons (start.trans behind), taken']
      exact read_translated g (reads.step taken) (by simpa [taken] using read)
termination_by input.length

end Regex.ReadState

end PathQuery
