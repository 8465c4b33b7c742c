import PathQuery.Proofs.Regex.Groups
import PathQuery.Regex.Reader

set_option autoImplicit false

namespace PathQuery.Regex

open PathQuery.Text PathQuery.Unicode

namespace ReadState

variable {s : ReadState} {input cs : List Char} {c : Char} {a : Ast}

theorem read_nil (left : afterBlanks s.verbose input = []) : s.read input = s.finish := by
  unfold read
  split
  case h_1 => rfl
  case h_2 more => simp [left] at more

theorem read_cons (left : afterBlanks s.verbose input = c :: cs) :
    s.read input =
      match (s.step c).outcome cs with
      | .error e => .error e
      | .ok (next, rest) => next.read rest := by
  generalize result : s.read input = whole
  unfold read at result
  split at result
  case h_1 empty => simp [left] at empty
  case h_2 c' cs' more =>
    obtain ⟨rfl, rfl⟩ : c = c' ∧ cs = cs' := by simpa [left] using more
    subst result
    unfold Reader.outcome
    cases s.step c cs <;> rfl

theorem step_steady (s : ReadState) (c : Char) (plain : c ≠ '\\') : Steady (s.step c) := by
  have repeated : ∀ min max, Steady (s.repeatLast min max) := fun min max =>
    (Steady.liftExcept _).bind fun _ => (Steady.skipText ['?'] (by decide)).bind fun _ => .pure _
  unfold step
  split
  case h_1 =>
    refine (Steady.groupOpening s.verbose s.names).bind fun opening => ?_
    cases opening with
    | group kind name => exact .pure _
    | flags items => exact .pure _
  case h_2 => exact .liftExcept _
  case h_4 => exact (Steady.bracketClass s.verbose).bind fun _ => .pure _
  case h_5 => exact repeated 0 (some 1)
  case h_6 => exact repeated 0 none
  case h_7 => exact repeated 1 none
  case h_8 =>
    exact (Steady.liftExcept _).bind fun popped =>
      (Steady.repetitionCounts popped.2.verbose).bind fun _ => .pure _
  case h_9 => exact absurd rfl plain
  all_goals exact .pure _

theorem step_trims (s : ReadState) (c : Char) : (s.step c).Trims := by
  by_cases backslash : c = '\\'
  · subst backslash
    exact (escape_trims s.verbose).bind fun _ => .pure _
  · exact (step_steady s c backslash).trims

theorem popItem_same (s : ReadState) :
    (liftExcept s.popItem).Gives fun popped =>
      popped.2.groups = s.groups ∧ popped.2.verbose = s.verbose := by
  unfold popItem
  split
  case h_4 => exact .pure ⟨rfl, rfl⟩
  all_goals exact .fail

theorem repeatLast_groups (s : ReadState) (min : Nat) (max : Option Nat) :
    (s.repeatLast min max).Gives fun next => s.groups.length ≤ next.groups.length := by
  refine .bind s.popItem_same fun popped same => .bind (.any _) fun _ _ => .pure ?_
  simp [push, same.1]

-- A step closes one group at most, and only a parenthesis does.
theorem step_groups (s : ReadState) (c : Char) :
    (s.step c).Gives fun next =>
      s.groups.length ≤ next.groups.length + if c = ')' then 1 else 0 := by
  by_cases closes : c = ')'
  · subst closes
    simp only [step, closeGroup, if_true]
    cases groups : s.groups with
    | nil => exact .fail
    | cons g groups => exact .pure (by simp)
  · simp only [if_neg closes, Nat.add_zero]
    unfold step
    split
    case h_1 =>
      refine .bind (.any _) fun opening _ => ?_
      cases opening with
      | group kind name => exact .pure (by simp [openGroup])
      | flags items => exact .pure (by simp [setFlags, push])
    case h_2 => exact absurd rfl closes
    case h_4 => exact .bind (.any _) fun _ _ => .pure (by simp [push])
    case h_5 => exact s.repeatLast_groups 0 (some 1)
    case h_6 => exact s.repeatLast_groups 0 none
    case h_7 => exact s.repeatLast_groups 1 none
    case h_8 =>
      refine .bind s.popItem_same fun popped same => .bind (.any _) fun _ _ => .pure ?_
      simp [push, same.1]
    case h_9 => exact .bind (.any _) fun _ _ => .pure (by simp [push])
    all_goals exact .pure (by simp [push, nextBranch])

theorem length_groups_le {s : ReadState} {input : List Char} {a : Ast}
    (read : s.read input = .ok a) :
    s.groups.length ≤ (afterBlanks s.verbose input).count ')' := by
  cases left : afterBlanks s.verbose input with
  | nil =>
    rw [read_nil left, finish] at read
    cases groups : s.groups with
    | nil => simp
    | cons g groups => simp [groups] at read
  | cons c cs =>
    have shorter := length_lt_of_afterBlanks left
    rw [read_cons left] at read
    cases taken : (s.step c).outcome cs with
    | error e => simp [taken] at read
    | ok found =>
      obtain ⟨next, rest⟩ := found
      have passed := step_trims s c _ _ _ taken
      have := passed.length_le
      have step := step_groups s c _ _ _ taken
      have later := length_groups_le (by simpa [taken] using read : next.read rest = .ok a)
      have fewer := ((afterBlanks_suffix next.verbose rest).trans passed).sublist.count_le ')'
      rw [List.count_cons]
      simp only [beq_iff_eq]
      omega
termination_by input.length

def inside (s : ReadState) (g : OpenGroup) : ReadState := { s with groups := s.groups ++ [g] }

theorem inside_popItem (s : ReadState) (g : OpenGroup) :
    Reader.Maps (fun popped : Ast × ReadState => (popped.1, popped.2.inside g))
      (liftExcept s.popItem) (liftExcept (s.inside g).popItem) := by
  obtain ⟨groups, branches, items, verbose, names⟩ := s
  unfold popItem
  cases items with
  | nil => exact .fail _
  | cons a items =>
    cases a with
    | empty => exact .fail _
    | flags => exact .fail _
    | _ => exact .pure _

theorem inside_repeatLast (s : ReadState) (g : OpenGroup) (min : Nat) (max : Option Nat) :
    Reader.Maps (inside · g) (s.repeatLast min max) ((s.inside g).repeatLast min max) :=
  .bind (s.inside_popItem g) fun _ => .bind (.refl _) fun _ => .pure _

theorem inside_step (s : ReadState) (g : OpenGroup) (c : Char)
    (opened : c = ')' → s.groups ≠ []) :
    Reader.Maps (inside · g) (s.step c) ((s.inside g).step c) := by
  unfold step
  split
  case h_1 =>
    refine .bind (.refl _) fun opening => ?_
    cases opening with
    | group kind name => exact .pure _
    | flags items => exact .pure _
  case h_2 =>
    obtain ⟨groups, branches, items, verbose, names⟩ := s
    cases groups with
    | nil => exact absurd rfl (opened rfl)
    | cons g groups => exact .pure _
  case h_4 => exact .bind (.refl _) fun _ => .pure _
  case h_5 => exact s.inside_repeatLast g 0 (some 1)
  case h_6 => exact s.inside_repeatLast g 0 none
  case h_7 => exact s.inside_repeatLast g 1 none
  case h_8 => exact .bind (s.inside_popItem g) fun _ => .bind (.refl _) fun _ => .pure _
  case h_9 => exact .bind (.refl _) fun _ => .pure _
  all_goals exact .pure _

theorem read_ne_ok_of_swallows (left : afterBlanks s.verbose input = c :: cs)
    (swallows : Swallows ((s.step c).outcome cs))
    (deep : (if c = ')' then 1 else 0) < s.groups.length) : s.read input ≠ .ok a := by
  intro read
  rw [read_cons left] at read
  cases taken : (s.step c).outcome cs with
  | error e => simp [taken] at read
  | ok found =>
    obtain ⟨next, rest⟩ := found
    have step := step_groups s c _ _ _ taken
    have later := length_groups_le (by simpa [taken] using read : next.read rest = .ok a)
    have none_left : ')' ∉ afterBlanks next.verbose rest := fun member =>
      swallows _ _ taken ((afterBlanks_suffix _ _).mem member)
    rw [List.count_eq_zero_of_not_mem none_left] at later
    omega

def closed (g : OpenGroup) (body : Ast) : ReadState :=
  ⟨[], g.branches, .anchor .lineEnd :: .group g.kind body :: g.items, g.verbose, []⟩

theorem read_closing (g : OpenGroup) (bottom : s.groups = [])
    (left : afterBlanks s.verbose input = closing) :
    (s.inside g).read input = .ok (closed g s.body).body := by
  have dollar : ∀ verbose, afterBlanks verbose ['$'] = ['$'] := by decide
  have nothing : ∀ verbose, afterBlanks verbose [] = [] := by decide
  have left' : afterBlanks (s.inside g).verbose input = [')', '$'] := left
  rw [read_cons left']
  simp only [step, closeGroup, inside, bottom, liftExcept, List.nil_append, Reader.outcome_pure]
  rw [read_cons (dollar _)]
  simp only [step, push, Reader.outcome_pure]
  rw [read_nil (nothing _)]
  rfl

theorem step_settles (s : ReadState) (c : Char) (input : List Char) :
    Settles (s.step c) input ∨
      ∃ blank x, BareBrace s.verbose blank ∧
        (s.step c).outcome (input ++ closing) =
          .ok (s.push (.anchor x), '{' :: (blank ++ closing)) := by
  by_cases backslash : c = '\\'
  · subst backslash
    rcases escape_settles s.verbose input with settles | ⟨blank, x, bare, closed⟩
    · exact .inl (settles.map s.push)
    · refine .inr ⟨blank, x, bare, ?_⟩
      exact Reader.outcome_bind_ok closed
  · exact .inl ((step_steady s c backslash).settles input)

-- The brace is taken for a repetition of the boundary, and the closing has no counts for it.
theorem read_bareBrace {s : ReadState} {blank : List Char} (bare : BareBrace s.verbose blank)
    (deep : 0 < s.groups.length) : s.read ('{' :: (blank ++ closing)) ≠ .ok a := by
  have left : afterBlanks s.verbose ('{' :: (blank ++ closing)) = '{' :: (blank ++ closing) := by
    cases s.verbose <;> rfl
  refine read_ne_ok_of_swallows left ?_ deep
  simp only [step]
  cases popped : s.popItem with
  | error e => exact .of_error e rfl
  | ok found =>
    have taken : (liftExcept (.ok found) : PatternReader (Ast × ReadState)).outcome
        (blank ++ closing) = .ok (found, blank ++ closing) := rfl
    have same := (s.popItem_same (blank ++ closing) found _ (popped ▸ taken)).2
    rw [Reader.outcome_bind_ok taken]
    exact (repetitionCounts_closing (same ▸ bare.closed)).bind fun _ => .pure _

theorem read_inside_step {s : ReadState} {g : OpenGroup} {input cs : List Char} {c : Char}
    (opened : c = ')' → s.groups ≠ [])
    (left : afterBlanks s.verbose input = c :: (cs ++ closing))
    (read : (s.inside g).read input = .ok a) :
    ∃ next rest, (s.step c).outcome cs = .ok (next, rest) ∧
      (next.inside g).read (rest ++ closing) = .ok a := by
  have mirrored := inside_step s g c opened (cs ++ closing)
  have left' : afterBlanks (s.inside g).verbose input = c :: (cs ++ closing) := left
  have deep : (if c = ')' then 1 else 0) < (s.inside g).groups.length := by
    by_cases closes : c = ')'
    · have := List.length_pos_iff.mpr (opened closes)
      simp [inside, closes, this]
    · simp [inside, closes]
  rcases step_settles s c cs with settles | ⟨blank, x, bare, closed⟩
  · cases settles with
    | @same next rest alone closed =>
      rw [read_cons left', mirrored, closed] at read
      exact ⟨next, rest, alone, read⟩
    | swallows closed =>
      have swallows := Swallows.of_maps (inside_step s g c opened) closed
      exact absurd read (read_ne_ok_of_swallows left' swallows deep)
  · rw [read_cons left', mirrored, closed] at read
    exact absurd read (read_bareBrace bare (by simp [inside]))

theorem read_inside {s : ReadState} {g : OpenGroup} {input : List Char} {a : Ast}
    (read : (s.inside g).read (input ++ closing) = .ok a) :
    (∃ body, s.read input = .ok body ∧ a = (closed g body).body) ∨
      s.read input = .error .groupUnopened := by
  rcases afterBlanks_append_closing s.verbose input with behind | behind
  · cases left : afterBlanks s.verbose input with
    | nil =>
      rw [left, List.nil_append] at behind
      cases groups : s.groups with
      | nil =>
        refine .inl ⟨s.body, by rw [read_nil left, finish, groups], ?_⟩
        exact Except.ok.inj (read.symm.trans (read_closing g groups behind))
      | cons h groups =>
        -- The closing closes one group, and there are two.
        have fits : (s.inside g).groups.length ≤
            (afterBlanks s.verbose (input ++ closing)).count ')' := length_groups_le read
        have one : closing.count ')' = 1 := by decide
        rw [behind, one] at fits
        simp [inside, groups] at fits
    | cons c cs =>
      rw [left, List.cons_append] at behind
      by_cases top : c = ')' ∧ s.groups = []
      · obtain ⟨rfl, bottom⟩ := top
        right
        simp [read_cons left, step, closeGroup, bottom, liftExcept]
      · obtain ⟨next, rest, taken, read'⟩ :=
          read_inside_step (fun closes bottom => top ⟨closes, bottom⟩) behind read
        have shorter := length_lt_of_afterBlanks left
        have passed := (step_trims s c _ _ _ taken).length_le
        rw [read_cons left, taken]
        exact read_inside read'
  · have open_end : (s.inside g).read (input ++ closing) = .error .groupUnclosed := by
      have behind' : afterBlanks (s.inside g).verbose (input ++ closing) = [] := behind
      rw [read_nil behind', finish]
      cases groups : (s.inside g).groups with
      | nil => simp [inside] at groups
      | cons _ _ => rfl
    simp [open_end] at read
termination_by input.length

end ReadState

end PathQuery.Regex
