import PathQuery.Text.Reading

set_option autoImplicit false

namespace PathQuery

section Except

variable {ε ε' α β : Type} {x : Except ε α} {a : α} {b : β}

theorem bind_eq_ok {f : α → Except ε β} : x >>= f = .ok b ↔ ∃ a, x = .ok a ∧ f a = .ok b := by
  cases x with
  | error e => simp [bind, Except.bind]
  | ok a => simp [bind, Except.bind]

theorem map_eq_ok {f : α → β} : x.map f = .ok b ↔ ∃ a, x = .ok a ∧ f a = b := by
  cases x with
  | error e => simp [Except.map]
  | ok a => simp [Except.map]

theorem mapError_eq_ok {f : ε → ε'} : x.mapError f = .ok a ↔ x = .ok a := by
  cases x with
  | error e => constructor <;> intro same <;> cases same
  | ok a => constructor <;> intro same <;> cases same <;> rfl

theorem exists_eq_ok (succeeds : x.isOk = true) : ∃ a, x = .ok a := by
  cases x with
  | error e => cases succeeds
  | ok a => exact ⟨a, rfl⟩

end Except

end PathQuery

namespace PathQuery.Text.Reader

variable {τ ε α β γ : Type} {r : Reader τ ε α} {f : α → Reader τ ε β} {input : List τ}

/-- The value that a reader gives and the rest, without the bound on its length. -/
def outcome (r : Reader τ ε α) (input : List τ) : Except ε (α × List τ) :=
  match r input with
  | .error e => .error e
  | .ok taken => .ok (taken.value, taken.rest)

@[simp] theorem outcome_pure (a : α) :
    (pure a : Reader τ ε α).outcome input = .ok (a, input) := rfl

@[simp] theorem outcome_fail (e : ε) : (fail e : Reader τ ε α).outcome input = .error e := rfl

theorem of_outcome {a : α} {rest : List τ} (read : r.outcome input = .ok (a, rest)) :
    ∃ le, r input = .ok ⟨a, rest, le⟩ := by
  cases taken : r input with
  | error e => simp [outcome, taken] at read
  | ok t =>
    obtain ⟨value, left, le⟩ := t
    obtain ⟨rfl, rfl⟩ : value = a ∧ left = rest := by simpa [outcome, taken] using read
    exact ⟨le, rfl⟩

theorem outcome_bind_ok {a : α} {rest : List τ} (read : r.outcome input = .ok (a, rest)) :
    (r >>= f).outcome input = (f a).outcome rest := by
  obtain ⟨le, taken⟩ := of_outcome read
  simp only [outcome, bind, taken]
  cases f a rest <;> rfl

theorem outcome_bind_error {e : ε} (fails : r.outcome input = .error e) :
    (r >>= f).outcome input = .error e := by
  cases taken : r input with
  | error e' =>
    obtain rfl : e' = e := by simpa [outcome, taken] using fails
    simp [outcome, bind, taken]
  | ok t => simp [outcome, taken] at fails

@[simp] theorem outcome_bind :
    (r >>= f).outcome input =
      match r.outcome input with
      | .error e => .error e
      | .ok (a, rest) => (f a).outcome rest := by
  cases read : r.outcome input with
  | error e => exact outcome_bind_error read
  | ok taken => exact outcome_bind_ok read

theorem of_outcome_bind {b : β} {rest : List τ} (read : (r >>= f).outcome input = .ok (b, rest)) :
    ∃ a left, r.outcome input = .ok (a, left) ∧ (f a).outcome left = .ok (b, rest) := by
  cases taken : r.outcome input with
  | error e => simp [taken] at read
  | ok found => exact ⟨found.1, found.2, rfl, by rwa [outcome_bind_ok taken] at read⟩

theorem outcome_bind_assoc (g : β → Reader τ ε γ) :
    ((r >>= f) >>= g).outcome input = (r >>= fun a => f a >>= g).outcome input := by
  cases read : r.outcome input with
  | error e => simp [read]
  | ok taken => simp [read]

@[simp] theorem outcome_peek :
    (peek : Reader τ ε (Option τ)).outcome input = .ok (input.head?, input) := rfl

@[simp] theorem outcome_ahead :
    (ahead : Reader τ ε (List τ)).outcome input = .ok (input, input) := rfl

@[simp] theorem outcome_next?_nil :
    (next? : Reader τ ε (Option τ)).outcome [] = .ok (none, []) := rfl

@[simp] theorem outcome_next?_cons (c : τ) :
    (next? : Reader τ ε (Option τ)).outcome (c :: input) = .ok (some c, input) := rfl

@[simp] theorem outcome_skip (n : Nat) :
    (skip n : Reader τ ε Unit).outcome input = .ok ((), input.drop n) := rfl

@[simp] theorem outcome_takeWhile (p : τ → Bool) :
    (takeWhile p : Reader τ ε (List τ)).outcome input =
      .ok (input.takeWhile p, input.dropWhile p) := rfl

theorem outcome_takeWhile_append {p : τ → Bool} {taken rest : List τ}
    (good : ∀ a ∈ taken, p a = true) (stop : ∀ a ∈ rest.head?, p a = false) :
    (takeWhile p : Reader τ ε (List τ)).outcome (taken ++ rest) = .ok (taken, rest) := by
  rw [outcome_takeWhile, List.takeWhile_append_of_pos good, List.dropWhile_append_of_pos good]
  cases rest with
  | nil => simp
  | cons a rest => simp [stop a rfl]

theorem outcome_skipText [BEq τ] (expected : List τ) :
    (skipText expected : Reader τ ε Bool).outcome input =
      if expected.isPrefixOf input then .ok (true, input.drop expected.length)
      else .ok (false, input) := by
  by_cases here : expected.isPrefixOf input <;> simp [outcome, skipText, here]

theorem eq_of_outcome_skipAnyOf_false [BEq τ] [LawfulBEq τ] {texts : List (List τ)} {rest : List τ}
    (read : (skipAnyOf texts : Reader τ ε Bool).outcome input = .ok (false, rest)) :
    rest = input := by
  induction texts with
  | nil => simpa [skipAnyOf, eq_comm] using read
  | cons text texts ih =>
    by_cases here : text <+: input
    · simp [skipAnyOf, outcome_skipText, here] at read
    · exact ih (by simpa [skipAnyOf, outcome_skipText, here] using read)

theorem append_of_outcome_skipAnyOf_true [BEq τ] [LawfulBEq τ] {texts : List (List τ)}
    {rest : List τ} (read : (skipAnyOf texts : Reader τ ε Bool).outcome input = .ok (true, rest)) :
    ∃ text ∈ texts, input = text ++ rest := by
  induction texts with
  | nil => simp [skipAnyOf] at read
  | cons text texts ih =>
    by_cases here : text <+: input
    · obtain ⟨rest', rfl⟩ := here
      obtain rfl : rest' = rest := by simpa [skipAnyOf, outcome_skipText] using read
      exact ⟨text, by simp, rfl⟩
    · obtain ⟨text', member, same⟩ :=
        ih (by simpa [skipAnyOf, outcome_skipText, here] using read)
      exact ⟨text', by simp [member], same⟩

theorem outcome_optional (r : Reader τ ε (Option α)) :
    r.optional.outcome input =
      match r.outcome input with
      | .error e => .error e
      | .ok (none, _) => .ok (none, input)
      | .ok (some a, rest) => .ok (some a, rest) := by
  unfold outcome optional
  cases read : r input with
  | error e => simp
  | ok taken =>
    obtain ⟨value, rest, _⟩ := taken
    cases value <;> simp

def Trims (r : Reader τ ε α) : Prop :=
  ∀ input a rest, r.outcome input = .ok (a, rest) → rest <:+ input

namespace Trims

theorem congr {r' : Reader τ ε α} (trims : r'.Trims)
    (same : ∀ input, r.outcome input = r'.outcome input) : r.Trims := by
  intro input a rest read
  exact trims _ _ _ (same input ▸ read)

theorem pure (a : α) : (Pure.pure a : Reader τ ε α).Trims := by
  intro input b rest read
  obtain ⟨rfl, rfl⟩ : a = b ∧ input = rest := by simpa using read
  exact List.suffix_refl _

theorem fail (e : ε) : (Reader.fail e : Reader τ ε α).Trims := by
  intro input b rest read
  simp at read

theorem bind (first : r.Trims) (second : ∀ a, (f a).Trims) : (r >>= f).Trims := by
  intro input b rest read
  cases taken : r.outcome input with
  | error e => simp [taken] at read
  | ok found =>
    rw [outcome_bind_ok taken] at read
    exact (second _ _ _ _ read).trans (first _ _ _ taken)

theorem peek : (Reader.peek : Reader τ ε (Option τ)).Trims := by
  intro input b rest read
  obtain ⟨_, rfl⟩ : input.head? = b ∧ input = rest := by simpa using read
  exact List.suffix_refl _

theorem optional {r : Reader τ ε (Option α)} (trims : r.Trims) : r.optional.Trims := by
  intro input a rest read
  rw [outcome_optional] at read
  cases taken : r.outcome input with
  | error e => simp [taken] at read
  | ok found =>
    obtain ⟨value, left⟩ := found
    cases value with
    | none =>
      obtain ⟨_, rfl⟩ : none = a ∧ input = rest := by simpa [taken] using read
      exact List.suffix_refl _
    | some b =>
      obtain ⟨_, rfl⟩ : some b = a ∧ left = rest := by simpa [taken] using read
      exact trims _ _ _ taken

end Trims

def Gives (kind : α → Prop) (r : Reader τ ε α) : Prop :=
  ∀ input a rest, r.outcome input = .ok (a, rest) → kind a

namespace Gives

variable {kind : α → Prop} {kind' : β → Prop}

theorem any (r : Reader τ ε α) : r.Gives fun _ => True := fun _ _ _ _ => trivial

theorem pure {a : α} (good : kind a) : (Pure.pure a : Reader τ ε α).Gives kind := by
  intro input b rest read
  obtain ⟨rfl, _⟩ : a = b ∧ input = rest := by simpa using read
  exact good

theorem fail {e : ε} : (Reader.fail e : Reader τ ε α).Gives kind := by
  intro input b rest read
  simp at read

theorem bind (first : r.Gives kind) (second : ∀ a, kind a → (f a).Gives kind') :
    (r >>= f).Gives kind' := by
  intro input b rest read
  cases taken : r.outcome input with
  | error e => simp [taken] at read
  | ok found =>
    rw [outcome_bind_ok taken] at read
    exact second _ (first _ _ _ taken) _ _ _ read

theorem ite {c : Prop} [Decidable c] {r' : Reader τ ε α} (yes : r.Gives kind)
    (no : ¬c → r'.Gives kind) : (if c then r else r').Gives kind := by
  by_cases holds : c
  · rwa [if_pos holds]
  · rw [if_neg holds]
    exact no holds

end Gives

def Maps (h : α → β) (r : Reader τ ε α) (r' : Reader τ ε β) : Prop :=
  ∀ input, r'.outcome input =
    match r.outcome input with
    | .error e => .error e
    | .ok (a, rest) => .ok (h a, rest)

namespace Maps

variable {h : α → β} {r' : Reader τ ε β}

theorem pure (a : α) : Maps h (Pure.pure a : Reader τ ε α) (Pure.pure (h a)) := fun _ => rfl

theorem fail (e : ε) : Maps h (Reader.fail e : Reader τ ε α) (Reader.fail e) := fun _ => rfl

theorem refl (r : Reader τ ε α) : Maps id r r := by
  intro input
  cases r.outcome input <;> rfl

theorem of_gives {h : α → α} (fixed : r.Gives fun a => h a = a) : Maps h r r := by
  intro input
  cases taken : r.outcome input with
  | error e => rfl
  | ok found => simp [fixed _ _ _ taken]

theorem bind {δ : Type} {k : γ → δ} {f : α → Reader τ ε γ} {f' : β → Reader τ ε δ}
    (first : Maps h r r') (second : ∀ a, Maps k (f a) (f' (h a))) :
    Maps k (r >>= f) (r' >>= f') := by
  intro input
  have behind := first input
  cases taken : r.outcome input with
  | error e =>
    rw [taken] at behind
    rw [outcome_bind_error taken, outcome_bind_error behind]
  | ok found =>
    rw [taken] at behind
    rw [outcome_bind_ok taken, outcome_bind_ok behind]
    exact second found.1 found.2

end Maps

def Fails (r : Reader τ ε α) : Prop := r.Gives fun _ => False

namespace Fails

theorem fail (e : ε) : (Reader.fail e : Reader τ ε α).Fails := Gives.fail

theorem bind_left (fails : r.Fails) : (r >>= f).Fails :=
  Gives.bind fails fun _ => False.elim

theorem bind_right (fails : ∀ a, (f a).Fails) : (r >>= f).Fails :=
  Gives.bind (Gives.any r) fun a _ => fails a

end Fails

end PathQuery.Text.Reader
