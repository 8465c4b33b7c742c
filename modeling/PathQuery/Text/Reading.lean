/-!
Readers take values from the front of a sequence. What they leave is never longer than what they
were given, and the type says so: a loop that takes one item before it calls a reader ends.
-/

set_option autoImplicit false

namespace PathQuery.Text

/-- A value that was read from the front of `input`, and the rest of it. -/
structure Taken (α : Type) {τ : Type} (input : List τ) where
  value : α
  rest : List τ
  le : rest.length ≤ input.length

namespace Taken

variable {α τ : Type}

def item (value : α) (c : τ) (rest : List τ) : Taken α (c :: rest) := ⟨value, rest, Nat.le_succ _⟩

def after (c : τ) {rest : List τ} (t : Taken α rest) : Taken α (c :: rest) :=
  ⟨t.value, t.rest, Nat.le_succ_of_le t.le⟩

end Taken

-- A value that took at least one item of `input`, and the rest of it.
structure Consumed (α : Type) {τ : Type} (input : List τ) where
  value : α
  rest : List τ
  lt : rest.length < input.length

def Reader (τ ε α : Type) := (input : List τ) → Except ε (Taken α input)

namespace Reader

variable {τ ε α β : Type}

instance : Monad (Reader τ ε) where
  pure a := fun input => .ok ⟨a, input, Nat.le_refl _⟩
  bind r f := fun input =>
    match r input with
    | .error e => .error e
    | .ok a =>
        match f a.value a.rest with
        | .error e => .error e
        | .ok b => .ok ⟨b.value, b.rest, Nat.le_trans b.le a.le⟩

def fail (e : ε) : Reader τ ε α := fun _ => .error e

def ofExcept (r : Except ε α) : Reader τ ε α := fun input =>
  match r with
  | .error e => .error e
  | .ok a => .ok ⟨a, input, Nat.le_refl _⟩

instance : MonadLift (Except ε) (Reader τ ε) := ⟨ofExcept⟩

def peek : Reader τ ε (Option τ) := fun input => .ok ⟨input.head?, input, Nat.le_refl _⟩

def ahead : Reader τ ε (List τ) := fun input => .ok ⟨input, input, Nat.le_refl _⟩

def next? : Reader τ ε (Option τ)
  | [] => .ok ⟨none, [], Nat.le_refl _⟩
  | c :: cs => .ok ⟨some c, cs, Nat.le_succ _⟩

def skip (n : Nat) : Reader τ ε Unit := fun input =>
  .ok ⟨(), input.drop n, by simp⟩

def takeWhile (p : τ → Bool) : Reader τ ε (List τ) := fun input =>
  .ok ⟨input.takeWhile p, input.dropWhile p, (List.dropWhile_sublist p).length_le⟩

def skipText [BEq τ] (expected : List τ) : Reader τ ε Bool := fun input =>
  if expected.isPrefixOf input then .ok ⟨true, input.drop expected.length, by simp⟩
  else .ok ⟨false, input, Nat.le_refl _⟩

-- Takes the first of some texts that the input begins with, and says whether there was one.
def skipAnyOf [BEq τ] : (texts : List (List τ)) → Reader τ ε Bool
  | [] => pure false
  | text :: texts => do
      if ← skipText text then pure true else skipAnyOf texts

def optional (r : Reader τ ε (Option α)) : Reader τ ε (Option α) := fun input =>
  match r input with
  | .error e => .error e
  | .ok ⟨none, _, _⟩ => .ok ⟨none, input, Nat.le_refl _⟩
  | .ok taken => .ok taken

end Reader

end PathQuery.Text
