import PathQuery.Proofs.Query.GrepBracket

set_option autoImplicit false

namespace PathQuery.Grep

open PathQuery.Dialect

structure Signs where
  start : List Char
  stop : List Char
  wordStart : List Char
  wordEnd : List Char
  groupOpen : List Char
  groupClose : List Char
  either : List Char
  plus : List Char
  optional : List Char
  countOpen : List Char
  countClose : List Char
  closing : List Char

def Signs.grep : Signs where
  start := ['^']
  stop := ['$']
  wordStart := ['\\', '<']
  wordEnd := ['\\', '>']
  groupOpen := ['\\', '(']
  groupClose := ['\\', ')']
  either := ['\\', '|']
  plus := ['\\', '+']
  optional := ['\\', '?']
  countOpen := ['\\', '\x7b']
  countClose := ['\\', '\x7d']
  closing := [']']

def Signs.regex : Signs where
  start := ['\\', 'A']
  stop := ['\\', 'z']
  wordStart := ['\\', 'b']
  wordEnd := ['\\', 'b']
  groupOpen := ['(']
  groupClose := [')']
  either := ['|']
  plus := ['+']
  optional := ['?']
  countOpen := ['\x7b']
  countClose := ['\x7d']
  closing := ['\\', ']']

inductive Repetition where
  | star
  | plus
  | optional
  | exactly (count : Nat)
  | atLeast (least : Nat)
  | between (least most : Nat)

def isOrdinary (c : Char) : Bool :=
  c ∉ ['\\', '[', ']', '^', '$', '.', '*', '+', '?', '(', ')', '\x7b', '\x7d', '|']

inductive Expr where
  | char (c : Char) (ordinary : isOrdinary c = true)
  | anyChar
  | bracket (b : Bracket) (kept : b.kept = true)
  | start
  | stop
  | wordStart
  | wordEnd
  | cat (a b : Expr)
  | either (a b : Expr)
  | group (a : Expr)
  | repeated (a : Expr) (r : Repetition)

section Spelling

variable (s : Signs)

def Repetition.spell : Repetition → List Char
  | star => ['*']
  | plus => s.plus
  | optional => s.optional
  | exactly count => s.countOpen ++ Nat.toDigits 10 count ++ s.countClose
  | atLeast least => s.countOpen ++ Nat.toDigits 10 least ++ [','] ++ s.countClose
  | between least most =>
      s.countOpen ++ Nat.toDigits 10 least ++ [','] ++ Nat.toDigits 10 most ++ s.countClose

def Expr.spell : Expr → List Char
  | char c _ => [c]
  | anyChar => ['.']
  | bracket b _ => b.spell s.closing
  | start => s.start
  | stop => s.stop
  | wordStart => s.wordStart
  | wordEnd => s.wordEnd
  | cat a b => a.spell ++ b.spell
  | either a b => a.spell ++ s.either ++ b.spell
  | group a => s.groupOpen ++ a.spell ++ s.groupClose
  | repeated a r => a.spell ++ r.spell s

end Spelling

/-- The translation of a text outside of brackets. It ends outside of brackets, whatever follows. -/
def Becomes (text out : List Char) : Prop :=
  ∀ rest, translateGrep false (text ++ rest) = out ++ translateGrep false rest

namespace Becomes

variable {text text' out out' : List Char}

theorem append (first : Becomes text out) (second : Becomes text' out') :
    Becomes (text ++ text') (out ++ out') := by
  intro rest
  rw [List.append_assoc, first, second, List.append_assoc]

theorem escaped (c : Char) : Becomes ['\\', c] (translateGrepEscape c) := by
  intro rest
  simp [translateGrep]

theorem start : Becomes ['^'] ['\\', 'A'] := by
  intro rest
  simp [translateGrep]

theorem stop : Becomes ['$'] ['\\', 'z'] := by
  intro rest
  simp [translateGrep]

theorem plain (same : ∀ c ∈ text, c ∉ ['\\', '[', '^', '$']) : Becomes text text := by
  intro rest
  induction text with
  | nil => rfl
  | cons c text ih =>
    obtain ⟨first, later⟩ := List.forall_mem_cons.mp same
    rw [List.cons_append, translateGrep_false_cons first, ih later, List.cons_append]

theorem digits (n : Nat) : Becomes (Nat.toDigits 10 n) (Nat.toDigits 10 n) := by
  refine plain fun c member special => ?_
  have digit : c.isDigit = true := Nat.isDigit_of_mem_toDigits (by decide) (by decide) member
  have none : ∀ c ∈ ['\\', '[', '^', '$'], c.isDigit = false := by decide
  rw [none c special] at digit
  cases digit

theorem bracket {b : Bracket} (kept : b.kept = true) :
    Becomes (b.spell [']']) (b.spell ['\\', ']']) := fun rest =>
  (translateGrep_bracket_iff b false rest).mpr ⟨by simp, kept⟩

theorem repetition (r : Repetition) : Becomes (r.spell .grep) (r.spell .regex) := by
  have comma : Becomes [','] [','] := plain (by decide)
  have opened : Becomes Signs.grep.countOpen Signs.regex.countOpen := escaped '\x7b'
  have closed : Becomes Signs.grep.countClose Signs.regex.countClose := escaped '\x7d'
  cases r with
  | star => exact plain (by decide)
  | plus => exact escaped '+'
  | optional => exact escaped '?'
  | exactly count => exact (opened.append (digits count)).append closed
  | atLeast least => exact ((opened.append (digits least)).append comma).append closed
  | between least most =>
    exact (((opened.append (digits least)).append comma).append (digits most)).append closed

end Becomes

theorem Expr.becomes (e : Expr) : Becomes (e.spell .grep) (e.spell .regex) := by
  induction e with
  | char c ordinary =>
    have same : c ∉ ['\\', '[', '^', '$'] := by simp_all [isOrdinary]
    exact .plain (List.forall_mem_singleton.mpr same)
  | anyChar => exact .plain (by decide)
  | bracket b kept => exact .bracket kept
  | start => exact .start
  | stop => exact .stop
  | wordStart => exact .escaped '<'
  | wordEnd => exact .escaped '>'
  | cat a b iha ihb => exact iha.append ihb
  | either a b iha ihb => exact (iha.append (.escaped '|')).append ihb
  | group a ih => exact ((Becomes.escaped '(').append ih).append (.escaped ')')
  | repeated a r ih => exact ih.append (.repetition r)

/-- The translation of an expression is the same expression, and so is that of each of its parts. -/
theorem Expr.translate_spell (e : Expr) :
    Dialect.grep.translate (e.spell .grep) = e.spell .regex ∧
      ∀ after, Dialect.grep.translate (e.spell .grep ++ after) =
        e.spell .regex ++ Dialect.grep.translate after := by
  refine ⟨?_, e.becomes⟩
  simpa [translateGrep, Dialect.translate] using e.becomes []

end PathQuery.Grep
