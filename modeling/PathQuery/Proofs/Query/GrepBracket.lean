import Mathlib.Tactic.SplitIfs
import PathQuery.Query.Translation

set_option autoImplicit false

namespace PathQuery.Grep

open PathQuery.Dialect

inductive Member where
  | single (c : Char)
  | named (name : List Char)
deriving DecidableEq

namespace Member

def chars : Member → List Char
  | single c => [c]
  | named name => name

def text : Member → List Char
  | single c => [c]
  | named name => ['[', ':'] ++ name ++ [':', ']']

end Member

def Plain (text : List Char) : Prop := ∀ c ∈ text, c ≠ '\\' ∧ c ≠ ']'

instance (text : List Char) : Decidable (Plain text) :=
  inferInstanceAs (Decidable (∀ c ∈ text, c ≠ '\\' ∧ c ≠ ']'))

/-- A bracket that has its end. A closing bracket right in front is a member of it, so that there is
no bracket without members. -/
structure Bracket where
  negated : Bool
  closing : Bool
  members : List Member
  plain : ∀ m ∈ members, Plain m.chars
  filled : closing = true ∨ members ≠ [] ∧ (negated = true ∨ members ≠ [.single '^'])

namespace Bracket

def front (b : Bracket) : List Char := if b.negated then ['[', '^'] else ['[']

def spell (b : Bracket) (closing : List Char) : List Char :=
  b.front ++ (if b.closing then closing else []) ++ b.members.flatMap Member.text ++ [']']

theorem spell_opens (b : Bracket) (closing : List Char) : ∃ text, b.spell closing = '[' :: text := by
  unfold spell front
  split_ifs <;> exact ⟨_, rfl⟩

end Bracket

def keptFrom : (inClass : Bool) → List Member → Bool
  | _, [] => true
  | true, .single _ :: ms => keptFrom true ms
  | _, .named _ :: ms => keptFrom false ms
  | false, .single '[' :: ms => ms ≠ [] && ms ≠ [.single '^'] && keptFrom true ms
  | false, .single c :: ms => c ≠ '^' && c ≠ '$' && keptFrom false ms

/-- Behind a class there is no anchor and no `[` that the end of the bracket follows, up to where
another `[` is taken for the front of a bracket. -/
def Bracket.kept (b : Bracket) : Bool := keptFrom true b.members

theorem Bracket.kept_of_single {b : Bracket} (single : ∀ m ∈ b.members, ∃ c, m = .single c) :
    b.kept = true := by
  unfold kept
  generalize b.members = ms at single
  induction ms with
  | nil => rfl
  | cons m ms ih =>
    obtain ⟨⟨c, rfl⟩, later⟩ := List.forall_mem_cons.mp single
    exact ih later

section Translation

attribute [local simp] translateGrep Member.text

variable {cs rest : List Char} {c : Char}

theorem translateGrep_true_cons (escape : c ≠ '\\') (close : c ≠ ']') (cs : List Char) :
    translateGrep true (c :: cs) = c :: translateGrep true cs := by
  rw [translateGrep]
  all_goals simp_all

theorem translateGrep_true_append {text : List Char} (plain : Plain text)
    (rest : List Char) : translateGrep true (text ++ rest) = text ++ translateGrep true rest := by
  induction text with
  | nil => rfl
  | cons c text ih =>
    obtain ⟨first, later⟩ := List.forall_mem_cons.mp plain
    rw [List.cons_append, translateGrep_true_cons first.1 first.2, ih later, List.cons_append]

theorem translateGrep_false_cons (plain : c ∉ ['\\', '[', '^', '$']) (cs : List Char) :
    translateGrep false (c :: cs) = c :: translateGrep false cs := by
  rw [translateGrep]
  all_goals simp_all

theorem translateGrep_open (bare : ∀ ds, cs ≠ ']' :: ds) (caret : ∀ ds, cs ≠ '^' :: ']' :: ds) :
    translateGrep false ('[' :: cs) = '[' :: translateGrep true cs := by
  cases cs with
  | nil => rfl
  | cons c ds =>
    by_cases negated : c = '^'
    · subst negated
      cases ds with
      | nil => rfl
      | cons d ds =>
        have other : d ≠ ']' := fun same => caret ds (same ▸ rfl)
        rw [translateGrep_true_cons (by decide) (by decide)]
        generalize inside : translateGrep true (d :: ds) = out
        rw [translateGrep]
        all_goals simp_all
    · generalize inside : translateGrep true (c :: ds) = out
      rw [translateGrep]
      all_goals simp_all

variable {ms : List Member} {inClass : Bool}

theorem members_ne_closing (plain : ∀ m ∈ ms, Plain m.chars) (filled : ms ≠ [])
    (rest ds : List Char) : ms.flatMap Member.text ++ rest ≠ ']' :: ds := by
  cases ms with
  | nil => exact absurd rfl filled
  | cons m ms =>
    cases m with
    | single c => simp [(plain _ List.mem_cons_self c List.mem_cons_self).2]
    | named name => simp

theorem translateGrep_open_members (plain : ∀ m ∈ ms, Plain m.chars)
    (filled : ms ≠ []) (caret : ms ≠ [.single '^']) (rest : List Char) :
    translateGrep false ('[' :: (ms.flatMap Member.text ++ ']' :: rest)) =
      '[' :: translateGrep true (ms.flatMap Member.text ++ ']' :: rest) := by
  refine translateGrep_open (members_ne_closing plain filled _) fun ds same => ?_
  cases ms with
  | nil => exact absurd rfl filled
  | cons m ms =>
    cases m with
    | named name => simp at same
    | single c =>
      obtain ⟨rfl, behind⟩ : c = '^' ∧ ms.flatMap Member.text ++ ']' :: rest = ']' :: ds := by
        simpa [Member.text] using same
      have more : ms ≠ [] := fun none => caret (by rw [none])
      have later := (List.forall_mem_cons.mp plain).2
      exact members_ne_closing later more (']' :: rest) ds behind

theorem translateGrep_named (name : List Char) (plain : Plain name)
    (inClass : Bool) (rest : List Char) :
    translateGrep inClass ((Member.named name).text ++ rest) =
      (Member.named name).text ++ translateGrep false rest := by
  have front : translateGrep inClass ('[' :: ':' :: (name ++ ':' :: ']' :: rest)) =
      '[' :: ':' :: translateGrep true (name ++ ':' :: ']' :: rest) := by
    cases inClass with
    | true =>
      rw [translateGrep_true_cons (by decide) (by decide),
        translateGrep_true_cons (by decide) (by decide)]
    | false =>
      rw [translateGrep_open (by simp) (by simp), translateGrep_true_cons (by decide) (by decide)]
  have back : translateGrep true (':' :: ']' :: rest) = ':' :: ']' :: translateGrep false rest := by
    rw [translateGrep_true_cons (by decide) (by decide), translateGrep]
  simp [front, translateGrep_true_append plain, back]

theorem translateGrep_members_iff (plain : ∀ m ∈ ms, Plain m.chars)
    (rest : List Char) :
    translateGrep inClass (ms.flatMap Member.text ++ ']' :: rest) =
        ms.flatMap Member.text ++ ']' :: translateGrep false rest ↔
      keptFrom inClass ms = true := by
  fun_induction keptFrom inClass ms with
  | case1 inClass =>
    have ends : translateGrep inClass (']' :: rest) = ']' :: translateGrep false rest := by
      cases inClass <;> rw [translateGrep] <;> simp
    simp [ends]
  | case2 c ms ih =>
    obtain ⟨first, later⟩ := List.forall_mem_cons.mp plain
    obtain ⟨escape, close⟩ := first c List.mem_cons_self
    simp [translateGrep_true_cons escape close, ih later]
  | case3 inClass name ms ih =>
    obtain ⟨first, later⟩ := List.forall_mem_cons.mp plain
    rw [List.flatMap_cons, List.append_assoc, translateGrep_named name first, List.append_assoc,
      List.append_cancel_left_eq, ih later]
  | case4 ms ih =>
    have later := (List.forall_mem_cons.mp plain).2
    by_cases bare : ms = []
    · subst bare
      simp
    by_cases caret : ms = [.single '^']
    · subst caret
      simp
    have opened := translateGrep_open_members later bare caret rest
    simp [opened, ih later, bare, caret]
  | case5 c ms other ih =>
    obtain ⟨first, later⟩ := List.forall_mem_cons.mp plain
    obtain ⟨escape, close⟩ := first c List.mem_cons_self
    by_cases start : c = '^'
    · subst start
      simp
    by_cases stop : c = '$'
    · subst stop
      simp
    have plain : c ∉ ['\\', '[', '^', '$'] := by simp_all
    simp [translateGrep_false_cons plain, ih later, start, stop]

theorem translateGrep_front (b : Bracket) (rest : List Char) :
    translateGrep false (b.spell [']'] ++ rest) =
      b.front ++ (if b.closing then ['\\', ']'] else []) ++
        translateGrep true (b.members.flatMap Member.text ++ ']' :: rest) := by
  obtain ⟨negated, closing, ms, plain, filled⟩ := b
  cases closing with
  | true => cases negated <;> simp [Bracket.spell, Bracket.front]
  | false =>
    obtain ⟨some, caret⟩ : ms ≠ [] ∧ (negated = true ∨ ms ≠ [.single '^']) := by simpa using filled
    cases negated with
    | true =>
      have inside : translateGrep false ('[' :: '^' :: (ms.flatMap Member.text ++ ']' :: rest)) =
          '[' :: '^' :: translateGrep true (ms.flatMap Member.text ++ ']' :: rest) := by
        rw [translateGrep_open (by simp) (by simpa using members_ne_closing plain some (']' :: rest)),
          translateGrep_true_cons (by decide) (by decide)]
      simp [Bracket.spell, Bracket.front, inside]
    | false =>
      have inside := translateGrep_open_members plain some (caret.resolve_left (by decide)) rest
      simp [Bracket.spell, Bracket.front, inside]

theorem translateGrep_bracket_iff (b : Bracket) (inClass : Bool) (rest : List Char) :
    translateGrep inClass (b.spell [']'] ++ rest) =
        b.spell ['\\', ']'] ++ translateGrep false rest ↔
      (inClass = true → b.closing = false) ∧ b.kept = true := by
  have members := @translateGrep_members_iff b.members true b.plain rest
  cases inClass with
  | false =>
    rw [translateGrep_front, Bracket.kept, ← members]
    simp [Bracket.spell]
  | true =>
    have front : Plain b.front := by
      unfold Bracket.front
      split_ifs <;> decide
    rw [Bracket.kept, ← members]
    simp only [Bracket.spell, List.append_assoc]
    rw [translateGrep_true_append front]
    cases b.closing <;> simp

end Translation

/-- Where the translation stands behind a text: inside of a bracket or not, or nowhere yet if the text
ends with a backslash that is to have its character. -/
def modeAfter : (inClass : Bool) → List Char → Option Bool
  | inClass, [] => some inClass
  | inClass, '\\' :: cs =>
      match cs with
      | [] => none
      | _ :: cs => modeAfter inClass cs
  | true, ']' :: cs => modeAfter false cs
  | true, _ :: cs => modeAfter true cs
  | false, '[' :: '^' :: ']' :: cs => modeAfter true cs
  | false, '[' :: ']' :: cs => modeAfter true cs
  | false, '[' :: cs => modeAfter true cs
  | false, _ :: cs => modeAfter false cs

section Append

variable {inClass behind : Bool} {before rest cs : List Char}

theorem append_ne_closing (ends : modeAfter true cs = some behind)
    (apart : behind = true → rest.head? ≠ some ']') (bare : ∀ ds, cs ≠ ']' :: ds)
    (ds : List Char) : cs ++ rest ≠ ']' :: ds := by
  intro same
  cases cs with
  | nil =>
    obtain rfl := Option.some.inj ends
    exact apart rfl (by simp_all)
  | cons c cs => exact bare cs (by simp_all)

theorem append_ne_caret (ends : modeAfter true cs = some behind)
    (apart : behind = true → rest.head? ≠ some '^' ∧ rest.head? ≠ some ']')
    (caret : ∀ ds, cs ≠ '^' :: ']' :: ds) (ds : List Char) : cs ++ rest ≠ '^' :: ']' :: ds := by
  intro same
  cases cs with
  | nil =>
    obtain rfl := Option.some.inj ends
    exact (apart rfl).1 (by simp_all)
  | cons c cs =>
    obtain ⟨rfl, next⟩ : c = '^' ∧ cs ++ rest = ']' :: ds := by simpa using same
    have later : modeAfter true cs = some behind := ends
    exact append_ne_closing later (fun inside => (apart inside).2)
      (fun ds same => caret ds (same ▸ rfl)) ds next

/-- A text is translated by itself, unless it ends inside of a bracket and what follows may belong to
the front of that bracket. -/
theorem translateGrep_append (ends : modeAfter inClass before = some behind)
    (apart : behind = true → rest.head? ≠ some '^' ∧ rest.head? ≠ some ']') :
    translateGrep inClass (before ++ rest) =
      translateGrep inClass before ++ translateGrep behind rest := by
  fun_induction modeAfter inClass before with
  | case1 inClass =>
    obtain rfl := Option.some.inj ends
    simp [translateGrep]
  | case2 => simp at ends
  | case3 inClass c cs ih => cases inClass <;> simp [translateGrep, ih ends]
  | case4 cs ih => simp [translateGrep, ih ends]
  | case5 c cs escape close ih =>
    rw [List.cons_append, translateGrep_true_cons escape close, ih ends,
      translateGrep_true_cons escape close, List.cons_append]
  | case6 cs ih => simp [translateGrep, ih ends]
  | case7 cs ih => simp [translateGrep, ih ends]
  | case8 cs caret bare ih =>
    have bare' := append_ne_closing ends (fun inside => (apart inside).2) bare
    have caret' := append_ne_caret ends apart caret
    rw [List.cons_append, translateGrep_open bare' caret', ih ends, translateGrep_open bare caret,
      List.cons_append]
  | case9 c cs escape _ _ front ih =>
    by_cases start : c = '^'
    · subst start
      simp [translateGrep, ih ends]
    by_cases stop : c = '$'
    · subst stop
      simp [translateGrep, ih ends]
    have plain : c ∉ ['\\', '[', '^', '$'] := by simp_all
    rw [List.cons_append, translateGrep_false_cons plain, ih ends, translateGrep_false_cons plain,
      List.cons_append]

end Append

/-- A bracket goes through untouched, but for a closing bracket in front of it, exactly if nothing in
it stands behind a class that is another thing outside of brackets. Where the text before it already
counts as the inside of one, it has to have no closing bracket in front. -/
theorem translate_around_bracket_iff {before : List Char} {inClass : Bool}
    (ends : modeAfter false before = some inClass) (b : Bracket) (after : List Char) :
    Dialect.grep.translate (before ++ b.spell [']'] ++ after) =
        Dialect.grep.translate before ++ b.spell ['\\', ']'] ++ Dialect.grep.translate after ↔
      (inClass = true → b.closing = false) ∧ b.kept = true := by
  obtain ⟨text, opens⟩ := b.spell_opens [']']
  have parts : translateGrep false (before ++ b.spell [']'] ++ after) =
      translateGrep false before ++ translateGrep inClass (b.spell [']'] ++ after) := by
    rw [opens, List.append_assoc]
    exact translateGrep_append ends (by simp)
  rw [← translateGrep_bracket_iff b inClass after]
  simp only [Dialect.translate]
  rw [parts, List.append_assoc, List.append_cancel_left_eq]

theorem translate_around_bracket_iff_negated :
    ∃ b : Bracket, b.spell [']'] = "[^]$[:digit:]x]".toList ∧
      modeAfter false "^a\\[".toList = some false ∧
      Dialect.grep.translate ("^a\\[".toList ++ b.spell [']'] ++ "\\|$".toList) =
        Dialect.grep.translate "^a\\[".toList ++ b.spell ['\\', ']'] ++
          Dialect.grep.translate "\\|$".toList := by
  let b : Bracket := ⟨true, true, [.single '$', .named "digit".toList, .single 'x'], by decide, by decide⟩
  have ends : modeAfter false "^a\\[".toList = some false := by decide
  refine ⟨b, by decide, ends, ?_⟩
  exact (translate_around_bracket_iff ends b "\\|$".toList).mpr ⟨by decide, by decide⟩

/-- Digits and the dollar sign. The class ends the bracket, so that the dollar sign becomes an anchor. -/
theorem translate_anchor_behind_class :
    ∃ b : Bracket, b.spell [']'] = "[[:digit:]$]".toList ∧
      b.spell ['\\', ']'] = "[[:digit:]$]".toList ∧
      Dialect.grep.translate "[[:digit:]$]".toList = "[[:digit:]\\z]".toList := by
  refine ⟨⟨false, false, [.named "digit".toList, .single '$'], by decide, by decide⟩, ?_⟩
  decide

end PathQuery.Grep
