import PathQuery.Proofs.Text.Outcome
import PathQuery.Proofs.Regex.Anchored
import PathQuery.Regex.Denotation

set_option autoImplicit false

namespace PathQuery.Regex

open PathQuery.Text

theorem chain_map {α β : Type} {none : α} {join : α → α → α} {none' : β} {join' : β → β → β}
    (h : α → β) (at_none : h none = none') (at_join : ∀ a b, h (join a b) = join' (h a) (h b))
    (items : List α) : h (chain none join items) = chain none' join' (items.map h) := by
  induction items with
  | nil => exact at_none
  | cons a items ih =>
    cases items with
    | nil => rfl
    | cons b items =>
      simp only [chain, List.map_cons] at ih ⊢
      rw [at_join, ih]

namespace Ast

def dotted : Ast → Ast
  | .dot => .literal ⟨'.', false⟩
  | .repetition min max a => .repetition min max a.dotted
  | .group kind a => .group kind a.dotted
  | .cat a b => .cat a.dotted b.dotted
  | .alt a b => .alt a.dotted b.dotted
  | a => a

theorem depth_dotted (a : Ast) : a.dotted.depth = a.depth := by
  induction a with
  | cat a b first second => cases b <;> simp_all [dotted, depth]
  | alt a b first second => cases b <;> simp_all [dotted, depth]
  | _ => simp_all [dotted, depth]

theorem dotted_ofItems (items : List Ast) :
    (ofItems items).dotted = ofItems (items.map dotted) :=
  chain_map dotted rfl (fun _ _ => rfl) items

theorem dotted_ofBranches (branches : List Ast) :
    (ofBranches branches).dotted = ofBranches (branches.map dotted) :=
  chain_map dotted rfl (fun _ _ => rfl) branches

theorem denote_dotted {a : Ast} {f f' : Flags} {p : Pattern} (meaning : a.denote f = .ok (p, f')) :
    ∃ q, a.dotted.denote f = .ok (q, f') := by
  induction a generalizing f f' p with
  | dot =>
    obtain ⟨_, _, same⟩ := bind_eq_ok.mp meaning
    cases same
    exact ⟨charPattern f '.', by simp [dotted, denote, Literal.resolve, bind, Except.bind]⟩
  | repetition min max a ih =>
    obtain ⟨_, inner, same⟩ := bind_eq_ok.mp meaning
    obtain ⟨q, inner'⟩ := ih inner
    cases same
    exact ⟨.rep min max q, bind_eq_ok.mpr ⟨_, inner', rfl⟩⟩
  | group kind a ih =>
    cases kind <;>
    · obtain ⟨_, inner, same⟩ := bind_eq_ok.mp meaning
      obtain ⟨q, inner'⟩ := ih inner
      cases same
      exact ⟨q, bind_eq_ok.mpr ⟨_, inner', rfl⟩⟩
  | cat a b first second =>
    obtain ⟨_, left, later⟩ := bind_eq_ok.mp meaning
    obtain ⟨_, right, same⟩ := bind_eq_ok.mp later
    obtain ⟨q, left'⟩ := first left
    obtain ⟨q', right'⟩ := second right
    cases same
    exact ⟨.cat q q', bind_eq_ok.mpr ⟨_, left', bind_eq_ok.mpr ⟨_, right', rfl⟩⟩⟩
  | alt a b first second =>
    obtain ⟨_, left, later⟩ := bind_eq_ok.mp meaning
    obtain ⟨_, right, same⟩ := bind_eq_ok.mp later
    obtain ⟨q, left'⟩ := first left
    obtain ⟨q', right'⟩ := second right
    cases same
    exact ⟨.alt q q', bind_eq_ok.mpr ⟨_, left', bind_eq_ok.mpr ⟨_, right', rfl⟩⟩⟩
  | _ => exact ⟨p, meaning⟩

end Ast

theorem hexLiteral_dotted (verbose : Bool) (digits : Nat) :
    (hexLiteral verbose digits).Gives fun a => a.dotted = a := by
  refine .bind (.any _) fun _ _ => .bind (.any _) fun c _ => ?_
  split
  · exact .fail
  · refine .bind (.any _) fun _ _ => .bind (.any _) fun _ _ => .bind (.any _) fun _ _ => ?_
    refine .bind (.any _) fun c _ => ?_
    split
    · exact .fail
    · refine .bind (.any _) fun _ _ => .ite .fail fun _ => ?_
      split
      · exact .fail
      · exact .pure rfl
    · exact .fail
  · refine .bind (.any _) fun _ _ => ?_
    split
    · exact .fail
    · exact .pure rfl

theorem propertyEscape_dotted (verbose negated : Bool) :
    (propertyEscape verbose negated).Gives fun a => a.dotted = a := by
  refine .bind (.any _) fun _ _ => .bind (.any _) fun c _ => ?_
  split
  · exact .fail
  · refine .bind (.any _) fun _ _ => .bind (.any _) fun _ _ => .bind (.any _) fun c _ => ?_
    cases c with
    | none => exact .fail
    | some c => exact .pure rfl
  · exact .fail
  · exact .pure rfl

theorem escape_dotted (verbose : Bool) : (escape verbose).Gives fun a => a.dotted = a := by
  refine .bind (.any _) fun c _ => ?_
  cases c with
  | none => exact .fail
  | some c =>
    refine .ite .fail fun _ => .ite (.pure rfl) fun _ => ?_
    split
    case h_1 => exact hexLiteral_dotted verbose 2
    case h_2 => exact hexLiteral_dotted verbose 4
    case h_3 => exact hexLiteral_dotted verbose 8
    case h_4 => exact propertyEscape_dotted verbose false
    case h_5 => exact propertyEscape_dotted verbose true
    case h_20 => exact .bind (.any _) fun _ _ => .pure rfl
    case h_24 => exact .fail
    all_goals exact .pure rfl

theorem bracketClass_dotted (verbose : Bool) :
    (bracketClass verbose).Gives fun a => a.dotted = a :=
  .bind (.any _) fun _ _ => .bind (.any _) fun _ _ => .pure rfl

def OpenGroup.dotted (g : OpenGroup) : OpenGroup :=
  { g with branches := g.branches.map Ast.dotted, items := g.items.map Ast.dotted }

namespace ReadState

def dotted (s : ReadState) : ReadState :=
  { s with
    groups := s.groups.map OpenGroup.dotted
    branches := s.branches.map Ast.dotted
    items := s.items.map Ast.dotted }

theorem body_dotted (s : ReadState) : s.dotted.body = s.body.dotted := by
  simp [body, dotted, Ast.dotted_ofBranches, Ast.dotted_ofItems, List.map_reverse]

theorem nextBranch_dotted (s : ReadState) : s.dotted.nextBranch = s.nextBranch.dotted := by
  simp [nextBranch, dotted, Ast.dotted_ofItems, List.map_reverse]

theorem dotted_closeGroup (s : ReadState) :
    Reader.Maps dotted (liftExcept s.closeGroup) (liftExcept s.dotted.closeGroup) := by
  have body := s.body_dotted
  obtain ⟨groups, branches, items, verbose, names⟩ := s
  cases groups with
  | nil => exact .fail _
  | cons g groups =>
    simp only [closeGroup, body]
    exact .pure _

theorem dotted_popItem (s : ReadState) :
    Reader.Maps (fun popped : Ast × ReadState => (popped.1.dotted, popped.2.dotted))
      (liftExcept s.popItem) (liftExcept s.dotted.popItem) := by
  obtain ⟨groups, branches, items, verbose, names⟩ := s
  unfold popItem
  cases items with
  | nil => exact .fail _
  | cons a items =>
    cases a with
    | empty => exact .fail _
    | flags => exact .fail _
    | _ => exact .pure _

theorem dotted_repeatLast (s : ReadState) (min : Nat) (max : Option Nat) :
    Reader.Maps dotted (s.repeatLast min max) (s.dotted.repeatLast min max) :=
  .bind s.dotted_popItem fun _ => .bind (.refl _) fun _ => .pure _

theorem dotted_step (s : ReadState) {c : Char} (other : c ≠ '.') :
    Reader.Maps dotted (s.step c) (s.dotted.step c) := by
  unfold step
  split
  case h_1 =>
    refine .bind (.refl _) fun opening => ?_
    cases opening with
    | group kind name => exact .pure _
    | flags items => exact .pure _
  case h_2 => exact s.dotted_closeGroup
  case h_3 =>
    rw [nextBranch_dotted]
    exact .pure _
  case h_4 => exact .bind (.of_gives (bracketClass_dotted s.verbose)) fun _ => .pure _
  case h_5 => exact s.dotted_repeatLast 0 (some 1)
  case h_6 => exact s.dotted_repeatLast 0 none
  case h_7 => exact s.dotted_repeatLast 1 none
  case h_8 => exact .bind s.dotted_popItem fun _ => .bind (.refl _) fun _ => .pure _
  case h_9 => exact .bind (.of_gives (escape_dotted s.verbose)) fun _ => .pure _
  case h_10 => exact absurd rfl other
  all_goals exact .pure _

end ReadState

end PathQuery.Regex
