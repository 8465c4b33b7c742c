import PathQuery.Proofs.Search.Taking

set_option autoImplicit false

namespace PathQuery.Tree

variable {t t' : Tree} {id parent other : Nat} {seen chain : List Nat}

/-- The trees that come of adding nodes, of linking nodes that are there and of giving them other
parents, in any order. -/
inductive Built : Tree → Prop where
  | new (name : String) : Built (new name)
  | add {t t' : Tree} {parent : Nat} {name : String} (built : Built t)
      (added : t.add? parent name = some t') : Built t'
  | link {t t' : Tree} {parent child : Nat} (built : Built t)
      (linked : t.link? parent child = some t') : Built t'
  | setParent {t t' : Tree} {id : Nat} {parent : Option Nat} (built : Built t)
      (changed : t.setParent? id parent = some t') : Built t'

/-- From a node to its parent and so on, with no node twice. -/
inductive Ascent (t : Tree) : (id : Nat) → (chain : List Nat) → Prop where
  | stay (id : Nat) : Ascent t id [id]
  | climb {id parent : Nat} {chain : List Nat} (linked : t.parent? id = some parent)
      (above : Ascent t parent chain) (fresh : id ∉ chain) : Ascent t id (id :: chain)

structure LongestAscent (t : Tree) (id : Nat) (chain : List Nat) : Prop where
  ascent : t.Ascent id chain
  longest : ∀ other, t.Ascent id other → other.length ≤ chain.length

section Changes

theorem parent?_eq_elim (t : Tree) (id : Nat) :
    t.parent? id = (t.nodes[id]?).elim none Node.parent := by
  unfold parent?
  cases t.nodes[id]? <;> rfl

theorem elim_modify {β : Type} {field : Node → β} {change : Node → Node}
    (keeps : ∀ n, field (change n) = field n) (nodes : Array Node) (id other : Nat) (absent : β) :
    ((nodes.modify id change)[other]?).elim absent field = (nodes[other]?).elim absent field := by
  rw [Array.getElem?_modify]
  split_ifs
  · cases nodes[other]? with
    | none => rfl
    | some n => exact keeps n
  · rfl

theorem has_modify (nodes : Array Node) (id : Nat) (change : Node → Node) (other : Nat) :
    (Tree.mk (nodes.modify id change)).has other = (Tree.mk nodes).has other :=
  congrArg (fun size => decide (other < size)) Array.size_modify

theorem addLink_of_link? {child : Nat} (linked : t.link? parent child = some t') :
    t' = t.addLink parent child := by
  unfold link? at linked
  split_ifs at linked
  exact (Option.some.inj linked).symm

theorem has_addLink (t : Tree) (parent child other : Nat) :
    (t.addLink parent child).has other = t.has other :=
  has_modify t.nodes parent _ other

theorem name_addLink (t : Tree) (parent child other : Nat) :
    (t.addLink parent child).name other = t.name other := by
  apply elim_modify
  intro n
  rfl

theorem parent?_addLink (t : Tree) (parent child other : Nat) :
    (t.addLink parent child).parent? other = t.parent? other := by
  rw [parent?_eq_elim, parent?_eq_elim]
  apply elim_modify
  intro n
  rfl

theorem of_setParent? {above : Option Nat} (changed : t.setParent? id above = some t') :
    t' = ⟨t.nodes.modify id fun n => { n with parent := above }⟩ ∧ t.has id = true ∧
      ∀ parent, above = some parent → t.has parent = true := by
  unfold setParent? at changed
  split_ifs at changed with there
  refine ⟨(Option.some.inj changed).symm, (Bool.and_eq_true_iff.mp there).1, ?_⟩
  rintro parent rfl
  exact (Bool.and_eq_true_iff.mp there).2

theorem has_setParent {above : Option Nat} (changed : t.setParent? id above = some t')
    (other : Nat) : t'.has other = t.has other := by
  rw [(of_setParent? changed).1]
  exact has_modify t.nodes id _ other

theorem name_setParent {above : Option Nat} (changed : t.setParent? id above = some t')
    (other : Nat) : t'.name other = t.name other := by
  rw [(of_setParent? changed).1]
  apply elim_modify
  intro n
  rfl

theorem parent?_setParent {above : Option Nat} (changed : t.setParent? id above = some t')
    (other : Nat) : t'.parent? other = if other = id then above else t.parent? other := by
  obtain ⟨rfl, there, _⟩ := of_setParent? changed
  simp only [parent?, Array.getElem?_modify, eq_comm (a := id)]
  split_ifs with here
  · have inside : other < t.nodes.size := here ▸ has_iff.mp there
    simp [inside]
  · rfl

end Changes

theorem Built.has_parent (built : Built t) (linked : t.parent? id = some parent) :
    t.has parent = true := by
  induction built generalizing id parent with
  | new name => cases id <;> simp [Tree.new, parent?] at linked
  | @add t t' above name _ added ih =>
    have there : t.has above = true := by
      unfold add? at added
      split_ifs at added with there
      exact there
    obtain rfl : t.addChild above name = t' := by simp [addChild, added]
    rw [parent?_addChild there] at linked
    split_ifs at linked
    · exact has_addChild there (Option.some.inj linked ▸ there) name
    · exact has_addChild there (ih linked) name
  | link _ linked' ih =>
    obtain rfl := addLink_of_link? linked'
    rw [parent?_addLink] at linked
    rw [has_addLink]
    exact ih linked
  | setParent _ changed ih =>
    rw [has_setParent changed]
    rw [parent?_setParent changed] at linked
    split_ifs at linked
    · exact (of_setParent? changed).2.2 parent linked
    · exact ih linked

theorem Ascent.nodup (ascent : t.Ascent id chain) : chain.Nodup := by
  induction ascent with
  | stay id => exact List.nodup_cons.mpr ⟨List.not_mem_nil, List.nodup_nil⟩
  | climb _ _ fresh ih => exact List.nodup_cons.mpr ⟨fresh, ih⟩

theorem Ascent.has (ascent : t.Ascent id chain) (built : Built t) (there : t.has id = true) :
    ∀ other ∈ chain, t.has other = true := by
  induction ascent with
  | stay id => simpa using there
  | climb linked _ _ ih =>
    exact List.forall_mem_cons.mpr ⟨there, ih (built.has_parent linked)⟩

section Lineage

theorem ascent_lineageFrom (built : Built t) (there : t.has id = true) (fresh : id ∉ seen) :
    t.Ascent id (t.lineageFrom seen id) ∧ ∀ other ∈ t.lineageFrom seen id, other ∉ seen := by
  fun_induction t.lineageFrom seen id with
  | case1 seen id stays ih =>
    cases linked : t.parent? id with
    | none => exact ⟨.stay id, by simpa using fresh⟩
    | some parent =>
      by_cases again : parent ∈ id :: seen
      · have stops : t.lineageFrom (id :: seen) parent = [] := by
          rw [lineageFrom, dif_neg fun stays => stays.2 again]
        simp only [stops]
        exact ⟨.stay id, by simpa using fresh⟩
      · obtain ⟨above, apart⟩ := ih parent (built.has_parent linked) again
        refine ⟨.climb linked above fun member => apart id member List.mem_cons_self, ?_⟩
        refine List.forall_mem_cons.mpr ⟨fresh, fun other member seen => ?_⟩
        exact apart other member (List.mem_cons_of_mem id seen)
  | case2 seen id stops => exact absurd ⟨there, fresh⟩ stops

theorem Ascent.prefix_lineageFrom (ascent : t.Ascent id chain) (built : Built t)
    (there : t.has id = true) (apart : ∀ other ∈ chain, other ∉ seen) :
    chain <+: t.lineageFrom seen id := by
  induction ascent generalizing seen with
  | stay id =>
    rw [lineageFrom, dif_pos ⟨there, apart id List.mem_cons_self⟩]
    exact ⟨_, rfl⟩
  | @climb id parent chain linked above fresh ih =>
    obtain ⟨fresh', apart⟩ := List.forall_mem_cons.mp apart
    rw [lineageFrom, dif_pos ⟨there, fresh'⟩, linked]
    refine (List.prefix_cons_inj id).mpr (ih (built.has_parent linked) fun other member => ?_)
    rw [List.mem_cons, not_or]
    exact ⟨fun same => fresh (same ▸ member), apart other member⟩

theorem longestAscent_lineage (built : Built t) (there : t.has id = true) :
    t.LongestAscent id (t.lineage id) where
  ascent := (ascent_lineageFrom built there List.not_mem_nil).1
  longest _ other :=
    (other.prefix_lineageFrom built there fun _ _ => List.not_mem_nil).length_le

theorem LongestAscent.eq_lineage (longest : t.LongestAscent id chain) (built : Built t)
    (there : t.has id = true) : chain = t.lineage id := by
  have front : chain <+: t.lineage id :=
    longest.ascent.prefix_lineageFrom built there fun _ _ => List.not_mem_nil
  exact front.eq_of_length_le (longest.longest _ (longestAscent_lineage built there).ascent)

theorem LongestAscent.climb (longest : t.LongestAscent parent chain)
    (linked : t.parent? id = some parent) (fresh : id ∉ chain) :
    t.LongestAscent id (id :: chain) where
  ascent := .climb linked longest.ascent fresh
  longest other ascent := by
    cases ascent with
    | stay => simp
    | climb linked' above _ =>
      obtain rfl := Option.some.inj (linked'.symm.trans linked)
      exact Nat.succ_le_succ (longest.longest _ above)

theorem lineageFrom_congr (there : ∀ id, t'.has id = t.has id)
    (same : ∀ other ∈ t.lineageFrom seen id, t'.parent? other = t.parent? other) :
    t'.lineageFrom seen id = t.lineageFrom seen id := by
  fun_induction t.lineageFrom seen id with
  | case1 seen id stays ih =>
    obtain ⟨here, above⟩ := List.forall_mem_cons.mp same
    rw [lineageFrom, dif_pos (by rwa [there]), here]
    cases linked : t.parent? id with
    | none => rfl
    | some parent =>
      simp only [linked] at above
      exact congrArg (id :: ·) (ih parent above)
  | case2 seen id stops => rw [lineageFrom, dif_neg (by rwa [there])]

theorem segments_congr (there : ∀ id, t'.has id = t.has id) (names : ∀ id, t'.name id = t.name id)
    (same : ∀ other ∈ t.lineage id, t'.parent? other = t.parent? other) :
    t'.segments id = t.segments id := by
  have named : t'.name = t.name := funext names
  have above : t'.lineage id = t.lineage id := lineageFrom_congr there same
  rw [segments, named, above, segments]

end Lineage

/-- The path of a node has the names on the longest way up from it, from the top down. It is that of
the parent with one name more, unless the node lies above its parent; a new link does not change it,
and a new parent does only if the way up comes by. -/
theorem segments_of_longest_ascent (built : Built t) (there : t.has id = true) :
    (∃ chain, t.LongestAscent id chain ∧ (∀ other, t.LongestAscent id other → other = chain) ∧
      chain.length ≤ t.size ∧ t.segments id = ((chain.map t.name).filter (· ≠ "")).reverse) ∧
    (∀ parent chain, t.parent? id = some parent → t.LongestAscent parent chain → id ∉ chain →
      t.segments id = t.segments parent ++ [t.name id].filter (· ≠ "")) ∧
    (∀ parent child t', t.link? parent child = some t' → t'.segments id = t.segments id) ∧
    ∀ changed above t' chain, t.setParent? changed above = some t' → t.LongestAscent id chain →
      changed ∉ chain → t'.segments id = t.segments id := by
  refine ⟨⟨t.lineage id, longestAscent_lineage built there, ?_, ?_, rfl⟩, ?_, ?_, ?_⟩
  · intro other longest
    exact longest.eq_lineage built there
  · have ascent := (longestAscent_lineage built there).ascent
    exact length_le_size ascent.nodup (ascent.has built there)
  · intro parent chain linked longest fresh
    have above : chain = t.lineage parent := longest.eq_lineage built (built.has_parent linked)
    have here : id :: chain = t.lineage id := (longest.climb linked fresh).eq_lineage built there
    rw [segments, segments, ← here, above]
    by_cases unnamed : t.name id = "" <;> simp [unnamed]
  · intro parent child t' linked
    obtain rfl := addLink_of_link? linked
    exact segments_congr (has_addLink t parent child) (name_addLink t parent child)
      fun other _ => parent?_addLink t parent child other
  · intro changed above t' chain changes longest apart
    obtain rfl := longest.eq_lineage built there
    refine segments_congr (has_setParent changes) (name_setParent changes) fun other member => ?_
    have unchanged : other ≠ changed := fun same => apart (same ▸ member)
    rw [parent?_setParent changes, if_neg unchanged]

theorem segments_of_longest_ascent_around_loop :
    ∃ t t', Built t ∧ t.has 2 = true ∧ t.parent? 2 = some 1 ∧ t.parent? 1 = some 2 ∧
      t.LongestAscent 2 [2, 1] ∧ t.segments 2 = ["a", "b"] ∧
      t.setParent? 0 (some 2) = some t' ∧ t'.segments 2 = ["a", "b"] := by
  let line : Tree := ⟨#[⟨"", none, [1]⟩, ⟨"a", some 0, [2]⟩, ⟨"b", some 1, []⟩]⟩
  let loop : Tree := ⟨#[⟨"", none, [1]⟩, ⟨"a", some 2, [2]⟩, ⟨"b", some 1, []⟩]⟩
  let below : Tree := ⟨#[⟨"", some 2, [1]⟩, ⟨"a", some 2, [2]⟩, ⟨"b", some 1, []⟩]⟩
  have leaf : (new "").add? 0 "a" = some ⟨#[⟨"", none, [1]⟩, ⟨"a", some 0, []⟩]⟩ := rfl
  have grown : Tree.add? ⟨#[⟨"", none, [1]⟩, ⟨"a", some 0, []⟩]⟩ 1 "b" = some line := rfl
  have closed : line.setParent? 1 (some 2) = some loop := rfl
  have moved : loop.setParent? 0 (some 2) = some below := rfl
  have built : Built loop := (((Built.new "").add leaf).add grown).setParent closed
  have there : loop.has 2 = true := rfl
  have around : loop.lineage 2 = [2, 1] := by cbv
  have longest : loop.LongestAscent 2 [2, 1] := around ▸ longestAscent_lineage built there
  obtain ⟨⟨chain, _, unique, _, names⟩, _, _, keeps⟩ := segments_of_longest_ascent built there
  obtain rfl := unique [2, 1] longest
  refine ⟨loop, below, built, there, rfl, rfl, longest, names, moved, ?_⟩
  exact (keeps 0 (some 2) below [2, 1] moved longest (by decide)).trans names

end PathQuery.Tree
