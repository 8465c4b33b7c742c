import PathQuery.Load.Document
import PathQuery.Proofs.Files.Writing
import PathQuery.Proofs.Path.ReadBack

set_option autoImplicit false

namespace PathQuery

namespace Files

variable {fs : Files} {here there front idle : List String} {path name : String}
  {content : List UInt8}

def IsIdle (part : String) : Prop := part = "" ∨ part = "."

theorem Walks.eq_of_idle (walks : Walks fs here idle there) (stays : ∀ part ∈ idle, IsIdle part) :
    there = here := by
  induction walks with
  | done => rfl
  | stay _ _ ih => exact ih (List.forall_mem_cons.mp stays).2
  | up up _ _ =>
    subst up
    simpa [IsIdle] using (List.forall_mem_cons.mp stays).1
  | enter named _ _ _ => exact absurd (List.forall_mem_cons.mp stays).1 named.something
  | file named _ _ => exact absurd (List.forall_mem_cons.mp stays).1 named.something

theorem Walks.lookup_of_idle_end (walks : Walks fs here (front ++ name :: idle) there)
    (something : ¬IsIdle name) (not_up : name ≠ "..") (more : idle ≠ [])
    (stays : ∀ part ∈ idle, IsIdle part) : fs.lookup there = some .directory := by
  induction front generalizing here with
  | nil =>
    cases walks with
    | stay idle _ => exact absurd idle something
    | up up _ => exact absurd up not_up
    | enter _ found walks =>
      rw [walks.eq_of_idle stays]
      exact found
    | file _ _ last => exact absurd last more
  | cons part front ih =>
    cases walks with
    | stay _ walks => exact ih walks
    | up _ walks => exact ih walks
    | enter _ _ walks => exact ih walks
    | file _ _ last => simp at last

theorem idle_eq_nil_of_read (there : fs.read path = .ok content)
    (split : parts path = front ++ name :: idle) (something : ¬IsIdle name) (not_up : name ≠ "..")
    (stays : ∀ part ∈ idle, IsIdle part) : idle = [] := by
  obtain ⟨_, _, names, walks, found⟩ := read_eq_ok.mp there
  apply Classical.byContradiction
  intro more
  rw [split] at walks
  have directory := walks.lookup_of_idle_end something not_up more stays
  simp [found] at directory

end Files

namespace Tree

variable {fs : Files} {path directory name : String} {content : List UInt8}

structure Names (directory name : String) : Prop where
  front : directory = "" ∨ ['/'] <:+ directory.toList
  named : name ≠ ""
  single : '/' ∉ name.toList

theorem Names.split (names : Names directory name) (ending : List Char) (plain : '/' ∉ ending) :
    ∃ before, Text.split '/' (directory.toList ++ name.toList ++ ending) =
      before ++ [name.toList ++ ending] := by
  have whole : '/' ∉ name.toList ++ ending := by simp [names.single, plain]
  rcases names.front with rfl | ⟨above, same⟩
  · exact ⟨[], by simpa using Text.split_of_not_mem whole⟩
  · refine ⟨Text.split '/' above, ?_⟩
    rw [← same, List.append_assoc, List.append_assoc, List.singleton_append, Text.split_append_cons,
      Text.split_of_not_mem whole]

theorem Names.suffix_name {ending : List Char} (names : Names directory name)
    (plain : '/' ∉ ending) (suffix : ending <:+ (directory ++ name).toList) :
    ending <:+ name.toList := by
  rw [String.toList_append] at suffix
  rcases names.front with rfl | ⟨above, same⟩
  · simpa using suffix
  · have behind : '/' :: name.toList <:+ directory.toList ++ name.toList := by
      rw [← same]
      exact ⟨above, by simp⟩
    rcases List.suffix_or_suffix_of_suffix suffix behind with within | longer
    · rcases List.suffix_cons_iff.mp within with rfl | within
      · exact absurd List.mem_cons_self plain
      · exact within
    · exact absurd (longer.subset List.mem_cons_self) plain

theorem lastName_of_split {before : List (List Char)} {last : List Char}
    (split : Text.split '/' path.toList = before ++ [last])
    (something : last ≠ [] ∧ last ≠ ['.']) : lastName path = last := by
  simp [lastName, split, List.filter_append, something]

theorem extension?_of_lastName {front : List Char} (something : front ≠ [])
    (last : lastName path = front ++ ".gz".toList) : extension? path = some ['g', 'z'] := by
  have gz : ".gz".toList = '.' :: ['g', 'z'] := rfl
  have tail : Text.split '.' ['g', 'z'] = [['g', 'z']] := rfl
  have not_up : front ++ '.' :: ['g', 'z'] ≠ ['.', '.'] := by
    intro same
    simpa using congrArg List.getLast? same
  obtain ⟨first, rest, parts⟩ := List.exists_cons_of_ne_nil
    (mt List.reverse_eq_nil_iff.mp (Text.split_ne_nil '.' front))
  have more : ¬(rest.isEmpty && first.isEmpty) = true := by
    intro empty
    obtain ⟨rfl, rfl⟩ : rest = [] ∧ first = [] := by simpa using empty
    have alone : Text.split '.' front = [] ++ [] :: [] := by
      simpa using congrArg List.reverse parts
    exact something (by simpa using Text.eq_of_split alone)
  simp only [extension?, last, gz, not_up, if_false, Text.split_append_cons, tail,
    List.reverse_append, List.reverse_singleton, parts, List.singleton_append, more,
    Bool.false_eq_true]

theorem suffix_of_extension? (found : extension? path = some ['g', 'z']) :
    ".gz".toList <:+ lastName path ∧ lastName path ≠ ['.', '.'] := by
  simp only [extension?] at found
  split_ifs at found with up
  refine ⟨?_, up⟩
  cases parts : (Text.split '.' (lastName path)).reverse with
  | nil => simp [parts] at found
  | cons last rest =>
    cases rest with
    | nil => simp [parts] at found
    | cons first rest =>
      simp only [parts] at found
      split_ifs at found
      obtain rfl := Option.some.inj found
      have split : Text.split '.' (lastName path) = (first :: rest).reverse ++ ['g', 'z'] :: [] := by
        rw [← List.reverse_reverse (Text.split '.' (lastName path)), parts, List.reverse_cons]
      refine ⟨rest.reverse.flatMap (· ++ ['.']) ++ first, ?_⟩
      rw [Text.eq_of_split split]
      simp

theorem isIdle_ofList (part : List Char) :
    Files.IsIdle (String.ofList part) ↔ part = [] ∨ part = ['.'] := by
  simp [Files.IsIdle, ← String.toList_inj]

theorem split_of_lastName (something : lastName path ≠ []) :
    ∃ front idle, Text.split '/' path.toList = front ++ lastName path :: idle ∧
      (lastName path ≠ [] ∧ lastName path ≠ ['.']) ∧ ∀ part ∈ idle, part = [] ∨ part = ['.'] := by
  have chosen : lastName path =
      ((Text.split '/' path.toList).filter fun part => part ≠ [] ∧ part ≠ ['.']).getLast?.getD [] :=
    rfl
  cases final : ((Text.split '/' path.toList).filter fun part => part ≠ [] ∧ part ≠ ['.']).getLast?
  with
  | none => exact absurd (by rw [chosen, final, Option.getD_none]) something
  | some last =>
    have same : lastName path = last := by rw [chosen, final, Option.getD_some]
    obtain ⟨before, kept⟩ := List.getLast?_eq_some_iff.mp final
    obtain ⟨front, behind, split, _, only⟩ := List.filter_eq_append_iff.mp kept
    obtain ⟨skipped, idle, rfl, _, good, dropped⟩ := List.filter_eq_cons_iff.mp only
    refine ⟨front ++ skipped, idle, ?_, ?_, fun part member => ?_⟩
    · rw [split, same, List.append_assoc]
    · simpa [same] using good
    · have bad := List.filter_eq_nil_iff.mp dropped part member
      simpa [Decidable.or_iff_not_imp_left] using bad

theorem suffix_of_isCompressedName (there : fs.read path = .ok content)
    (compressed : isCompressedName path = true) : ".gz".toList <:+ path.toList := by
  obtain ⟨ending, not_up⟩ := suffix_of_extension? (of_decide_eq_true compressed)
  have something : lastName path ≠ [] := by
    intro empty
    simp [empty] at ending
  obtain ⟨front, idle, split, solid, stays⟩ := split_of_lastName something
  have parts : Files.parts path =
      front.map String.ofList ++ String.ofList (lastName path) :: idle.map String.ofList := by
    simp [Files.parts, split]
  have last : idle.map String.ofList = [] := by
    refine Files.idle_eq_nil_of_read there parts ?_ ?_ ?_
    · simpa [isIdle_ofList] using solid
    · simpa [← String.toList_inj] using not_up
    · simpa [isIdle_ofList] using stays
  obtain rfl := List.map_eq_nil_iff.mp last
  rw [Text.eq_of_split split]
  simpa using ending.trans (List.suffix_append _ _)

theorem Names.isCompressedName (names : Names directory name) :
    isCompressedName (directory ++ name ++ ".gz") = true := by
  obtain ⟨before, split⟩ := names.split ".gz".toList (by decide)
  have something : name.toList ≠ [] := by simpa using names.named
  have solid : name.toList ++ ".gz".toList ≠ [] ∧ name.toList ++ ".gz".toList ≠ ['.'] := by
    refine ⟨by simp, fun same => ?_⟩
    simpa using congrArg List.length same
  have split' : Text.split '/' (directory ++ name ++ ".gz").toList =
      before ++ [name.toList ++ ".gz".toList] := by
    rw [String.toList_append, String.toList_append, split]
  exact decide_eq_true (extension?_of_lastName something (lastName_of_split split' solid))

section JsonName

theorem isJsonName_gz (path : String) :
    isJsonName (path ++ ".gz") = decide (".json".toList <:+ path.toList) := by
  have reversed : (path ++ ".gz").toList.reverse = ['z', 'g', '.'] ++ path.toList.reverse := by
    simp
  have front : ['z', 'g', '.'].isPrefixOf (['z', 'g', '.'] ++ path.toList.reverse) = true :=
    List.isPrefixOf_iff_prefix.mpr (List.prefix_append _ _)
  rw [isJsonName, reversed]
  simp only [front, if_true]
  rw [Bool.eq_iff_iff, List.isPrefixOf_iff_prefix, decide_eq_true_iff]
  exact List.reverse_prefix

theorem isJsonName_of_not_gz (plain : ¬".gz".toList <:+ path.toList) :
    isJsonName path = decide (".json".toList <:+ path.toList) := by
  have front : ¬['z', 'g', '.'].isPrefixOf path.toList.reverse = true := by
    intro front
    exact plain (List.reverse_prefix.mp (List.isPrefixOf_iff_prefix.mp front))
  rw [isJsonName]
  simp only [front]
  rw [Bool.eq_iff_iff, List.isPrefixOf_iff_prefix, decide_eq_true_iff]
  exact List.reverse_prefix

theorem isJsonName_of_suffix
    (ending : ".json".toList <:+ path.toList ∨ ".json.gz".toList <:+ path.toList) :
    isJsonName path = true := by
  rcases ending with plain | ⟨front, same⟩
  · have not_gz : ¬".gz".toList <:+ path.toList := by
      intro gz
      rcases List.suffix_or_suffix_of_suffix plain gz with within | within
      · exact absurd within (by decide)
      · exact absurd within (by decide)
    rw [isJsonName_of_not_gz not_gz, decide_eq_true plain]
  · have cut : path = String.ofList (front ++ ".json".toList) ++ ".gz" := by
      rw [← String.toList_inj, ← same]
      simp
    have json : ".json".toList <:+ (String.ofList (front ++ ".json".toList)).toList :=
      ⟨front, String.toList_ofList.symm⟩
    rw [cut, isJsonName_gz, decide_eq_true json]

end JsonName

end Tree

end PathQuery
