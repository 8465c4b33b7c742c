import PathQuery.Proofs.Toml.Words

set_option autoImplicit false

namespace PathQuery.Toml

open PathQuery.Text

structure Written where
  key : String
  text : List Char
  value : Item

namespace Written

def chars (w : Written) : List Char := writeEntry w.key w.text

def line (w : Written) : Line := .entry [w.key] w.value

def entry (w : Written) : String × Item := (w.key, w.value)

structure Plain (w : Written) : Prop where
  named : w.key.toList ≠ []
  bare : ∀ c ∈ w.key.toList, isBareChar c = true
  dark : ∀ c ∈ w.text.head?, isBlank c = false
  read : ∀ rest, Reader.outcome (readValue depthLimit) (w.text ++ '\n' :: rest) =
    .ok (w.value, '\n' :: rest)
  unreturned : '\r' ∉ w.text

end Written

variable {w : Written} {c : Char} {done : List Line} {input rest : List Char}

section Keys

theorem outcome_skipBlanks (input : List Char) :
    skipBlanks.outcome input = .ok ((), input.dropWhile isBlank) := by
  simp [skipBlanks]

theorem not_isBlank_of_isBareChar (bare : isBareChar c = true) : isBlank c = false := by
  have space : c ≠ ' ' := ne_of_kind bare rfl
  have tab : c ≠ '\t' := ne_of_kind bare rfl
  simp [isBlank, space, tab]

theorem outcome_readName {name : List Char} (named : name ≠ [])
    (bare : ∀ c ∈ name, isBareChar c = true) (stop : isBareChar c = false) :
    readName.outcome (name ++ c :: rest) = .ok (String.ofList name, c :: rest) := by
  have taken := @outcome_takeWhile_append c name rest isBareChar bare stop
  obtain ⟨d, ds, rfl⟩ := List.exists_cons_of_ne_nil named
  have first : isBareChar d = true := bare d List.mem_cons_self
  rw [readName, Reader.outcome_bind_ok Reader.outcome_peek]
  simp only [List.cons_append, List.head?_cons]
  split
  next same =>
    obtain rfl := Option.some.inj same
    simp [isBareChar] at first
  next same =>
    obtain rfl := Option.some.inj same
    simp [isBareChar] at first
  next =>
    rw [List.cons_append] at taken
    rw [Reader.outcome_bind_ok taken]
    simp

theorem outcome_readPaddedName {name : List Char} (named : name ≠ [])
    (bare : ∀ c ∈ name, isBareChar c = true) :
    readPaddedName.outcome (name ++ ' ' :: '=' :: rest) =
      .ok (String.ofList name, '=' :: rest) := by
  have dark : (name ++ ' ' :: '=' :: rest).dropWhile isBlank = name ++ ' ' :: '=' :: rest := by
    obtain ⟨d, ds, rfl⟩ := List.exists_cons_of_ne_nil named
    have first : isBlank d = false := not_isBlank_of_isBareChar (bare d List.mem_cons_self)
    simp [first]
  rw [readPaddedName, Reader.outcome_bind_ok (outcome_skipBlanks _), dark,
    Reader.outcome_bind_ok (outcome_readName named bare (by decide)),
    Reader.outcome_bind_ok (outcome_skipBlanks _)]
  rfl

theorem outcome_readNames {name : String} {names : List String} (stop : c ≠ '.')
    (read : readPaddedName.outcome input = .ok (name, c :: rest)) :
    Reader.outcome (readNames names) input = .ok ((name :: names).reverse, c :: rest) := by
  obtain ⟨le, taken⟩ := Reader.of_outcome read
  unfold Reader.outcome
  rw [readNames]
  simp [taken, stop, bind, Except.bind]

theorem outcome_readKey {name : List Char} (named : name ≠ [])
    (bare : ∀ c ∈ name, isBareChar c = true) :
    readKey.outcome (name ++ ' ' :: '=' :: rest) = .ok ([String.ofList name], '=' :: rest) := by
  have padded := @outcome_readPaddedName rest name named bare
  have names := @outcome_readNames _ _ _ _ [] (by decide) padded
  rw [readKey, Reader.outcome_bind_ok names]
  rfl

end Keys

theorem outcome_skipLineEnd (rest : List Char) :
    skipLineEnd.outcome ('\n' :: rest) = .ok ((), rest) := by
  have uncommented : skipComment.outcome ('\n' :: rest) = .ok ((), '\n' :: rest) := by
    rw [skipComment, Reader.outcome_bind_ok (outcome_skipIf_of_ne (by simp))]
    rfl
  have dark : ('\n' :: rest).dropWhile isBlank = '\n' :: rest := by simp [isBlank]
  rw [skipLineEnd, Reader.outcome_bind_ok (outcome_skipBlanks _), dark,
    Reader.outcome_bind_ok uncommented]
  rfl

theorem outcome_readEntry (plain : w.Plain) (rest : List Char) :
    readEntry.outcome (w.chars ++ rest) = .ok (w.line, rest) := by
  have front : w.chars ++ rest =
      w.key.toList ++ ' ' :: '=' :: ' ' :: (w.text ++ '\n' :: rest) := by
    simp [Written.chars, writeEntry]
  have dark : (' ' :: (w.text ++ '\n' :: rest)).dropWhile isBlank = w.text ++ '\n' :: rest := by
    have spaced : isBlank ' ' = true := rfl
    cases written : w.text with
    | nil => simp [isBlank]
    | cons d ds =>
      have first : isBlank d = false := plain.dark d (by simp [written])
      simp [spaced, first]
  have equals : (expect '=').outcome ('=' :: ' ' :: (w.text ++ '\n' :: rest)) =
      .ok ((), ' ' :: (w.text ++ '\n' :: rest)) := by
    rw [expect, Reader.outcome_bind_ok (outcome_skipIf_cons '=' _)]
    rfl
  rw [front, readEntry, Reader.outcome_bind_ok (outcome_readKey plain.named plain.bare),
    Reader.outcome_bind_ok equals, Reader.outcome_bind_ok (outcome_skipBlanks _), dark,
    Reader.outcome_bind_ok (plain.read rest), Reader.outcome_bind_ok (outcome_skipLineEnd rest)]
  simp [Written.line]

theorem skipSpace_of_bare (bare : isBareChar c = true) :
    skipSpace false (c :: rest) = .ok ⟨(), c :: rest, Nat.le_refl _⟩ := by
  have unlined : c ≠ '\n' := ne_of_kind bare rfl
  have uncommented : c ≠ '#' := ne_of_kind bare rfl
  rw [skipSpace]
  simp [unlined, uncommented, not_isBlank_of_isBareChar bare]

theorem readLine_of_readEntry (entry : c ≠ '[') {line : Line} {left : List Char}
    (read : readEntry.outcome (c :: rest) = .ok (line, left))
    (shorter : left.length < (c :: rest).length) :
    readLine c rest = .ok ⟨line, left, shorter⟩ := by
  obtain ⟨le, taken⟩ := Reader.of_outcome read
  simp only [readLine, if_neg entry, taken, bind, Except.bind]
  rw [dif_pos shorter]

theorem readLines_of_plain (plain : w.Plain) (done : List Line) (rest : List Char) :
    readLines done (w.chars ++ rest) = readLines (w.line :: done) rest := by
  have read := outcome_readEntry plain rest
  have shorter : rest.length < (w.chars ++ rest).length := by
    simp only [Written.chars, writeEntry, List.length_append, List.length_singleton]
    omega
  obtain ⟨c, cs, front⟩ := List.exists_cons_of_ne_nil plain.named
  have bare : isBareChar c = true := plain.bare c (by simp [front])
  have entry : c ≠ '[' := ne_of_kind bare rfl
  obtain ⟨more, whole⟩ : ∃ more, w.chars ++ rest = c :: more :=
    ⟨cs ++ " = ".toList ++ w.text ++ ['\n'] ++ rest, by simp [Written.chars, writeEntry, front]⟩
  rw [whole] at read shorter ⊢
  rw [readLines, skipSpace_of_bare bare]
  simp [readLine_of_readEntry entry read shorter]

theorem readLines_of_forall_plain {entries : List Written} (plain : ∀ w ∈ entries, w.Plain)
    (done : List Line) :
    readLines done (entries.flatMap Written.chars) =
      .ok (done.reverse ++ entries.map Written.line) := by
  induction entries generalizing done with
  | nil =>
    rw [List.flatMap_nil, readLines]
    simp [skipSpace]
  | cons w entries ih =>
    obtain ⟨first, later⟩ := List.forall_mem_cons.mp plain
    rw [List.flatMap_cons, readLines_of_plain first, ih later, List.reverse_cons, List.append_assoc,
      List.map_cons, List.singleton_append]

theorem addLine_of_fresh {entries : Entries} (fresh : entries.lookup w.key = none) :
    addLine (entries, []) w.line = .ok (entries ++ [w.entry], []) := by
  simp [addLine, Written.line, Entries.change, Entries.define, fresh, Written.entry, bind,
    Except.bind]

theorem foldlM_addLine (written : List Written) (entries : Entries)
    (distinct : (entries.map Prod.fst ++ written.map Written.key).Nodup) :
    (written.map Written.line).foldlM addLine (entries, []) =
      .ok (entries ++ written.map Written.entry, []) := by
  induction written generalizing entries with
  | nil => simp [pure, Except.pure]
  | cons w written ih =>
    have fresh : entries.lookup w.key = none := by
      rw [List.lookup_eq_none_iff]
      intro entry member
      have apart := (List.nodup_append.mp distinct).2.2 entry.1 (List.mem_map_of_mem member) w.key
        List.mem_cons_self
      simpa using Ne.symm apart
    rw [List.map_cons, List.foldlM_cons, addLine_of_fresh fresh]
    have later := ih (entries ++ [w.entry]) (by simpa [Written.entry] using distinct)
    simpa [bind, Except.bind] using later

theorem normalize_of_not_mem {s : List Char} (unreturned : '\r' ∉ s) : normalize s = s := by
  induction s with
  | nil => rfl
  | cons c cs ih =>
    have other : c ≠ '\r' := Ne.symm (List.ne_of_not_mem_cons unreturned)
    rw [normalize, ih (List.not_mem_of_not_mem_cons unreturned)]
    exact fun _ same => absurd same other

theorem Written.Plain.return_not_mem (plain : w.Plain) : '\r' ∉ w.chars := by
  have unkeyed : '\r' ∉ w.key.toList := fun member => absurd (plain.bare '\r' member) (by decide)
  simp [Written.chars, writeEntry, unkeyed, plain.unreturned]

theorem read_of_plain {written : List Written} (plain : ∀ w ∈ written, w.Plain)
    (distinct : (written.map Written.key).Nodup) :
    read (String.ofList (written.flatMap Written.chars)) = .ok (written.map Written.entry) := by
  have unreturned : '\r' ∉ written.flatMap Written.chars := by
    rw [List.mem_flatMap]
    rintro ⟨w, member, returned⟩
    exact (plain w member).return_not_mem returned
  have unmarked : (written.flatMap Written.chars).head? ≠ some '\ufeff' := by
    cases written with
    | nil => simp
    | cons w _ =>
      have first := plain w List.mem_cons_self
      obtain ⟨c, cs, front⟩ := List.exists_cons_of_ne_nil first.named
      have bare : isBareChar c = true := first.bare c (by simp [front])
      have other : c ≠ '\ufeff' := ne_of_kind bare rfl
      simp [Written.chars, writeEntry, front, other]
  have lines := readLines_of_forall_plain plain []
  have added := foldlM_addLine written [] (by simpa using distinct)
  rw [read, String.toList_ofList, normalize_of_not_mem unreturned]
  simp only [if_neg unmarked, lines, List.reverse_nil, List.nil_append, bind,
    Except.bind] at added ⊢
  rw [added]

end PathQuery.Toml
