import PathQuery.Proofs.Toml.Entries

set_option autoImplicit false

namespace PathQuery.Settings

open PathQuery.Text PathQuery.Toml

variable {s : Settings} {text : String}

def entries (s : Settings) : List Written :=
  [⟨"dialect", writeString s.dialect.toList, .string s.dialect⟩,
    ⟨"ignore_case", booleanText s.ignoreCase, .boolean s.ignoreCase⟩,
    ⟨"max_results", (toString s.maxResults).toList, .integer s.maxResults⟩,
    ⟨"show_names", booleanText s.showNames, .boolean s.showNames⟩]

theorem text?_eq_some (small : s.maxResults ≤ maxCount) :
    s.text? = some (String.ofList (s.entries.flatMap Written.chars)) := by
  simp [text?, small, entries, Written.chars]

section Values

variable {key : String} (named : key.toList ≠ []) (bare : ∀ c ∈ key.toList, isBareChar c = true)
include named bare

theorem plain_string (value : String) :
    Written.Plain ⟨key, writeString value.toList, .string value⟩ where
  named := named
  bare := bare
  dark c first := by
    rcases head?_writeString value.toList with double | single
    · obtain rfl : '"' = c := Option.some.inj (double.symm.trans first)
      rfl
    · obtain rfl : '\'' = c := Option.some.inj (single.symm.trans first)
      rfl
  read rest := by
    have read : Reader.outcome (readValue depthLimit) (writeString value.toList ++ '\n' :: rest) =
        .ok (.string (String.ofList value.toList), '\n' :: rest) :=
      outcome_readValue_writeString depthLimit value.toList (by simp)
    rwa [String.ofList_toList] at read
  unreturned := return_not_mem_writeString value.toList

theorem plain_boolean (value : Bool) : Written.Plain ⟨key, booleanText value, .boolean value⟩ where
  named := named
  bare := bare
  dark := by cases value <;> simp [booleanText, isBlank]
  read rest := outcome_readValue_boolean depthLimit value rfl
  unreturned := by cases value <;> simp [booleanText]

theorem plain_count {value : Nat} (small : value < Nat.pow 2 63) :
    Written.Plain ⟨key, (toString value).toList, .integer value⟩ where
  named := named
  bare := bare
  dark c first := by
    have digit := isDigit_of_mem_toDigits value c (List.mem_of_mem_head? (by simpa using first))
    exact not_isBlank_of_isBareChar (by simp [isBareChar, Char.isAlphanum, digit])
  read rest := outcome_readValue_count depthLimit small rfl
  unreturned returned := by
    have digit := isDigit_of_mem_toDigits value '\r' (by simpa using returned)
    exact absurd digit (by decide)

end Values

theorem plain_entries (small : s.maxResults ≤ maxCount) : ∀ w ∈ s.entries, w.Plain := by
  have below : s.maxResults < Nat.pow 2 63 := by
    have positive : 0 < Nat.pow 2 63 := by decide
    rw [maxCount] at small
    omega
  simp only [entries, List.forall_mem_cons]
  refine ⟨plain_string ?_ (List.all_eq_true.mp rfl) _, plain_boolean ?_ (List.all_eq_true.mp rfl) _,
    plain_count ?_ (List.all_eq_true.mp rfl) below, plain_boolean ?_ (List.all_eq_true.mp rfl) _,
    by simp⟩
  all_goals exact List.cons_ne_nil _ _

theorem setting_of_lookup {α : Type} {entries : Entries} {key : String} {standard value : α}
    {ofItem? : Item → Option α} (item : Item) (found : entries.lookup key = some item)
    (typed : ofItem? item = some value) : setting entries key standard ofItem? = .ok value := by
  simp [setting, found, typed]

theorem read_text (written : s.text? = some text) : read text = .ok s := by
  have small : s.maxResults ≤ maxCount := by
    apply Decidable.byContradiction
    intro large
    simp [text?, large] at written
  rw [text?_eq_some small] at written
  have entries := read_of_plain (plain_entries small) (by simp [entries])
  rw [Option.some.inj written] at entries
  have dialect : setting (s.entries.map Written.entry) "dialect" standard.dialect string? =
      .ok s.dialect :=
    setting_of_lookup (.string s.dialect) rfl rfl
  have ignoreCase : setting (s.entries.map Written.entry) "ignore_case" standard.ignoreCase
      boolean? = .ok s.ignoreCase :=
    setting_of_lookup (.boolean s.ignoreCase) rfl rfl
  have maxResults : setting (s.entries.map Written.entry) "max_results" standard.maxResults count? =
      .ok s.maxResults :=
    setting_of_lookup (.integer s.maxResults) rfl rfl
  have showNames : setting (s.entries.map Written.entry) "show_names" standard.showNames boolean? =
      .ok s.showNames :=
    setting_of_lookup (.boolean s.showNames) rfl rfl
  simp only [read, entries, bind, Except.bind, dialect, ignoreCase, maxResults, showNames]

end PathQuery.Settings
