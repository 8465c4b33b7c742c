import PathQuery.Load.Document
import PathQuery.Proofs.Json.Scalars

set_option autoImplicit false

namespace PathQuery

/-- A value without numbers that are rounded, whose keys differ and whose containers nest no deeper
than `depth`. -/
inductive Value.Exact : (depth : Nat) → Value → Prop where
  | null {depth : Nat} : Exact depth .null
  | bool {depth : Nat} (b : Bool) : Exact depth (.bool b)
  | integer {depth : Nat} {n : Int} (low : -(Nat.pow 2 63 : Int) ≤ n) (high : n < Nat.pow 2 63) :
      Exact depth (.integer n)
  | string {depth : Nat} (s : String) : Exact depth (.string s)
  | sequence {depth : Nat} {items : List Value} (inner : ∀ item ∈ items, Exact depth item) :
      Exact (depth + 1) (.sequence items)
  | mapping {depth : Nat} {entries : List (String × Value)}
      (distinct : (entries.map Prod.fst).Nodup)
      (inner : ∀ entry ∈ entries, Exact depth entry.2) : Exact (depth + 1) (.mapping entries)

namespace Value

mutual

-- What a text of the value holds. An integer has its kind already, as it has at most 64 bits.
def datum : Value → Datum
  | .null => .null
  | .bool b => .bool b
  | .integer n => .integer n
  | .float x => .float x
  | .string s => .string s
  | .sequence items => .sequence (data items)
  | .mapping entries => .mapping (datumEntries entries)

def data : List Value → List Datum
  | [] => []
  | item :: rest => datum item :: data rest

def datumEntries : List (String × Value) → List (Datum × Datum)
  | [] => []
  | (key, item) :: rest => (.string key, datum item) :: datumEntries rest

end

end Value

section SetEntries

variable {α : Type} {key : String} {value : α} {entries : List (String × α)}

theorem setEntry_of_not_mem (absent : key ∉ entries.map Prod.fst) :
    setEntry key value entries = entries ++ [(key, value)] := by
  induction entries with
  | nil => rfl
  | cons entry entries ih =>
    have other : key ≠ entry.1 := List.ne_of_not_mem_cons absent
    rw [setEntry, if_neg (Ne.symm other), ih (List.not_mem_of_not_mem_cons absent),
      List.cons_append]

theorem setEntries_of_nodup (distinct : (entries.map Prod.fst).Nodup) :
    setEntries entries = entries := by
  have further (entries done : List (String × α))
      (distinct : (done.map Prod.fst ++ entries.map Prod.fst).Nodup) :
      entries.foldl (fun done entry => setEntry entry.1 entry.2 done) done = done ++ entries := by
    induction entries generalizing done with
    | nil => simp
    | cons entry entries ih =>
      have absent : entry.1 ∉ done.map Prod.fst := fun present =>
        (List.nodup_append.mp distinct).2.2 _ present _ List.mem_cons_self rfl
      rw [List.foldl_cons, setEntry_of_not_mem absent, ih _ (by simpa using distinct)]
      simp
  exact further entries [] (by simpa using distinct)

end SetEntries

namespace Value

theorem values?_data {items : List Value}
    (inner : ∀ item ∈ items, item.datum.value? = some item) :
    Datum.values? (data items) = some items := by
  induction items with
  | nil => rfl
  | cons item items ih =>
    obtain ⟨here, later⟩ := List.forall_mem_cons.mp inner
    simp [data, Datum.values?, here, ih later]

theorem entries?_datumEntries {entries : List (String × Value)}
    (inner : ∀ entry ∈ entries, entry.2.datum.value? = some entry.2) :
    Datum.entries? (datumEntries entries) = some entries := by
  induction entries with
  | nil => rfl
  | cons entry entries ih =>
    obtain ⟨here, later⟩ := List.forall_mem_cons.mp inner
    simp [datumEntries, Datum.entries?, Datum.text?, here, ih later]

theorem value?_datum {depth : Nat} {v : Value} (exact : v.Exact depth) :
    v.datum.value? = some v := by
  induction exact with
  | null | bool _ | string _ => rfl
  | integer low high =>
    have kind : (Datum.integer _).integer? = some (.integer _) := if_pos ⟨low, high⟩
    simp [datum, Datum.value?, Datum.null?, Datum.bool?, kind]
  | sequence _ inner =>
    rw [datum, Datum.value?, values?_data inner]
    rfl
  | mapping distinct _ inner =>
    rw [datum, Datum.value?, entries?_datumEntries inner]
    simp [setEntries_of_nodup distinct, Datum.null?, Datum.bool?, Datum.integer?, Datum.float?,
      Datum.text?]

end Value

namespace Json

open PathQuery.Text

variable {first : Bool} {depth : Nat} {c closing : Char} {v : Value} {d : Datum}
  {input rest rest' : List Char}

section Written

-- What stands in front of a part: a comma, unless it is the first one.
def separator (first : Bool) : List Char := if first then [] else [',']

def joined (first : Bool) : List (List Char) → List Char
  | [] => []
  | part :: parts => separator first ++ part ++ joined false parts

def writeEntry (entry : String × Value) : List Char := writeString entry.1 ++ [':'] ++ write entry.2

theorem writeItems_eq_joined (items : List Value) :
    writeItems items = joined true (items.map write) := by
  have later (item : Value) (items : List Value) :
      writeItems (item :: items) = write item ++ joined false (items.map write) := by
    induction items generalizing item with
    | nil => simp [writeItems, joined]
    | cons next items ih => simp [writeItems, joined, separator, ih]
  cases items with
  | nil => rfl
  | cons item items => rw [later]; rfl

theorem writeEntries_eq_joined (entries : List (String × Value)) :
    writeEntries entries = joined true (entries.map writeEntry) := by
  have later (entry : String × Value) (entries : List (String × Value)) :
      writeEntries (entry :: entries) = writeEntry entry ++ joined false (entries.map writeEntry) := by
    induction entries generalizing entry with
    | nil => simp [writeEntries, writeEntry, joined]
    | cons next entries ih => simp [writeEntries, writeEntry, joined, separator, ih]
  cases entries with
  | nil => rfl
  | cons entry entries => rw [later]; rfl

theorem stops_joined (parts : List (List Char)) (stops : Stops rest) :
    Stops (joined false parts ++ rest) := by
  cases parts with
  | nil => exact stops
  | cons part parts => exact stops_cons (.inl rfl)

end Written

section Separators

theorem outcome_peekPastSpace {ending : Error} (dark : isSpace c = false) :
    (peekPastSpace ending).outcome (c :: rest) = .ok (c, c :: rest) := by
  simp [peekPastSpace, dark]

theorem outcome_readSeparator_close (dark : isSpace closing = false) :
    (readSeparator first closing).outcome (closing :: rest) = .ok (false, rest) := by
  rw [readSeparator, Reader.outcome_bind_ok (outcome_peekPastSpace dark)]
  simp

theorem outcome_readSeparator (apart : closing ≠ ',') (dark : isSpace c = false)
    (other : c ≠ closing) :
    (readSeparator first closing).outcome (separator first ++ c :: rest) =
      .ok (true, c :: rest) := by
  cases first with
  | true =>
    rw [separator, if_pos rfl, List.nil_append, readSeparator,
      Reader.outcome_bind_ok (outcome_peekPastSpace dark)]
    simp [other]
  | false =>
    rw [separator, if_neg Bool.false_ne_true, List.singleton_append, readSeparator,
      Reader.outcome_bind_ok (outcome_peekPastSpace rfl)]
    simp [Ne.symm apart, outcome_peekPastSpace dark, other]

theorem outcome_readSeparator_key (key : String) (rest : List Char) :
    (readSeparator first '\x7d').outcome (separator first ++ (writeString key ++ rest)) =
      .ok (true, writeString key ++ rest) :=
  outcome_readSeparator (by decide) rfl (by decide)

theorem outcome_readKey (key : String) :
    readKey.outcome (writeString key ++ ':' :: rest) = .ok (key, rest) := by
  have opened : writeString key ++ ':' :: rest =
      '"' :: (key.toList.flatMap escapeChar ++ '"' :: ':' :: rest) := by simp [writeString]
  rw [opened, readKey, Reader.outcome_bind_ok (Reader.outcome_next?_cons '"')]
  simp [outcome_readString key, outcome_peekPastSpace (c := ':') rfl]

end Separators

section Values

-- Reads a value. That it takes something is left out, so that it is a reader like the others.
def valueReader (depth : Nat) : JsonReader Datum := fun input =>
  match readValue depth input with
  | .error e => .error e
  | .ok t => .ok ⟨t.value, t.rest, Nat.le_of_lt t.lt⟩

theorem of_outcome_valueReader (read : (valueReader depth).outcome input = .ok (d, rest)) :
    ∃ lt, readValue depth input = .ok ⟨d, rest, lt⟩ := by
  cases taken : readValue depth input with
  | error e => simp [Reader.outcome, valueReader, taken] at read
  | ok t =>
    obtain ⟨value, left, lt⟩ := t
    obtain ⟨rfl, rfl⟩ : value = d ∧ left = rest := by
      simpa [Reader.outcome, valueReader, taken] using read
    exact ⟨lt, rfl⟩

theorem outcome_valueReader_scalar (dark : isSpace c = false) (scalar : c ≠ '[' ∧ c ≠ '\x7b')
    (read : (readScalar c).outcome input = .ok (d, rest)) :
    (valueReader depth).outcome (c :: input) = .ok (d, rest) := by
  obtain ⟨_, opened⟩ := Reader.of_outcome (@outcome_peekPastSpace c input .endOfInput dark)
  obtain ⟨_, taken⟩ := Reader.of_outcome read
  unfold Reader.outcome valueReader
  rw [readValue.eq_def]
  simp [opened, scalar, taken]

theorem outcome_valueReader_sequence {items : List Datum}
    (read : Reader.outcome (readItems depth true []) input = .ok (items, rest)) :
    (valueReader (depth + 1)).outcome ('[' :: input) = .ok (.sequence items.reverse, rest) := by
  obtain ⟨_, opened⟩ := Reader.of_outcome (@outcome_peekPastSpace '[' input .endOfInput rfl)
  obtain ⟨_, taken⟩ := Reader.of_outcome read
  unfold Reader.outcome valueReader
  rw [readValue.eq_def]
  simp [opened, taken]

theorem outcome_valueReader_mapping {entries : List (Datum × Datum)}
    (read : Reader.outcome (readEntries depth true []) input = .ok (entries, rest)) :
    (valueReader (depth + 1)).outcome ('\x7b' :: input) =
      .ok (.mapping entries.reverse, rest) := by
  obtain ⟨_, opened⟩ := Reader.of_outcome (@outcome_peekPastSpace '\x7b' input .endOfInput rfl)
  obtain ⟨_, taken⟩ := Reader.of_outcome read
  unfold Reader.outcome valueReader
  rw [readValue.eq_def]
  simp [opened, taken]

theorem outcome_readItems_close {done : List Datum} :
    Reader.outcome (readItems depth first done) (']' :: rest) = .ok (done, rest) := by
  obtain ⟨_, closed⟩ := Reader.of_outcome (@outcome_readSeparator_close first ']' rest rfl)
  unfold Reader.outcome
  rw [readItems.eq_def]
  simp [closed]

theorem outcome_readItems_item {done : List Datum}
    (more : (readSeparator first ']').outcome input = .ok (true, rest))
    (read : (valueReader depth).outcome rest = .ok (d, rest')) :
    Reader.outcome (readItems depth first done) input =
      Reader.outcome (readItems depth false (d :: done)) rest' := by
  obtain ⟨_, parted⟩ := Reader.of_outcome more
  obtain ⟨_, taken⟩ := of_outcome_valueReader read
  unfold Reader.outcome
  rw [readItems.eq_def]
  simp only [parted, taken]
  cases readItems depth false (d :: done) rest' <;> rfl

theorem outcome_readEntries_close {done : List (Datum × Datum)} :
    Reader.outcome (readEntries depth first done) ('\x7d' :: rest) = .ok (done, rest) := by
  obtain ⟨_, closed⟩ := Reader.of_outcome (@outcome_readSeparator_close first '\x7d' rest rfl)
  unfold Reader.outcome
  rw [readEntries.eq_def]
  simp [closed]

theorem outcome_readEntries_entry {done : List (Datum × Datum)} {key : String}
    {behind : List Char} (more : (readSeparator first '\x7d').outcome input = .ok (true, rest))
    (named : readKey.outcome rest = .ok (key, rest'))
    (read : (valueReader depth).outcome rest' = .ok (d, behind)) :
    Reader.outcome (readEntries depth first done) input =
      Reader.outcome (readEntries depth false ((.string key, d) :: done)) behind := by
  obtain ⟨_, parted⟩ := Reader.of_outcome more
  obtain ⟨_, keyed⟩ := Reader.of_outcome named
  obtain ⟨_, taken⟩ := of_outcome_valueReader read
  unfold Reader.outcome
  rw [readEntries.eq_def]
  simp only [parted, keyed, taken]
  cases readEntries depth false ((.string key, d) :: done) behind <;> rfl

end Values

structure ReadsBack (depth : Nat) (v : Value) : Prop where
  opens : ∃ c cs, write v = c :: cs ∧ OpensItem c
  outcome : ∀ rest, Stops rest →
    (valueReader depth).outcome (write v ++ rest) = .ok (v.datum, rest)

section ReadsBack

theorem SpellsScalar.readsBack {cs : List Char} (spells : SpellsScalar d c cs)
    (holds : v.datum = d) (written : write v = c :: cs) : ReadsBack depth v where
  opens := ⟨c, cs, written, spells.opens⟩
  outcome := by
    intro rest stops
    rw [written, holds]
    exact outcome_valueReader_scalar spells.opens.dark spells.scalar (spells.outcome rest stops)

theorem readsBack_integer {n : Int} (low : -(Nat.pow 2 63 : Int) ≤ n) (high : n < Nat.pow 2 63) :
    ReadsBack depth (.integer n) := by
  have bound : Nat.pow 2 63 = 9223372036854775808 := rfl
  by_cases negative : n < 0
  · obtain ⟨m, rfl⟩ : ∃ m : Nat, n = -(m : Int) := ⟨n.natAbs, by omega⟩
    have positive : 0 < m := by omega
    exact (spellsScalar_negative positive (by omega)).readsBack rfl (write_negative positive)
  · obtain ⟨m, rfl⟩ : ∃ m : Nat, n = m := ⟨n.natAbs, by omega⟩
    obtain ⟨first, more, written⟩ := List.exists_cons_of_ne_nil (@Nat.toDigits_ne_nil m 10)
    have fits : m < Nat.pow 2 64 := Nat.lt_trans (by omega : m < Nat.pow 2 63) (by decide)
    exact (spellsScalar_natural fits written).readsBack rfl (by rw [write_natural, written])

theorem outcome_readItems (items : List Value) (inner : ∀ item ∈ items, ReadsBack depth item)
    (first : Bool) (done : List Datum) :
    Reader.outcome (readItems depth first done) (joined first (items.map write) ++ ']' :: rest) =
      .ok ((Value.data items).reverse ++ done, rest) := by
  induction items generalizing first done with
  | nil => exact outcome_readItems_close
  | cons item items ih =>
    obtain ⟨here, later⟩ := List.forall_mem_cons.mp inner
    obtain ⟨c, cs, written, opens⟩ := here.opens
    have read := here.outcome _
      (stops_joined (items.map write) (@stops_cons ']' rest (.inr (.inl rfl))))
    have more := @outcome_readSeparator first c ']'
      (cs ++ (joined false (items.map write) ++ ']' :: rest)) (by decide) opens.dark opens.other
    rw [← List.cons_append, ← written] at more
    rw [List.map_cons, joined, List.append_assoc, List.append_assoc,
      outcome_readItems_item more read, ih later, Value.data, List.reverse_cons,
      List.append_assoc, List.singleton_append]

theorem outcome_readEntries (entries : List (String × Value))
    (inner : ∀ entry ∈ entries, ReadsBack depth entry.2) (first : Bool)
    (done : List (Datum × Datum)) :
    Reader.outcome (readEntries depth first done)
        (joined first (entries.map writeEntry) ++ '\x7d' :: rest) =
      .ok ((Value.datumEntries entries).reverse ++ done, rest) := by
  induction entries generalizing first done with
  | nil => exact outcome_readEntries_close
  | cons entry entries ih =>
    obtain ⟨here, later⟩ := List.forall_mem_cons.mp inner
    have read := here.outcome _ (stops_joined (entries.map writeEntry)
      (@stops_cons '\x7d' rest (.inr (.inr rfl))))
    have named := @outcome_readKey
      (write entry.2 ++ (joined false (entries.map writeEntry) ++ '\x7d' :: rest)) entry.1
    have more := @outcome_readSeparator_key first entry.1
      (':' :: (write entry.2 ++ (joined false (entries.map writeEntry) ++ '\x7d' :: rest)))
    have parts : joined first ((entry :: entries).map writeEntry) ++ '\x7d' :: rest =
        separator first ++ (writeString entry.1 ++ ':' :: (write entry.2 ++
          (joined false (entries.map writeEntry) ++ '\x7d' :: rest))) := by
      simp [joined, writeEntry]
    rw [parts, outcome_readEntries_entry more named read, ih later, Value.datumEntries,
      List.reverse_cons, List.append_assoc, List.singleton_append]

theorem readsBack_of_exact (exact : v.Exact depth) : ReadsBack depth v := by
  induction exact with
  | null => exact spellsScalar_null.readsBack rfl rfl
  | bool b =>
    cases b with
    | false => exact spellsScalar_false.readsBack rfl rfl
    | true => exact spellsScalar_true.readsBack rfl rfl
  | integer low high => exact readsBack_integer low high
  | string s => exact (spellsScalar_string s).readsBack rfl rfl
  | @sequence depth items _ inner =>
    have written : write (.sequence items) = '[' :: (joined true (items.map write) ++ [']']) := by
      rw [write, writeItems_eq_joined, List.append_assoc, List.singleton_append]
    refine ⟨⟨_, _, written, rfl, by decide⟩, fun rest _ => ?_⟩
    have read := @outcome_readItems depth rest items inner true []
    rw [written, List.cons_append, List.append_assoc, List.singleton_append,
      outcome_valueReader_sequence read]
    simp [Value.datum]
  | @mapping depth entries distinct _ inner =>
    have written : write (.mapping entries) =
        '\x7b' :: (joined true (entries.map writeEntry) ++ ['\x7d']) := by
      rw [write, writeEntries_eq_joined, List.append_assoc, List.singleton_append]
    refine ⟨⟨_, _, written, rfl, by decide⟩, fun rest _ => ?_⟩
    have read := @outcome_readEntries depth rest entries inner true []
    rw [written, List.cons_append, List.append_assoc, List.singleton_append,
      outcome_valueReader_mapping read]
    simp [Value.datum]

end ReadsBack

theorem read_text_of_exact (exact : v.Exact depthLimit) : read (text v) = .ok v := by
  have whole := (readsBack_of_exact exact).outcome [] stops_nil
  have chars : (text v).toList = write v := String.toList_ofList
  rw [List.append_nil, ← chars] at whole
  obtain ⟨_, taken⟩ := of_outcome_valueReader whole
  simp [read, taken, Value.value?_datum exact]

/-- The text of a value gives the value back, with its keys in the same order, and so the same tree
is loaded from it. -/
theorem exact_value_reads_back (v : Value) (exact : v.Exact 127) :
    read (text v) = .ok v ∧ Tree.ofJson (text v) = .ok (Tree.ofValue v) := by
  have same : read (text v) = .ok v := read_text_of_exact exact
  refine ⟨same, ?_⟩
  rw [Tree.ofJson, same]
  rfl

theorem exact_value_reads_back_escaped :
    let v : Value := .mapping [("b", .sequence [.integer (-9223372036854775808),
      .integer 9223372036854775807, .null]), ("a\n", .mapping [("\x01", .string "\"\\/😀")])]
    v.Exact 127 ∧ text v = "\x7b\"b\":[-9223372036854775808,9223372036854775807,null]," ++
        "\"a\\n\":\x7b\"\\u0001\":\"\\\"\\\\/😀\"\x7d\x7d" ∧
      read (text v) = .ok v ∧ Tree.ofJson (text v) = .ok (Tree.ofValue v) := by
  intro v
  have exact : v.Exact 127 := by
    refine .mapping (by decide) ?_
    simp only [List.forall_mem_cons, List.not_mem_nil, false_imp_iff, implies_true, and_true]
    refine ⟨.sequence ?_, .mapping (by decide) ?_⟩
    · simp only [List.forall_mem_cons, List.not_mem_nil, false_imp_iff, implies_true, and_true]
      exact ⟨.integer (by decide) (by decide), .integer (by decide) (by decide), .null⟩
    · simp only [List.forall_mem_cons, List.not_mem_nil, false_imp_iff, implies_true, and_true]
      exact .string _
  exact ⟨exact, by decide +kernel, exact_value_reads_back v exact⟩

end Json

end PathQuery
