import PathQuery.CommandLine.Run

set_option autoImplicit false

namespace PathQuery.CommandLine

variable {o : Output} {s : Surroundings} {a : Arguments} {r : Report} {lines : List String}
  {count : Nat}

section Lines

theorem toList_linesText (lines : List String) :
    (linesText lines).toList = lines.flatMap fun line => line.toList ++ ['\n'] := by
  simp [linesText, String.toList_join, List.flatMap, Function.comp_def]

theorem linesText_eq_empty_iff : linesText lines = "" ↔ lines = [] := by
  rw [← String.toList_inj, toList_linesText]
  cases lines <;> simp

theorem linesText_prefix {more : List String} (begins : lines <+: more) :
    (linesText lines).toList <+: (linesText more).toList := by
  obtain ⟨rest, rfl⟩ := begins
  rw [toList_linesText, toList_linesText, List.flatMap_append]
  exact List.prefix_append _ _

end Lines

theorem writeLines_steady (lines : List String) (count : Nat) :
    writeLines .steady count lines = ⟨lines, .ok (count + lines.length)⟩ := by
  induction lines generalizing count with
  | nil => rfl
  | cons line rest ih =>
    have sound : Output.steady.atLine count = none := rfl
    have next : count + 1 + rest.length = count + (rest.length + 1) := by omega
    simp only [writeLines, sound, ih, List.length_cons, next]

theorem writeLines_nil_cases (o : Output) (count : Nat) :
    (∃ reason, o.atEnd = some (.failed reason) ∧ writeLines o count [] = ⟨[], .error reason⟩) ∨
      writeLines o count [] = ⟨[], .ok count⟩ := by
  rw [writeLines]
  split
  case h_1 reason fault => exact .inl ⟨reason, fault, rfl⟩
  all_goals exact .inr rfl

theorem writeLines_cons_cases (o : Output) (count : Nat) (line : String) (rest : List String) :
    (∃ reason, o.atLine count = some (.failed reason) ∧
        writeLines o count (line :: rest) = ⟨[], .error reason⟩) ∨
      writeLines o count (line :: rest) = ⟨[], .ok (count + 1)⟩ ∨
      writeLines o count (line :: rest) =
        ⟨line :: (writeLines o (count + 1) rest).lines, (writeLines o (count + 1) rest).count⟩ := by
  rw [writeLines]
  split
  case h_1 reason fault => exact .inl ⟨reason, fault, rfl⟩
  case h_2 => exact .inr (.inl rfl)
  case h_3 => exact .inr (.inr rfl)

theorem lines_writeLines_begin (o : Output) (lines : List String) (count : Nat) :
    (writeLines o count lines).lines <+: lines := by
  induction lines generalizing count with
  | nil => obtain ⟨_, _, same⟩ | same := writeLines_nil_cases o count <;> simp [same]
  | cons line rest ih =>
    obtain ⟨_, _, same⟩ | same | same := writeLines_cons_cases o count line rest
    · simp [same]
    · simp [same]
    · rw [same]
      exact List.cons_prefix_cons.mpr ⟨rfl, ih (count + 1)⟩

theorem le_count_writeLines {total : Nat}
    (written : (writeLines o count lines).count = .ok total) : count ≤ total := by
  induction lines generalizing count with
  | nil => obtain ⟨_, _, same⟩ | same := writeLines_nil_cases o count <;> simp_all
  | cons line rest ih =>
    obtain ⟨_, _, same⟩ | same | same := writeLines_cons_cases o count line rest <;>
      rw [same] at written
    · cases written
    · cases written
      exact Nat.le_succ _
    · exact Nat.le_of_succ_le (ih written)

-- A line counts as soon as it is tried, so that the count tells whether there was one even if none
-- of them went out.
theorem count_writeLines_pos_iff {total : Nat}
    (written : (writeLines o 0 lines).count = .ok total) : 0 < total ↔ lines ≠ [] := by
  cases lines with
  | nil => obtain ⟨_, _, same⟩ | same := writeLines_nil_cases o 0 <;> simp_all
  | cons line rest =>
    refine iff_of_true ?_ (List.cons_ne_nil line rest)
    obtain ⟨_, _, same⟩ | same | same := writeLines_cons_cases o 0 line rest <;>
      rw [same] at written
    · cases written
    · cases written
      exact Nat.one_pos
    · exact le_count_writeLines written

/-- A fault that is more than a reader that has gone away. -/
def Output.Reports (o : Output) (reason : String) : Prop :=
  (∃ line, o.atLine line = some (.failed reason)) ∨ o.atEnd = some (.failed reason)

theorem reports_of_writeLines {reason : String}
    (failed : (writeLines o count lines).count = .error reason) : o.Reports reason := by
  induction lines generalizing count with
  | nil =>
    obtain ⟨_, fault, same⟩ | same := writeLines_nil_cases o count <;> rw [same] at failed <;>
      cases failed
    exact .inr fault
  | cons line rest ih =>
    obtain ⟨_, fault, same⟩ | same | same := writeLines_cons_cases o count line rest <;>
      rw [same] at failed
    · cases failed
      exact .inl ⟨_, fault⟩
    · cases failed
    · exact ih failed

theorem execute_of_error {e : Failure} (ran : run s a = .error e) :
    execute s a = ⟨2, "", some ("Error: " ++ e.message)⟩ := by
  simp only [execute, executeOn, ran]

theorem execute_of_run (ran : run s a = .ok r) :
    execute s a =
      ⟨if r.found.getD (!r.lines.isEmpty) then 0 else 1, linesText r.lines, none⟩ := by
  have some : decide (0 < 0 + r.lines.length) = !r.lines.isEmpty := by
    cases r.lines <;> simp
  simp only [execute, executeOn, ran, writeLines_steady, some]

/-- Whatever the output does, what goes out is the beginning of what there is to tell. The code and
the error stay the same, unless the output fails in another way than by losing its reader. -/
theorem executeOn_ends (o : Output) (s : Surroundings) (a : Arguments) :
    (executeOn o s a).output.toList <+: (execute s a).output.toList ∧
      ((executeOn o s a).code = (execute s a).code ∧
          (executeOn o s a).error = (execute s a).error ∨
        ∃ reason, o.Reports reason ∧ (executeOn o s a).code = 2 ∧
          (executeOn o s a).error = some ("Error: " ++ reason)) := by
  cases ran : run s a with
  | error e => simp [execute_of_error ran, executeOn, ran]
  | ok r =>
    have begins := linesText_prefix (lines_writeLines_begin o r.lines 0)
    rw [execute_of_run ran]
    cases written : (writeLines o 0 r.lines).count with
    | error reason =>
      refine ⟨by simpa [executeOn, ran, written] using begins, .inr ⟨reason, ?_, ?_⟩⟩
      · exact reports_of_writeLines written
      · simp [executeOn, ran, written]
    | ok total =>
      have some : decide (0 < total) = !r.lines.isEmpty := by
        rw [Bool.eq_iff_iff, decide_eq_true_iff, count_writeLines_pos_iff written]
        simp
      refine ⟨by simpa [executeOn, ran, written] using begins, .inl ?_⟩
      simp [executeOn, ran, written, some]

-- Two lines go out, and a third one is tried.
example : writeLines ⟨fun line => if line < 2 then none else some .closed, none⟩ 0
    ["/a", "/b", "/c", "/d"] = ⟨["/a", "/b"], .ok 3⟩ := rfl

end PathQuery.CommandLine
