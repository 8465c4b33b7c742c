import Mathlib
import PathQuery.Proofs.Files.Writing
import PathQuery.Proofs.Settings.Text
import PathQuery.Proofs.Text.Utf8
import PathQuery.Proofs.Tree.Loaded
import PathQuery.Settings.Storage

set_option autoImplicit false

namespace PathQuery.Settings

variable {s : Settings} {fs fs' : Files} {path text : String}

theorem load_of_read (there : fs.read path = .ok (Utf8.encode text.toList))
    (written : s.text? = some text) : load fs path = .ok s := by
  have decoded : Tree.textOf (Utf8.encode text.toList) = .ok text := by
    simp [Tree.textOf, Utf8.decode_encode, Loaded.ofExcept, Except.map]
  simp [load, there, decoded, read_text written, Loaded.ofExcept, Loaded.within, bind, Except.bind]

theorem save_of_made (made : fs.makeParent path = .ok fs') (written : s.text? = some text)
    {saved : Files} (kept : fs'.write path (Utf8.encode text.toList) = .ok saved) :
    s.save fs path = .ok saved := by
  obtain ⟨passes, rfl⟩ := Files.Attempt.result_eq_ok.mp made
  simp [save, trySave, Files.Attempt.mapFailure, Files.Attempt.andThen, passes, written, kept,
    Loaded.ofExcept, Loaded.within, Files.Attempt.of, Files.Attempt.result]

theorem trySave_of_large (large : s.text? = none) (fs : Files) (path : String) :
    (s.trySave fs path).files = (fs.tryParent path).files ∧
      ∃ e, (s.trySave fs path).failure = some e := by
  cases failure : (fs.tryParent path).failure <;>
    simp [trySave, large, Files.Attempt.mapFailure, Files.Attempt.andThen, Files.Attempt.of,
      failure]

/-- Settings that are saved under a path that can be written are loaded from there again. With a
count that is too large they cannot be saved, and then no file is lost or changed. -/
theorem load_save (s : Settings) (fs : Files) (path : String) :
    (s.maxResults ≤ 2 ^ 63 - 1 → fs.Writable path →
      ∃ saved, s.save fs path = .ok saved ∧ load saved path = .ok s) ∧
    (2 ^ 63 - 1 < s.maxResults →
      (∃ e, s.save fs path = .error e) ∧
      ∀ file content, fs.read file = .ok content →
        (s.trySave fs path).files.read file = .ok content) := by
  constructor
  · rintro small ⟨content, fs', added⟩
    obtain ⟨parent, made, written⟩ := bind_eq_ok.mp added
    have text : s.text? = some _ := text?_eq_some small
    obtain ⟨saved, kept⟩ := Files.write_any written (Utf8.encode
      (String.ofList (s.entries.flatMap Toml.Written.chars)).toList)
    exact ⟨saved, save_of_made made text kept, load_of_read (Files.read_write kept) text⟩
  · intro large
    have none_written : s.text? = none := by
      have above : ¬s.maxResults ≤ maxCount := Nat.not_le.mpr large
      simp [text?, above]
    obtain ⟨same, e, failure⟩ := trySave_of_large none_written fs path
    refine ⟨⟨e, by rw [save, Files.Attempt.result, failure]⟩, fun file content there => ?_⟩
    rw [same]
    exact (Files.tryParent_grows fs path).read there

theorem load_save_over_file :
    ∃ (s large : Settings) (fs saved : Files), s.dialect = "\n'''a\"\"\"\r\\" ∧
      s.save fs "/a/b" = .ok saved ∧ load saved "/a/b" = .ok s ∧
      large = { s with maxResults := 2 ^ 63 } ∧ (∃ e, large.save fs "/a/b" = .error e) ∧
      (large.trySave fs "/a/b").files.read "/a/b" = .ok [104] := by
  let s : Settings := ⟨"\n'''a\"\"\"\r\\", true, 2, false⟩
  let large : Settings := { s with maxResults := 2 ^ 63 }
  let fs : Files := ⟨[(["a", "b"], .file [104]), (["a"], .directory)], []⟩
  have writable : fs.Writable "/a/b" :=
    ⟨[], ⟨[(["a", "b"], .file []), (["a"], .directory)], []⟩, by cbv⟩
  have there : fs.read "/a/b" = .ok [104] := by cbv
  obtain ⟨saved, kept, loaded⟩ := (load_save s fs "/a/b").1 (by decide) writable
  obtain ⟨fails, same⟩ := (load_save large fs "/a/b").2 (by decide)
  exact ⟨s, large, fs, saved, rfl, kept, loaded, rfl, fails, same "/a/b" [104] there⟩

end PathQuery.Settings
