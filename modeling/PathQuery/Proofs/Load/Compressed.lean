import PathQuery.Proofs.Load.FileName
import PathQuery.Proofs.Text.Outcome
import PathQuery.Proofs.Text.Utf8
import PathQuery.Proofs.Tree.Loaded

set_option autoImplicit false

namespace PathQuery

open PathQuery.Text

namespace Gzip

variable {bytes content : List UInt8}

theorem eq_take_of_takeBytes {n : Nat} {taken rest : List UInt8}
    (read : (takeBytes n).outcome bytes = .ok (taken, rest)) : taken = bytes.take n := by
  obtain ⟨ahead, left, same, read⟩ := Reader.of_outcome_bind read
  obtain ⟨rfl, rfl⟩ : bytes = ahead ∧ bytes = left := by simpa using same
  dsimp only at read
  split at read
  · simpa [eq_comm] using And.left (Prod.mk.inj (Except.ok.inj read))
  · simp at read

theorem isCompressed_of_expand (expands : expand bytes = .ok content) :
    isCompressed bytes = true := by
  obtain ⟨header, skipped, _⟩ := bind_eq_ok.mp expands
  have read : skipHeader.outcome bytes = .ok (header.value, header.rest) := by
    simp [Reader.outcome, skipped]
  obtain ⟨start, left, taken, read⟩ := Reader.of_outcome_bind read
  obtain rfl := eq_take_of_takeBytes taken
  cases magical : isCompressed (bytes.take 10) with
  | false => simp [magical] at read
  | true =>
    have front := List.isPrefixOf_iff_prefix.mp magical
    exact List.isPrefixOf_iff_prefix.mpr (front.trans (List.take_prefix 10 bytes))

theorem decode_of_isCompressed (compressed : isCompressed bytes = true) :
    ∃ e, Utf8.decode bytes = .error e := by
  obtain ⟨rest, rfl⟩ := List.isPrefixOf_iff_prefix.mp compressed
  -- The second byte of the mark begins no character.
  exact ⟨_, rfl⟩

end Gzip

namespace Tree

open Loaded

variable {files files' : Files} {path directory name : String} {bytes packed content : List UInt8}
  {chars : List Char} {text : String} {t : Tree}

section Text

theorem textOf_eq_ok :
    textOf bytes = .ok text ↔ ∃ chars, Utf8.decode bytes = .ok chars ∧ String.ofList chars = text := by
  rw [textOf, ofExcept_eq_ok, map_eq_ok]

theorem expandText_eq_ok : expandText bytes = .ok text ↔
    ∃ content, Gzip.expand bytes = .ok content ∧ textOf content = .ok text := by
  simp only [expandText, bind_eq_ok, ofExcept_eq_ok]

theorem textOf_of_decode (valid : Utf8.decode bytes = .ok chars) :
    textOf bytes = .ok (String.ofList chars) :=
  textOf_eq_ok.mpr ⟨chars, valid, rfl⟩

theorem expandText_of_expand (expands : Gzip.expand bytes = .ok content)
    (valid : Utf8.decode content = .ok chars) : expandText bytes = .ok (String.ofList chars) :=
  expandText_eq_ok.mpr ⟨content, expands, textOf_of_decode valid⟩

theorem not_isCompressed_of_decode (valid : Utf8.decode bytes = .ok chars) :
    Gzip.isCompressed bytes = false := by
  refine Bool.eq_false_iff.mpr fun compressed => ?_
  obtain ⟨e, fails⟩ := Gzip.decode_of_isCompressed compressed
  simp [fails] at valid

theorem inputText_of_textOf (read : textOf bytes = .ok text) : inputText bytes = .ok text := by
  obtain ⟨chars, valid, rfl⟩ := textOf_eq_ok.mp read
  rw [inputText, not_isCompressed_of_decode valid, if_neg (by simp), within_eq_ok, ofExcept_eq_ok,
    map_eq_ok]
  exact ⟨chars, valid, rfl⟩

theorem inputText_of_expandText (read : expandText bytes = .ok text) :
    inputText bytes = .ok text := by
  obtain ⟨content, expands, _⟩ := expandText_eq_ok.mp read
  rw [inputText, Gzip.isCompressed_of_expand expands, if_pos rfl, within_eq_ok]
  exact read

theorem fileText_eq_ok : fileText files path = .ok text ↔ ∃ bytes, files.read path = .ok bytes ∧
    (if isCompressedName path then expandText bytes else textOf bytes) = .ok text := by
  unfold fileText
  split
  · simp only [bind_eq_ok, within_eq_ok, ofExcept_eq_ok, Files.read]
    constructor
    · rintro ⟨entry, opened, bytes, stored, read⟩
      exact ⟨bytes, ⟨entry, opened, stored⟩, read⟩
    · rintro ⟨bytes, ⟨entry, opened, stored⟩, read⟩
      exact ⟨entry, opened, bytes, stored, read⟩
  · simp only [bind_eq_ok, within_eq_ok, ofExcept_eq_ok]

theorem ofFile_eq_ok : ofFile files path = .ok t ↔ ∃ text, fileText files path = .ok text ∧
    (if isJsonName path then ofJson text else ofYaml text) = .ok t := by
  simp only [ofFile, bind_eq_ok, within_eq_ok]

theorem ofFile_of_fileText (found : fileText files path = .ok text) :
    ofFile files path = .ok t ↔ (if isJsonName path then ofJson text else ofYaml text) = .ok t := by
  rw [ofFile_eq_ok]
  constructor
  · rintro ⟨other, found', loaded⟩
    obtain rfl := Except.ok.inj (found.symm.trans found')
    exact loaded
  · intro loaded
    exact ⟨text, found, loaded⟩

theorem ofBytes_of_inputText (read : inputText bytes = .ok text) :
    ofBytes bytes = match ofJson text with
      | .ok t => .ok t
      | .error _ => (ofYaml text).within "Input is neither valid JSON nor valid YAML" := by
  rw [ofBytes, read]
  rfl

end Text

theorem ofBytes_of_ofFile (json : isJsonName path = true) (loaded : ofFile files path = .ok t) :
    ∃ bytes, files.read path = .ok bytes ∧ ofBytes bytes = .ok t := by
  obtain ⟨text, found, loaded⟩ := ofFile_eq_ok.mp loaded
  obtain ⟨bytes, there, read⟩ := fileText_eq_ok.mp found
  rw [if_pos json] at loaded
  refine ⟨bytes, there, ?_⟩
  have input : inputText bytes = .ok text := by
    split at read
    · exact inputText_of_expandText read
    · exact inputText_of_textOf read
  rw [ofBytes_of_inputText input, loaded]

/-- Compressed documents are loaded as what they expand to: by their first bytes, which no text has,
or in files by their names, which are also what tells JSON from YAML in either case. A file that is
JSON by its name is loaded as its bytes are, compressed or not. -/
theorem compressed_loads_alike :
    (∀ content chars, Utf8.decode content = .ok chars →
      Gzip.isCompressed content = false ∧
      ∀ packed, Gzip.expand packed = .ok content →
        (ofBytes packed = ofBytes content ∧ ofInput packed = ofInput content) ∧
        ∀ files files' directory name,
          Names directory name → ¬".gz".toList <:+ name.toList →
          files.read (directory ++ name) = .ok content →
          files'.read (directory ++ name ++ ".gz") = .ok packed →
            isJsonName (directory ++ name ++ ".gz") = isJsonName (directory ++ name) ∧
            ∀ t, ofFile files' (directory ++ name ++ ".gz") = .ok t ↔
              ofFile files (directory ++ name) = .ok t) ∧
    ∀ files path t,
      ".json".toList <:+ path.toList ∨ ".json.gz".toList <:+ path.toList →
      ofFile files path = .ok t → ∃ bytes, files.read path = .ok bytes ∧ ofBytes bytes = .ok t := by
  refine ⟨fun content chars valid => ⟨not_isCompressed_of_decode valid,
    fun packed expands => ⟨?_, ?_⟩⟩, ?_⟩
  · have same : ofBytes packed = ofBytes content := by
      rw [ofBytes_of_inputText (inputText_of_expandText (expandText_of_expand expands valid)),
        ofBytes_of_inputText (inputText_of_textOf (textOf_of_decode valid))]
    exact ⟨same, by rw [ofInput, same, ofInput]⟩
  · intro files files' directory name names unended there there'
    have not_gz : ¬".gz".toList <:+ (directory ++ name).toList := fun suffix =>
      unended (names.suffix_name (by decide) suffix)
    have alike : isJsonName (directory ++ name ++ ".gz") = isJsonName (directory ++ name) := by
      rw [isJsonName_gz, isJsonName_of_not_gz not_gz]
    refine ⟨alike, fun t => ?_⟩
    have plain : isCompressedName (directory ++ name) = false :=
      Bool.eq_false_iff.mpr fun compressed => not_gz (suffix_of_isCompressedName there compressed)
    have found : fileText files (directory ++ name) = .ok (String.ofList chars) :=
      fileText_eq_ok.mpr ⟨content, there, by simpa [plain] using textOf_of_decode valid⟩
    have found' : fileText files' (directory ++ name ++ ".gz") = .ok (String.ofList chars) :=
      fileText_eq_ok.mpr ⟨packed, there', by
        simpa [names.isCompressedName] using expandText_of_expand expands valid⟩
    rw [ofFile_of_fileText found, ofFile_of_fileText found', alike]
  · intro files path t ending loaded
    exact ofBytes_of_ofFile (isJsonName_of_suffix ending) loaded

theorem compressed_loads_alike_stored :
    ∃ packed content files t, Gzip.expand packed = .ok content ∧ ofBytes packed = ofBytes content ∧
      ofFile files "/d/.json" = .ok t ∧ ofFile files "/d/.json.gz" = .ok t ∧
      ∃ bytes, files.read "/d/.json.gz" = .ok bytes ∧ ofBytes bytes = .ok t := by
  -- One stored block, with its checksum and size.
  let content : List UInt8 := [123, 34, 97, 34, 58, 49, 125]
  let packed : List UInt8 :=
    [31, 139, 8, 0, 0, 0, 0, 0, 0, 255, 1, 7, 0, 248, 255] ++ content ++
      [175, 172, 27, 86, 7, 0, 0, 0]
  let files : Files := ⟨[(["d", ".json"], .file content), (["d", ".json.gz"], .file packed),
    (["d"], .directory)], []⟩
  let t : Tree := ⟨#[⟨"", none, [1]⟩, ⟨"a", some 0, [2]⟩, ⟨"1", some 1, []⟩]⟩
  have expands : Gzip.expand packed = .ok content := by decide +kernel
  have valid : Utf8.decode content = .ok "\x7b\"a\":1\x7d".toList := by decide +kernel
  have names : Names "/d/" ".json" := ⟨.inr (by decide), by decide, by decide⟩
  have there : files.read ("/d/" ++ ".json") = .ok content := by decide +kernel
  have there' : files.read ("/d/" ++ ".json" ++ ".gz") = .ok packed := by decide +kernel
  have loaded : ofFile files "/d/.json" = .ok t := by decide +kernel
  obtain ⟨⟨same, _⟩, alike⟩ := (compressed_loads_alike.1 content _ valid).2 packed expands
  have loaded' : ofFile files "/d/.json.gz" = .ok t :=
    ((alike files files "/d/" ".json" names (by decide) there there').2 t).mpr loaded
  obtain ⟨bytes, read, given⟩ :=
    compressed_loads_alike.2 files "/d/.json.gz" t (.inr (by decide)) loaded'
  exact ⟨packed, content, files, t, expands, same, loaded, loaded', bytes, read, given⟩

end Tree

end PathQuery
