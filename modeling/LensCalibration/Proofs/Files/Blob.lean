import LensCalibration.Files.Blob
import LensCalibration.Proofs.Blob.Decoding
import LensCalibration.Proofs.Files.Writing

/-!
# Blobs in files

Reading a file adds nothing to decoding its text but the faults of reaching it, and a file that was
written as a blob is decoded from that blob.
-/

namespace LensCalibration.Files

section

variable {lookup : Lookup} {path text : String}

/-! ## The text of a file -/

theorem fromUTF8?_toUTF8 (text : String) : String.fromUTF8? text.toUTF8 = some text :=
  dif_pos text.isValidUTF8

theorem fromUTF8?_of_forall_ne {bytes : ByteArray} (h : ∀ text : String, bytes ≠ text.toUTF8) :
    String.fromUTF8? bytes = none := by
  apply dif_neg
  intro hvalid
  exact h (String.fromUTF8 bytes hvalid) rfl

theorem readText_of_lookup (h : lookup path = .ok text.toUTF8) :
    readText lookup path = .ok text := by
  simp only [readText, h, fromUTF8?_toUTF8]

theorem result_readBlob (lookup : Lookup) (path : String) :
    (readBlob lookup path).result = (readText lookup path).bind Calibration.ofBlob := by
  simp only [readBlob, Logged.result_bind, Logged.result_ofExcept]
  cases readText lookup path with
  | error e => rfl
  | ok text =>
      simp only [Except.bind]
      cases Calibration.ofBlob text <;> rfl

theorem validate_of_readBlob {c : Calibration} (h : (readBlob lookup path).result = .ok c) :
    c.validate = .ok () := by
  rw [result_readBlob] at h
  obtain ⟨text, -, htext⟩ := bind_eq_ok.1 h
  exact (Calibration.ofBlob_eq_ok.1 htext).2

/-- What comes of the text of a file; that it was read is told only where it was accepted. -/
def loaded (path text : String) : Logged Calibration where
  result := Calibration.ofBlob text
  events :=
    match Calibration.ofBlob text with
    | .ok c => [.hasRead path c.depthCamera.model c.colorCamera.model]
    | .error _ => []

theorem readBlob_of_readText (h : readText lookup path = .ok text) :
    readBlob lookup path = loaded path text := by
  simp only [readBlob, h, loaded, Logged.ofExcept, bind, Logged.bind]
  cases Calibration.ofBlob text <;> rfl

theorem readBlob_of_readText_error {error : CalibrationError}
    (h : readText lookup path = .error error) : readBlob lookup path = .fail error := by
  rw [readBlob, h]
  rfl

theorem readBlob_of_lookup (h : lookup path = .ok text.toUTF8) :
    readBlob lookup path = loaded path text :=
  readBlob_of_readText (readText_of_lookup h)

end

/-! ## Trees -/

section

variable {tree written : Tree} {path : String} {c : Calibration}

theorem readBlob_of_not_holds (h : ∀ content, ¬ tree.Holds path content) :
    readBlob tree.read path = .fail (.fileDoesNotExist path) := by
  obtain ⟨fault, hfault, hread⟩ := Tree.exists_read_eq_error h
  apply readBlob_of_readText_error
  rw [readText, hread]
  cases fault <;> first | rfl | exact absurd rfl hfault

theorem readBlob_of_holds_directory (h : tree.Holds path .directory) :
    readBlob tree.read path = .fail (.io .isDirectory) := by
  apply readBlob_of_readText_error
  rw [readText, Tree.read_of_holds_directory h]

theorem readBlob_of_holds_text {text : String} (h : tree.Holds path (.file text.toUTF8)) :
    readBlob tree.read path = loaded path text :=
  readBlob_of_lookup (Tree.read_of_holds_file h)

theorem readBlob_of_holds_bytes {bytes : ByteArray} (h : tree.Holds path (.file bytes))
    (hbytes : ∀ text : String, bytes ≠ text.toUTF8) :
    readBlob tree.read path = .fail (.io .notText) := by
  apply readBlob_of_readText_error
  simp only [readText, Tree.read_of_holds_file h, fromUTF8?_of_forall_ne hbytes]

theorem writeBlob_eq_ok :
    writeBlob tree path c = .ok written ↔ tree.write path c.toBlob.toUTF8 = .ok written := by
  unfold writeBlob
  cases tree.write path c.toBlob.toUTF8 with
  | error fault => exact ⟨nofun, nofun⟩
  | ok tree' =>
      constructor
      · intro h
        cases h
        rfl
      · intro h
        cases h
        rfl

end

end LensCalibration.Files
