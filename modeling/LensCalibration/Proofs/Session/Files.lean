import LensCalibration.Proofs.Blob.Reload
import LensCalibration.Proofs.Files.Blob
import LensCalibration.Session

/-!
# The files of a session

Writing the calibration changes the file of its path and nothing else, or nothing at all, and
reading changes no file.  What was written is there to be read, under every path that names the
file, until the same file is written again.
-/

namespace LensCalibration.Session

open Files

/-- A step that writes no file at this place of the tree, and puts raw bytes nowhere. -/
def Step.Avoids (tree : Tree) (place : Place) : Step → Prop
  | .write path => ¬ tree.Names path place
  | .put _ _ => False
  | _ => True

namespace State

variable {s : State} {tree : Tree} {step : Step} {place : Place} {path : String}

def after (s : State) (steps : List Step) : State :=
  steps.foldl (fun s step => (s.run step).state) s

/-! ## Steps -/

theorem files_replaced (s : State) (events : List Event) (next : Except Refusal Calibration) :
    (s.replaced events next).state.files = s.files := by
  cases next <;> rfl

theorem run_write_of_eq_ok {written : Tree}
    (h : writeBlob s.files path s.calibration = .ok written) :
    s.run (.write path) = ⟨.ok .done, { s with files := written }, []⟩ := by
  rw [run, h]
  rfl

theorem run_write_of_not_admits (h : ¬ s.files.Admits path) :
    ∃ fault, s.run (.write path) = ⟨.error (.error (.io fault)), s, []⟩ := by
  cases hwrite : s.files.write path s.calibration.toBlob.toUTF8 with
  | ok written => exact absurd (Tree.exists_write_iff.1 ⟨written, hwrite⟩) h
  | error fault =>
      refine ⟨fault, ?_⟩
      rw [run, writeBlob, hwrite]
      rfl

theorem layout_and_view_run (hlayout : s.files.layout = tree.layout) (h : step.Avoids tree place) :
    (s.run step).state.files.layout = tree.layout ∧
      (s.run step).state.files.view place = s.files.view place := by
  cases step with
  | put path bytes => exact h.elim
  | write path =>
      cases hwrite : writeBlob s.files path s.calibration with
      | error error =>
          rw [run, hwrite]
          exact ⟨hlayout, rfl⟩
      | ok written =>
          obtain ⟨there, hnames, hwritten, hview⟩ :=
            Tree.view_and_layout_write (writeBlob_eq_ok.1 hwrite)
          -- The step avoids the file as `tree` names it, and there are the same names here.
          have hne : place ≠ there := by
            rintro rfl
            exact h (hnames.of_layout hlayout.symm)
          rw [run_write_of_eq_ok hwrite]
          exact ⟨hwritten.trans hlayout,
            (congrFun hview place).trans (Function.update_of_ne hne ..)⟩
  | ask | compare | get | save => exact ⟨hlayout, rfl⟩
  | reset | load | vendor | read | edit | restore =>
      exact ⟨(congrArg Tree.layout (files_replaced ..)).trans hlayout,
        congrArg (Tree.view · place) (files_replaced ..)⟩

theorem layout_and_view_after {steps : List Step} (hlayout : s.files.layout = tree.layout)
    (h : ∀ step ∈ steps, step.Avoids tree place) :
    (s.after steps).files.layout = tree.layout ∧
      (s.after steps).files.view place = s.files.view place := by
  induction steps generalizing s with
  | nil => exact ⟨hlayout, rfl⟩
  | cons step steps ih =>
      -- Writes elsewhere change the tree, but not its layout, and so not what a path names.
      obtain ⟨hrun, hview⟩ := layout_and_view_run hlayout (h step List.mem_cons_self)
      obtain ⟨hafter, hrest⟩ := ih hrun fun other hother => h other (List.mem_cons_of_mem _ hother)
      exact ⟨hafter, hrest.trans hview⟩

/-! ## Blobs -/

/-- Whatever the state, its files and its calibration are. -/
theorem run_write_or_read (s : State) (path : String) :
    (s.files.Admits path →
      ∃ place written, s.files.Names path place ∧
        s.run (.write path) = ⟨.ok .done, { s with files := written }, []⟩ ∧
        written.layout = s.files.layout ∧
        written.view = Function.update s.files.view place
          (some (.file s.calibration.toBlob.toUTF8)) ∧
        ∀ steps, (∀ step ∈ steps, step.Avoids s.files place) →
          ∀ other, s.files.Names other place →
            readBlob (after { s with files := written } steps).files.read other =
              loaded other s.calibration.toBlob) ∧
      (¬ s.files.Admits path →
        ∃ fault, s.run (.write path) = ⟨.error (.error (.io fault)), s, []⟩) ∧
      (s.run (.read path)).state.files = s.files ∧
      ((∀ content, ¬ s.files.Holds path content) →
        readBlob s.files.read path = .fail (.fileDoesNotExist path)) ∧
      (s.files.Holds path .directory → readBlob s.files.read path = .fail (.io .isDirectory)) ∧
      (∀ bytes, s.files.Holds path (.file bytes) → (∀ text : String, bytes ≠ text.toUTF8) →
        readBlob s.files.read path = .fail (.io .notText)) ∧
      ∀ text : String, s.files.Holds path (.file text.toUTF8) →
        readBlob s.files.read path = loaded path text := by
  refine ⟨fun hadmits => ?_, run_write_of_not_admits, files_replaced .., readBlob_of_not_holds,
    readBlob_of_holds_directory, fun bytes => readBlob_of_holds_bytes,
    fun text => readBlob_of_holds_text⟩
  obtain ⟨written, hwrite⟩ : ∃ written,
      s.files.write path s.calibration.toBlob.toUTF8 = .ok written :=
    Tree.exists_write_iff.2 hadmits
  obtain ⟨place, hnames, hlayout, hview⟩ := Tree.view_and_layout_write hwrite
  refine ⟨place, written, hnames, run_write_of_eq_ok (writeBlob_eq_ok.2 hwrite), hlayout, hview,
    fun steps hsteps other hother => ?_⟩
  obtain ⟨hafter, hkept⟩ :=
    layout_and_view_after (s := { s with files := written }) hlayout hsteps
  apply readBlob_of_holds_text
  apply (hother.of_layout hafter).holds
  rw [hkept, hview, Function.update_self]

/-! ## A file that is replaced -/

/-- The bytes of a text behind one that begins no character. -/
def stale (text : String) : ByteArray :=
  ⟨#[0xff]⟩ ++ text.toUTF8

theorem size_stale (text : String) : (stale text).size = 1 + text.toUTF8.size :=
  ByteArray.size_append

theorem stale_ne_toUTF8 (text other : String) : stale text ≠ other.toUTF8 := by
  intro h
  have hsize : 0 < (stale text).size := by
    rw [size_stale]
    omega
  have hfirst : (stale text)[0] = 0xff := ByteArray.getElem_append_left Nat.one_pos
  have hvalid : (stale text).IsValidUTF8 := h ▸ other.isValidUTF8
  have hbyte := hvalid.isUTF8FirstByte_getElem_zero hsize
  rw [hfirst] at hbyte
  exact absurd hbyte (by decide)

/-- Paths start from the directory `x` unless they begin with a slash. -/
def sampleTree (c : Calibration) : Tree :=
  { Tree.empty with
    root :=
      .cons "x" (.directory (.cons "log" (.file "old".toUTF8) .nil))
        (.cons "c" (.file (stale c.toBlob)) .nil)
    workingDirectory := ["x"] }

theorem locate_sampleTree (c : Calibration) :
    (sampleTree c).locate "../c" = .ok (⟨false, ["..", "c"], false⟩, ["c"]) ∧
      (sampleTree c).locate "/x/.././c" = .ok (⟨true, ["x", "..", ".", "c"], false⟩, ["c"]) ∧
      (sampleTree c).locate "log" = .ok (⟨false, ["log"], false⟩, ["x", "log"]) ∧
      (sampleTree c).locate "/d" = .ok (⟨true, ["d"], false⟩, ["d"]) ∧
      (sampleTree c).locate "/x/.." = .ok (⟨true, ["x", ".."], false⟩, []) :=
  ⟨rfl, rfl, rfl, rfl, rfl⟩

theorem run_write_or_read_sample :
    let s : State := ⟨Calibration.sample, [], sampleTree Calibration.sample⟩
    let old := stale s.calibration.toBlob
    let steps : List Step :=
      [.write "log", .reset, .write "/d", .read "../c", .write "/x/..", .save, .write "log"]
    s.files.Holds "../c" (.file old) ∧ s.calibration.toBlob.toUTF8.size < old.size ∧
      readBlob s.files.read "../c" = .fail (.io .notText) ∧ s.files.Admits "../c" ∧
      (∀ step ∈ steps, step.Avoids s.files ["c"]) ∧ s.files.Names "/x/.././c" ["c"] ∧
      (∃ written, s.run (.write "../c") = ⟨.ok .done, { s with files := written }, []⟩ ∧
        written.view ["c"] = some (.file s.calibration.toBlob.toUTF8) ∧
        written.view ["x", "log"] = some (.file "old".toUTF8) ∧
        readBlob (after { s with files := written } steps).files.read "/x/.././c" =
          loaded "/x/.././c" s.calibration.toBlob) ∧
      (¬ s.files.Admits "/x/..") ∧
      (∃ fault, s.run (.write "/x/..") = ⟨.error (.error (.io fault)), s, []⟩) ∧
      s.files.Holds "/x/.." .directory ∧
      readBlob s.files.read "/x/.." = .fail (.io .isDirectory) ∧
      (∀ content, ¬ s.files.Holds "/d" content) ∧
      readBlob s.files.read "/d" = .fail (.fileDoesNotExist "/d") ∧
      s.files.Holds "log" (.file "old".toUTF8) ∧
      readBlob s.files.read "log" = loaded "log" "old" := by
  -- Nothing here depends on what is in the calibration.
  generalize Calibration.sample = c
  intro s old steps
  obtain ⟨hup, hround, hlog, hnew, hdirectory⟩ := locate_sampleTree c
  have hview : s.files.view ["c"] = some (.file old) := rfl
  have hnames : s.files.Names "../c" ["c"] := (Tree.names_iff_of_locate hup).2 ⟨rfl, rfl⟩
  have hother : s.files.Names "/x/.././c" ["c"] := (Tree.names_iff_of_locate hround).2 ⟨rfl, rfl⟩
  have hholds : s.files.Holds "../c" (.file old) := hnames.holds hview
  have hadmits : s.files.Admits "../c" := by
    refine ⟨["c"], hnames, rfl, ?_, ?_⟩
    · rw [hview]
      nofun
    · rw [hview]
      nofun
  have hsteps : ∀ step ∈ steps, step.Avoids s.files ["c"] := by
    simp [steps, s, Step.Avoids, Tree.names_iff_of_locate hlog, Tree.names_iff_of_locate hnew,
      Tree.names_iff_of_locate hdirectory]
  have htext : s.files.Holds "log" (.file "old".toUTF8) :=
    Tree.Names.holds ((Tree.names_iff_of_locate hlog).2 ⟨rfl, rfl⟩) rfl
  have hparent : s.files.Holds "/x/.." .directory :=
    ⟨_, [], Tree.locate_eq_ok.1 hdirectory, rfl, fun _ => rfl⟩
  have hrefused : ¬ s.files.Admits "/x/.." := by
    rintro ⟨place, hplace, -, hfree, -⟩
    rw [((Tree.names_iff_of_locate hdirectory).1 hplace).2] at hfree
    exact hfree rfl
  have hmissing : ∀ content, ¬ s.files.Holds "/d" content := by
    rintro content ⟨path, place, hreaches, hcontent, -⟩
    have hlocate : s.files.locate "/d" = .ok (path, place) := Tree.locate_eq_ok.2 hreaches
    rw [hnew] at hlocate
    cases hlocate
    cases hcontent
  obtain ⟨place, written, hplace, hrun, -, hwritten, hread⟩ :=
    (run_write_or_read s "../c").1 hadmits
  obtain ⟨-, rfl⟩ := (Tree.names_iff_of_locate hup).1 hplace
  have hkept : written.view ["x", "log"] = some (.file "old".toUTF8) := by
    rw [hwritten, Function.update_of_ne (by decide)]
    rfl
  have hold := (run_write_or_read s "../c").2.2.2.2.2.1 old hholds (stale_ne_toUTF8 _)
  have hsize : s.calibration.toBlob.toUTF8.size < old.size :=
    (Nat.lt_add_of_pos_left Nat.one_pos).trans_eq (size_stale _).symm
  exact ⟨hholds, hsize, hold, hadmits, hsteps, hother,
    ⟨written, hrun, by rw [hwritten, Function.update_self], hkept, hread steps hsteps _ hother⟩,
    hrefused, (run_write_or_read s "/x/..").2.1 hrefused, hparent,
    (run_write_or_read s "/x/..").2.2.2.2.1 hparent, hmissing,
    (run_write_or_read s "/d").2.2.2.1 hmissing, htext,
    (run_write_or_read s "log").2.2.2.2.2.2 "old" htext⟩

end State

end LensCalibration.Session
