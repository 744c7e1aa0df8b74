import LensCalibration.Proofs.Files.Paths

/-!
# Reading and writing a file tree

A path is read for what is at the place that it leads to.  A write succeeds where a file may be, and
changes nothing but what is there; it makes and removes no directory, so all paths lead where they
led before.
-/

namespace LensCalibration.Files.Tree

variable {tree written : Tree} {text : String} {path : Path} {place : Place} {bytes : ByteArray}

/-! ## Reading -/

theorem read_of_reaches (h : tree.Reaches text path place) :
    tree.read text =
      match tree.node? place with
      | none => .error (tree.absence place)
      | some (.directory _) => .error .isDirectory
      | some (.file bytes) => if path.asDirectory then .error .notDirectory else .ok bytes := by
  rw [read, locate_eq_ok.2 h]
  rfl

theorem read_of_holds_directory (h : tree.Holds text .directory) :
    tree.read text = .error .isDirectory := by
  obtain ⟨path, place, hreaches, hview, -⟩ := h
  obtain ⟨entries, hnode⟩ := view_eq_directory.1 hview
  rw [read_of_reaches hreaches, hnode]

theorem read_of_holds_file (h : tree.Holds text (.file bytes)) : tree.read text = .ok bytes := by
  obtain ⟨path, place, hreaches, hview, hfile⟩ := h
  have hplain : path.asDirectory = false := by
    by_contra hslash
    exact nomatch hfile (by simpa using hslash)
  rw [read_of_reaches hreaches, view_eq_file.1 hview, hplain]
  rfl

theorem absence_ne_isDirectory : tree.absence place ≠ .isDirectory := by
  unfold absence
  split <;> simp

theorem exists_read_eq_error (h : ∀ content, ¬ tree.Holds text content) :
    ∃ fault, fault ≠ .isDirectory ∧ tree.read text = .error fault := by
  cases hlocate : tree.locate text with
  | error fault =>
      refine ⟨fault, ?_, ?_⟩
      · rintro rfl
        exact locate_ne_isDirectory hlocate
      · rw [read, hlocate]
        rfl
  | ok found =>
      obtain ⟨path, place⟩ := found
      have hreaches := locate_eq_ok.1 hlocate
      rw [read_of_reaches hreaches]
      cases hnode : tree.node? place with
      | none => exact ⟨_, absence_ne_isDirectory, rfl⟩
      | some node =>
          have hview := view_of_node hnode
          cases node with
          | directory entries => exact absurd ⟨path, place, hreaches, hview, fun _ => rfl⟩ (h _)
          | file bytes =>
              -- Only the slash at the end can be against this file.
              have hslash : path.asDirectory = true := by
                by_contra hplain
                exact h _ ⟨path, place, hreaches, hview, fun hslash => absurd hslash hplain⟩
              simp [hslash]

/-! ## Writing -/

/-- A file may be put at the place, if a directory is around it. -/
def IsFree (tree : Tree) (place : Place) : Prop :=
  tree.view place ≠ some .directory ∧
    (tree.view place = none → ∀ name ∈ place.getLast?, name.utf8ByteSize ≤ tree.longestName)

def Admits (tree : Tree) (text : String) : Prop :=
  ∃ place, tree.Names text place ∧ tree.view place.dropLast = some .directory ∧ tree.IsFree place

theorem absence_eq_missing :
    tree.absence place = .missing ↔
      ∀ name ∈ place.getLast?, name.utf8ByteSize ≤ tree.longestName := by
  unfold absence
  cases place.getLast? <;> simp

theorem write_eq_ok :
    tree.write text bytes = .ok written ↔
      ∃ place, tree.Names text place ∧ tree.IsFree place ∧
        written = tree.put place (.file bytes) := by
  constructor
  · intro h
    obtain ⟨⟨path, place⟩, hlocate, h⟩ := bind_eq_ok.1 h
    simp only at h
    split at h
    · cases h
    · next hslash =>
        have hnames : tree.Names text place :=
          ⟨path, locate_eq_ok.1 hlocate, by simpa using hslash⟩
        refine ⟨place, hnames, ?_⟩
        split at h
        · cases h
        · next hnode =>
            cases h
            rw [IsFree, view_of_node hnode]
            exact ⟨⟨nofun, nofun⟩, rfl⟩
        · next hnode =>
            split at h
            · next hfits =>
                cases h
                rw [IsFree, view_eq_none.2 hnode]
                exact ⟨⟨nofun, fun _ => absence_eq_missing.1 hfits⟩, rfl⟩
            · cases h
  · rintro ⟨place, ⟨path, hreaches, hplain⟩, ⟨hfile, hfits⟩, rfl⟩
    refine bind_eq_ok.2 ⟨(path, place), locate_eq_ok.2 hreaches, ?_⟩
    simp only [hplain, Bool.false_eq_true, if_false]
    cases hnode : tree.node? place with
    | none => exact if_pos (absence_eq_missing.2 (hfits (view_eq_none.2 hnode)))
    | some node =>
        cases node with
        | directory entries => exact absurd (view_of_node hnode) hfile
        | file old => rfl

/-- No file is written in a place without a directory around it. -/
theorem exists_write_iff : (∃ written, tree.write text bytes = .ok written) ↔ tree.Admits text := by
  constructor
  · rintro ⟨written, h⟩
    obtain ⟨place, hnames, hfree, -⟩ := write_eq_ok.1 h
    exact ⟨place, hnames, hnames.parent, hfree⟩
  · rintro ⟨place, hnames, -, hfree⟩
    exact ⟨_, write_eq_ok.2 ⟨place, hnames, hfree, rfl⟩⟩

theorem view_put (hparent : tree.view place.dropLast = some .directory)
    (h : tree.view place ≠ some .directory) :
    (tree.put place (.file bytes)).view =
      Function.update tree.view place (some (.file bytes)) :=
  Entries.view_put_file hparent h

theorem layout_put (hparent : tree.view place.dropLast = some .directory)
    (h : tree.view place ≠ some .directory) :
    (tree.put place (.file bytes)).layout = tree.layout := by
  have hdirectories (there : Place) :
      (tree.put place (.file bytes)).view there = some .directory ↔
        tree.view there = some .directory := by
    rw [view_put hparent h]
    by_cases hthere : there = place
    · rw [hthere, Function.update_self]
      exact ⟨nofun, fun hplace => absurd hplace h⟩
    · rw [Function.update_of_ne hthere]
  rw [layout, layout, Layout.mk.injEq]
  exact ⟨rfl, rfl, rfl, funext fun there => propext (hdirectories there)⟩

/-- A write changes what is at one place, and where no path leads. -/
theorem view_and_layout_write (h : tree.write text bytes = .ok written) :
    ∃ place, tree.Names text place ∧ written.layout = tree.layout ∧
      written.view = Function.update tree.view place (some (.file bytes)) := by
  obtain ⟨place, hnames, hfree, rfl⟩ := write_eq_ok.1 h
  exact ⟨place, hnames, layout_put hnames.parent hfree.1, view_put hnames.parent hfree.1⟩

theorem Names.holds (h : tree.Names text place) (hfile : tree.view place = some (.file bytes)) :
    tree.Holds text (.file bytes) := by
  obtain ⟨path, hreaches, hplain⟩ := h
  refine ⟨path, place, hreaches, hfile, fun hslash => ?_⟩
  rw [hplain] at hslash
  cases hslash

theorem read_write (h : tree.write text bytes = .ok written) : written.read text = .ok bytes := by
  obtain ⟨place, hnames, hlayout, hview⟩ := view_and_layout_write h
  apply read_of_holds_file
  apply (hnames.of_layout hlayout).holds
  rw [hview, Function.update_self]

end LensCalibration.Files.Tree
