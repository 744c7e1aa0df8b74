import LensCalibration.Proofs.Files.Contents
import LensCalibration.Proofs.Json.Consumption

/-!
# Where paths lead

A path leads from directory to directory, and what it names depends on nothing but the directories
of a tree and its limits.  Several paths may name one file.
-/

namespace LensCalibration.Files

/-! ## Texts -/

namespace Path

variable {path : Path} {text : String} {pieces : List String}

/-- The text is some pieces with a slash between any two of them. -/
def IsWrittenAs (path : Path) (text : String) : Prop :=
  ∃ pieces : List String, (∀ piece ∈ pieces, '/' ∉ piece.toList) ∧
    text = "/".intercalate pieces ∧ path.steps = pieces.filter (· ≠ "") ∧
    (path.fromRoot = true ↔ pieces.head? = some "") ∧
    (path.asDirectory = true ↔ pieces.getLast? = some "")

theorem notMem_of_mem_splitOn {c : Char} {chars piece : List Char}
    (h : piece ∈ chars.splitOn c) : c ∉ piece := by
  induction chars generalizing piece with
  | nil =>
      rw [List.splitOn_nil, List.mem_singleton] at h
      rw [h]
      exact List.not_mem_nil
  | cons first rest ih =>
      rw [List.splitOn_cons_eq_if_modifyHead] at h
      split at h
      · rcases List.mem_cons.1 h with rfl | h
        · exact List.not_mem_nil
        · exact ih h
      · next hfirst =>
          obtain ⟨head, others, hpieces⟩ := List.exists_cons_of_ne_nil (List.splitOn_ne_nil c rest)
          rw [hpieces, List.modifyHead_cons] at h
          rcases List.mem_cons.1 h with rfl | h
          · simp only [List.mem_cons, not_or]
            exact ⟨fun hc => hfirst (by simp [hc]), ih (hpieces ▸ List.mem_cons_self)⟩
          · exact ih (hpieces ▸ List.mem_cons_of_mem _ h)

theorem splitOn_intercalate (hne : pieces ≠ []) (hslash : ∀ piece ∈ pieces, '/' ∉ piece.toList) :
    (("/".intercalate pieces).toList.splitOn '/').map String.ofList = pieces := by
  have hsplit : List.splitOn '/' (['/'].intercalate (pieces.map String.toList)) =
      pieces.map String.toList :=
    List.splitOn_intercalate '/' (by simpa using hslash) (by simpa using hne)
  rw [String.toList_intercalate, show "/".toList = ['/'] from rfl, hsplit]
  simp [Function.comp_def]

theorem isWrittenAs_iff (h : text ≠ "") : path.IsWrittenAs text ↔ path = ofString text := by
  constructor
  · rintro ⟨pieces, hslash, rfl, hsteps, hroot, hend⟩
    have hne : pieces ≠ [] := by
      rintro rfl
      exact h String.intercalate_nil
    rw [ofString, splitOn_intercalate hne hslash, ← hsteps]
    have hfromRoot : path.fromRoot = decide (pieces.head? = some "") := by simp [← hroot]
    have hasDirectory : path.asDirectory = decide (pieces.getLast? = some "") := by simp [← hend]
    rw [← hfromRoot, ← hasDirectory]
  · rintro rfl
    refine ⟨(text.toList.splitOn '/').map String.ofList, ?_, ?_, rfl, ?_, ?_⟩
    · intro piece hpiece
      obtain ⟨chars, hchars, rfl⟩ := List.mem_map.1 hpiece
      rw [String.toList_ofList]
      exact notMem_of_mem_splitOn hchars
    · rw [← String.toList_inj, String.toList_intercalate, List.map_map]
      simp [Function.comp_def]
    · simp [ofString]
    · simp [ofString]

/-- A path without steps consists of slashes. -/
theorem IsWrittenAs.fromRoot (h : path.IsWrittenAs text) (htext : text ≠ "")
    (hsteps : path.steps = []) : path.fromRoot = true := by
  obtain ⟨pieces, -, rfl, hpieces, hroot, -⟩ := h
  rw [hsteps] at hpieces
  cases pieces with
  | nil => exact absurd String.intercalate_nil htext
  | cons first rest =>
      have hfirst := List.filter_eq_nil_iff.1 hpieces.symm first List.mem_cons_self
      exact hroot.2 (by simpa using hfirst)

end Path

namespace Tree

/-! ## Steps -/

/-- The steps lead from one place to another, and each of them starts in a directory. -/
inductive Leads (tree : Tree) : Place → List String → Place → Prop where
  | arrived (here : Place) : tree.Leads here [] here
  | staying {here : Place} {steps : List String} {place : Place}
      (directory : tree.view here = some .directory) (rest : tree.Leads here steps place) :
      tree.Leads here ("." :: steps) place
  | leaving {here : Place} {steps : List String} {place : Place}
      (directory : tree.view here = some .directory) (rest : tree.Leads here.dropLast steps place) :
      tree.Leads here (".." :: steps) place
  | entering {here : Place} {name : String} {steps : List String} {place : Place}
      (directory : tree.view here = some .directory) (plain : name ≠ "." ∧ name ≠ "..")
      (rest : tree.Leads (here ++ [name]) steps place) : tree.Leads here (name :: steps) place

section

variable {tree other : Tree} {here place : Place} {step : String} {steps : List String}

theorem leads_nil : tree.Leads here [] place ↔ place = here := by
  constructor
  · intro h
    cases h
    rfl
  · rintro rfl
    exact .arrived place

theorem leads_cons :
    tree.Leads here (step :: steps) place ↔
      tree.view here = some .directory ∧ tree.Leads (move here step) steps place := by
  constructor
  · intro h
    cases h with
    | staying directory rest => exact ⟨directory, rest⟩
    | leaving directory rest => exact ⟨directory, rest⟩
    | entering directory plain rest =>
        rw [move, stay, leave, if_neg plain.1, if_neg plain.2]
        exact ⟨directory, rest⟩
  · rintro ⟨directory, rest⟩
    rw [move] at rest
    split at rest
    · next hstay => exact hstay ▸ .staying directory rest
    · next hstay =>
        split at rest
        · next hleave => exact hleave ▸ .leaving directory rest
        · next hleave => exact .entering directory ⟨hstay, hleave⟩ rest

theorem follow_eq_ok : tree.follow here steps = .ok place ↔ tree.Leads here steps place := by
  induction steps generalizing here with
  | nil => simp [follow, leads_nil, eq_comm]
  | cons step steps ih =>
      rw [follow, leads_cons]
      cases hnode : tree.node? here with
      | none => simp [view_eq_none.2 hnode]
      | some node =>
          rw [view_of_node hnode]
          cases node with
          | file bytes => simp [Node.content]
          | directory entries => simp [Node.content, ih]

theorem follow_ne_isDirectory : tree.follow here steps ≠ .error .isDirectory := by
  induction steps generalizing here with
  | nil => simp [follow]
  | cons step steps ih =>
      rw [follow]
      split
      · unfold absence
        split <;> simp
      · simp
      · exact ih

/-- The place that a step leads to lies in a directory, as long as there is a step. -/
theorem Leads.parent (h : tree.Leads here steps place)
    (hhere : tree.view here.dropLast = some .directory) :
    tree.view place.dropLast = some .directory := by
  induction h with
  | arrived here => exact hhere
  | staying directory rest ih => exact ih hhere
  | leaving directory rest ih => exact ih (view_dropLast hhere)
  | entering directory plain rest ih =>
      apply ih
      rwa [List.dropLast_concat]

end

/-! ## Paths -/

/-- A text that is not too long and has no character that ends it early. -/
def Allows (tree : Tree) (text : String) : Prop :=
  Char.ofNat 0 ∉ text.toList ∧ text ≠ "" ∧ text.utf8ByteSize ≤ tree.longestPath

/-- The text is written for this path, whose steps lead to the place. -/
def Reaches (tree : Tree) (text : String) (path : Path) (place : Place) : Prop :=
  tree.Allows text ∧ path.IsWrittenAs text ∧
    tree.Leads (if path.fromRoot then [] else tree.workingDirectory) path.steps place

/-- The text names the file of a place, whether or not there is one. -/
def Names (tree : Tree) (text : String) (place : Place) : Prop :=
  ∃ path, tree.Reaches text path place ∧ path.asDirectory = false

/-- What a text stands for.  With a slash at its end it stands for no file. -/
def Holds (tree : Tree) (text : String) (content : Content) : Prop :=
  ∃ path place, tree.Reaches text path place ∧ tree.view place = some content ∧
    (path.asDirectory = true → content = .directory)

section

variable {tree : Tree} {text : String} {path : Path} {place : Place}

theorem path_eq_ok : tree.path text = .ok path ↔ tree.Allows text ∧ path.IsWrittenAs text := by
  unfold Tree.path Allows
  split
  · simp [*]
  · split
    · simp [*]
    · next htext =>
        rw [Path.isWrittenAs_iff htext]
        split
        · next hlong => simp [Nat.not_le.2 hlong]
        · next hshort => simp [*, Nat.le_of_not_lt hshort, eq_comm]

theorem locate_eq_ok : tree.locate text = .ok (path, place) ↔ tree.Reaches text path place := by
  rw [Reaches, ← follow_eq_ok, ← and_assoc, ← path_eq_ok]
  constructor
  · intro h
    obtain ⟨found, hpath, h⟩ := bind_eq_ok.1 h
    obtain ⟨there, hfollow, h⟩ := bind_eq_ok.1 h
    cases h
    exact ⟨hpath, hfollow⟩
  · rintro ⟨hpath, hfollow⟩
    exact bind_eq_ok.2 ⟨path, hpath, bind_eq_ok.2 ⟨place, hfollow, rfl⟩⟩

theorem path_ne_isDirectory : tree.path text ≠ .error .isDirectory := by
  unfold Tree.path
  split
  · simp
  · split
    · simp
    · split <;> simp

theorem locate_ne_isDirectory : tree.locate text ≠ .error .isDirectory := by
  intro h
  cases hpath : tree.path text with
  | error fault =>
      rw [locate, hpath] at h
      cases h
      exact path_ne_isDirectory hpath
  | ok path =>
      cases hfollow : tree.follow (tree.start path) path.steps with
      | error fault =>
          simp only [locate, hpath, hfollow, bind, Except.bind] at h
          cases h
          exact follow_ne_isDirectory hfollow
      | ok place =>
          simp only [locate, hpath, hfollow, bind, Except.bind] at h
          cases h

theorem Reaches.parent (h : tree.Reaches text path place) :
    tree.view place.dropLast = some .directory := by
  obtain ⟨⟨-, htext, -⟩, hwritten, hleads⟩ := h
  apply hleads.parent
  cases hroot : path.fromRoot with
  | true => rfl
  | false =>
      cases hsteps : path.steps with
      | nil =>
          rw [hwritten.fromRoot htext hsteps] at hroot
          cases hroot
      | cons step steps =>
          rw [hroot, hsteps] at hleads
          exact view_dropLast (leads_cons.1 hleads).1

theorem names_iff_of_locate {there : Place} (h : tree.locate text = .ok (path, there)) :
    tree.Names text place ↔ path.asDirectory = false ∧ place = there := by
  constructor
  · rintro ⟨found, hreaches, hplain⟩
    rw [locate_eq_ok.2 hreaches] at h
    cases h
    exact ⟨hplain, rfl⟩
  · rintro ⟨hplain, rfl⟩
    exact ⟨path, locate_eq_ok.1 h, hplain⟩

theorem Names.parent (h : tree.Names text place) :
    tree.view place.dropLast = some .directory := by
  obtain ⟨path, hreaches, -⟩ := h
  exact hreaches.parent

end

/-! ## Layout -/

/-- All that a path depends on. -/
structure Layout where
  workingDirectory : Place
  longestName : Nat
  longestPath : Nat
  directories : Place → Prop

def layout (tree : Tree) : Layout where
  workingDirectory := tree.workingDirectory
  longestName := tree.longestName
  longestPath := tree.longestPath
  directories := fun place => tree.view place = some .directory

section

variable {tree other : Tree} {here place : Place} {steps : List String}

theorem Leads.of_layout (hlayout : other.layout = tree.layout) (h : tree.Leads here steps place) :
    other.Leads here steps place := by
  have hview (here : Place) :
      tree.view here = some .directory → other.view here = some .directory :=
    (congrFun (congrArg Layout.directories hlayout) here).mpr
  induction h with
  | arrived here => exact .arrived here
  | staying directory rest ih => exact .staying (hview _ directory) ih
  | leaving directory rest ih => exact .leaving (hview _ directory) ih
  | entering directory plain rest ih => exact .entering (hview _ directory) plain ih

theorem Names.of_layout {text : String} (hlayout : other.layout = tree.layout)
    (h : tree.Names text place) : other.Names text place := by
  obtain ⟨path, ⟨hallows, hwritten, hleads⟩, hfile⟩ := h
  have hlongest : other.longestPath = tree.longestPath := congrArg Layout.longestPath hlayout
  have hworking : other.workingDirectory = tree.workingDirectory :=
    congrArg Layout.workingDirectory hlayout
  refine ⟨path, ⟨?_, hwritten, ?_⟩, hfile⟩
  · rw [Allows, hlongest]
    exact hallows
  · rw [hworking]
    exact hleads.of_layout hlayout

end

end Tree

end LensCalibration.Files
