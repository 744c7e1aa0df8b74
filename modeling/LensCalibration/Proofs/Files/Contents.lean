import Mathlib.Logic.Function.Basic
import LensCalibration.Files.Tree

/-!
# The contents of a file tree

A tree puts a directory, a file or nothing at each place.  Nothing is behind what is not a
directory, and a file that is put into a directory changes what is at its own place alone.
-/

namespace LensCalibration.Files

inductive Content where
  | directory
  | file (bytes : ByteArray)

def Node.content : Node → Content
  | .directory _ => .directory
  | .file bytes => .file bytes

def Entries.view (entries : Entries) (place : Place) : Option Content :=
  ((Node.directory entries).at? place).map Node.content

def Tree.view (tree : Tree) : Place → Option Content :=
  tree.root.view

namespace Entries

variable {entries inner inner' : Entries} {name : String} {place : Place} {bytes : ByteArray}

/-! ## Names -/

theorem find?_insert (name : String) (node : Node) :
    ∀ entries : Entries, (entries.insert name node).find? name = some node
  | .nil => if_pos rfl
  | .cons entry old rest => by
      rw [insert]
      split
      · next hentry => exact if_pos hentry
      · next hentry => exact (if_neg hentry).trans (find?_insert name node rest)

theorem find?_insert_of_ne {name other : String} (h : other ≠ name) (node : Node) :
    ∀ entries : Entries, (entries.insert name node).find? other = entries.find? other
  | .nil => if_neg (Ne.symm h)
  | .cons entry old rest => by
      rw [insert]
      split
      · next hentry =>
          rw [find?, find?, if_neg (hentry ▸ h.symm), if_neg (hentry ▸ h.symm)]
      · rw [find?, find?, find?_insert_of_ne h node rest]

/-! ## Places -/

theorem view_of_none (h : entries.find? name = none) (place : Place) :
    entries.view (name :: place) = none := by
  rw [view, Node.at?, h]
  rfl

theorem view_of_some {node : Node} (h : entries.find? name = some node) (place : Place) :
    entries.view (name :: place) = (node.at? place).map Node.content := by
  rw [view, Node.at?, h]

theorem view_eq_directory :
    entries.view (name :: place) = some .directory ↔
      ∃ inner, entries.find? name = some (.directory inner) ∧
        inner.view place = some .directory := by
  cases hfind : entries.find? name with
  | none => simp [view_of_none hfind]
  | some node =>
      rw [view_of_some hfind]
      cases node with
      | file bytes => cases place <;> simp [Node.at?, Node.content]
      | directory inner => simp [view]

theorem view_dropLast (h : entries.view place ≠ none) :
    entries.view place.dropLast = some .directory := by
  induction place generalizing entries with
  | nil => rfl
  | cons name place ih =>
      cases place with
      | nil => rfl
      | cons next rest =>
          cases hfind : entries.find? name with
          | none => exact absurd (view_of_none hfind _) h
          | some node =>
              rw [view_of_some hfind] at h
              cases node with
              | file bytes => exact absurd rfl h
              | directory inner => exact view_eq_directory.2 ⟨inner, hfind, ih h⟩

/-! ## Putting a file -/

theorem view_insert_file (h : entries.view [name] ≠ some .directory) :
    (entries.insert name (.file bytes)).view =
      Function.update entries.view [name] (some (.file bytes)) := by
  funext place
  match place with
  | [] => rfl
  | other :: rest =>
      by_cases hother : other = name
      · subst hother
        rw [view_of_some (find?_insert ..)]
        cases rest with
        | nil => rw [Function.update_self]; rfl
        | cons next rest =>
            rw [Function.update_of_ne (by simp)]
            cases hfind : entries.find? other with
            | none => rw [view_of_none hfind]; rfl
            | some node =>
                rw [view_of_some hfind] at h ⊢
                cases node with
                | file old => rfl
                | directory inner => exact absurd rfl h
      · rw [Function.update_of_ne (by simp [hother])]
        simp only [view, Node.at?, find?_insert_of_ne hother]

theorem view_insert_directory {content : Option Content}
    (h : entries.find? name = some (.directory inner))
    (hinner : inner'.view = Function.update inner.view place content) :
    (entries.insert name (.directory inner')).view =
      Function.update entries.view (name :: place) content := by
  funext there
  match there with
  | [] => rfl
  | other :: rest =>
      by_cases hother : other = name
      · subst hother
        rw [view_of_some (find?_insert ..)]
        change inner'.view rest = _
        rw [hinner]
        by_cases hrest : rest = place
        · rw [hrest, Function.update_self, Function.update_self]
        · rw [Function.update_of_ne hrest, Function.update_of_ne (by simp [hrest]),
            view_of_some h]
          rfl
      · rw [Function.update_of_ne (by simp [hother])]
        simp only [view, Node.at?, find?_insert_of_ne hother]

theorem view_put_file (hparent : entries.view place.dropLast = some .directory)
    (h : entries.view place ≠ some .directory) :
    (entries.put (.file bytes) place).view =
      Function.update entries.view place (some (.file bytes)) := by
  induction place generalizing entries with
  | nil => exact absurd rfl h
  | cons name place ih =>
      cases place with
      | nil => exact view_insert_file h
      | cons next rest =>
          obtain ⟨inner, hfind, hinner⟩ := view_eq_directory.1 hparent
          rw [view_of_some hfind] at h
          have hinside : entries.inside name = inner := by
            rw [inside, hfind]
          rw [put, hinside]
          -- The file is put inside the directory of the first name, which is put back then.
          exact view_insert_directory hfind (ih hinner h)

end Entries

/-! ## Nodes and what they are -/

namespace Tree

variable {tree : Tree} {place : Place}

theorem view_eq_none : tree.view place = none ↔ tree.node? place = none :=
  Option.map_eq_none_iff

theorem view_of_node {node : Node} (h : tree.node? place = some node) :
    tree.view place = some node.content :=
  congrArg (Option.map Node.content) h

theorem view_eq_file {bytes : ByteArray} :
    tree.view place = some (.file bytes) ↔ tree.node? place = some (.file bytes) := by
  constructor
  · intro h
    obtain ⟨node, hnode, hcontent⟩ := Option.map_eq_some_iff.1 h
    cases node with
    | directory entries => cases hcontent
    | file old =>
        cases hcontent
        exact hnode
  · exact view_of_node

theorem view_dropLast (h : tree.view place = some .directory) :
    tree.view place.dropLast = some .directory :=
  Entries.view_dropLast (by rw [← view, h]; nofun)

theorem view_eq_directory :
    tree.view place = some .directory ↔
      ∃ entries, tree.node? place = some (.directory entries) := by
  constructor
  · intro h
    obtain ⟨node, hnode, hcontent⟩ := Option.map_eq_some_iff.1 h
    cases node with
    | directory entries => exact ⟨entries, hnode⟩
    | file old => cases hcontent
  · rintro ⟨entries, hnode⟩
    exact view_of_node hnode

end Tree

end LensCalibration.Files
