import LensCalibration.Text.WhiteSpace
import LensCalibration.Vocabulary.LensModel
import Mathlib.Data.List.Forall2

/-!
# Texts up to the case of ASCII letters

Two texts are the same up to case where their characters, place by place, are equal or the two forms
of one of the 26 letters.  No character outside ASCII has another form here.
-/

namespace LensCalibration.Text

/-! ## Letters -/

/-- Every capital with its small letter. -/
def alphabet : List (Char × Char) :=
  "ABCDEFGHIJKLMNOPQRSTUVWXYZ".toList.zip "abcdefghijklmnopqrstuvwxyz".toList

def IsSameLetter (c d : Char) : Prop :=
  c = d ∨ (c, d) ∈ alphabet ∨ (d, c) ∈ alphabet

instance : DecidableRel IsSameLetter := fun c d =>
  inferInstanceAs (Decidable (c = d ∨ (c, d) ∈ alphabet ∨ (d, c) ∈ alphabet))

theorem toLower_of_mem_alphabet {c d : Char} (h : (c, d) ∈ alphabet) :
    c.toLower = d ∧ d.toLower = d := by
  have hall : ∀ letter ∈ alphabet,
      letter.1.toLower = letter.2 ∧ letter.2.toLower = letter.2 := by decide
  exact hall _ h

theorem mem_alphabet_or_toLower_eq (c : Char) : (c, c.toLower) ∈ alphabet ∨ c.toLower = c := by
  by_cases hcapital : 65 ≤ c.toNat ∧ c.toNat ≤ 90
  · have hall : ∀ place < 26,
        (Char.ofNat (65 + place), (Char.ofNat (65 + place)).toLower) ∈ alphabet := by decide
    have hplace := hall (c.toNat - 65) (by omega)
    rw [Nat.add_sub_cancel' hcapital.1, Char.ofNat_toNat] at hplace
    exact .inl hplace
  · exact .inr (dif_neg hcapital)

theorem toLower_eq_toLower {c d : Char} : c.toLower = d.toLower ↔ IsSameLetter c d := by
  constructor
  · intro h
    rcases mem_alphabet_or_toLower_eq c with hc | hc <;>
      rcases mem_alphabet_or_toLower_eq d with hd | hd
    · -- Two capitals with one small letter.
      have hinj : ∀ a ∈ alphabet, ∀ b ∈ alphabet, a.2 = b.2 → a.1 = b.1 := by decide
      exact .inl (hinj _ hc _ hd h)
    · rw [h, hd] at hc
      exact .inr (.inl hc)
    · rw [← h, hc] at hd
      exact .inr (.inr hd)
    · rw [hc, hd] at h
      exact .inl h
  · rintro (rfl | h | h)
    · rfl
    · rw [(toLower_of_mem_alphabet h).1, (toLower_of_mem_alphabet h).2]
    · rw [(toLower_of_mem_alphabet h).1, (toLower_of_mem_alphabet h).2]

/-! ## Texts -/

def SameUpToCase (s t : String) : Prop :=
  List.Forall₂ IsSameLetter s.toList t.toList

instance : DecidableRel SameUpToCase := fun s t =>
  inferInstanceAs (Decidable (List.Forall₂ IsSameLetter s.toList t.toList))

theorem sameUpToCase_iff {s t : String} :
    SameUpToCase s t ↔ s.toList.map Char.toLower = t.toList.map Char.toLower := by
  rw [← List.forall₂_eq_eq_eq, List.forall₂_map_left_iff, List.forall₂_map_right_iff]
  simp only [toLower_eq_toLower]
  rfl

theorem SameUpToCase.symm {s t : String} (h : SameUpToCase s t) : SameUpToCase t s :=
  sameUpToCase_iff.2 (sameUpToCase_iff.1 h).symm

theorem SameUpToCase.trans {s t u : String} (hst : SameUpToCase s t) (htu : SameUpToCase t u) :
    SameUpToCase s u :=
  sameUpToCase_iff.2 ((sameUpToCase_iff.1 hst).trans (sameUpToCase_iff.1 htu))

theorem SameUpToCase.refl (s : String) : SameUpToCase s s :=
  sameUpToCase_iff.2 rfl

theorem SameUpToCase.length_eq {s t : String} (h : SameUpToCase s t) :
    s.toList.length = t.toList.length :=
  List.Forall₂.length_eq h

theorem sameUpToCase_append_left {s t u : String} :
    SameUpToCase (s ++ t) (s ++ u) ↔ SameUpToCase t u := by
  rw [sameUpToCase_iff, sameUpToCase_iff, String.toList_append, String.toList_append,
    List.map_append, List.map_append, List.append_cancel_left_eq]

/-! ## Plain characters -/

/-- The character is in ASCII and does not separate words. -/
def isPlain (c : Char) : Bool :=
  c.toNat < 128 && !isWhiteSpace c

theorem isPlain_of_isSameLetter {c d : Char} (h : IsSameLetter c d) (hd : isPlain d = true) :
    isPlain c = true := by
  have hall : ∀ letter ∈ alphabet, isPlain letter.1 = true ∧ isPlain letter.2 = true := by decide
  rcases h with rfl | h | h
  · exact hd
  · exact (hall _ h).1
  · exact (hall _ h).2

theorem SameUpToCase.all_isPlain {s t : String} (h : SameUpToCase s t)
    (ht : t.toList.all isPlain = true) : s.toList.all isPlain = true := by
  rw [List.all_eq_true] at ht ⊢
  intro c hc
  obtain ⟨d, hd, hlower⟩ : ∃ d ∈ t.toList, d.toLower = c.toLower :=
    List.mem_map.1 (sameUpToCase_iff.1 h ▸ List.mem_map_of_mem hc)
  exact isPlain_of_isSameLetter (toLower_eq_toLower.1 hlower.symm) (ht d hd)

end LensCalibration.Text
