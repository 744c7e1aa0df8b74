import LensCalibration.Vocabulary.Basic

/-!
# Codes and their entries

Every vocabulary lists its entries in the order of their codes, and no code is left out.
-/

namespace LensCalibration.Vocabulary

variable {v : Vocabulary} {n : Int} {entry : v.Entry}

theorem code_lt_length (v : Vocabulary) (entry : v.Entry) : v.code entry < v.entries.length := by
  cases v <;> cases entry <;> decide

theorem length_entries_le (v : Vocabulary) : v.entries.length ≤ 7 := by
  cases v <;> decide

theorem code_getElem (v : Vocabulary) :
    ∀ place (h : place < v.entries.length), v.code v.entries[place] = place := by
  cases v <;> decide

theorem ofCode?_code (v : Vocabulary) (entry : v.Entry) :
    v.ofCode? (v.code entry) = some entry := by
  cases v <;> cases entry <;> rfl

theorem ofCode?_eq_some : v.ofCode? n = some entry ↔ (v.code entry : Int) = n := by
  constructor
  · intro h
    obtain ⟨place, hplace, hentry⟩ := Option.bind_eq_some_iff.1 h
    obtain ⟨hlt, rfl⟩ := List.getElem?_eq_some_iff.1 hentry
    rw [v.code_getElem place hlt]
    exact (Int.mem_toNat?.1 hplace).symm
  · rintro rfl
    exact v.ofCode?_code entry

theorem ofCode?_eq_none_of_forall (h : ∀ entry, (v.code entry : Int) ≠ n) : v.ofCode? n = none :=
  Option.eq_none_iff_forall_ne_some.2 fun entry hentry => h entry (ofCode?_eq_some.1 hentry)

theorem exists_ofCode? (v : Vocabulary) (n : Int) :
    (∃ entry, v.ofCode? n = some entry) ↔ 0 ≤ n ∧ n ≤ v.entries.length - 1 := by
  constructor
  · rintro ⟨entry, hentry⟩
    have hcode := ofCode?_eq_some.1 hentry
    have hlt := v.code_lt_length entry
    omega
  · rintro ⟨hlow, hhigh⟩
    obtain ⟨place, rfl⟩ := Int.eq_ofNat_of_zero_le hlow
    have hlt : place < v.entries.length := by omega
    exact ⟨v.entries[place], ofCode?_eq_some.2 (congrArg _ (v.code_getElem place hlt))⟩

theorem ofCode?_eq_none : v.ofCode? n = none ↔ n < 0 ∨ v.entries.length ≤ n := by
  rw [Option.eq_none_iff_forall_ne_some, ← not_exists, exists_ofCode?]
  omega

end LensCalibration.Vocabulary
