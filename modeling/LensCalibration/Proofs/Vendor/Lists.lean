import LensCalibration.Proofs.Vendor.Reload

/-!
# Vendor entries as JSON

A list of entries comes back from its text as it was, so that the same calibrations are built from
it, unless a single of it is not finite: that one is written all the same, but not read.
-/

namespace LensCalibration.Vendor

open Binary Json

theorem singles_entries (entries : List Entry) :
    (Coded.schema (List Entry)).singles (Coded.toValue entries) =
      entries.flatMap Entry.singles := by
  change (entries.map Coded.toValue).flatMap Entry.schema.singles = _
  rw [List.flatMap_map]
  rfl

theorem decode_encode_entries {entries : List Entry}
    (hread : ∀ e ∈ entries, ∀ x ∈ e.singles, x.isFinite → ReadsBack x) (form : Form) :
    (toDocument entries).IsContentOf (encode form entries) ∧
      if ∀ e ∈ entries, ∀ x ∈ e.singles, x.isFinite then
        decode (List Entry) (encode form entries) = .ok entries ∧
          ∀ depth color,
            (decode (List Entry) (encode form entries)).map (calibrate · depth color) =
              .ok (calibrate entries depth color)
      else ∃ error, decode (List Entry) (encode form entries) = .error error := by
  refine ⟨isContentOf_encode form entries, ?_⟩
  split
  · next hfinite =>
      have hback : ∀ x ∈ (Coded.schema (List Entry)).singles (Coded.toValue entries),
          ReadsBack x := by
        rw [singles_entries]
        intro x hx
        obtain ⟨e, he, hx⟩ := List.mem_flatMap.1 hx
        exact hread e he x hx (hfinite e he x hx)
      have hdecode : decode (List Entry) (encode form entries) = .ok entries :=
        toOption_eq_some.1 (decode_encode_eq_self (by decide) form hback)
      refine ⟨hdecode, fun depth color => ?_⟩
      rw [hdecode]
      rfl
  · next hinfinite =>
      simp only [not_forall, Bool.not_eq_true] at hinfinite
      obtain ⟨e, he, x, hx, hfinite⟩ := hinfinite
      have hmem : x ∈ (Coded.schema (List Entry)).singles (Coded.toValue entries) := by
        rw [singles_entries]
        exact List.mem_flatMap.2 ⟨e, he, hx⟩
      exact toOption_eq_none.1 (decode_encode_eq_none (by decide) form hmem hfinite)

/-- An entry with another single in every place. -/
def sampleEntry (n : Nat) (width height : UInt32) : Entry :=
  let single (i : Nat) : Single := ⟨UInt32.ofNat (0x3dcccccd + n + i)⟩
  { depthPinhole := ⟨single 0, single 1, single 2, single 3, width, height⟩
    colorPinhole := ⟨single 4, single 5, single 6, single 7, height, width⟩
    depthDistortion := ⟨single 8, single 9, single 10, single 11, single 12, single 13, single 14,
      single 15⟩
    colorDistortion := ⟨single 16, single 17, single 18, single 19, single 20, single 21,
      single 22, single 23⟩
    transform := ⟨Vector.ofFn fun i => single (24 + i), Vector.ofFn fun i => single (33 + i)⟩ }

theorem decode_encode_entries_sample :
    let entries := [sampleEntry 0 0 0xffffffff, sampleEntry 36 0xffffffff 0]
    (∀ e ∈ entries, ∀ x ∈ e.singles, x.isFinite → ReadsBack x) ∧
      (toDocument entries).IsContentOf (encode .compact entries) ∧
      decode (List Entry) (encode .compact entries) = .ok entries ∧
      ∀ depth color,
        (decode (List Entry) (encode .compact entries)).map (calibrate · depth color) =
          .ok (calibrate entries depth color) := by
  intro entries
  have hread : ∀ e ∈ entries, ∀ x ∈ e.singles, x.isFinite → ReadsBack x := by decide +kernel
  have hfinite : ∀ e ∈ entries, ∀ x ∈ e.singles, x.isFinite := by decide +kernel
  obtain ⟨hcontent, hdecode⟩ := decode_encode_entries hread .compact
  rw [if_pos hfinite] at hdecode
  exact ⟨hread, hcontent, hdecode⟩

end LensCalibration.Vendor
