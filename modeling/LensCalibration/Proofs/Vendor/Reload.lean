import LensCalibration.Proofs.Blob.Reload
import LensCalibration.Proofs.Files.Blob
import LensCalibration.Proofs.Vendor.Selection

/-!
# Vendor calibrations in files

A calibration that was built from finite entries comes back from its file, unless one of its
products with a factor of rescaling is beyond the singles: nothing else in it can be infinite.
-/

namespace LensCalibration

open Binary Json Files

/-! ## Products -/

def Camera.rescaled (c : Camera) : List Single :=
  let p := c.intrinsics.parameters
  [p.cx, p.cy, p.fx, p.fy]

/-- The focal lengths and principal points, which are the vendor's times a factor. -/
def Calibration.rescaled (c : Calibration) : List Single :=
  c.depthCamera.rescaled ++ c.colorCamera.rescaled

theorem Camera.mem_singles_of_mem_rescaled {c : Camera} {x : Single} (h : x ∈ c.rescaled) :
    x ∈ c.singles := by
  have hparameters : x ∈ c.intrinsics.parameters.toVector.toList :=
    List.mem_append_left (c.intrinsics.parameters.toVector.toList.drop 4) h
  exact List.mem_append_left _ (List.mem_append_right _ hparameters)

theorem Calibration.mem_singles_of_mem_rescaled {c : Calibration} {x : Single}
    (h : x ∈ c.rescaled) : x ∈ c.singles := by
  apply List.mem_append_left
  rcases List.mem_append.1 h with hdepth | hcolor
  · exact List.mem_append_left _ (Camera.mem_singles_of_mem_rescaled hdepth)
  · exact List.mem_append_right _ (Camera.mem_singles_of_mem_rescaled hcolor)

namespace Vendor

/-! ## The singles of an entry -/

def Pinhole.singles (p : Pinhole) : List Single :=
  [p.fx, p.fy, p.cx, p.cy]

def Distortion.singles (d : Distortion) : List Single :=
  [d.k1, d.k2, d.k3, d.k4, d.k5, d.k6, d.p1, d.p2]

def Entry.singles (e : Entry) : List Single :=
  Entry.schema.singles (Coded.toValue e)

theorem Entry.singles_eq (e : Entry) :
    e.singles = e.depthPinhole.singles ++ e.colorPinhole.singles ++ e.depthDistortion.singles ++
      e.colorDistortion.singles ++ e.transform.toExtrinsics.singles := by
  have htransform : Transform.schema.singles (Coded.toValue e.transform) =
      e.transform.toExtrinsics.singles :=
    Extrinsics.schema_singles e.transform.toExtrinsics
  change e.depthPinhole.singles ++ (e.colorPinhole.singles ++ (e.depthDistortion.singles ++
    (e.colorDistortion.singles ++
      (Transform.schema.singles (Coded.toValue e.transform) ++ [])))) = _
  rw [htransform]
  simp only [List.append_assoc, List.append_nil]

/-! ## The singles of what is built -/

theorem mem_rescaledParameters {p : Pinhole} {d : Distortion} {factor x : Single}
    (h : x ∈ (rescaledParameters p d factor).toVector.toList) :
    x ∈ [p.cx * factor, p.cy * factor, p.fx * factor, p.fy * factor] ∨ x ∈ d.singles ∨
      x = .zero := by
  change x ∈ [p.cx * factor, p.cy * factor, p.fx * factor, p.fy * factor, d.k1, d.k2, d.k3, .zero,
    .zero, .zero, .zero, .zero, d.p2, d.p1, .zero] at h
  simp only [List.mem_cons, List.not_mem_nil, or_false, Distortion.singles] at h ⊢
  tauto

theorem isFinite_or_mem_rescaledCamera {p : Pinhole} {d : Distortion} {r : Resolution}
    {t : Extrinsics} (hd : ∀ x ∈ d.singles, x.isFinite) (ht : ∀ x ∈ t.singles, x.isFinite) :
    ∀ x ∈ (rescaledCamera p d r t).singles,
      x.isFinite ∨ x ∈ (rescaledCamera p d r t).rescaled := by
  intro x hx
  rcases List.mem_append.1 hx with hx | hradius
  · rcases List.mem_append.1 hx with htransform | hparameter
    · exact .inl (ht x htransform)
    · rcases mem_rescaledParameters hparameter with hproduct | hdistortion | rfl
      · exact .inr hproduct
      · exact .inl (hd x hdistortion)
      · exact .inl rfl
  · have hzero : x = .zero := List.mem_singleton.1 hradius
    exact .inl (hzero ▸ rfl)

theorem isFinite_or_mem_colorCamera {e : Entry} (hd : ∀ x ∈ e.colorDistortion.singles, x.isFinite)
    (ht : ∀ x ∈ e.transform.toExtrinsics.singles, x.isFinite) (color : ColorResolution) :
    ∀ x ∈ (e.colorCamera color).singles, x.isFinite ∨ x ∈ (e.colorCamera color).rescaled := by
  have hoff : ∀ x ∈ (default : Camera).singles, x.isFinite := by decide
  unfold Entry.colorCamera
  split
  · exact fun x hx => .inl (hoff x hx)
  · exact isFinite_or_mem_rescaledCamera hd ht

theorem isFinite_or_mem_rescaled {e : Entry} (he : ∀ x ∈ e.singles, x.isFinite) (r : Resolution)
    (depth : DepthMode) (color : ColorResolution) :
    ∀ x ∈ (e.toCalibration r depth color).singles,
      x.isFinite ∨ x ∈ (e.toCalibration r depth color).rescaled := by
  simp only [Entry.singles_eq, List.forall_mem_append] at he
  obtain ⟨⟨⟨-, hdepth⟩, hcolor⟩, htransform⟩ := he
  have hidentity : ∀ x ∈ Extrinsics.identity.singles, x.isFinite := by decide
  intro x hx
  rcases List.mem_append.1 hx with hcameras | htable
  · rcases List.mem_append.1 hcameras with hx | hx
    · exact (isFinite_or_mem_rescaledCamera hdepth hidentity x hx).imp_right
        (List.mem_append_left _)
    · exact (isFinite_or_mem_colorCamera hcolor htransform color x hx).imp_right
        (List.mem_append_right _)
  · have hcell : x ∈ e.transform.toExtrinsics.singles := by
      simpa [Entry.toCalibration, Vector.toList_replicate] using htable
    exact .inl (htransform x hcell)

/-! ## Files -/

/-- A blob whose products are finite gives the calibration back, and no other blob is accepted. -/
def IsReloaded (c : Calibration) (result : Except CalibrationError Calibration) : Prop :=
  if ∀ x ∈ c.rescaled, x.isFinite then result = .ok c else ∃ error, result = .error (.json error)

theorem isReloaded_ofBlob {e : Entry} {r : Resolution} {depth : DepthMode}
    {color : ColorResolution} (he : ∀ x ∈ e.singles, x.isFinite)
    (hread : ∀ x ∈ (e.toCalibration r depth color).singles, x.isFinite → ReadsBack x) :
    IsReloaded (e.toCalibration r depth color)
      (Calibration.ofBlob (e.toCalibration r depth color).toBlob) := by
  unfold IsReloaded
  split
  · next hproducts =>
      have hall : ∀ x ∈ (e.toCalibration r depth color).singles, x.isFinite := by
        intro x hx
        exact (isFinite_or_mem_rescaled he r depth color x hx).elim id (hproducts x)
      apply Calibration.ofBlob_eq_ok.2
      constructor
      · exact Calibration.decode_toBlob_eq_self fun x hx => hread x hx (hall x hx)
      · exact validate_toCalibration e r depth color
  · next hproducts =>
      simp only [not_forall, Bool.not_eq_true, exists_prop] at hproducts
      obtain ⟨x, hx, hinfinite⟩ := hproducts
      have hmem := Calibration.mem_singles_of_mem_rescaled hx
      exact Calibration.ofBlob_of_not_decode (Calibration.decode_toBlob_eq_none hmem hinfinite)

/-- Wherever the bytes that were written are found, and in a file tree under their path. -/
theorem readBlob_writeBlob_calibrate {entries : List Entry} {depth : DepthMode}
    {color : ColorResolution} {c : Calibration} {path : String}
    (hfinite : ∀ e ∈ entries, ∀ x ∈ e.singles, x.isFinite)
    (hc : (calibrate entries depth color).result = .ok c)
    (hread : ∀ x ∈ c.singles, x.isFinite → ReadsBack x) :
    (∀ lookup : Lookup, lookup path = .ok c.toBlob.toUTF8 →
        IsReloaded c (readBlob lookup path).result) ∧
      ∀ tree written : Tree, writeBlob tree path c = .ok written →
        IsReloaded c (readBlob written.read path).result := by
  obtain ⟨r, e, he, rfl⟩ := exists_toCalibration_of_calibrate hc
  have hreloaded := isReloaded_ofBlob (hfinite e he) hread
  constructor
  · intro lookup hlookup
    rw [readBlob_of_lookup hlookup]
    exact hreloaded
  · intro tree written hwrite
    rw [readBlob_of_lookup (Tree.read_write (writeBlob_eq_ok.1 hwrite))]
    exact hreloaded

/-! ## One focal length -/

/-- An entry whose sizes fit, and whose cameras have this focal length. -/
def ofFocalLength (fx : Single) : Entry :=
  { (default : Entry) with
    depthPinhole := { (default : Pinhole) with fx, width := 10, height := 9 }
    colorPinhole := { (default : Pinhole) with fx, width := 1280, height := 720 } }

/-- What is built from that entry; the factors are 64 and 1.5. -/
def ofRescaled (fx : Single) : Calibration :=
  (ofFocalLength fx).toCalibration ⟨640, 576⟩ .narrowUnbinned .r1080p

theorem calibrate_ofFocalLength (fx : Single) :
    (calibrate [ofFocalLength fx] .narrowUnbinned .r1080p).result = .ok (ofRescaled fx) := by
  have hratios : (10 : UInt32).toNat * 576 = 640 * (9 : UInt32).toNat ∧
      (1280 : UInt32).toNat * 1080 = 1920 * (720 : UInt32).toNat := by
    decide
  have hsuits : (ofFocalLength fx).suits ⟨640, 576⟩ (some ⟨1920, 1080⟩) = true := by
    rw [Entry.suits, Option.all_some, Bool.and_eq_true]
    exact ⟨decide_eq_true hratios.1, decide_eq_true hratios.2⟩
  have hdepth : (10 : UInt32) ≠ 0 ∧ (9 : UInt32) ≠ 0 := by decide
  have hcolor : (1280 : UInt32) ≠ 0 ∧ (720 : UInt32) ≠ 0 := by decide
  refine result_calibrate_eq_ok.2 ⟨ofFocalLength fx, 0, ?_, ?_⟩
  · exact (result_select_eq_ok rfl).2 ⟨[], [], rfl, rfl, hsuits, by simp⟩
  · exact (result_build_eq_ok rfl).2 ⟨hdepth, fun _ _ => hcolor, rfl⟩

/-- A tree that holds the one file. -/
def treeOf (c : Calibration) : Tree :=
  Tree.empty.put ["c"] (.file c.toBlob.toUTF8)

theorem writeBlob_empty (c : Calibration) : writeBlob Tree.empty "c" c = .ok (treeOf c) :=
  writeBlob_eq_ok.2 rfl

theorem readBlob_writeBlob_ofFocalLength :
    let fx : Single := ⟨0x43fc199a⟩
    let lookup : Lookup := fun path =>
      if path = "x/../c" then .ok (ofRescaled fx).toBlob.toUTF8 else .error .missing
    (∀ e ∈ [ofFocalLength fx], ∀ x ∈ e.singles, x.isFinite) ∧
      (calibrate [ofFocalLength fx] .narrowUnbinned .r1080p).result = .ok (ofRescaled fx) ∧
      (∀ x ∈ (ofRescaled fx).singles, x.isFinite → ReadsBack x) ∧
      lookup "x/../c" = .ok (ofRescaled fx).toBlob.toUTF8 ∧
      (readBlob lookup "x/../c").result = .ok (ofRescaled fx) ∧
      writeBlob Tree.empty "c" (ofRescaled fx) = .ok (treeOf (ofRescaled fx)) ∧
      (readBlob (treeOf (ofRescaled fx)).read "c").result = .ok (ofRescaled fx) := by
  intro fx lookup
  have hfinite : ∀ e ∈ [ofFocalLength fx], ∀ x ∈ e.singles, x.isFinite := by decide +kernel
  have hread : ∀ x ∈ (ofRescaled fx).singles, x.isFinite → ReadsBack x := by decide +kernel
  have hproducts : ∀ x ∈ (ofRescaled fx).rescaled, x.isFinite := by decide +kernel
  have hlookup : lookup "x/../c" = .ok (ofRescaled fx).toBlob.toUTF8 := if_pos rfl
  have hfound := (readBlob_writeBlob_calibrate hfinite (calibrate_ofFocalLength fx) hread).1
    lookup hlookup
  have hback := (readBlob_writeBlob_calibrate hfinite (calibrate_ofFocalLength fx) hread).2
    _ _ (writeBlob_empty _)
  rw [IsReloaded, if_pos hproducts] at hfound hback
  exact ⟨hfinite, calibrate_ofFocalLength fx, hread, hlookup, hfound, writeBlob_empty _, hback⟩

/-- The focal length `3e38` is finite, but no multiple of it is. -/
theorem not_readBlob_writeBlob_ofFocalLength :
    let fx : Single := ⟨0x7f61b1e6⟩
    (∀ e ∈ [ofFocalLength fx], ∀ x ∈ e.singles, x.isFinite) ∧
      (calibrate [ofFocalLength fx] .narrowUnbinned .r1080p).result = .ok (ofRescaled fx) ∧
      writeBlob Tree.empty "c" (ofRescaled fx) = .ok (treeOf (ofRescaled fx)) ∧
      (∀ x ∈ (ofRescaled fx).singles, x.isFinite → ReadsBack x) ∧
      ∀ c, (readBlob (treeOf (ofRescaled fx)).read "c").result ≠ .ok c := by
  intro fx
  refine ⟨by decide +kernel, calibrate_ofFocalLength fx, writeBlob_empty _, by decide +kernel, ?_⟩
  intro c hc
  have hmem : Single.infinity false ∈ (ofRescaled fx).singles := by decide +kernel
  obtain ⟨error, herror⟩ :=
    Calibration.ofBlob_of_not_decode (Calibration.decode_toBlob_eq_none hmem rfl)
  rw [readBlob_of_lookup (Tree.read_write (writeBlob_eq_ok.1 (writeBlob_empty _)))] at hc
  exact nomatch herror.symm.trans hc

end Vendor

end LensCalibration
