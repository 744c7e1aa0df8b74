import LensCalibration.Proofs.Vendor.Matching

/-!
# What a calibration does not depend on

The rational terms of a distortion have no place in a calibration, and where the color camera is
off, nothing that an entry says of that camera has one.  So lists whose entries differ in nothing
else are selected from at the same index, and the same is built from them.  Turning the color camera
off also never moves the selection backwards in the list.
-/

namespace LensCalibration.Vendor

variable {e f : Entry} {depth : DepthMode} {color : ColorResolution} {r : Resolution}

/-! ## Entries that agree -/

/-- The distortions share their polynomial and tangential terms. -/
structure Distortion.AgreesWith (d d' : Distortion) : Prop where
  k1 : d.k1 = d'.k1
  k2 : d.k2 = d'.k2
  k3 : d.k3 = d'.k3
  p1 : d.p1 = d'.p1
  p2 : d.p2 = d'.p2

/-- The entries differ at most in the rational terms of their distortions. -/
structure Entry.AgreesWith (e f : Entry) : Prop where
  depthPinhole : e.depthPinhole = f.depthPinhole
  colorPinhole : e.colorPinhole = f.colorPinhole
  depthDistortion : e.depthDistortion.AgreesWith f.depthDistortion
  colorDistortion : e.colorDistortion.AgreesWith f.colorDistortion
  transform : e.transform = f.transform

/-- Nothing is asked of the color camera. -/
structure Entry.AgreesInDepth (e f : Entry) : Prop where
  depthPinhole : e.depthPinhole = f.depthPinhole
  depthDistortion : e.depthDistortion.AgreesWith f.depthDistortion
  transform : e.transform = f.transform

/-! ## Building -/

theorem Distortion.AgreesWith.scaledCamera_eq {d d' : Distortion} (h : d.AgreesWith d')
    (p : Pinhole) (r : Resolution) (extrinsics : Extrinsics) :
    scaledCamera p d r extrinsics = scaledCamera p d' r extrinsics := by
  unfold scaledCamera
  rw [h.k1, h.k2, h.k3, h.p1, h.p2]

theorem Entry.AgreesWith.build_eq (h : e.AgreesWith f) (depth : DepthMode)
    (color : ColorResolution) : build e depth color = build f depth color := by
  have hcolor : scaledCamera e.colorPinhole e.colorDistortion =
      scaledCamera f.colorPinhole f.colorDistortion := by
    funext r extrinsics
    rw [h.colorPinhole, h.colorDistortion.scaledCamera_eq]
  unfold build
  simp only [h.depthDistortion.scaledCamera_eq, hcolor, h.depthPinhole, h.transform]

theorem Entry.AgreesInDepth.build_eq (h : e.AgreesInDepth f) (depth : DepthMode) :
    build e depth .off = build f depth .off := by
  unfold build
  simp only [h.depthDistortion.scaledCamera_eq, h.depthPinhole, h.transform,
    ColorResolution.resolution?]

/-! ## Selecting -/

theorem Entry.AgreesWith.suits_eq (h : e.AgreesWith f) (r : Resolution)
    (color : Option Resolution) : e.suits r color = f.suits r color := by
  unfold suits
  rw [h.depthPinhole, h.colorPinhole]

theorem Entry.AgreesInDepth.suits_eq (h : e.AgreesInDepth f) (r : Resolution) :
    e.suits r none = f.suits r none := by
  unfold suits
  rw [h.depthPinhole, Option.all_none, Option.all_none]

/-- Lists that are alike for a test have their first hits at one index. -/
theorem find?_zipIdx_rel {α : Type} {R : α → α → Prop} {q : α → Bool}
    (hq : ∀ x y, R x y → q x = q y) {xs ys : List α} (h : List.Forall₂ R xs ys) (n : Nat) :
    Option.Rel (fun a b => R a.1 b.1 ∧ a.2 = b.2) ((xs.zipIdx n).find? fun a => q a.1)
      ((ys.zipIdx n).find? fun a => q a.1) := by
  induction h generalizing n with
  | nil => exact .none
  | @cons x y xs ys hhead _ ih =>
      simp only [List.zipIdx_cons, List.find?_cons, hq x y hhead]
      cases q y with
      | true => exact .some ⟨hhead, rfl⟩
      | false => exact ih (n + 1)

/-! ## Calibrations -/

theorem calibrate_congr {R : Entry → Entry → Prop}
    (hsuits : ∀ e f, R e f → ∀ r, e.suits r color.resolution? = f.suits r color.resolution?)
    (hbuild : ∀ e f, R e f → build e depth color = build f depth color)
    {entries others : List Entry} (h : List.Forall₂ R entries others) :
    calibrate entries depth color = calibrate others depth color := by
  cases hmode : calibratedResolution? depth with
  | none => rw [calibrate_eq_of_none hmode, calibrate_eq_of_none hmode]
  | some r =>
      have hfound := find?_zipIdx_rel (q := fun e => e.suits r color.resolution?)
        (fun e f hef => hsuits e f hef r) h 0
      rw [calibrate_eq hmode, calibrate_eq hmode, h.length_eq]
      generalize (entries.zipIdx.find? fun a => a.1.suits r color.resolution?) = found,
        (others.zipIdx.find? fun a => a.1.suits r color.resolution?) = found' at hfound ⊢
      cases hfound with
      | none => rfl
      | @some a b hrel =>
          obtain ⟨e, i⟩ := a
          obtain ⟨f, j⟩ := b
          obtain ⟨hef, rfl⟩ := hrel
          simp only [hbuild e f hef]

/-- What suits both cameras suits the depth camera. -/
theorem Entry.suits_none {color : Option Resolution} (h : e.suits r color = true) :
    e.suits r none = true := by
  rw [suits, Bool.and_eq_true] at h
  rw [suits, Option.all_none, Bool.and_true]
  exact h.1

theorem exists_findIdx?_le {α : Type} {p q : α → Bool} (hpq : ∀ x, p x = true → q x = true)
    {xs : List α} {i : Nat} (h : xs.findIdx? p = some i) : ∃ j ≤ i, xs.findIdx? q = some j := by
  obtain ⟨hi, rfl⟩ := List.findIdx?_eq_some_iff_findIdx_eq.1 h
  have hle : xs.findIdx q ≤ xs.findIdx p := List.findIdx_le_findIdx fun x _ => hpq x
  exact ⟨_, hle, List.findIdx?_eq_some_iff_findIdx_eq.2 ⟨hle.trans_lt hi, rfl⟩⟩

theorem index_select_eq_some (h : calibratedResolution? depth = some r) {entries : List Entry}
    {i : Nat} : (entries.findIdx? fun e => e.suits r color.resolution?) = some i ↔
      ∃ e, (select entries depth color).result = .ok (e, i) := by
  rw [← index_select h]
  cases (select entries depth color).result with
  | error error =>
      constructor
      · rintro ⟨⟩
      · rintro ⟨e, ⟨⟩⟩
  | ok found =>
      constructor
      · rintro ⟨⟩
        exact ⟨found.1, rfl⟩
      · rintro ⟨e, ⟨⟩⟩
        rfl

theorem exists_select_off {entries : List Entry} {i : Nat}
    (h : (select entries depth color).result = .ok (e, i)) :
    ∃ f, ∃ j ≤ i, (select entries depth .off).result = .ok (f, j) := by
  cases hmode : calibratedResolution? depth with
  | none =>
      rw [result_select_of_none hmode] at h
      cases h
  | some r =>
      have hindex := (index_select_eq_some hmode).2 ⟨e, h⟩
      obtain ⟨j, hj, hoff⟩ := exists_findIdx?_le (fun _ => Entry.suits_none) hindex
      obtain ⟨f, hf⟩ : ∃ f, (select entries depth .off).result = .ok (f, j) :=
        (index_select_eq_some hmode).1 hoff
      exact ⟨f, j, hj, hf⟩

/-- What is logged is the same too. -/
theorem calibrate_eq_of_agree (entries others : List Entry) (depth : DepthMode) :
    (List.Forall₂ Entry.AgreesWith entries others →
        ∀ color, calibrate entries depth color = calibrate others depth color) ∧
      (List.Forall₂ Entry.AgreesInDepth entries others →
        calibrate entries depth .off = calibrate others depth .off) ∧
      ∀ color e i, (select entries depth color).result = .ok (e, i) →
        ∃ f, ∃ j ≤ i, (select entries depth .off).result = .ok (f, j) := by
  refine ⟨fun h color => ?_, fun h => ?_, fun color e i => exists_select_off⟩
  · exact calibrate_congr (fun e f hef r => hef.suits_eq r _) (fun e f hef => hef.build_eq _ _) h
  · exact calibrate_congr (fun e f hef r => hef.suits_eq r) (fun e f hef => hef.build_eq _) h

theorem calibrate_eq_of_agree_mixed :
    let tall := ofSizes 640 576 4 3
    let plain := ofSizes 320 288 1280 720
    let bent : Entry := { plain with depthDistortion := { plain.depthDistortion with k4 := .one } }
    let blind : Entry := { bent with
      colorPinhole := default
      colorDistortion := { bent.colorDistortion with k1 := .one } }
    List.Forall₂ Entry.AgreesWith [tall, plain] [tall, bent] ∧
      calibrate [tall, plain] .narrowUnbinned .r1080p =
        calibrate [tall, bent] .narrowUnbinned .r1080p ∧
      (∃ c, (calibrate [tall, plain] .narrowUnbinned .r1080p).result = .ok c) ∧
      List.Forall₂ Entry.AgreesInDepth [plain, tall] [blind, tall] ∧
      calibrate [plain, tall] .narrowUnbinned .off = calibrate [blind, tall] .narrowUnbinned .off ∧
      (∃ c, (calibrate [plain, tall] .narrowUnbinned .off).result = .ok c) ∧
      (select [tall, plain] .narrowUnbinned .r1080p).result = .ok (plain, 1) ∧
      ∃ f, ∃ j ≤ 1, (select [tall, plain] .narrowUnbinned .off).result = .ok (f, j) := by
  intro tall plain bent blind
  have hself (d : Distortion) : d.AgreesWith d := ⟨rfl, rfl, rfl, rfl, rfl⟩
  have hagree : List.Forall₂ Entry.AgreesWith [tall, plain] [tall, bent] :=
    .cons ⟨rfl, rfl, hself _, hself _, rfl⟩ <|
      .cons ⟨rfl, rfl, ⟨rfl, rfl, rfl, rfl, rfl⟩, hself _, rfl⟩ .nil
  have hdepth : List.Forall₂ Entry.AgreesInDepth [plain, tall] [blind, tall] :=
    .cons ⟨rfl, ⟨rfl, rfl, rfl, rfl, rfl⟩, rfl⟩ <| .cons ⟨rfl, hself _, rfl⟩ .nil
  have hselect : (select [tall, plain] .narrowUnbinned .r1080p).result = .ok (plain, 1) :=
    (result_select_eq_ok rfl).2 ⟨[tall], [], rfl, rfl, by decide, by decide⟩
  have hselectOff : (select [plain, tall] .narrowUnbinned .off).result = .ok (plain, 0) :=
    (result_select_eq_ok rfl).2 ⟨[], [tall], rfl, rfl, by decide, by decide⟩
  have hbuild (color : ColorResolution) : ∃ c, (build plain .narrowUnbinned color).result = .ok c :=
    ⟨_, (result_build_eq_ok rfl).2 ⟨by decide, fun _ _ => by decide, rfl⟩⟩
  obtain ⟨c, hc⟩ := hbuild .r1080p
  obtain ⟨d, hd⟩ := hbuild .off
  obtain ⟨hrational, -, hindex⟩ := calibrate_eq_of_agree [tall, plain] [tall, bent] .narrowUnbinned
  obtain ⟨-, hoff, -⟩ := calibrate_eq_of_agree [plain, tall] [blind, tall] .narrowUnbinned
  exact ⟨hagree, hrational hagree .r1080p, ⟨c, result_calibrate_eq_ok.2 ⟨plain, 1, hselect, hc⟩⟩,
    hdepth, hoff hdepth, ⟨d, result_calibrate_eq_ok.2 ⟨plain, 0, hselectOff, hd⟩⟩, hselect,
    hindex .r1080p plain 1 hselect⟩

end LensCalibration.Vendor
