import LensCalibration.Proofs.Vendor.Building
import Mathlib.Algebra.Order.Field.Rat
import Mathlib.Data.Nat.Cast.Order.Field
import Mathlib.Tactic.NormNum

/-!
# Which lists of entries give a calibration

Selection compares cross products, which a size of zero by zero always passes, and building refuses
such a size.  So the first entry that passes decides, and an empty one hides the entries behind it.
-/

namespace LensCalibration

/-! ## Nominal sizes -/

def Resolution.HasSides (r : Resolution) : Prop :=
  0 < r.width ∧ 0 < r.height

instance : DecidablePred Resolution.HasSides := fun r =>
  inferInstanceAs (Decidable (0 < r.width ∧ 0 < r.height))

theorem ColorResolution.hasSides {color : ColorResolution} {r : Resolution}
    (h : color.resolution? = some r) : r.HasSides := by
  cases color <;> cases h <;> decide

/-- Both sides are below the limit of the integers of 32 bits with a sign. -/
def Resolution.FitsInt32 (r : Resolution) : Prop :=
  r.width < 2 ^ 31 ∧ r.height < 2 ^ 31

theorem DepthMode.fitsInt32 {mode : DepthMode} {r : Resolution} (h : mode.resolution? = some r) :
    r.FitsInt32 := by
  cases mode <;> cases h <;> exact ⟨by decide, by decide⟩

theorem ColorResolution.fitsInt32 {color : ColorResolution} {r : Resolution}
    (h : color.resolution? = some r) : r.FitsInt32 := by
  cases color <;> cases h <;> exact ⟨by decide, by decide⟩

/-- The modes in which the depth sensor has a field of view. -/
def DepthMode.fieldsOfView : List DepthMode :=
  [narrowBinned, narrowUnbinned, wideBinned, wideUnbinned]

namespace Vendor

theorem calibratedResolution?_eq_some {mode : DepthMode} {r : Resolution} :
    calibratedResolution? mode = some r ↔
      mode ∈ DepthMode.fieldsOfView ∧ mode.resolution? = some r := by
  cases mode <;> simp [calibratedResolution?, DepthMode.fieldsOfView, DepthMode.resolution?]

theorem calibratedResolution?_eq_none {mode : DepthMode} :
    calibratedResolution? mode = none ↔ mode = .off ∨ mode = .passiveInfrared := by
  cases mode <;> decide

theorem exists_calibratedResolution {mode : DepthMode}
    (h : ¬ (mode = .off ∨ mode = .passiveInfrared)) :
    ∃ r, calibratedResolution? mode = some r :=
  Option.ne_none_iff_exists'.1 fun hnone => h (calibratedResolution?_eq_none.1 hnone)

theorem hasSides_of_calibratedResolution? {mode : DepthMode} {r : Resolution}
    (h : calibratedResolution? mode = some r) : r.HasSides := by
  cases mode <;> cases h <;> decide

/-! ## Ratios -/

namespace Pinhole

def IsEmpty (p : Pinhole) : Prop :=
  p.width = 0 ∧ p.height = 0

/-- A size with an empty side has no ratio. -/
def HasRatio (p : Pinhole) (r : Resolution) : Prop :=
  p.IsSized ∧ (p.width.toNat : ℚ) / p.height.toNat = r.width / r.height

theorem isSized_iff {p : Pinhole} : p.IsSized ↔ 0 < p.width.toNat ∧ 0 < p.height.toNat := by
  simp [IsSized, Nat.pos_iff_ne_zero, ← UInt32.toNat_inj]

theorem isEmpty_iff {p : Pinhole} : p.IsEmpty ↔ p.width.toNat = 0 ∧ p.height.toNat = 0 := by
  simp [IsEmpty, ← UInt32.toNat_inj]

theorem IsEmpty.not_isSized {p : Pinhole} (h : p.IsEmpty) : ¬ p.IsSized :=
  fun hsized => hsized.1 h.1

theorem hasRatio_iff {p : Pinhole} {r : Resolution} (hr : r.HasSides) :
    p.HasRatio r ↔ p.IsSized ∧ p.width.toNat * r.height = r.width * p.height.toNat := by
  apply and_congr_right
  intro hsized
  have hside : (p.height.toNat : ℚ) ≠ 0 := by exact_mod_cast (isSized_iff.1 hsized).2.ne'
  have hnominal : (r.height : ℚ) ≠ 0 := by exact_mod_cast hr.2.ne'
  rw [div_eq_div_iff hside hnominal]
  norm_cast

/-- Cross products with one empty side agree only if the other side is empty too. -/
theorem hasAspectOf_iff {p : Pinhole} {r : Resolution} (hr : r.HasSides) :
    p.hasAspectOf r = true ↔ p.HasRatio r ∨ p.IsEmpty := by
  obtain ⟨hwidth, hheight⟩ := hr
  have hcross : p.hasAspectOf r = true ↔
      p.width.toNat * r.height = r.width * p.height.toNat := decide_eq_true_iff
  rw [hcross, hasRatio_iff ⟨hwidth, hheight⟩, isSized_iff, isEmpty_iff]
  constructor
  · intro h
    rcases Nat.eq_zero_or_pos p.height.toNat with hempty | hsized
    · rw [hempty, Nat.mul_zero, Nat.mul_eq_zero] at h
      omega
    · have hproduct : 0 < p.width.toNat * r.height := h ▸ Nat.mul_pos hwidth hsized
      exact .inl ⟨⟨Nat.pos_of_mul_pos_right hproduct, hsized⟩, h⟩
  · rintro (⟨-, h⟩ | ⟨hleft, hright⟩)
    · exact h
    · rw [hleft, hright, Nat.zero_mul, Nat.mul_zero]

end Pinhole

/-! ## Usable entries -/

namespace Entry

/-- The color camera counts where it is on. -/
def IsUsable (e : Entry) (depth : Resolution) (color : Option Resolution) : Prop :=
  e.depthPinhole.HasRatio depth ∧ ∀ r ∈ color, e.colorPinhole.HasRatio r

/-- Nothing is against the entry but that a size which counts is empty. -/
def IsVoid (e : Entry) (depth : Resolution) (color : Option Resolution) : Prop :=
  (e.depthPinhole.HasRatio depth ∨ e.depthPinhole.IsEmpty) ∧
    (∀ r ∈ color, e.colorPinhole.HasRatio r ∨ e.colorPinhole.IsEmpty) ∧
    (e.depthPinhole.IsEmpty ∨ ∃ r ∈ color, e.colorPinhole.IsEmpty)

variable {e : Entry} {depth : Resolution} {color : Option Resolution}

theorem suits_iff (hdepth : depth.HasSides) (hcolor : ∀ r ∈ color, r.HasSides) :
    e.suits depth color = true ↔ e.IsUsable depth color ∨ e.IsVoid depth color := by
  have hall : color.all e.colorPinhole.hasAspectOf = true ↔
      ∀ r ∈ color, e.colorPinhole.HasRatio r ∨ e.colorPinhole.IsEmpty := by
    rw [Option.all_eq_true]
    exact forall₂_congr fun r hr => Pinhole.hasAspectOf_iff (hcolor r hr)
  rw [suits, Bool.and_eq_true, Pinhole.hasAspectOf_iff hdepth, hall]
  constructor
  · rintro ⟨hdepth, hcolor⟩
    by_cases hempty : e.depthPinhole.IsEmpty ∨ ∃ r ∈ color, e.colorPinhole.IsEmpty
    · exact .inr ⟨hdepth, hcolor, hempty⟩
    · rw [not_or, not_exists] at hempty
      exact .inl ⟨hdepth.resolve_right hempty.1,
        fun r hr => (hcolor r hr).resolve_right fun h => hempty.2 r ⟨hr, h⟩⟩
  · rintro (⟨hdepth, hcolor⟩ | ⟨hdepth, hcolor, -⟩)
    · exact ⟨.inl hdepth, fun r hr => .inl (hcolor r hr)⟩
    · exact ⟨hdepth, hcolor⟩

end Entry

/-! ## Selection -/

/-- The first element with a property, and as many as its index says stand before it. -/
theorem find?_zipIdx_eq_some {α : Type} {q : α → Bool} {xs : List α} {x : α} {i : Nat} :
    xs.zipIdx.find? (fun a => q a.1) = some (x, i) ↔
      ∃ before after, xs = before ++ x :: after ∧ before.length = i ∧ q x = true ∧
        ∀ b ∈ before, q b = false := by
  have hnone (before : List α) :
      (∀ a ∈ before.zipIdx, (!q a.1) = true) ↔ ∀ b ∈ before, q b = false := by
    rw [← List.forall_mem_map (f := Prod.fst) (P := fun b => (!q b) = true),
      List.zipIdx_map_fst]
    simp only [Bool.not_eq_true']
  rw [List.find?_eq_some_iff_append]
  constructor
  · rintro ⟨hx, front, back, hsplit, hfront⟩
    obtain ⟨before, rest, rfl, rfl, hrest⟩ := List.zipIdx_eq_append_iff.1 hsplit
    obtain ⟨y, after, rfl, hy, -⟩ := List.zipIdx_eq_cons_iff.1 hrest.symm
    obtain ⟨rfl, hindex⟩ := Prod.mk.inj hy
    exact ⟨before, after, rfl, by omega, hx, (hnone before).1 hfront⟩
  · rintro ⟨before, after, rfl, rfl, hx, hbefore⟩
    refine ⟨hx, before.zipIdx, after.zipIdx (before.length + 1), ?_, (hnone before).2 hbefore⟩
    rw [List.zipIdx_append, List.zipIdx_cons, Nat.zero_add]

/-- An element with a property has a first one before it, or is the first itself. -/
theorem exists_first {α : Type} {q : α → Bool} {x : α} (hx : q x = true) (before after : List α) :
    ∃ front y back, before ++ x :: after = front ++ y :: back ∧ q y = true ∧
      (∀ b ∈ front, q b = false) ∧ y ∈ before ++ [x] := by
  have hexists : (before ++ [x]).find? q ≠ none := fun hnone =>
    List.find?_eq_none.1 hnone x (by simp) hx
  obtain ⟨y, hfound⟩ := Option.ne_none_iff_exists'.1 hexists
  obtain ⟨hy, front, back, hsplit, hfront⟩ := List.find?_eq_some_iff_append.1 hfound
  refine ⟨front, y, back ++ after, ?_, hy, by simpa using hfront, List.mem_of_find?_eq_some hfound⟩
  simpa using congrArg (· ++ after) hsplit

section

variable {depth : DepthMode} {r : Resolution} {color : ColorResolution}

/-- Selection with its event. -/
theorem select_eq (h : calibratedResolution? depth = some r) (entries : List Entry)
    (color : ColorResolution) :
    select entries depth color =
      match entries.zipIdx.find? fun a => a.1.suits r color.resolution? with
      | some found => ⟨.ok found, [.selected found.2 entries.length depth color]⟩
      | none => ⟨.error (.noMatchingCamera depth color), [.noMatch entries.length depth color]⟩ := by
  rw [select, calibratedResolution, h, Logged.pure_bind]
  cases entries.zipIdx.find? fun a => a.1.suits r color.resolution? with
  | some found => rfl
  | none => rfl

theorem select_eq_of_none (h : calibratedResolution? depth = none) (entries : List Entry)
    (color : ColorResolution) :
    select entries depth color =
      ⟨.error (.unsupportedDepthMode depth), [.noDepthCalibration depth]⟩ := by
  rw [select, calibratedResolution, h]
  rfl

theorem result_select (h : calibratedResolution? depth = some r) (entries : List Entry) :
    (select entries depth color).result =
      match entries.zipIdx.find? fun a => a.1.suits r color.resolution? with
      | some found => .ok found
      | none => .error (.noMatchingCamera depth color) := by
  rw [select_eq h]
  cases entries.zipIdx.find? fun a => a.1.suits r color.resolution? with
  | some found => rfl
  | none => rfl

theorem result_select_eq_ok (h : calibratedResolution? depth = some r) {entries : List Entry}
    {e : Entry} {i : Nat} :
    (select entries depth color).result = .ok (e, i) ↔
      ∃ before after, entries = before ++ e :: after ∧ before.length = i ∧
        e.suits r color.resolution? = true ∧
        ∀ b ∈ before, b.suits r color.resolution? = false := by
  rw [result_select h]
  refine Iff.trans ?_ (find?_zipIdx_eq_some (q := fun e : Entry => e.suits r color.resolution?))
  cases entries.zipIdx.find? fun a => a.1.suits r color.resolution? with
  | none => simp
  | some found => simp

/-! ## Calibrations -/

/-- Calibration with its events. -/
theorem calibrate_eq (h : calibratedResolution? depth = some r) (entries : List Entry)
    (color : ColorResolution) :
    calibrate entries depth color =
      match entries.zipIdx.find? fun a => a.1.suits r color.resolution? with
      | some (e, index) =>
          ⟨(build e depth color).result,
            .selected index entries.length depth color :: (build e depth color).events⟩
      | none => ⟨.error (.noMatchingCamera depth color), [.noMatch entries.length depth color]⟩ := by
  rw [calibrate, select_eq h]
  cases entries.zipIdx.find? fun a => a.1.suits r color.resolution? with
  | some found => rfl
  | none => rfl

theorem calibrate_eq_of_none (h : calibratedResolution? depth = none) (entries : List Entry)
    (color : ColorResolution) :
    calibrate entries depth color =
      ⟨.error (.unsupportedDepthMode depth), [.noDepthCalibration depth]⟩ := by
  rw [calibrate, select_eq_of_none h]
  rfl

theorem result_calibrate_eq_ok {entries : List Entry} {c : Calibration} :
    (calibrate entries depth color).result = .ok c ↔
      ∃ e i, (select entries depth color).result = .ok (e, i) ∧
        (build e depth color).result = .ok c := by
  rw [calibrate, Logged.result_bind, bind_eq_ok, Prod.exists]

theorem exists_toCalibration_of_calibrate {entries : List Entry} {c : Calibration}
    (h : (calibrate entries depth color).result = .ok c) :
    ∃ r, ∃ e ∈ entries, e.toCalibration r depth color = c := by
  obtain ⟨e, i, hselect, hbuild⟩ := result_calibrate_eq_ok.1 h
  cases hmode : calibratedResolution? depth with
  | none =>
      rw [select_eq_of_none hmode] at hselect
      cases hselect
  | some r =>
      obtain ⟨before, after, rfl, -⟩ := (result_select_eq_ok hmode).1 hselect
      obtain ⟨-, -, hc⟩ := (result_build_eq_ok hmode).1 hbuild
      exact ⟨r, e, by simp, hc⟩

theorem validate_of_calibrate {entries : List Entry} {c : Calibration}
    (h : (calibrate entries depth color).result = .ok c) : c.validate = .ok () := by
  obtain ⟨r, e, -, rfl⟩ := exists_toCalibration_of_calibrate h
  exact validate_toCalibration e r depth color

/-- What is selected is usable if no size that counts is empty. -/
theorem Entry.isUsable_iff_isSized (h : calibratedResolution? depth = some r) {e : Entry}
    (hsuits : e.suits r color.resolution? = true) :
    e.IsUsable r color.resolution? ↔
      e.depthPinhole.IsSized ∧ ∀ r ∈ color.resolution?, e.colorPinhole.IsSized := by
  constructor
  · rintro ⟨hdepth, hcolor⟩
    exact ⟨hdepth.1, fun r hr => (hcolor r hr).1⟩
  · rintro ⟨hdepth, hcolor⟩
    have hnominal : ∀ r ∈ color.resolution?, r.HasSides := fun r hr => ColorResolution.hasSides hr
    apply ((suits_iff (hasSides_of_calibratedResolution? h) hnominal).1 hsuits).resolve_right
    rintro ⟨-, -, hempty | ⟨r, hr, hempty⟩⟩
    · exact hempty.not_isSized hdepth
    · exact hempty.not_isSized (hcolor r hr)

/--
A usable entry is used unless one before it is void: that one is selected in its place, and nothing
is built from it.
-/
theorem exists_calibrate_iff (hdepth : depth ∈ DepthMode.fieldsOfView)
    (hr : depth.resolution? = some r) (entries : List Entry) (color : ColorResolution) :
    (∃ c, (calibrate entries depth color).result = .ok c) ↔
      ∃ before e after, entries = before ++ e :: after ∧ e.IsUsable r color.resolution? ∧
        ∀ b ∈ before, ¬ b.IsVoid r color.resolution? := by
  have h := calibratedResolution?_eq_some.2 ⟨hdepth, hr⟩
  have hsuits (e : Entry) : e.suits r color.resolution? = true ↔
      e.IsUsable r color.resolution? ∨ e.IsVoid r color.resolution? :=
    Entry.suits_iff (hasSides_of_calibratedResolution? h) fun r hr => ColorResolution.hasSides hr
  simp only [result_calibrate_eq_ok, result_select_eq_ok h, result_build_eq_ok h]
  constructor
  · rintro ⟨c, e, i, ⟨before, after, rfl, rfl, he, hbefore⟩, hdepth, hcolor, -⟩
    refine ⟨before, e, after, rfl, (Entry.isUsable_iff_isSized h he).2 ⟨hdepth, hcolor⟩, ?_⟩
    intro b hb hvoid
    have := (hsuits b).2 (.inr hvoid)
    rw [hbefore b hb] at this
    cases this
  · rintro ⟨before, e, after, rfl, he, hbefore⟩
    -- Up to the usable entry no other passes than usable ones, so the first of them is selected.
    obtain ⟨front, f, back, hentries, hf, hfront, hmem⟩ :=
      exists_first (q := fun e : Entry => e.suits r color.resolution?) ((hsuits e).2 (.inl he))
        before after
    have husable : f.IsUsable r color.resolution? := by
      rcases List.mem_append.1 hmem with hbefore' | hlast
      · exact ((hsuits f).1 hf).resolve_right (hbefore f hbefore')
      · rwa [List.mem_singleton.1 hlast]
    obtain ⟨hdepth, hcolor⟩ := (Entry.isUsable_iff_isSized h hf).1 husable
    exact ⟨_, f, front.length, ⟨front, back, hentries, rfl, hf, hfront⟩, hdepth, hcolor, rfl⟩

/-! ## Lists of a few sizes -/

/-- An entry of which only the sizes of its images matter. -/
def ofSizes (depthWidth depthHeight colorWidth colorHeight : UInt32) : Entry :=
  { (default : Entry) with
    depthPinhole := { (default : Pinhole) with width := depthWidth, height := depthHeight }
    colorPinhole := { (default : Pinhole) with width := colorWidth, height := colorHeight } }

theorem isUsable_ofSizes : (ofSizes 320 288 1280 720).IsUsable ⟨640, 576⟩ (some ⟨1920, 1080⟩) := by
  constructor
  · exact (Pinhole.hasRatio_iff (by decide)).2 (by decide)
  · rintro r ⟨⟩
    exact (Pinhole.hasRatio_iff (by decide)).2 (by decide)

theorem exists_calibrate_behind_square :
    DepthMode.narrowUnbinned ∈ DepthMode.fieldsOfView ∧
      DepthMode.narrowUnbinned.resolution? = some ⟨640, 576⟩ ∧
      ∃ c, (calibrate [ofSizes 512 512 0 0, ofSizes 320 288 1280 720, ofSizes 0 0 0 0]
        .narrowUnbinned .r1080p).result = .ok c := by
  refine ⟨by decide, rfl, (exists_calibrate_iff (by decide) rfl _ _).2
    ⟨[ofSizes 512 512 0 0], ofSizes 320 288 1280 720, [ofSizes 0 0 0 0], rfl, isUsable_ofSizes, ?_⟩⟩
  intro b hb hvoid
  rw [List.mem_singleton.1 hb] at hvoid
  rcases hvoid.1 with hratio | hempty
  · exact absurd ((Pinhole.hasRatio_iff (by decide)).1 hratio) (by decide)
  · exact absurd hempty.1 (by decide)

/-- The second entry is usable, but the first has an empty size and is selected. -/
theorem calibrate_behind_empty :
    (ofSizes 320 288 1280 720).IsUsable ⟨640, 576⟩ ColorResolution.r1080p.resolution? ∧
      (calibrate [ofSizes 0 0 1280 720, ofSizes 320 288 1280 720] .narrowUnbinned
        .r1080p).result = .error (.invalidVendorResolution 0 0) :=
  ⟨isUsable_ofSizes, rfl⟩

end

end Vendor

end LensCalibration
