import LensCalibration.Proofs.Vendor.Selection
import Mathlib.Data.List.Forall2

/-!
# The first match

An entry matches where its sizes and the nominal ones agree crosswise, over the integers.  The first
match is selected, so entries behind it do not count, and the sizes themselves count only by their
ratios.
-/

namespace LensCalibration

/-! ## Nominal sizes -/

/-- Both sides are words of 32 bits. -/
def Resolution.IsWords (r : Resolution) : Prop :=
  ∃ width height : UInt32, r = ⟨width.toNat, height.toNat⟩

theorem Resolution.FitsInt32.isWords {r : Resolution} (h : r.FitsInt32) : r.IsWords := by
  have hword : 2 ^ 31 < UInt32.size := by decide
  refine ⟨UInt32.ofNat r.width, UInt32.ofNat r.height, ?_⟩
  rw [UInt32.toNat_ofNat_of_lt' (h.1.trans hword), UInt32.toNat_ofNat_of_lt' (h.2.trans hword)]

def Resolution.ratio (r : Resolution) : ℚ :=
  r.width / r.height

namespace Vendor

variable {e : Entry} {entries : List Entry} {depth : DepthMode} {color : ColorResolution}
  {r : Resolution} {i : Nat}

/-! ## Matches -/

def Pinhole.Crosses (p : Pinhole) (r : Resolution) : Prop :=
  (p.width.toNat : ℤ) * r.height = r.width * p.height.toNat

/-- The color camera counts where it is on. -/
def Entry.Matches (e : Entry) (depth : Resolution) (color : Option Resolution) : Prop :=
  e.depthPinhole.Crosses depth ∧ ∀ r ∈ color, e.colorPinhole.Crosses r

instance (p : Pinhole) (r : Resolution) : Decidable (p.Crosses r) :=
  inferInstanceAs (Decidable (_ = _))

instance (e : Entry) (depth : Resolution) (color : Option Resolution) :
    Decidable (e.Matches depth color) :=
  inferInstanceAs (Decidable (_ ∧ ∀ r ∈ color, _))

theorem Pinhole.hasAspectOf_iff_crosses {p : Pinhole} : p.hasAspectOf r = true ↔ p.Crosses r := by
  rw [hasAspectOf, decide_eq_true_iff, Crosses]
  norm_cast

theorem Entry.suits_iff_matches {color : Option Resolution} :
    e.suits r color = true ↔ e.Matches r color := by
  rw [suits, Bool.and_eq_true, Option.all_eq_true, Pinhole.hasAspectOf_iff_crosses]
  exact and_congr_right fun _ => forall₂_congr fun _ _ => Pinhole.hasAspectOf_iff_crosses

theorem Entry.suits_eq_false_iff {color : Option Resolution} :
    e.suits r color = false ↔ ¬ e.Matches r color := by
  rw [← suits_iff_matches, Bool.not_eq_true]

/-! ## Words -/

/-- A product of two words of 32 bits fits in 64. -/
theorem toNat_mul_toUInt64 (a b : UInt32) :
    (a.toUInt64 * b.toUInt64).toNat = a.toNat * b.toNat := by
  have hfits : a.toNat * b.toNat < 2 ^ 64 :=
    calc
      a.toNat * b.toNat < 2 ^ 32 * 2 ^ 32 := Nat.mul_lt_mul_of_lt_of_lt a.toNat_lt b.toNat_lt
      _ = 2 ^ 64 := by norm_num
  rw [UInt64.toNat_mul, UInt32.toNat_toUInt64, UInt32.toNat_toUInt64, Nat.mod_eq_of_lt hfits]

theorem Pinhole.hasAspectOf_words (p : Pinhole) (width height : UInt32) :
    p.hasAspectOf ⟨width.toNat, height.toNat⟩ =
      (p.width.toUInt64 * height.toUInt64 == width.toUInt64 * p.height.toUInt64) := by
  rw [hasAspectOf, Bool.beq_eq_decide_eq, decide_eq_decide, ← UInt64.toNat_inj,
    toNat_mul_toUInt64, toNat_mul_toUInt64]

/-! ## The first match -/

structure IsFirstMatch (entries : List Entry) (depth : Resolution) (color : Option Resolution)
    (e : Entry) (i : Nat) : Prop where
  getElem : entries[i]? = some e
  isMatch : e.Matches depth color
  before : ∀ j < i, ∀ b, entries[j]? = some b → ¬ b.Matches depth color

theorem result_select_of_none (h : calibratedResolution? depth = none) :
    (select entries depth color).result = .error (.unsupportedDepthMode depth) := by
  rw [select_eq_of_none h]

theorem result_select_eq_ok_iff_isFirstMatch (h : calibratedResolution? depth = some r) :
    (select entries depth color).result = .ok (e, i) ↔
      IsFirstMatch entries r color.resolution? e i := by
  rw [result_select_eq_ok h, Entry.suits_iff_matches]
  simp only [Entry.suits_eq_false_iff]
  constructor
  · rintro ⟨before, after, rfl, rfl, hmatch, hbefore⟩
    refine ⟨by simp, hmatch, fun j hj b hb => hbefore b ?_⟩
    rw [List.getElem?_append_left hj] at hb
    exact List.mem_of_getElem? hb
  · rintro ⟨hget, hmatch, hbefore⟩
    obtain ⟨hi, rfl⟩ := List.getElem?_eq_some_iff.1 hget
    refine ⟨entries.take i, entries.drop (i + 1), ?_, by simp; omega, hmatch, fun b hb => ?_⟩
    · rw [List.getElem_cons_drop, List.take_append_drop]
    · obtain ⟨j, hj, rfl⟩ := List.mem_take_iff_getElem.1 hb
      exact hbefore j (by omega) _ (List.getElem?_eq_getElem _)

/-- Selection as far as the index goes. -/
theorem index_select (h : calibratedResolution? depth = some r) (entries : List Entry) :
    ((select entries depth color).result.map Prod.snd).toOption =
      entries.findIdx? fun e => e.suits r color.resolution? := by
  rw [result_select h, List.findIdx?_eq_fst_find?_zipIdx]
  cases entries.zipIdx.find? fun a => a.1.suits r color.resolution? <;> rfl

theorem find?_zipIdx_from {α : Type} {q : α → Bool} (xs : List α) (n : Nat) :
    ((xs.zipIdx n).find? fun a => q a.1) =
      (xs.zipIdx.find? fun a => q a.1).map fun a => (a.1, n + a.2) := by
  rw [List.zipIdx_eq_map_add, List.find?_map]
  rfl

theorem find?_suits_eq_none {color : Option Resolution} :
    (entries.zipIdx.find? fun a => a.1.suits r color) = none ↔
      ∀ e ∈ entries, ¬ e.Matches r color := by
  have hindex : (entries.zipIdx.find? fun a => a.1.suits r color) = none ↔
      (entries.findIdx? fun e => e.suits r color) = none := by
    rw [List.findIdx?_eq_fst_find?_zipIdx, Option.map_eq_none_iff]
  rw [hindex, List.findIdx?_eq_none_iff]
  simp only [Entry.suits_eq_false_iff]

theorem result_select_eq_noMatchingCamera (h : calibratedResolution? depth = some r) :
    (select entries depth color).result = .error (.noMatchingCamera depth color) ↔
      ∀ e ∈ entries, ¬ e.Matches r color.resolution? := by
  rw [← find?_suits_eq_none, result_select h]
  cases entries.zipIdx.find? fun a => a.1.suits r color.resolution? with
  | none => exact ⟨fun _ => rfl, fun _ => rfl⟩
  | some found => exact ⟨nofun, nofun⟩

theorem result_select_append_of_match (h : calibratedResolution? depth = some r)
    (hmatch : ∃ e ∈ entries, e.Matches r color.resolution?) (others : List Entry) :
    (select (entries ++ others) depth color).result = (select entries depth color).result := by
  rw [result_select h, result_select h, List.zipIdx_append, List.find?_append]
  cases hfind : entries.zipIdx.find? fun a => a.1.suits r color.resolution? with
  | some found => rfl
  | none =>
      obtain ⟨e, he, hmatch⟩ := hmatch
      exact absurd hmatch (find?_suits_eq_none.1 hfind e he)

theorem result_select_append_of_no_match (h : calibratedResolution? depth = some r)
    (hmatch : ∀ e ∈ entries, ¬ e.Matches r color.resolution?) (others : List Entry) :
    (select (entries ++ others) depth color).result =
      (select others depth color).result.map fun found => (found.1, entries.length + found.2) := by
  rw [result_select h, result_select h, List.zipIdx_append, List.find?_append,
    find?_suits_eq_none.2 hmatch, Option.none_or, Nat.zero_add,
    find?_zipIdx_from (q := fun e : Entry => e.suits r color.resolution?)]
  cases others.zipIdx.find? fun a => a.1.suits r color.resolution? <;> rfl

/--
The mode is looked at first.  The products stay below the words of 64 bits, so that comparing words
is comparing integers.
-/
theorem result_select_first (entries : List Entry) (depth : DepthMode) (color : ColorResolution) :
    ((select entries depth color).result = .error (.unsupportedDepthMode depth) ↔
        depth = .off ∨ depth = .passiveInfrared) ∧
      (¬ (depth = .off ∨ depth = .passiveInfrared) →
        ∃ r, depth.resolution? = some r ∧ r.IsWords ∧ (∀ s ∈ color.resolution?, s.IsWords) ∧
          (∀ e i, (select entries depth color).result = .ok (e, i) ↔
            IsFirstMatch entries r color.resolution? e i) ∧
          ((select entries depth color).result = .error (.noMatchingCamera depth color) ↔
            ∀ e ∈ entries, ¬ e.Matches r color.resolution?) ∧
          ((∃ e ∈ entries, e.Matches r color.resolution?) → ∀ others,
            (select (entries ++ others) depth color).result = (select entries depth color).result) ∧
          ((∀ e ∈ entries, ¬ e.Matches r color.resolution?) → ∀ others,
            (select (entries ++ others) depth color).result =
              (select others depth color).result.map fun found =>
                (found.1, entries.length + found.2))) ∧
      ∀ (p : Pinhole) (width height : UInt32),
        (p.width.toUInt64 * height.toUInt64).toNat = p.width.toNat * height.toNat ∧
          (width.toUInt64 * p.height.toUInt64).toNat = width.toNat * p.height.toNat ∧
          p.hasAspectOf ⟨width.toNat, height.toNat⟩ =
            (p.width.toUInt64 * height.toUInt64 == width.toUInt64 * p.height.toUInt64) := by
  refine ⟨?_, fun hon => ?_, fun p width height =>
    ⟨toNat_mul_toUInt64 .., toNat_mul_toUInt64 .., p.hasAspectOf_words width height⟩⟩
  · cases hmode : calibratedResolution? depth with
    | none => exact iff_of_true (result_select_of_none hmode) (calibratedResolution?_eq_none.1 hmode)
    | some r =>
        refine iff_of_false (fun hselect => ?_) fun hoff => ?_
        · rw [result_select hmode] at hselect
          split at hselect <;> cases hselect
        · rw [calibratedResolution?_eq_none.2 hoff] at hmode
          cases hmode
  · obtain ⟨r, h⟩ := exists_calibratedResolution hon
    have hr := (calibratedResolution?_eq_some.1 h).2
    exact ⟨r, hr, (DepthMode.fitsInt32 hr).isWords,
      fun s hs => (ColorResolution.fitsInt32 hs).isWords,
      fun e i => result_select_eq_ok_iff_isFirstMatch h, result_select_eq_noMatchingCamera h,
      result_select_append_of_match h, result_select_append_of_no_match h⟩

theorem result_select_first_nearLimit :
    let narrow := ofSizes 0xffffffff 0xfffffffe 1280 720
    let square := ofSizes 0xffffffff 0xffffffff 4294967280 2415919095
    ¬ (DepthMode.wideBinned = .off ∨ DepthMode.wideBinned = .passiveInfrared) ∧
      (∀ e ∈ [narrow], ¬ e.Matches ⟨512, 512⟩ (some ⟨3840, 2160⟩)) ∧
      (∃ e ∈ [narrow, square], e.Matches ⟨512, 512⟩ (some ⟨3840, 2160⟩)) ∧
      (select [narrow, square] .wideBinned .r2160p).result = .ok (square, 1) ∧
      (∀ others, (select ([narrow, square] ++ others) .wideBinned .r2160p).result =
        .ok (square, 1)) ∧
      (select ([narrow] ++ []) .wideBinned .r2160p).result =
        .error (.noMatchingCamera .wideBinned .r2160p) := by
  intro narrow square
  have hnarrow : ¬ narrow.Matches ⟨512, 512⟩ (some ⟨3840, 2160⟩) := by decide
  have hsquare : square.Matches ⟨512, 512⟩ (some ⟨3840, 2160⟩) := by decide
  have hfirst : ∀ e ∈ [narrow], ¬ e.Matches ⟨512, 512⟩ (some ⟨3840, 2160⟩) :=
    List.forall_mem_singleton.2 hnarrow
  have hexists : ∃ e ∈ [narrow, square], e.Matches ⟨512, 512⟩ (some ⟨3840, 2160⟩) :=
    ⟨square, by simp, hsquare⟩
  obtain ⟨-, hon, -⟩ := result_select_first [narrow, square] .wideBinned .r2160p
  obtain ⟨r, ⟨⟩, -, -, hok, -, happend, -⟩ := hon (by decide)
  have hselect : (select [narrow, square] .wideBinned .r2160p).result = .ok (square, 1) := by
    refine (hok square 1).2 ⟨rfl, hsquare, fun j hj b hb => ?_⟩
    obtain rfl : j = 0 := by omega
    cases hb
    exact hnarrow
  obtain ⟨-, hon', -⟩ := result_select_first [narrow] .wideBinned .r2160p
  obtain ⟨r, ⟨⟩, -, -, -, -, -, hshift⟩ := hon' (by decide)
  exact ⟨by decide, hfirst, hexists, hselect, fun others => (happend hexists others).trans hselect,
    hshift hfirst []⟩

/-! ## Ratios -/

def Pinhole.ScalesTo (p q : Pinhole) : Prop :=
  ∃ k > 0, q.width.toNat = k * p.width.toNat ∧ q.height.toNat = k * p.height.toNat

/-- The sizes of both cameras grow, each by a factor of its own; nothing is said of the rest. -/
def Entry.ScalesTo (e f : Entry) : Prop :=
  e.depthPinhole.ScalesTo f.depthPinhole ∧ e.colorPinhole.ScalesTo f.colorPinhole

section

variable {p q : Pinhole} {s : Resolution}

theorem Pinhole.ScalesTo.isSized_iff (h : p.ScalesTo q) : p.IsSized ↔ q.IsSized := by
  obtain ⟨k, hk, hwidth, hheight⟩ := h
  rw [Pinhole.isSized_iff, Pinhole.isSized_iff, hwidth, hheight, Nat.mul_pos_iff_of_pos_left hk,
    Nat.mul_pos_iff_of_pos_left hk]

theorem Pinhole.ScalesTo.isEmpty_iff (h : p.ScalesTo q) : p.IsEmpty ↔ q.IsEmpty := by
  obtain ⟨k, hk, hwidth, hheight⟩ := h
  rw [Pinhole.isEmpty_iff, Pinhole.isEmpty_iff, hwidth, hheight, Nat.mul_eq_zero, Nat.mul_eq_zero,
    or_iff_right hk.ne', or_iff_right hk.ne']

theorem Pinhole.ScalesTo.hasRatio_iff (h : p.ScalesTo q) (hratio : r.ratio = s.ratio) :
    p.HasRatio r ↔ q.HasRatio s := by
  have hquotient : (q.width.toNat : ℚ) / q.height.toNat = p.width.toNat / p.height.toNat := by
    obtain ⟨k, hk, hwidth, hheight⟩ := h
    rw [hwidth, hheight, Nat.cast_mul, Nat.cast_mul]
    exact mul_div_mul_left _ _ (Nat.cast_ne_zero.2 hk.ne')
  unfold Pinhole.HasRatio
  rw [h.isSized_iff, hquotient]
  exact and_congr_right fun _ => by rw [← Resolution.ratio, ← Resolution.ratio, hratio]

theorem Pinhole.ScalesTo.hasAspectOf_eq (h : p.ScalesTo q) (hr : r.HasSides) (hs : s.HasSides)
    (hratio : r.ratio = s.ratio) : p.hasAspectOf r = q.hasAspectOf s := by
  rw [Bool.eq_iff_iff, Pinhole.hasAspectOf_iff hr, Pinhole.hasAspectOf_iff hs,
    h.hasRatio_iff hratio, h.isEmpty_iff]

theorem Entry.ScalesTo.suits_eq {f : Entry} {color' : ColorResolution} (h : e.ScalesTo f)
    (hr : r.HasSides) (hs : s.HasSides) (hratio : r.ratio = s.ratio)
    (hcolor : color.resolution?.map Resolution.ratio = color'.resolution?.map Resolution.ratio) :
    e.suits r color.resolution? = f.suits s color'.resolution? := by
  rw [Entry.suits, Entry.suits, h.1.hasAspectOf_eq hr hs hratio]
  congr 1
  cases hon : color.resolution? with
  | none =>
      rw [hon, Option.map_none, eq_comm, Option.map_eq_none_iff] at hcolor
      rw [hcolor, Option.all_none, Option.all_none]
  | some nominal =>
      rw [hon, Option.map_some, eq_comm, Option.map_eq_some_iff] at hcolor
      obtain ⟨nominal', hon', hratio'⟩ := hcolor
      rw [hon', Option.all_some, Option.all_some]
      exact h.2.hasAspectOf_eq (ColorResolution.hasSides hon) (ColorResolution.hasSides hon')
        hratio'.symm

end

theorem exists_calibratedResolution_of_mem (h : depth ∈ DepthMode.fieldsOfView) :
    ∃ r, calibratedResolution? depth = some r := by
  apply exists_calibratedResolution
  rintro (rfl | rfl)
  · exact absurd h (by decide)
  · exact absurd h (by decide)

theorem index_select_of_scaled {scaled : List Entry} {depth' : DepthMode}
    {color' : ColorResolution} (hsizes : List.Forall₂ Entry.ScalesTo entries scaled)
    (hdepth : depth ∈ DepthMode.fieldsOfView) (hdepth' : depth' ∈ DepthMode.fieldsOfView)
    (hratio : depth.resolution?.map Resolution.ratio = depth'.resolution?.map Resolution.ratio)
    (hcolor : color.resolution?.map Resolution.ratio = color'.resolution?.map Resolution.ratio) :
    ((select entries depth color).result.map Prod.snd).toOption =
      ((select scaled depth' color').result.map Prod.snd).toOption := by
  obtain ⟨r, hr⟩ := exists_calibratedResolution_of_mem hdepth
  obtain ⟨s, hs⟩ := exists_calibratedResolution_of_mem hdepth'
  rw [(calibratedResolution?_eq_some.1 hr).2, (calibratedResolution?_eq_some.1 hs).2,
    Option.map_some, Option.map_some, Option.some.injEq] at hratio
  rw [index_select hr, index_select hs]
  induction hsizes with
  | nil => rfl
  | cons hsize _ ih =>
      rw [List.findIdx?_cons, List.findIdx?_cons, ih,
        hsize.suits_eq (hasSides_of_calibratedResolution? hr)
          (hasSides_of_calibratedResolution? hs) hratio hcolor]

/-- Zero sizes stay zero, and the others grow up to the limit of the words. -/
theorem index_select_of_scaled_nearLimit :
    let entries := [ofSizes 0 9 16 9, ofSizes 10 9 0 0, ofSizes 10 9 16 9]
    let scaled := [ofSizes 0 36 32 18, ofSizes 4294967290 3865470561 0 0,
      ofSizes 20 18 4294967280 2415919095]
    List.Forall₂ Entry.ScalesTo entries scaled ∧
      DepthMode.narrowBinned ∈ DepthMode.fieldsOfView ∧
      DepthMode.narrowUnbinned ∈ DepthMode.fieldsOfView ∧
      DepthMode.narrowBinned.resolution?.map Resolution.ratio =
        DepthMode.narrowUnbinned.resolution?.map Resolution.ratio ∧
      ColorResolution.r720p.resolution?.map Resolution.ratio =
        ColorResolution.r2160p.resolution?.map Resolution.ratio ∧
      ((select scaled .narrowUnbinned .r2160p).result.map Prod.snd).toOption = some 1 := by
  intro entries scaled
  have hsizes : List.Forall₂ Entry.ScalesTo entries scaled :=
    .cons ⟨⟨4, by decide⟩, ⟨2, by decide⟩⟩ <|
      .cons ⟨⟨429496729, by decide⟩, ⟨1, by decide⟩⟩ <|
        .cons ⟨⟨2, by decide⟩, ⟨268435455, by decide⟩⟩ .nil
  have hdepth : DepthMode.narrowBinned.resolution?.map Resolution.ratio =
      DepthMode.narrowUnbinned.resolution?.map Resolution.ratio :=
    congrArg some (by norm_num [Resolution.ratio])
  have hcolor : ColorResolution.r720p.resolution?.map Resolution.ratio =
      ColorResolution.r2160p.resolution?.map Resolution.ratio :=
    congrArg some (by norm_num [Resolution.ratio])
  refine ⟨hsizes, by decide, by decide, hdepth, hcolor, ?_⟩
  rw [← index_select_of_scaled hsizes (by decide) (by decide) hdepth hcolor]
  rfl

end Vendor

end LensCalibration
