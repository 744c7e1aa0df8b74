import LensCalibration.Proofs.Blob.Reload
import LensCalibration.Proofs.Json.Shapes

/-!
# The grammar of blobs

The documents that are accepted as calibrations, written out record by record.  The limit on
parameter counts is part of the grammar, although it is checked after everything has been decoded.
-/

namespace LensCalibration

open Binary Json Document

/-! ## Shapes -/

def Extrinsics.shape : Shape :=
  IsRecord [("rotation", IsArrayOf 9 IsNumber), ("translation", IsArrayOf 3 IsNumber)]

def IntrinsicParameters.keys : List String :=
  ["cx", "cy", "fx", "fy", "k1", "k2", "k3", "k4", "k5", "k6", "codx", "cody", "p2", "p1",
    "metric_radius"]

def IntrinsicParameters.shape : Shape :=
  IsRecord (keys.map fun key => (key, IsNumber))

def Intrinsics.shape : Shape :=
  IsRecord [("type", IsIntegerFrom 0 4), ("parameter_count", IsIntegerFrom 0 15),
    ("parameters", IntrinsicParameters.shape)]

def Camera.shape : Shape :=
  IsRecord [("extrinsics", Extrinsics.shape), ("intrinsics", Intrinsics.shape),
    ("resolution_width", IsIntegerFrom (-2 ^ 31) (2 ^ 31 - 1)),
    ("resolution_height", IsIntegerFrom (-2 ^ 31) (2 ^ 31 - 1)), ("metric_radius", IsNumber)]

def Calibration.shape : Shape :=
  IsRecord [("depth_camera_calibration", Camera.shape),
    ("color_camera_calibration", Camera.shape),
    ("extrinsics", IsArrayOf 4 (IsArrayOf 4 Extrinsics.shape)),
    ("depth_mode", IsIntegerFrom 0 5), ("color_resolution", IsIntegerFrom 0 6)]

/-! ## Records -/

theorem Extrinsics.accepts : Extrinsics.schema.Accepts (fun _ => True) Extrinsics.shape := by
  have hrecord : Extrinsics.schema.Accepts _ Extrinsics.shape :=
    accepts_record _ <| accept_cons (by simp) (accepts_array 9 accepts_single) <|
      accept_cons (by simp) (accepts_array 3 accepts_single) accept_nil
  exact hrecord.congr (by simp)

def singleFields : List String → Fields
  | [] => .nil
  | key :: keys => .cons key .single (singleFields keys)

theorem accept_singleFields (keys : List String) (h : keys.Nodup) :
    (singleFields keys).Accept (fun _ => True) (keys.map fun key => (key, IsNumber)) := by
  induction keys with
  | nil => exact accept_nil
  | cons key keys ih =>
      obtain ⟨hkey, hkeys⟩ := List.nodup_cons.1 h
      have hother : ∀ field ∈ keys.map fun key => (key, IsNumber), field.1 ≠ key := by
        rintro field hfield rfl
        obtain ⟨other, hother, rfl⟩ := List.mem_map.1 hfield
        exact hkey hother
      have hfields := accept_cons hother accepts_single (ih hkeys)
      exact hfields.congr (by simp)

theorem IntrinsicParameters.accepts :
    IntrinsicParameters.schema.Accepts (fun _ => True) IntrinsicParameters.shape :=
  accepts_record _ (accept_singleFields IntrinsicParameters.keys (by decide))

theorem Intrinsics.accepts :
    Intrinsics.schema.Accepts (fun value => UInt32.toNat value.2.1 ≤ 15) Intrinsics.shape := by
  have hrecord : Intrinsics.schema.Accepts _ Intrinsics.shape :=
    accepts_record _ <| accept_cons (by simp) (accepts_code .model) <|
      accept_cons (by simp) (accepts_nat32 (by decide)) <|
      accept_cons (by simp) IntrinsicParameters.accepts accept_nil
  exact hrecord.congr (by simp)

theorem Camera.accepts :
    Camera.schema.Accepts (fun value => UInt32.toNat value.2.1.2.1 ≤ 15) Camera.shape := by
  have hrecord : Camera.schema.Accepts _ Camera.shape :=
    accepts_record _ <| accept_cons (by simp) Extrinsics.accepts <|
      accept_cons (by simp) Intrinsics.accepts <| accept_cons (by simp) accepts_int32 <|
      accept_cons (by simp) accepts_int32 <| accept_cons (by simp) accepts_single accept_nil
  exact hrecord.congr (by simp)

theorem Calibration.accepts :
    Calibration.schema.Accepts (fun value => UInt32.toNat value.1.2.1.2.1 ≤ 15 ∧
      UInt32.toNat value.2.1.2.1.2.1 ≤ 15) Calibration.shape := by
  have hrecord : Calibration.schema.Accepts _ Calibration.shape :=
    accepts_record _ <| accept_cons (by simp) Camera.accepts <|
      accept_cons (by simp) Camera.accepts <|
      accept_cons (by simp) (accepts_array 4 (accepts_array 4 Extrinsics.accepts)) <|
      accept_cons (by simp) (accepts_code .depthMode) <|
      accept_cons (by simp) (accepts_code .colorResolution) accept_nil
  exact hrecord.congr (by simp)

/-! ## Blobs -/

namespace Calibration

/-- Whatever the text of a document looks like, it is the document that decides. -/
theorem exists_ofBlob_iff {d : Document} {text : String} (h : d.IsContentOf text) :
    (∃ c, ofBlob text = .ok c) ↔ shape d := by
  rw [← accepts d]
  simp only [ofBlob_eq_ok_of_isContentOf h, validate_eq_ok]
  constructor
  · rintro ⟨c, hvalue, hdepth, hcolor⟩
    obtain ⟨value, hdocument, rfl⟩ := Option.map_eq_some_iff.1 hvalue
    exact ⟨value, hdocument, hdepth, hcolor⟩
  · rintro ⟨value, hvalue, hdepth, hcolor⟩
    exact ⟨Coded.ofValue value, by rw [hvalue]; rfl, hdepth, hcolor⟩

/-- The sample behind another depth mode, so that there are two of them. -/
def ambiguousSample : Document :=
  match lenientSample with
  | .object members => .object (.cons "depth_mode" (ofInt 1) members)
  | d => d

theorem exists_ofBlob_iff_sample :
    lenientSample.IsContentOf (lenientSample.toString .compact) ∧
      (∃ c, ofBlob (lenientSample.toString .compact) = .ok c) ∧ shape lenientSample ∧
      ambiguousSample.IsContentOf (ambiguousSample.toString .compact) ∧
      ¬ shape ambiguousSample ∧ ¬ ∃ c, ofBlob (ambiguousSample.toString .compact) = .ok c := by
  have haccepted : ∃ c, ofBlob (lenientSample.toString .compact) = .ok c :=
    ⟨sample, ofBlob_lenientSample⟩
  have hcontent : ambiguousSample.IsContentOf (ambiguousSample.toString .compact) :=
    Document.isContentOf_toString .compact (by decide +kernel)
  have hrefused : ¬ shape ambiguousSample := by
    intro h
    obtain ⟨value, hvalue, -⟩ := h ("depth_mode", IsIntegerFrom 0 5) (by simp)
    cases hvalue
  exact ⟨isContentOf_lenientSample, haccepted,
    (exists_ofBlob_iff isContentOf_lenientSample).1 haccepted, hcontent, hrefused,
    fun h => hrefused ((exists_ofBlob_iff hcontent).1 h)⟩

end Calibration

end LensCalibration
