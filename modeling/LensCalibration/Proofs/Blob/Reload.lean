import LensCalibration.Proofs.Blob.Decoding
import LensCalibration.Proofs.Json.Exchange

/-!
# Loading a saved calibration

A blob has a text for every calibration, but not every calibration survives it: a single that is
not finite has no numeral, and the parameter counts are checked only on the way in.  Everything
else comes back as it was.
-/

namespace LensCalibration

open Binary Json Decimal

/-! ## The singles of a calibration -/

def Extrinsics.singles (e : Extrinsics) : List Single :=
  e.rotation.toList ++ e.translation.toList

def Camera.singles (c : Camera) : List Single :=
  c.extrinsics.singles ++ c.intrinsics.parameters.toVector.toList ++ [c.metricRadius]

def Calibration.singles (c : Calibration) : List Single :=
  c.depthCamera.singles ++ c.colorCamera.singles ++
    c.table.toList.flatMap fun row => row.toList.flatMap Extrinsics.singles

theorem Extrinsics.length_singles (e : Extrinsics) : e.singles.length = 12 := by
  simp [singles]

theorem Camera.length_singles (c : Camera) : c.singles.length = 28 := by
  simp [singles, Extrinsics.length_singles]

theorem Calibration.length_singles (c : Calibration) : c.singles.length = 248 := by
  simp [singles, Camera.length_singles, List.length_flatMap, Extrinsics.length_singles,
    List.map_const']

theorem Extrinsics.schema_singles (e : Extrinsics) :
    Extrinsics.schema.singles (Coded.toValue e) = e.singles := by
  have hsingle (xs : List Single) : xs.flatMap Schema.single.singles = xs :=
    List.flatMap_singleton' xs
  change e.rotation.toList.flatMap Schema.single.singles ++
    (e.translation.toList.flatMap Schema.single.singles ++ []) = _
  rw [hsingle, hsingle, List.append_nil]
  rfl

theorem Camera.schema_singles (c : Camera) :
    Camera.schema.singles (Coded.toValue c) = c.singles := by
  change Extrinsics.schema.singles (Coded.toValue c.extrinsics) ++
    (c.intrinsics.parameters.toVector.toList ++ [] ++ [c.metricRadius]) = _
  rw [Extrinsics.schema_singles, Camera.singles, List.append_nil, List.append_assoc]

theorem Calibration.schema_singles (c : Calibration) :
    Calibration.schema.singles (Coded.toValue c) = c.singles := by
  have hrow (row : Vector Extrinsics 4) :
      (Schema.array 4 Extrinsics.schema).singles (Coded.toValue row) =
        row.toList.flatMap Extrinsics.singles := by
    change (Vector.map Coded.toValue row).toList.flatMap Extrinsics.schema.singles = _
    rw [Vector.toList_map, List.flatMap_map]
    exact congrArg (List.flatMap · row.toList) (funext Extrinsics.schema_singles)
  have htable : (Schema.array 4 (.array 4 Extrinsics.schema)).singles (Coded.toValue c.table) =
      c.table.toList.flatMap fun row => row.toList.flatMap Extrinsics.singles := by
    change (Vector.map Coded.toValue c.table).toList.flatMap
      (Schema.array 4 Extrinsics.schema).singles = _
    rw [Vector.toList_map, List.flatMap_map]
    exact congrArg (List.flatMap · c.table.toList) (funext hrow)
  change Camera.schema.singles (Coded.toValue c.depthCamera) ++
    (Camera.schema.singles (Coded.toValue c.colorCamera) ++
      ((Schema.array 4 (.array 4 Extrinsics.schema)).singles (Coded.toValue c.table) ++ [])) = _
  rw [Camera.schema_singles, Camera.schema_singles, htable, List.append_nil, singles,
    List.append_assoc]

namespace Calibration

/-! ## What is read back -/

theorem decode_toBlob (c : Calibration) :
    (decode Calibration c.toBlob).toOption =
      (schema.exchange reread? (Coded.toValue c)).map Coded.ofValue :=
  toOption_decode_encode (by decide) .pretty c

theorem decode_toBlob_eq_none {c : Calibration} {x : Single} (hx : x ∈ c.singles)
    (h : x.isFinite = false) : (decode Calibration c.toBlob).toOption = none := by
  rw [← schema_singles] at hx
  exact decode_encode_eq_none (by decide) .pretty hx h

/-- Only singles can change on the way. -/
theorem exists_decode_toBlob {c : Calibration} (h : ∀ x ∈ c.singles, x.isFinite) :
    ∃ c', (decode Calibration c.toBlob).toOption = some c' ∧ c'.depthCount = c.depthCount ∧
      c'.colorCount = c.colorCount := by
  have hreread : ∀ x ∈ schema.singles (Coded.toValue c),
      reread? x = some ((reread? x).getD x) := by
    intro x hx
    rw [schema_singles] at hx
    obtain ⟨y, hy⟩ := exists_reread? (h x hx)
    rw [hy]
    rfl
  refine ⟨Coded.ofValue (schema.mapSingles (fun x => (reread? x).getD x) (Coded.toValue c)),
    ?_, rfl, rfl⟩
  rw [decode_toBlob, schema.exchange_eq_mapSingles _ hreread]
  rfl

theorem decode_toBlob_eq_self {c : Calibration} (h : ∀ x ∈ c.singles, ReadsBack x) :
    (decode Calibration c.toBlob).toOption = some c := by
  rw [← schema_singles] at h
  exact decode_encode_eq_self (by decide) .pretty h

/-! ## Blobs -/

theorem ofBlob_toBlob {c : Calibration} (hfinite : ∀ x ∈ c.singles, x.isFinite)
    (hdepth : c.depthCount.toNat ≤ 15) (hcolor : c.colorCount.toNat ≤ 15)
    (hread : ∀ x ∈ c.singles, x.isFinite → ReadsBack x) : ofBlob c.toBlob = .ok c := by
  apply ofBlob_eq_ok.2
  constructor
  · exact decode_toBlob_eq_self fun x hx => hread x hx (hfinite x hx)
  · exact validate_eq_ok.2 ⟨hdepth, hcolor⟩

/-- A calibration with another single in every place, one of them a negative zero. -/
def sample : Calibration :=
  let single (n : Nat) : Single := ⟨UInt32.ofNat (0x3dcccccd + n)⟩
  let extrinsics (n : Nat) : Extrinsics :=
    ⟨Vector.ofFn fun i => single (n + i), Vector.ofFn fun i => single (n + 9 + i)⟩
  let parameters (n : Nat) : IntrinsicParameters :=
    .ofVector (Vector.ofFn fun i => single (n + 12 + i))
  { depthCamera := ⟨extrinsics 0, ⟨.theta, 15, parameters 0⟩, -2147483648, 0, ⟨0x80000000⟩⟩
    colorCamera := ⟨extrinsics 28, ⟨.brownConrady, 14, parameters 28⟩, 2147483647, -1, single 55⟩
    table := Vector.ofFn fun source => Vector.ofFn fun target =>
      extrinsics (56 + 12 * (4 * source + target))
    depthMode := .wideBinned
    colorResolution := .off }

theorem isFinite_sample : ∀ x ∈ sample.singles, x.isFinite := by
  decide +kernel

theorem readsBack_sample : ∀ x ∈ sample.singles, x.isFinite → ReadsBack x := by
  decide +kernel

theorem decode_toBlob_sample : (decode Calibration sample.toBlob).toOption = some sample :=
  decode_toBlob_eq_self fun x hx => readsBack_sample x hx (isFinite_sample x hx)

theorem ofBlob_toBlob_sample :
    (∀ x ∈ sample.singles, x.isFinite) ∧ sample.depthCount.toNat ≤ 15 ∧
      sample.colorCount.toNat ≤ 15 ∧ (∀ x ∈ sample.singles, x.isFinite → ReadsBack x) ∧
      ofBlob sample.toBlob = .ok sample :=
  ⟨isFinite_sample, by decide, by decide, readsBack_sample,
    ofBlob_toBlob isFinite_sample (by decide) (by decide) readsBack_sample⟩

/-- The sample with its members reversed, one more in front, and a camera without keys. -/
def lenientSample : Document :=
  let depth := sample.depthCamera
  let zero : Numeral := ⟨true, [.zero], [], some ⟨true, digitsOf 7⟩⟩
  .object (.ofList
    [("unit", .string "mm"), ("color_resolution", toDocument sample.colorResolution),
      ("depth_mode", toDocument sample.depthMode), ("extrinsics", toDocument sample.table),
      ("color_camera_calibration", toDocument sample.colorCamera),
      ("depth_camera_calibration", .array (.ofList
        [toDocument depth.extrinsics, toDocument depth.intrinsics, ofInt (-2147483648), ofInt 0,
          .number zero]))])

theorem isContentOf_lenientSample :
    lenientSample.IsContentOf (lenientSample.toString .compact) :=
  Document.isContentOf_toString .compact (by decide +kernel)

theorem ofBlob_lenientSample : ofBlob (lenientSample.toString .compact) = .ok sample := by
  have hvalue : (schema.ofDocument? lenientSample).map Coded.ofValue = some sample := by
    decide +kernel
  exact (ofBlob_eq_ok_of_isContentOf isContentOf_lenientSample).2 ⟨hvalue, rfl⟩

/-- A calibration that was read can be read again unless a single of it became infinite. -/
theorem ofBlob_toBlob_of_ofBlob {text : String} {c : Calibration} (h : ofBlob text = .ok c)
    (hread : ∀ x ∈ c.singles, x.isFinite → ReadsBack x) :
    (∀ x ∈ c.singles, x.isFinite) ∧ ofBlob c.toBlob = .ok c ∨
      (∃ x ∈ c.singles, x.isFinite = false) ∧ ∃ e, ofBlob c.toBlob = .error (.json e) := by
  obtain ⟨-, hvalid⟩ := ofBlob_eq_ok.1 h
  by_cases hexists : ∃ x ∈ c.singles, x.isFinite = false
  · obtain ⟨x, hx, hinfinite⟩ := hexists
    exact .inr ⟨⟨x, hx, hinfinite⟩, ofBlob_of_not_decode (decode_toBlob_eq_none hx hinfinite)⟩
  · have hfinite : ∀ x ∈ c.singles, x.isFinite := by
      simpa only [not_exists, not_and, Bool.not_eq_false] using hexists
    have hdecode := decode_toBlob_eq_self fun x hx => hread x hx (hfinite x hx)
    exact .inl ⟨hfinite, ofBlob_eq_ok.2 ⟨hdecode, hvalid⟩⟩

theorem ofBlob_toBlob_lenientSample :
    ofBlob (lenientSample.toString .compact) = .ok sample ∧
      (∀ x ∈ sample.singles, x.isFinite → ReadsBack x) ∧ (∀ x ∈ sample.singles, x.isFinite) ∧
      ofBlob sample.toBlob = .ok sample := by
  rcases ofBlob_toBlob_of_ofBlob ofBlob_lenientSample readsBack_sample with
    ⟨hfinite, hreload⟩ | ⟨⟨x, hx, hinfinite⟩, -⟩
  · exact ⟨ofBlob_lenientSample, readsBack_sample, hfinite, hreload⟩
  · rw [isFinite_sample x hx] at hinfinite
    cases hinfinite

/-! ## A text with a number beyond the singles -/

def zeros (n : Nat) : Document :=
  .array (.ofList (List.replicate n (ofInt 0)))

def zeroCamera (radius : Document) : Document :=
  .array (.ofList [.array (.ofList [zeros 9, zeros 3]),
    .array (.ofList [ofInt 0, ofInt 0, zeros 15]), ofInt 0, ofInt 0, radius])

/-- A blob without keys, in which only the metric radius of the depth camera is not zero. -/
def zeroDocument (radius : Document) : Document :=
  let row := .array (.ofList (List.replicate 4 (.array (.ofList [zeros 9, zeros 3]))))
  .array (.ofList [zeroCamera radius, zeroCamera (ofInt 0),
    .array (.ofList (List.replicate 4 row)), ofInt 0, ofInt 0])

/-- The numeral `1e+39`, which is beyond the largest single. -/
def beyondSingles : Document :=
  .number ⟨false, digitsOf 1, [], some ⟨false, digitsOf 39⟩⟩

def overflowed : Calibration :=
  let c : Calibration := default
  { c with depthCamera := { c.depthCamera with metricRadius := .infinity false } }

/-- The text is accepted, but what is saved after that is not. -/
theorem not_ofBlob_toBlob_overflowed :
    ofBlob ((zeroDocument beyondSingles).toString .compact) = .ok overflowed ∧
      (∀ x ∈ overflowed.singles, x.isFinite → ReadsBack x) ∧
      ∀ c, ofBlob overflowed.toBlob ≠ .ok c := by
  have hcontent : (zeroDocument beyondSingles).IsContentOf
      ((zeroDocument beyondSingles).toString .compact) :=
    Document.isContentOf_toString .compact (by decide +kernel)
  have hvalue : (schema.ofDocument? (zeroDocument beyondSingles)).map Coded.ofValue =
      some overflowed := by
    decide +kernel
  have hblob := (ofBlob_eq_ok_of_isContentOf hcontent).2 ⟨hvalue, rfl⟩
  refine ⟨hblob, by decide +kernel, fun c hc => ?_⟩
  have hmem : Single.infinity false ∈ overflowed.singles := by decide +kernel
  obtain ⟨e, he⟩ := ofBlob_of_not_decode (decode_toBlob_eq_none hmem rfl)
  rw [he] at hc
  cases hc

/-! ## Every calibration -/

/-- The failures in the order in which they are looked for. -/
theorem ofBlob_toBlob_cases (c : Calibration) :
    (toDocument c).IsContentOf c.toBlob ∧
      if ∃ x ∈ c.singles, x.isFinite = false then ∃ e, ofBlob c.toBlob = .error (.json e)
      else if 15 < c.depthCount.toNat then
        ofBlob c.toBlob = .error (.invalidParameterCount c.depthCount)
      else if 15 < c.colorCount.toNat then
        ofBlob c.toBlob = .error (.invalidParameterCount c.colorCount)
      else ∃ c', ofBlob c.toBlob = .ok c' := by
  refine ⟨isContentOf_encode .pretty c, ?_⟩
  split
  · next hexists =>
      obtain ⟨x, hx, hinfinite⟩ := hexists
      exact ofBlob_of_not_decode (decode_toBlob_eq_none hx hinfinite)
  · next hfinite =>
      simp only [not_exists, not_and, Bool.not_eq_false] at hfinite
      obtain ⟨c', hdecode, hdepth, hcolor⟩ := exists_decode_toBlob hfinite
      rw [ofBlob_of_decode hdecode, validate_eq, hdepth, hcolor]
      split
      · rfl
      · split
        · rfl
        · exact ⟨c', rfl⟩

end Calibration

end LensCalibration
