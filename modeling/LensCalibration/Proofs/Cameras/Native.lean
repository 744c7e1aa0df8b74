import LensCalibration.Proofs.Blob.Acceptance
import LensCalibration.Proofs.Blob.Reload
import LensCalibration.Proofs.Cameras.Intrinsics
import LensCalibration.Proofs.Json.Codes

/-!
# Native values in a blob

A camera's intrinsics can come from the native record or from a blob.  Here a blob is given the
values of such a record, whatever they are: it is then accepted where the record is, with the same
intrinsics, and refused for the same reason.
-/

namespace LensCalibration

open Binary Json

/-! ## Documents with another part -/

namespace Json

def Members.replace (key : String) (f : Document → Document) : Members → Members
  | .nil => .nil
  | .cons found value rest =>
      .cons found (if found = key then f value else value) (rest.replace key f)

/-- The document with `value` at the end of a path of keys. -/
def Document.put (value : Document) : List String → Document → Document
  | [], _ => value
  | key :: path, .object members => .object (members.replace key (put value path))
  | _ :: _, document => document

end Json

def CameraRole.key : CameraRole → String
  | depth => "depth_camera_calibration"
  | color => "color_camera_calibration"

variable {c : Calibration} {role : CameraRole} {code : Int32} {count : UInt32}
  {values : Vector Single 15} {text : String}

/-- The intrinsics of a blob with the values of a native record. -/
def rawIntrinsics (code : Int32) (count : UInt32) (values : Vector Single 15) : Document :=
  let parameters := IntrinsicParameters.keys.zip (values.toList.map ofSingle)
  .object <| .ofList [("type", ofInt code.toInt), ("parameter_count", ofInt count.toNat),
    ("parameters", .object (.ofList parameters))]

/-- The document of a calibration with the values of a native record in one of its cameras. -/
def Calibration.rawDocument (c : Calibration) (role : CameraRole) (code : Int32) (count : UInt32)
    (values : Vector Single 15) : Document :=
  .put (rawIntrinsics code count values) [role.key, "intrinsics"] (toDocument c)

/-! ## The document of a loosened value -/

/-- The loosened value of the raw intrinsics, whether or not the code stands for a model. -/
def Intrinsics.rawValue (code : Int32) (count : UInt32) (values : Vector Single 15) :
    Intrinsics.schema.loosened.Value :=
  (code, count, Coded.toValue (IntrinsicParameters.ofVector values), ())

theorem Intrinsics.rawValue_code (model : LensModel) :
    rawValue (Int32.ofNat model.code) count values =
      schema.loosen (Coded.toValue (⟨model, count, .ofVector values⟩ : Intrinsics)) :=
  rfl

theorem Intrinsics.strayCodes_rawValue :
    schema.strayCodes (rawValue code count values) = strayCode .model code.toInt :=
  List.append_nil _

theorem rawIntrinsics_eq :
    rawIntrinsics code count values =
      Intrinsics.schema.loosened.toDocument (Intrinsics.rawValue code count values) := by
  obtain ⟨p, rfl⟩ : ∃ p : IntrinsicParameters, p.toVector = values :=
    ⟨.ofVector values, IntrinsicParameters.toVector_ofVector⟩
  rfl

/-- A loosened camera with other intrinsics. -/
def Camera.putIntrinsics (intrinsics : Intrinsics.schema.loosened.Value) :
    Camera.schema.loosened.Value → Camera.schema.loosened.Value
  | (extrinsics, _, rest) => (extrinsics, intrinsics, rest)

theorem Camera.strayCodes_putIntrinsics {intrinsics : Intrinsics.schema.loosened.Value}
    {v : Camera.schema.loosened.Value} (h : Camera.schema.strayCodes v = []) :
    Camera.schema.strayCodes (putIntrinsics intrinsics v) =
      Intrinsics.schema.strayCodes intrinsics := by
  obtain ⟨extrinsics, found, rest⟩ := v
  exact (Fields.strayCodes_rest h).trans (Fields.strayCodes_first (List.append_eq_nil_iff.1 h).2)

theorem Camera.singles_putIntrinsics {intrinsics intrinsics' : Intrinsics.schema.loosened.Value}
    {v : Camera.schema.loosened.Value}
    (h : Intrinsics.schema.loosened.singles intrinsics =
      Intrinsics.schema.loosened.singles intrinsics') :
    Camera.schema.loosened.singles (putIntrinsics intrinsics v) =
      Camera.schema.loosened.singles (putIntrinsics intrinsics' v) := by
  obtain ⟨extrinsics, found, rest⟩ := v
  exact congrArg (_ ++ ·) (congrArg (· ++ _) h)

namespace Calibration

def putIntrinsics (role : CameraRole) (intrinsics : Intrinsics.schema.loosened.Value)
    (v : schema.loosened.Value) : schema.loosened.Value :=
  match role, v with
  | .depth, (depth, rest) => (Camera.putIntrinsics intrinsics depth, rest)
  | .color, (depth, color, rest) => (depth, Camera.putIntrinsics intrinsics color, rest)

variable {intrinsics : Intrinsics.schema.loosened.Value} {v : schema.loosened.Value}

theorem put_toDocument :
    .put (Intrinsics.schema.loosened.toDocument intrinsics) [role.key, "intrinsics"]
        (schema.loosened.toDocument v) =
      schema.loosened.toDocument (putIntrinsics role intrinsics v) := by
  cases role with
  | depth => rfl
  | color => rfl

theorem strayCodes_putIntrinsics (h : schema.strayCodes v = []) :
    schema.strayCodes (putIntrinsics role intrinsics v) =
      Intrinsics.schema.strayCodes intrinsics := by
  obtain ⟨depth, color, rest⟩ := v
  obtain ⟨hdepth, hrest⟩ := List.append_eq_nil_iff.1 h
  cases role with
  | depth => exact (Fields.strayCodes_first h).trans (Camera.strayCodes_putIntrinsics hdepth)
  | color =>
      have hcolor := (List.append_eq_nil_iff.1 hrest).1
      exact (Fields.strayCodes_rest h).trans
        ((Fields.strayCodes_first hrest).trans (Camera.strayCodes_putIntrinsics hcolor))

/-- Other intrinsics of the calibration are other intrinsics of the loosened one. -/
theorem loosen_change (i : Intrinsics) :
    schema.loosen (Coded.toValue (c.change role fun camera => { camera with intrinsics := i })) =
      putIntrinsics role (Intrinsics.schema.loosen (Coded.toValue i))
        (schema.loosen (Coded.toValue c)) := by
  cases role with
  | depth => rfl
  | color => rfl

theorem singles_putIntrinsics {intrinsics' : Intrinsics.schema.loosened.Value}
    (h : Intrinsics.schema.loosened.singles intrinsics =
      Intrinsics.schema.loosened.singles intrinsics') :
    schema.loosened.singles (putIntrinsics role intrinsics v) =
      schema.loosened.singles (putIntrinsics role intrinsics' v) := by
  obtain ⟨depth, color, rest⟩ := v
  cases role with
  | depth => exact congrArg (· ++ _) (Camera.singles_putIntrinsics h)
  | color => exact congrArg (_ ++ ·) (congrArg (· ++ _) (Camera.singles_putIntrinsics h))

def rawValue (c : Calibration) (role : CameraRole) (code : Int32) (count : UInt32)
    (values : Vector Single 15) : schema.loosened.Value :=
  putIntrinsics role (Intrinsics.rawValue code count values) (schema.loosen (Coded.toValue c))

theorem rawDocument_eq :
    c.rawDocument role code count values =
      schema.loosened.toDocument (c.rawValue role code count values) := by
  have hdocument : toDocument c = schema.loosened.toDocument (schema.loosen (Coded.toValue c)) :=
    (schema.toDocument_loosen _).symm
  rw [rawDocument, rawIntrinsics_eq, hdocument]
  exact put_toDocument

theorem rawValue_code (model : LensModel) :
    c.rawValue role (Int32.ofNat model.code) count values =
      schema.loosen (Coded.toValue (c.change role fun camera =>
        { camera with intrinsics := ⟨model, count, .ofVector values⟩ })) := by
  rw [rawValue, Intrinsics.rawValue_code, loosen_change]

theorem singles_rawValue :
    schema.loosened.singles (c.rawValue role code count values) =
      (c.change role fun camera =>
        { camera with intrinsics.parameters := .ofVector values }).singles := by
  have hcode : schema.loosened.singles (c.rawValue role code count values) =
      schema.loosened.singles (c.rawValue role (Int32.ofNat LensModel.unknown.code) count values) :=
    singles_putIntrinsics rfl
  rw [hcode, rawValue_code, Schema.singles_loosen, schema_singles]
  cases role with
  | depth => rfl
  | color => rfl

theorem strayCodes_rawValue :
    schema.strayCodes (c.rawValue role code count values) = strayCode .model code.toInt := by
  rw [rawValue, strayCodes_putIntrinsics (schema.strayCodes_loosen _),
    Intrinsics.strayCodes_rawValue]

/-! ## Texts of such a document -/

section

variable (htext : (c.rawDocument role code count values).IsContentOf text)
  (hread : ∀ x ∈ (c.change role fun camera =>
    { camera with intrinsics.parameters := .ofVector values }).singles, ReadsBack x)

include htext hread

theorem decode_loosened :
    schema.loosened.decode text = .ok (c.rawValue role code count values) := by
  rw [rawDocument_eq] at htext
  rw [← singles_rawValue] at hread
  exact Schema.decode_toDocument _ (by decide) htext hread

theorem decode_rawDocument {model : LensModel} (hcode : code = Int32.ofNat model.code) :
    decode Calibration text =
      .ok (c.change role fun camera =>
        { camera with intrinsics := ⟨model, count, .ofVector values⟩ }) := by
  let d := c.change role fun camera =>
    { camera with intrinsics := ⟨model, count, .ofVector values⟩ }
  have hdocument : c.rawDocument role code count values = schema.toDocument (Coded.toValue d) := by
    rw [rawDocument_eq, hcode, rawValue_code, Schema.toDocument_loosen]
  have hsingles : schema.singles (Coded.toValue d) = (c.change role fun camera =>
      { camera with intrinsics.parameters := .ofVector values }).singles := by
    rw [schema_singles]
    cases role with
    | depth => rfl
    | color => rfl
  rw [hdocument] at htext
  rw [← hsingles] at hread
  have hdecode : (Coded.schema Calibration).decode text = .ok (Coded.toValue d) :=
    schema.decode_toDocument (by decide) htext hread
  rw [decode, hdecode]
  exact congrArg Except.ok (Coded.ofValue_toValue d)

theorem decode_rawDocument_of_stray (hcode : Vocabulary.model.ofCode? code.toInt = none) :
    ∃ e, decode Calibration text = .error e ∧ e.cause = .unrecognizedCode .model code.toInt := by
  have hstray : schema.strayCodes (c.rawValue role code count values) =
      [.unrecognizedCode .model code.toInt] := by
    rw [strayCodes_rawValue, strayCode, hcode]
  rcases schema.decode_loosened (decode_loosened htext hread) with ⟨hfree, -⟩ | ⟨e, he, hcause⟩
  · rw [hstray] at hfree
    cases hfree
  · rw [hstray] at hcause
    have hdecode : (Coded.schema Calibration).decode text = .error e := he
    refine ⟨e, ?_, List.mem_singleton.1 hcause⟩
    rw [decode, hdecode]
    rfl

end

end Calibration

/-! ## Messages -/

theorem CalibrationError.message_json (e : Json.Error) :
    (json e).message = "Failed to (de)serialize the calibration. " ++ e.message :=
  rfl

theorem Json.Cause.message_unrecognizedCode (vocabulary : Vocabulary) (n : Int) :
    (unrecognizedCode vocabulary n).message = vocabulary.unrecognizedMessage n :=
  rfl

theorem Json.Error.exists_message (e : Json.Error) :
    ∃ after, e.message = e.cause.message ++ after := by
  unfold Json.Error.message
  split
  · next p _ =>
      refine ⟨" at line " ++ (toString p.line ++ (" column " ++ toString p.column)), ?_⟩
      simp only [String.append_assoc]
      rfl
  · refine ⟨"", ?_⟩
    rw [String.append_empty]

theorem unrecognizedMessage_model (n : Int) :
    Vocabulary.model.unrecognizedMessage n = s!"Unrecognized calibration model code: {n}" := by
  have hnoun : "Unrecognized " ++ "calibration model" ++ " code: " =
      "Unrecognized calibration model code: " := by
    decide
  exact congrArg (· ++ toString n) hnoun

theorem exists_message_json {e : Json.Error} {n : Int} (h : e.cause = .unrecognizedCode .model n) :
    ∃ before after, (CalibrationError.json e).message =
      before ++ s!"Unrecognized calibration model code: {n}" ++ after := by
  obtain ⟨after, hafter⟩ := e.exists_message
  refine ⟨"Failed to (de)serialize the calibration. ", after, ?_⟩
  rw [CalibrationError.message_json, hafter, h, Cause.message_unrecognizedCode,
    unrecognizedMessage_model]
  simp only [String.append_assoc]

/-! ## Blobs -/

theorem eq_ofNat_code {model : LensModel} (h : Vocabulary.model.ofCode? code.toInt = some model) :
    code = Int32.ofNat model.code := by
  apply Int32.toInt_inj.1
  rw [← Vocabulary.ofCode?_eq_some.1 h]
  exact (toInt_code .model model).symm

namespace Calibration

/-- The other camera is checked too, but has nothing against it. -/
theorem validate_change_eq {i : Intrinsics}
    (hcounts : ∀ other ≠ role, (c.camera other).intrinsics.parameterCount.toNat ≤ 15) :
    (c.change role fun camera => { camera with intrinsics := i }).validate = i.validate := by
  have hother (other : CameraRole) (h : other ≠ role) :
      (c.camera other).intrinsics.validate = .ok () :=
    Intrinsics.validate_eq_ok.2 (hcounts other h)
  cases role with
  | depth =>
      have hcolor : c.colorCamera.intrinsics.validate = .ok () := hother .color (by decide)
      change (i.validate.bind fun _ => c.colorCamera.intrinsics.validate) = _
      rw [hcolor]
      cases i.validate <;> rfl
  | color =>
      have hdepth : c.depthCamera.intrinsics.validate = .ok () := hother .depth (by decide)
      change (c.depthCamera.intrinsics.validate.bind fun _ => i.validate) = _
      rw [hdepth]
      rfl

section

variable (htext : (c.rawDocument role code count values).IsContentOf text)
  (hread : ∀ x ∈ (c.change role fun camera =>
    { camera with intrinsics.parameters := .ofVector values }).singles, ReadsBack x)

include htext hread

theorem ofBlob_rawDocument_of_stray (hcode : Vocabulary.model.ofCode? code.toInt = none) :
    ∃ e, ofBlob text = .error (.json e) ∧ e.cause = .unrecognizedCode .model code.toInt := by
  obtain ⟨e, he, hcause⟩ := decode_rawDocument_of_stray htext hread hcode
  refine ⟨e, ?_, hcause⟩
  rw [ofBlob, he]
  rfl

theorem ofBlob_rawDocument_of_code {model : LensModel}
    (hcode : Vocabulary.model.ofCode? code.toInt = some model)
    (hcounts : ∀ other ≠ role, (c.camera other).intrinsics.parameterCount.toNat ≤ 15) :
    ofBlob text = (Intrinsics.ofRaw code.toInt count values.toList).map fun i =>
      c.change role fun camera => { camera with intrinsics := i } := by
  have hdecode := decode_rawDocument htext hread (eq_ofNat_code hcode)
  rw [ofBlob_of_decode (by rw [hdecode]; rfl), validate_change_eq hcounts,
    Intrinsics.ofRaw_toList hcode]
  cases Intrinsics.validate ⟨model, count, .ofVector values⟩ <;> rfl

end

/-- What a native record gives and what a blob with its values gives are the same. -/
theorem ofBlob_rawDocument
    (htext : (c.rawDocument role code count values).IsContentOf text)
    (hcounts : ∀ other ≠ role, (c.camera other).intrinsics.parameterCount.toNat ≤ 15)
    (hfinite : ∀ x ∈ (c.change role fun camera =>
      { camera with intrinsics.parameters := .ofVector values }).singles, x.isFinite)
    (hread : ∀ x ∈ (c.change role fun camera =>
      { camera with intrinsics.parameters := .ofVector values }).singles,
      x.isFinite → ReadsBack x) :
    let raw := Intrinsics.ofRaw code.toInt count values.toList
    ((∃ d, ofBlob text = .ok d) ↔ ∃ i, raw = .ok i) ∧
      (∀ d, ofBlob text = .ok d → raw = .ok (d.camera role).intrinsics) ∧
      (raw = .error (.unrecognizedCode .model code.toInt) →
        ∃ e before after, ofBlob text = .error (.json e) ∧
          (CalibrationError.json e).message =
            before ++ s!"Unrecognized calibration model code: {code.toInt}" ++ after) ∧
      (raw = .error (.invalidParameterCount count) →
        ofBlob text = .error (.invalidParameterCount count)) := by
  have hback : ∀ x ∈ _, ReadsBack x := fun x hx => hread x hx (hfinite x hx)
  dsimp only
  cases hcode : Vocabulary.model.ofCode? code.toInt with
  | none =>
      obtain ⟨e, he, hcause⟩ := ofBlob_rawDocument_of_stray htext hback hcode
      obtain ⟨before, after, hmessage⟩ := exists_message_json hcause
      rw [Intrinsics.ofRaw_of_stray hcode, he]
      refine ⟨⟨?_, ?_⟩, ?_, fun _ => ⟨e, before, after, rfl, hmessage⟩, ?_⟩
      · rintro ⟨d, ⟨⟩⟩
      · rintro ⟨i, ⟨⟩⟩
      · rintro d ⟨⟩
      · rintro ⟨⟩
  | some model =>
      have hblob := ofBlob_rawDocument_of_code htext hback hcode hcounts
      have hknown := Intrinsics.ofRaw_toList_ne_unrecognizedCode hcode count values
      cases hraw : Intrinsics.ofRaw code.toInt count values.toList with
      | ok i =>
          rw [hraw] at hblob
          rw [hblob]
          refine ⟨⟨fun _ => ⟨i, rfl⟩, fun _ => ⟨_, rfl⟩⟩, ?_, ?_, ?_⟩
          · rintro d ⟨⟩
            rw [camera_change]
          · rintro ⟨⟩
          · rintro ⟨⟩
      | error error =>
          rw [hraw] at hblob hknown
          rw [hblob]
          refine ⟨⟨?_, ?_⟩, ?_, fun h => absurd h hknown, ?_⟩
          · rintro ⟨d, ⟨⟩⟩
          · rintro ⟨i, ⟨⟩⟩
          · rintro d ⟨⟩
          · rintro ⟨⟩
            rfl

theorem isContentOf_rawDocument (c : Calibration) (role : CameraRole) (code : Int32)
    (count : UInt32) (values : Vector Single 15) :
    (c.rawDocument role code count values).IsContentOf
      ((c.rawDocument role code count values).toString .compact) := by
  have hgrammatical : (c.rawDocument role code count values).IsGrammatical := by
    rw [rawDocument_eq]
    exact Schema.isGrammatical_toDocument _ _
  exact Document.isContentOf_toString .compact hgrammatical

/-- Seven of the values are valid; sixteen cannot be, and no model has the code `-1`. -/
theorem ofBlob_rawDocument_sample :
    let values : Vector Single 15 := Vector.ofFn fun i => ⟨UInt32.ofNat (0x40490fdb + i)⟩
    let text (code : Int32) (count : UInt32) : String :=
      (sample.rawDocument .color code count values).toString .compact
    (∀ code count, (sample.rawDocument .color code count values).IsContentOf (text code count)) ∧
      (∀ other ≠ CameraRole.color, (sample.camera other).intrinsics.parameterCount.toNat ≤ 15) ∧
      (∀ x ∈ (sample.change .color fun camera =>
        { camera with intrinsics.parameters := .ofVector values }).singles, x.isFinite) ∧
      (∀ x ∈ (sample.change .color fun camera =>
        { camera with intrinsics.parameters := .ofVector values }).singles,
        x.isFinite → ReadsBack x) ∧
      (∃ d, ofBlob (text 2 7) = .ok d ∧
        (d.camera .color).intrinsics = ⟨.polynomial3K, 7, .ofVector values⟩) ∧
      ofBlob (text 2 16) = .error (.invalidParameterCount 16) ∧
      ∃ e before after, ofBlob (text (-1) 99) = .error (.json e) ∧
        (CalibrationError.json e).message =
          before ++ "Unrecognized calibration model code: -1" ++ after := by
  intro values text
  have htext (code : Int32) (count : UInt32) :
      (sample.rawDocument .color code count values).IsContentOf (text code count) :=
    isContentOf_rawDocument sample .color code count values
  have hcounts : ∀ other ≠ CameraRole.color,
      (sample.camera other).intrinsics.parameterCount.toNat ≤ 15 := by
    rintro (_ | _) hother
    · decide
    · exact absurd rfl hother
  have hfinite : ∀ x ∈ (sample.change .color fun camera =>
      { camera with intrinsics.parameters := .ofVector values }).singles, x.isFinite := by
    decide +kernel
  have hread : ∀ x ∈ (sample.change .color fun camera =>
      { camera with intrinsics.parameters := .ofVector values }).singles,
      x.isFinite → ReadsBack x := by
    decide +kernel
  have hcode : Vocabulary.model.ofCode? (2 : Int32).toInt = some .polynomial3K := by decide
  have hvalid : Intrinsics.ofRaw (2 : Int32).toInt 7 values.toList =
      .ok ⟨.polynomial3K, 7, .ofVector values⟩ := by
    rw [Intrinsics.ofRaw_toList hcode]
    rfl
  have hinvalid : Intrinsics.ofRaw (2 : Int32).toInt 16 values.toList =
      .error (.invalidParameterCount 16) := by
    rw [Intrinsics.ofRaw_toList hcode]
    rfl
  have hstray : Intrinsics.ofRaw (-1 : Int32).toInt 99 values.toList =
      .error (.unrecognizedCode .model (-1 : Int32).toInt) :=
    Intrinsics.ofRaw_of_stray (by decide) 99 values.toList
  obtain ⟨haccepted, hsame, -, -⟩ := ofBlob_rawDocument (htext 2 7) hcounts hfinite hread
  obtain ⟨d, hd⟩ := haccepted.2 ⟨_, hvalid⟩
  have hintrinsics : (d.camera .color).intrinsics = ⟨.polynomial3K, 7, .ofVector values⟩ :=
    Except.ok.inj ((hsame d hd).symm.trans hvalid)
  exact ⟨htext, hcounts, hfinite, hread, ⟨d, hd, hintrinsics⟩,
    (ofBlob_rawDocument (htext 2 16) hcounts hfinite hread).2.2.2 hinvalid,
    (ofBlob_rawDocument (htext (-1) 99) hcounts hfinite hread).2.2.1 hstray⟩

end Calibration

end LensCalibration
