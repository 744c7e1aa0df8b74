import LensCalibration.Error
import LensCalibration.Proofs.Text.LetterCase
import Mathlib.Data.List.Find

/-!
# Texts as names

A model has a short name, in which the case of ASCII letters does not count, and a native name, in
which it does.  No two of these names are the same up to case, so a text names one model at most and
it does not matter in which order the models are tried.
-/

namespace LensCalibration.LensModel

open Text

variable {model other : LensModel} {text : String}

/-- The text is the short name in some case, or the native name as it stands. -/
def IsNamed (model : LensModel) (text : String) : Prop :=
  SameUpToCase text model.name ∨ text = model.nativeName

instance (model : LensModel) (text : String) : Decidable (model.IsNamed text) :=
  inferInstanceAs (Decidable (_ ∨ _))

theorem isNamedBy_iff : model.isNamedBy text = true ↔ model.IsNamed text := by
  rw [isNamedBy, Bool.or_eq_true, sameLetters, decide_eq_true_iff, decide_eq_true_iff, IsNamed,
    sameUpToCase_iff, eq_comm, eq_comm (a := text)]

/-! ## Names are distinct -/

theorem mem_all (model : LensModel) : model ∈ all := by
  cases model <;> decide

theorem eq_of_name (h : SameUpToCase model.name other.name) : model = other := by
  have hall : ∀ model ∈ all, ∀ other ∈ all,
      SameUpToCase model.name other.name → model = other := by decide
  exact hall model model.mem_all other other.mem_all h

/-- What stands before the short name in a native one, in small letters. -/
def nativePrefix : String := "k4a_calibration_lens_distortion_model_"

theorem sameUpToCase_nativeName (model : LensModel) :
    SameUpToCase model.nativeName (nativePrefix ++ model.name) := by
  rw [sameUpToCase_iff, String.toList_append]
  cases model <;> decide

theorem eq_of_nativeName (h : SameUpToCase model.nativeName other.nativeName) :
    model = other := by
  have hlong : SameUpToCase (nativePrefix ++ model.name) (nativePrefix ++ other.name) :=
    model.sameUpToCase_nativeName.symm.trans (h.trans other.sameUpToCase_nativeName)
  exact eq_of_name (sameUpToCase_append_left.1 hlong)

/-- The prefix alone is longer than any short name. -/
theorem not_sameUpToCase_nativeName (model other : LensModel) :
    ¬ SameUpToCase model.nativeName other.name := by
  intro h
  have hlength := (model.sameUpToCase_nativeName.symm.trans h).length_eq
  have hshort : other.name.toList.length ≤ 13 := by cases other <;> decide
  have hstem : nativePrefix.toList.length = 38 := by decide
  rw [String.toList_append, List.length_append] at hlength
  omega

theorem IsNamed.eq (h : model.IsNamed text) (h' : other.IsNamed text) : model = other := by
  rcases h with hname | rfl
  · rcases h' with hname' | rfl
    · exact eq_of_name (hname.symm.trans hname')
    · exact absurd hname (not_sameUpToCase_nativeName other model)
  · rcases h' with hname' | hnative'
    · exact absurd hname' (not_sameUpToCase_nativeName model other)
    · exact eq_of_nativeName (hnative' ▸ SameUpToCase.refl _)

/-- A native name in another case is neither that name nor any other. -/
theorem not_isNamed_of_nativeName (h : SameUpToCase text model.nativeName)
    (hne : text ≠ model.nativeName) : ¬ other.IsNamed text := by
  rintro (hname | rfl)
  · exact not_sameUpToCase_nativeName model other (h.symm.trans hname)
  · exact hne (congrArg nativeName (eq_of_nativeName h))

theorem all_isPlain_name (model : LensModel) : model.name.toList.all isPlain = true := by
  cases model <;> decide

theorem all_isPlain_nativeName (model : LensModel) :
    model.nativeName.toList.all isPlain = true := by
  apply model.sameUpToCase_nativeName.all_isPlain
  have hstem : nativePrefix.toList.all isPlain = true := by decide
  rw [String.toList_append, List.all_append, hstem, model.all_isPlain_name, Bool.and_self]

theorem IsNamed.all_isPlain (h : model.IsNamed text) : text.toList.all isPlain = true := by
  rcases h with hname | rfl
  · exact hname.all_isPlain model.all_isPlain_name
  · exact model.all_isPlain_nativeName

/-! ## Reading names -/

/-- What reading a text has to give: the model with that name, or the text itself in the error. -/
structure Recognizes (text : String) (result : Except CalibrationError LensModel)
    (IsName : LensModel → Prop) : Prop where
  eq_ok_iff : ∀ model, result = .ok model ↔ IsName model
  eq_error : (∀ model, ¬ IsName model) → result = .error (.unrecognizedModelName text)

theorem find?_all_eq_some {p : LensModel → Bool}
    (hunique : ∀ model other, p model = true → p other = true → model = other) :
    all.find? p = some model ↔ p model = true := by
  refine ⟨List.find?_some, fun h => ?_⟩
  obtain ⟨found, hfound⟩ : ∃ found, all.find? p = some found :=
    Option.isSome_iff_exists.1 (List.find?_isSome.2 ⟨model, model.mem_all, h⟩)
  rw [hfound, hunique found model (List.find?_some hfound) h]

theorem ofName?_eq_some : ofName? text = some model ↔ model.IsNamed text := by
  rw [ofName?, find?_all_eq_some, isNamedBy_iff]
  intro model other h h'
  exact (isNamedBy_iff.1 h).eq (isNamedBy_iff.1 h')

theorem ofNativeName?_eq_some : ofNativeName? text = some model ↔ text = model.nativeName := by
  rw [ofNativeName?, find?_all_eq_some, decide_eq_true_iff, eq_comm]
  intro model other h h'
  exact IsNamed.eq (.inr (decide_eq_true_iff.1 h).symm) (.inr (decide_eq_true_iff.1 h').symm)

theorem Recognizes.congr {result : Except CalibrationError LensModel}
    {IsName IsName' : LensModel → Prop} (h : Recognizes text result IsName)
    (hiff : ∀ model, IsName model ↔ IsName' model) : Recognizes text result IsName' where
  eq_ok_iff model := (h.eq_ok_iff model).trans (hiff model)
  eq_error hnone := h.eq_error fun model hname => hnone model ((hiff model).1 hname)

theorem recognizes_match (text : String) (found : Option LensModel) :
    Recognizes text
      (match found with
        | some model => .ok model
        | none => .error (.unrecognizedModelName text))
      (found = some ·) := by
  cases found with
  | none => exact ⟨fun _ => ⟨nofun, nofun⟩, fun _ => rfl⟩
  | some found =>
      refine ⟨fun model => ?_, fun hnone => absurd rfl (hnone found)⟩
      rw [Except.ok.injEq, Option.some.injEq]

theorem recognizes_ofName (text : String) : Recognizes text (ofName text) (IsNamed · text) :=
  (recognizes_match text (ofName? text)).congr fun _ => ofName?_eq_some

theorem recognizes_ofNativeName (text : String) :
    Recognizes text (ofNativeName text) (text = nativeName ·) :=
  (recognizes_match text (ofNativeName? text)).congr fun _ => ofNativeName?_eq_some

/-- The text is no name of either kind. -/
def IsRefused (text : String) : Prop :=
  ofName text = .error (.unrecognizedModelName text) ∧
    ofNativeName text = .error (.unrecognizedModelName text)

theorem isRefused_of_forall (h : ∀ model, ¬ IsNamed model text) : IsRefused text :=
  ⟨(recognizes_ofName text).eq_error h,
    (recognizes_ofNativeName text).eq_error fun model hnative => h model (.inr hnative)⟩

/-- With one model at most that has the name, any order of the models finds it. -/
theorem find?_eq_ofName?_of_perm {table : List LensModel} (h : table.Perm all) :
    table.find? (isNamedBy · text) = ofName? text := by
  apply List.find?_eq_find?_of_perm h
  rintro model ⟨-, hmodel⟩ other ⟨-, hother⟩
  exact (isNamedBy_iff.1 hmodel).eq (isNamedBy_iff.1 hother)

theorem recognizes_names (text : String) :
    Recognizes text (ofName text) (IsNamed · text) ∧
      Recognizes text (ofNativeName text) (text = nativeName ·) ∧
      (∀ model other, IsNamed model text → IsNamed other text → model = other) ∧
      (∀ table : List LensModel, table.Perm all →
        table.find? (isNamedBy · text) = ofName? text) ∧
      (∀ model, ofNativeName text = .ok model → ofName text = .ok model) ∧
      (∀ (model : LensModel) (recased : String), SameUpToCase text model.name →
        SameUpToCase recased text → ofName recased = ofName text) ∧
      ((∃ c ∈ text.toList, 128 ≤ c.toNat ∨ isWhiteSpace c = true) → IsRefused text) ∧
      ∀ model : LensModel, SameUpToCase text model.nativeName → text ≠ model.nativeName →
        IsRefused text := by
  refine ⟨recognizes_ofName text, recognizes_ofNativeName text, fun model other => IsNamed.eq,
    fun table => find?_eq_ofName?_of_perm, ?_, ?_, ?_, ?_⟩
  · intro model hnative
    exact ((recognizes_ofName text).eq_ok_iff model).2
      (.inr (((recognizes_ofNativeName text).eq_ok_iff model).1 hnative))
  · intro model recased hname hcase
    rw [((recognizes_ofName text).eq_ok_iff model).2 (.inl hname),
      ((recognizes_ofName recased).eq_ok_iff model).2 (.inl (hcase.trans hname))]
  · rintro ⟨c, hc, hstray⟩
    refine isRefused_of_forall fun model h => ?_
    have hplain : isPlain c = true := List.all_eq_true.1 h.all_isPlain c hc
    rw [isPlain, Bool.and_eq_true, decide_eq_true_iff, Bool.not_eq_true'] at hplain
    rcases hstray with hwide | hwhite
    · exact Nat.not_lt.2 hwide hplain.1
    · rw [hplain.2] at hwhite
      cases hwhite
  · intro model hcase hne
    exact isRefused_of_forall fun other => not_isNamed_of_nativeName hcase hne

/-- The sign for kelvin, of which the small letter is `k`, is no letter here. -/
theorem recognizes_names_recased :
    ofName "Brown_Conrady" = .ok .brownConrady ∧
      SameUpToCase "Brown_Conrady" brownConrady.name ∧
      SameUpToCase "bROWN_CONRADY" "Brown_Conrady" ∧
      ofName "bROWN_CONRADY" = .ok .brownConrady ∧
      ofName "K4A_CALIBRATION_LENS_DISTORTION_MODEL_THETA" = .ok .theta ∧
      IsRefused "polynomial_3\u212a" ∧
      IsRefused " theta" ∧
      SameUpToCase "K4A_Calibration_Lens_Distortion_Model_Theta" theta.nativeName ∧
      IsRefused "K4A_Calibration_Lens_Distortion_Model_Theta" ∧
      ofName "fisheye" = .error (.unrecognizedModelName "fisheye") ∧
      all.reverse.find? (isNamedBy · "Theta") = some .theta := by
  obtain ⟨hmixed, -, -, -, -, hcase, -⟩ := recognizes_names "Brown_Conrady"
  have hname : SameUpToCase "Brown_Conrady" brownConrady.name := by decide
  have hrecased : SameUpToCase "bROWN_CONRADY" "Brown_Conrady" := by decide
  have hok : ofName "Brown_Conrady" = .ok .brownConrady := (hmixed.eq_ok_iff _).2 (.inl hname)
  obtain ⟨-, hnative, -, -, hboth, -⟩ :=
    recognizes_names "K4A_CALIBRATION_LENS_DISTORTION_MODEL_THETA"
  obtain ⟨-, -, -, -, -, -, hkelvin, -⟩ := recognizes_names "polynomial_3\u212a"
  obtain ⟨-, -, -, -, -, -, hspaced, -⟩ := recognizes_names " theta"
  obtain ⟨-, -, -, -, -, -, -, hother⟩ :=
    recognizes_names "K4A_Calibration_Lens_Distortion_Model_Theta"
  have hnativeCase : SameUpToCase "K4A_Calibration_Lens_Distortion_Model_Theta"
      theta.nativeName := by decide
  obtain ⟨hfish, -⟩ := recognizes_names "fisheye"
  obtain ⟨-, -, -, horder, -⟩ := recognizes_names "Theta"
  refine ⟨hok, hname, hrecased, (hcase _ _ hname hrecased).trans hok,
    hboth _ ((hnative.eq_ok_iff _).2 rfl), hkelvin ⟨'\u212a', by decide, .inl (by decide)⟩,
    hspaced ⟨' ', by decide, .inr (by decide)⟩, hnativeCase, hother _ hnativeCase (by decide),
    hfish.eq_error ?_, (horder _ (List.reverse_perm all)).trans (ofName?_eq_some.2 ?_)⟩
  · rintro (_ | _ | _ | _ | _) <;> decide
  · exact .inl (by decide)

end LensCalibration.LensModel
