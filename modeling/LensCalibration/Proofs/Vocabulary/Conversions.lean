import LensCalibration.Error
import LensCalibration.Proofs.Json.Consumption
import LensCalibration.Proofs.Json.Shapes

/-!
# Integers as codes

An integer comes as a word of some width or as a literal in a text.  Words are narrowed to the width
of a code, and so are literals, of which most fit no word at all; none of this turns one integer
into another.
-/

namespace LensCalibration

open Decimal Json

/-! ## Words -/

namespace Vocabulary

variable {v : Vocabulary} {n : Int}

/-- What converting `n` has to give: the entry with that code, or `n` itself in the error. -/
structure Converts (v : Vocabulary) (n : Int) (result : Except CalibrationError v.Entry) :
    Prop where
  eq_ok_iff : ∀ entry, result = .ok entry ↔ (v.code entry : Int) = n
  eq_error : (∀ entry, (v.code entry : Int) ≠ n) → result = .error (.unrecognizedCode v n)

theorem ofCode_of_none (h : v.ofCode? n = none) : v.ofCode n = .error (.unrecognizedCode v n) := by
  rw [ofCode, h]

theorem ofCode_eq_ok {entry : v.Entry} : v.ofCode n = .ok entry ↔ (v.code entry : Int) = n := by
  rw [← ofCode?_eq_some, ofCode]
  cases v.ofCode? n with
  | none => exact ⟨nofun, nofun⟩
  | some found => simp

theorem converts_ofCode (v : Vocabulary) (n : Int) : v.Converts n (v.ofCode n) where
  eq_ok_iff _ := ofCode_eq_ok
  eq_error h := ofCode_of_none (ofCode?_eq_none_of_forall h)

end Vocabulary

theorem toInt_toInt32_of_toNat_le {n : UInt32} (h : n.toNat ≤ 0x7fffffff) :
    n.toInt32.toInt = n.toNat :=
  BitVec.toInt_eq_toNat_of_lt (by simp; omega)

theorem toInt_toInt32_of_bounds {n : Int64} (hlow : -0x80000000 ≤ n.toInt)
    (hhigh : n.toInt ≤ 0x7fffffff) : n.toInt32.toInt = n.toInt := by
  rw [Int64.toInt_toInt32]
  exact Int.bmod_eq_of_le (by omega) (by omega)

namespace LensModel

/-- No code is as large as the words that are not narrowed. -/
theorem ofUInt32_eq (n : UInt32) : ofUInt32 n = ofCode n.toNat := by
  have hlength := Vocabulary.model.length_entries_le
  rw [ofUInt32]
  split
  · next hfits => rw [ofInt32, toInt_toInt32_of_toNat_le hfits]
  · exact (Vocabulary.ofCode_of_none (Vocabulary.ofCode?_eq_none.2 (by omega))).symm

theorem ofInt64_eq (n : Int64) : ofInt64 n = ofCode n.toInt := by
  have hlength := Vocabulary.model.length_entries_le
  rw [ofInt64]
  split
  · next hfits => rw [ofInt32, toInt_toInt32_of_bounds hfits.1 hfits.2]
  · exact (Vocabulary.ofCode_of_none (Vocabulary.ofCode?_eq_none.2 (by omega))).symm

end LensModel

/-! ## Literals -/

namespace Json

variable {v : Vocabulary} {n : Int}

theorem toString_ofInt (form : Form) (n : Int) : (ofInt n).toString form = toString n :=
  (congrArg String.ofList (toChars_ofInt n)).trans String.ofList_toList

theorem isContentOf_ofInt (n : Int) : (ofInt n).IsContentOf (toString n) := by
  have hgrammatical : (ofInt n).IsGrammatical := isGrammatical_ofInt n
  rw [← toString_ofInt .compact n]
  exact Document.isContentOf_toString .compact hgrammatical

theorem isInteger_ofInt {i : Int} : (ofInt n).IsInteger i ↔ i = n := by
  change (Numeral.ofInt n).IsIntegerLiteral i ↔ _
  simp only [Numeral.IsIntegerLiteral, Numeral.ofInt, appendDigits_digitsOf, true_and,
    decide_eq_true_eq]
  split <;> omega

theorem int32?_ofInt {i : Int} :
    (ofInt n).int32? = some i ↔ i = n ∧ -2 ^ 31 ≤ n ∧ n < 2 ^ 31 := by
  have hread : (ofInt n).int32? = some i ↔ (ofInt n).IsInteger i ∧ -2 ^ 31 ≤ i ∧ i ≤ 2 ^ 31 - 1 :=
    integer?_eq_some (by decide)
  rw [hread, isInteger_ofInt]
  omega

theorem readInt32_toString (hlow : -2 ^ 31 ≤ n) (hhigh : n < 2 ^ 31) :
    readInt32 (toString n).toList = .ok (n, []) := by
  have hwritten : (SyntaxTree.number (Numeral.ofInt n)).WrittenAs (toString n).toList := by
    rw [← toChars_ofInt]
    exact Numeral.writtenAs_toChars (isGrammatical_ofInt n)
  have hvalue : (ofInt n).int32? = some n := int32?_ofInt.2 ⟨rfl, hlow, hhigh⟩
  have hread := readInt32_append hwritten blanks_nil endsNumeral_nil
  rw [List.nil_append, List.append_nil] at hread
  exact toOption_eq_some.1 (hread.trans (congrArg (Option.map (·, [])) hvalue))

end Json

namespace Vocabulary

variable {v : Vocabulary} {n : Int}

/--
What reading the literal `n` has to give: the entry with that code, which is written as the same
literal, or an error that names `n`, at least where a code could be that large.
-/
structure Reads (v : Vocabulary) (n : Int) (result : Except Json.Error v.Entry)
    (write : Form → v.Entry → String) : Prop where
  eq_ok_iff : ∀ entry, result = .ok entry ↔ (v.code entry : Int) = n
  exists_error : (∀ entry, (v.code entry : Int) ≠ n) →
    ∃ error, result = .error error ∧
      (-2 ^ 31 ≤ n → n < 2 ^ 31 → error.message = s!"Unrecognized {v.noun} code: {n}")
  write_eq : ∀ entry, result = .ok entry → ∀ form, write form entry = toString n

theorem Reads.map_id {result : Except Json.Error v.Entry} {write : Form → v.Entry → String}
    (h : v.Reads n result write) : v.Reads n (result.map id) write := by
  cases result <;> exact h

def ofLiteral (v : Vocabulary) (n : Int) : Except Json.Error v.Entry :=
  (Schema.code v).decode (toString n)

theorem toOption_ofLiteral (v : Vocabulary) (n : Int) :
    (v.ofLiteral n).toOption = (ofInt n).int32?.bind v.ofCode? :=
  (Schema.code v).toOption_decode (isContentOf_ofInt n)

theorem ofLiteral_eq_ok {entry : v.Entry} :
    v.ofLiteral n = .ok entry ↔ (v.code entry : Int) = n := by
  have hlength := v.length_entries_le
  have hlt := v.code_lt_length entry
  rw [← toOption_eq_some, toOption_ofLiteral, Option.bind_eq_some_iff]
  constructor
  · rintro ⟨i, hi, hentry⟩
    rw [ofCode?_eq_some.1 hentry]
    exact (int32?_ofInt.1 hi).1
  · intro hcode
    exact ⟨n, int32?_ofInt.2 ⟨rfl, by omega, by omega⟩, ofCode?_eq_some.2 hcode⟩

theorem exists_ofLiteral_eq_error (h : v.ofCode? n = none) :
    ∃ error, v.ofLiteral n = .error error := by
  rw [← toOption_eq_none, toOption_ofLiteral, Option.bind_eq_none_iff]
  intro i hi
  rwa [(int32?_ofInt.1 hi).1]

/-- The error has no place in the text, so that nothing but the code is in its message. -/
theorem ofLiteral_of_none (h : v.ofCode? n = none) (hlow : -2 ^ 31 ≤ n) (hhigh : n < 2 ^ 31) :
    v.ofLiteral n = .error ⟨.unrecognizedCode v n, none⟩ := by
  rw [ofLiteral, Schema.decode, Schema.decodeChars, Schema.read, readCode,
    readInt32_toString hlow hhigh]
  simp only [bind, Except.bind, h]
  rfl

theorem reads_ofLiteral (v : Vocabulary) (n : Int) :
    v.Reads n (v.ofLiteral n) fun form entry =>
      ((Schema.code v).toDocument entry).toString form where
  eq_ok_iff _ := ofLiteral_eq_ok
  exists_error hstray := by
    have hnone := ofCode?_eq_none_of_forall hstray
    obtain ⟨error, herror⟩ := exists_ofLiteral_eq_error hnone
    refine ⟨error, herror, fun hlow hhigh => ?_⟩
    cases herror.symm.trans (ofLiteral_of_none hnone hlow hhigh)
    rfl
  write_eq _ hentry form :=
    (toString_ofInt form _).trans (congrArg toString (ofLiteral_eq_ok.1 hentry))

theorem conversions_agree (n : Int) :
    model.Converts n (LensModel.ofCode n) ∧
    (∀ word : Int32, word.toInt = n → model.Converts n (LensModel.ofInt32 word)) ∧
    (∀ word : UInt32, word.toNat = n → model.Converts n (LensModel.ofUInt32 word)) ∧
    (∀ word : Int64, word.toInt = n → model.Converts n (LensModel.ofInt64 word)) ∧
    depthMode.Converts n (DepthMode.ofCode n) ∧
    colorResolution.Converts n (ColorResolution.ofCode n) ∧
    sensor.Converts n (Sensor.ofCode n) ∧
    model.Reads n (decode LensModel (toString n)) encode ∧
    depthMode.Reads n (decode DepthMode (toString n)) encode ∧
    colorResolution.Reads n (decode ColorResolution (toString n)) encode ∧
    sensor.Reads n (decode Sensor (toString n)) encode := by
  refine ⟨converts_ofCode model n, ?_, ?_, ?_, converts_ofCode depthMode n,
    converts_ofCode colorResolution n, converts_ofCode sensor n, (reads_ofLiteral model n).map_id,
    (reads_ofLiteral depthMode n).map_id, (reads_ofLiteral colorResolution n).map_id,
    (reads_ofLiteral sensor n).map_id⟩
  · rintro word rfl
    exact converts_ofCode model word.toInt
  · rintro word rfl
    rw [LensModel.ofUInt32_eq]
    exact converts_ofCode model word.toNat
  · rintro word rfl
    rw [LensModel.ofInt64_eq]
    exact converts_ofCode model word.toInt

/-- Modulo `2 ^ 32`, the second of these would be `-1` and the third `1`. -/
theorem conversions_agree_wide :
    LensModel.ofInt32 3 = .ok .rational6KT ∧
    LensModel.ofUInt32 4294967295 = .error (.unrecognizedCode .model 4294967295) ∧
    LensModel.ofInt64 4294967297 = .error (.unrecognizedCode .model 4294967297) := by
  obtain ⟨-, hcode, -⟩ := conversions_agree 3
  obtain ⟨-, -, hunsigned, -⟩ := conversions_agree 4294967295
  obtain ⟨-, -, -, hlong, -⟩ := conversions_agree 4294967297
  refine ⟨((hcode 3 rfl).eq_ok_iff .rational6KT).2 rfl, (hunsigned 4294967295 rfl).eq_error ?_,
    (hlong 4294967297 rfl).eq_error ?_⟩
  · rintro (_ | _ | _ | _ | _) <;> decide
  · rintro (_ | _ | _ | _ | _) <;> decide

end Vocabulary

end LensCalibration
