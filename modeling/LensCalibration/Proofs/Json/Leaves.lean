import LensCalibration.Proofs.Json.Grammar

/-!
# Reading the leaves of a text

Each reader of a leaf takes exactly the leaf off the front of a text that goes on in some way.  What
goes on behind a numeral must not prolong it.
-/

namespace LensCalibration.Decimal

/-! ## Digits -/

@[simp] theorem Digit.ofChar?_toChar (d : Digit) : Digit.ofChar? d.toChar = some d := by
  revert d
  decide

/-- A character that prolongs a run of digits or begins another part of a numeral. -/
def prolongsNumeral (c : Char) : Bool :=
  (Digit.ofChar? c).isSome || c = '.' || c = 'e' || c = 'E'

def EndsNumeral (rest : List Char) : Prop :=
  ∀ c ∈ rest.head?, prolongsNumeral c = false

@[simp] theorem endsNumeral_nil : EndsNumeral [] := by
  intro c hc
  cases hc

theorem endsNumeral_cons {c : Char} (h : prolongsNumeral c = false) (rest : List Char) :
    EndsNumeral (c :: rest) := by
  intro c' hc
  cases hc
  exact h

/-- No digit at the front. -/
def EndsDigits (rest : List Char) : Prop :=
  ∀ c ∈ rest.head?, Digit.ofChar? c = none

theorem EndsNumeral.endsDigits {rest : List Char} (h : EndsNumeral rest) : EndsDigits rest := by
  intro c hc
  have := h c hc
  simp only [prolongsNumeral, Bool.or_eq_false_iff] at this
  simpa using this.1.1.1

theorem takeDigits_map_append (digits : List Digit) {rest : List Char} (h : EndsDigits rest) :
    takeDigits (digits.map Digit.toChar ++ rest) = (digits, rest) := by
  induction digits with
  | nil =>
      cases rest with
      | nil => rfl
      | cons c rest => simp [takeDigits, h c rfl]
  | cons d digits ih => simp [takeDigits, ih]

theorem Digit.toChar_ne_sign (d : Digit) : d.toChar ≠ '-' ∧ d.toChar ≠ '+' := by
  revert d
  decide

theorem fractionText_endsDigits (fraction : List Digit) {rest : List Char}
    (h : EndsDigits rest) : EndsDigits (fractionText fraction ++ rest) := by
  cases fraction with
  | nil => exact h
  | cons d fraction =>
      intro c hc
      cases hc
      rfl

theorem IsWhole.head {whole : List Digit} (h : IsWhole whole) :
    ∃ d digits, whole = d :: digits := by
  rcases h with rfl | ⟨d, digits, rfl, -⟩
  · exact ⟨0, [], rfl⟩
  · exact ⟨d, digits, rfl⟩

/-- What follows the whole digits neither prolongs them nor, without a fraction, begins one. -/
theorem exponentWrittenAs_head {e : Option Exponent} {text rest : List Char}
    (h : exponentWrittenAs e text) (hrest : EndsNumeral rest) :
    EndsDigits (text ++ rest) ∧ ∀ c ∈ (text ++ rest).head?, c ≠ '.' := by
  cases e with
  | none =>
      obtain rfl : text = [] := h
      refine ⟨hrest.endsDigits, fun c hc hpoint => ?_⟩
      subst hpoint
      exact absurd (hrest '.' hc) (by decide)
  | some e =>
      obtain ⟨-, letter, sign, hletter, -, rfl⟩ := h
      rcases hletter with rfl | rfl <;>
      · refine ⟨?_, ?_⟩ <;>
        · intro c hc
          cases hc
          decide

end LensCalibration.Decimal

namespace LensCalibration.Json

open Decimal

/-! ## Blanks -/

theorem blanks_nil : Blanks [] := by
  intro c hc
  cases hc

theorem skipBlanks_append {blanks : List Char} (h : Blanks blanks) (text : List Char) :
    skipBlanks (blanks ++ text) = skipBlanks text :=
  List.dropWhile_append_of_pos h

theorem skipBlanks_cons {c : Char} (h : isBlank c = false) (text : List Char) :
    skipBlanks (c :: text) = c :: text := by
  simp [skipBlanks, h]

theorem skipBlanks_eq_nil {blanks : List Char} (h : Blanks blanks) : skipBlanks blanks = [] := by
  simpa [skipBlanks] using skipBlanks_append h []

/-! ## Words -/

theorem readWord_append (letters rest : List Char) :
    readWord letters (letters ++ rest) = .ok rest := by
  induction letters with
  | nil => rfl
  | cons letter letters ih => simp [readWord, ih]

/-! ## Numerals -/

theorem prolongsNumeral_of_isBlank {c : Char} (h : isBlank c = true) :
    prolongsNumeral c = false := by
  simp only [isBlank, Bool.or_eq_true, decide_eq_true_eq] at h
  obtain ((rfl | rfl) | rfl) | rfl := h <;> decide

theorem endsNumeral_append {blanks rest : List Char} (h : Blanks blanks)
    (hrest : EndsNumeral rest) : EndsNumeral (blanks ++ rest) := by
  cases blanks with
  | nil => exact hrest
  | cons c blanks =>
      exact endsNumeral_cons (prolongsNumeral_of_isBlank (h c (by simp))) _

theorem readMinus_append (negative : Bool) {c : Char} (h : c ≠ '-') (text : List Char) :
    readMinus ((if negative then ['-'] else []) ++ c :: text) = (negative, c :: text) := by
  cases negative with
  | true => rfl
  | false =>
      simp only [Bool.false_eq_true, if_false, List.nil_append]
      unfold readMinus
      split
      · next heq =>
          cases heq
          contradiction
      · rfl

theorem readWhole_append (atEnd : Cause) {whole : List Digit} (hwhole : IsWhole whole)
    {rest : List Char} (h : EndsDigits rest) :
    readWhole atEnd (whole.map Digit.toChar ++ rest) = .ok (whole, rest) := by
  unfold readWhole
  rw [takeDigits_map_append whole h]
  rcases hwhole with rfl | ⟨d, digits, rfl, hd⟩
  · rfl
  · split
    · next heq => cases heq
    · next heq =>
        cases heq
        contradiction
    · next heq =>
        cases heq
        rfl

theorem readFraction_append (atEnd : Cause) (fraction : List Digit) {rest : List Char}
    (hdigits : EndsDigits rest) (hpoint : ∀ c ∈ rest.head?, c ≠ '.') :
    readFraction atEnd (fractionText fraction ++ rest) = .ok (fraction, rest) := by
  cases fraction with
  | nil =>
      simp only [fractionText, List.isEmpty_nil, if_true, List.nil_append]
      unfold readFraction
      split
      · next rest => exact absurd rfl (hpoint '.' rfl)
      · rfl
  | cons d fraction =>
      have hread := takeDigits_map_append (d :: fraction) hdigits
      simp only [fractionText, List.isEmpty_cons, Bool.false_eq_true, if_false, List.cons_append,
        readFraction]
      rw [hread]

theorem readExponent_none (atEnd : Cause) {rest : List Char} (h : EndsNumeral rest) :
    readExponent atEnd rest = .ok (none, rest) := by
  unfold readExponent
  split
  · next rest => exact absurd (h 'e' rfl) (by decide)
  · next rest => exact absurd (h 'E' rfl) (by decide)
  · rfl

theorem readSign_digits {digits : List Digit} (h : digits ≠ []) (rest : List Char) :
    readSign (digits.map Digit.toChar ++ rest) =
      (false, digits.map Digit.toChar ++ rest) := by
  cases digits with
  | nil => contradiction
  | cons d digits =>
      unfold readSign
      split
      · next heq =>
          simp only [List.map_cons, List.cons_append, List.cons.injEq] at heq
          exact absurd heq.1 (Digit.toChar_ne_sign d).1
      · next heq =>
          simp only [List.map_cons, List.cons_append, List.cons.injEq] at heq
          exact absurd heq.1 (Digit.toChar_ne_sign d).2
      · rfl

theorem readExponent_some (atEnd : Cause) {e : Exponent} {text rest : List Char}
    (h : e.WrittenAs text) (hrest : EndsNumeral rest) :
    readExponent atEnd (text ++ rest) = .ok (some e, rest) := by
  obtain ⟨hdigits, letter, sign, hletter, hsign, rfl⟩ := h
  have hread : readSign (sign ++ (e.digits.map Digit.toChar ++ rest)) =
      (e.negative, e.digits.map Digit.toChar ++ rest) := by
    cases hnegative : e.negative with
    | true =>
        simp only [hnegative, if_true] at hsign
        rw [hsign]
        rfl
    | false =>
        simp only [hnegative, Bool.false_eq_true, if_false] at hsign
        rcases hsign with rfl | rfl
        · exact readSign_digits hdigits rest
        · rfl
  have htake := takeDigits_map_append e.digits hrest.endsDigits
  rcases hletter with rfl | rfl <;>
    simp only [readExponent, List.cons_append, List.append_assoc, hread, htake]

theorem readNumeral_append (atEnd : Cause) {n : Numeral} {text rest : List Char}
    (h : n.WrittenAs text) (hrest : EndsNumeral rest) :
    readNumeral atEnd (text ++ rest) = .ok (n, rest) := by
  obtain ⟨hwhole, e, he, rfl⟩ := h
  obtain ⟨hdigits, hpoint⟩ := exponentWrittenAs_head he hrest
  have hminus : readMinus ((if n.negative then ['-'] else []) ++ (n.whole.map Digit.toChar ++
      (fractionText n.fraction ++ (e ++ rest)))) =
      (n.negative, n.whole.map Digit.toChar ++ (fractionText n.fraction ++ (e ++ rest))) := by
    obtain ⟨d, digits, hcons⟩ := hwhole.head
    rw [hcons]
    exact readMinus_append n.negative (Digit.toChar_ne_sign d).1 _
  have hexponent : readExponent atEnd (e ++ rest) = .ok (n.exponent, rest) := by
    cases hn : n.exponent with
    | none =>
        rw [hn] at he
        obtain rfl : e = [] := he
        exact readExponent_none atEnd hrest
    | some x =>
        rw [hn] at he
        exact readExponent_some atEnd he hrest
  simp only [List.append_assoc, readNumeral, hminus,
    readWhole_append atEnd hwhole (fractionText_endsDigits n.fraction hdigits),
    readFraction_append atEnd n.fraction hdigits hpoint, hexponent, bind, Except.bind, pure,
    Except.pure]

/-! ## Strings -/

theorem hexUnit?_append {a b c d : Char} {n : Nat} (h : hexUnit? [a, b, c, d] = some (n, []))
    (rest : List Char) : hexUnit? (a :: b :: c :: d :: rest) = some (n, rest) := by
  simp only [hexUnit?, bind, pure, Option.bind_eq_some_iff, Option.some.injEq, Prod.mk.injEq,
    and_true] at h ⊢
  exact h

theorem readHexUnit_append {a b c d : Char} {n : Nat} (h : hexUnit? [a, b, c, d] = some (n, []))
    (rest : List Char) : readHexUnit (a :: b :: c :: d :: rest) = .ok (n, rest) := by
  simp only [readHexUnit, hexUnit?_append h]

theorem isTrailing_eq_false {n : Nat} (h : isLeading n) : isTrailing n = false := by
  simp only [isLeading, isTrailing, Bool.and_eq_true, decide_eq_true_eq] at h ⊢
  simp only [Bool.and_eq_false_iff, decide_eq_false_iff_not]
  omega

theorem readEscape_unit {a b c d : Char} {n : Nat}
    (h : hexUnit? [a, b, c, d] = some (n, [])) (hleading : isLeading n = false)
    (htrailing : isTrailing n = false) (rest : List Char) :
    readEscape ('u' :: a :: b :: c :: d :: rest) = .ok (Char.ofNat n, rest) := by
  simp only [readEscape, readUnicodeEscape, readHexUnit_append h, bind, Except.bind, htrailing,
    hleading]
  rfl

theorem readEscape_pair {a b c d a' b' c' d' : Char} {n n' : Nat}
    (h : hexUnit? [a, b, c, d] = some (n, [])) (hleading : isLeading n)
    (h' : hexUnit? [a', b', c', d'] = some (n', [])) (htrailing : isTrailing n')
    (rest : List Char) :
    readEscape ('u' :: a :: b :: c :: d :: '\\' :: 'u' :: a' :: b' :: c' :: d' :: rest) =
      .ok (joinSurrogates n n', rest) := by
  simp only [readEscape, readUnicodeEscape, readHexUnit_append h, readHexUnit_append h', bind,
    Except.bind, isTrailing_eq_false hleading, hleading, htrailing]
  rfl

theorem escapedChar?_ne_unit {letter c : Char} (h : escapedChar? letter = some c) :
    letter ≠ 'u' := by
  rintro rfl
  cases h

theorem readEscape_letter {letter c : Char} (h : escapedChar? letter = some c)
    (rest : List Char) : readEscape (letter :: rest) = .ok (c, rest) := by
  unfold readEscape
  split
  · next heq => cases heq
  · next heq =>
      cases heq
      exact absurd rfl (escapedChar?_ne_unit h)
  · next heq =>
      cases heq
      rw [h]

theorem readStringFrom_plain (fuel : Nat) {c : Char} (h : isPlain c) (text : List Char) :
    readStringFrom (fuel + 1) (c :: text) =
      (readStringFrom fuel text).map fun (cs, rest) => (c :: cs, rest) := by
  simp only [isPlain, decide_eq_true_eq] at h
  rw [readStringFrom]
  · simp only [h.2.2, Bool.false_eq_true, if_false]
    cases readStringFrom fuel text <;> rfl
  · exact h.1
  · exact h.2.1

theorem readStringFrom_escape (fuel : Nat) {c : Char} {text rest : List Char}
    (h : readEscape text = .ok (c, rest)) :
    readStringFrom (fuel + 1) ('\\' :: text) =
      (readStringFrom fuel rest).map fun (cs, rest) => (c :: cs, rest) := by
  rw [readStringFrom]
  simp only [h, bind, Except.bind]
  cases readStringFrom fuel rest <;> rfl

/-- Fuel beyond the length of the inside is enough, since each character takes one at least. -/
theorem readStringFrom_append {cs body : List Char} (h : Spells cs body) {fuel : Nat}
    (hfuel : body.length < fuel) (rest : List Char) :
    readStringFrom fuel (body ++ '"' :: rest) = .ok (cs, rest) := by
  induction h generalizing fuel with
  | nil =>
      obtain ⟨fuel, rfl⟩ := Nat.exists_eq_succ_of_ne_zero (Nat.ne_zero_of_lt hfuel)
      rfl
  | plain hc _ ih =>
      obtain ⟨fuel, rfl⟩ := Nat.exists_eq_succ_of_ne_zero (Nat.ne_zero_of_lt hfuel)
      simp only [List.length_cons] at hfuel
      rw [List.cons_append, readStringFrom_plain fuel hc, ih (by omega)]
      rfl
  | escape hc _ ih =>
      obtain ⟨fuel, rfl⟩ := Nat.exists_eq_succ_of_ne_zero (Nat.ne_zero_of_lt hfuel)
      simp only [List.length_cons] at hfuel
      rw [List.cons_append, List.cons_append, readStringFrom_escape fuel (readEscape_letter hc _),
        ih (by omega)]
      rfl
  | unit hn hleading htrailing _ ih =>
      obtain ⟨fuel, rfl⟩ := Nat.exists_eq_succ_of_ne_zero (Nat.ne_zero_of_lt hfuel)
      simp only [List.length_cons] at hfuel
      simp only [List.cons_append]
      rw [readStringFrom_escape fuel (readEscape_unit hn hleading htrailing _),
        ih (by omega)]
      rfl
  | pair hn hleading hn' htrailing _ ih =>
      obtain ⟨fuel, rfl⟩ := Nat.exists_eq_succ_of_ne_zero (Nat.ne_zero_of_lt hfuel)
      simp only [List.length_cons] at hfuel
      simp only [List.cons_append]
      rw [readStringFrom_escape fuel (readEscape_pair hn hleading hn' htrailing _),
        ih (by omega)]
      rfl

theorem readString_append {s : String} {body : List Char} (h : Spells s.toList body)
    (rest : List Char) : readString (body ++ '"' :: rest) = .ok (s, rest) := by
  have hfuel : body.length < (body ++ '"' :: rest).length + 1 := by
    simp only [List.length_append]
    omega
  simp only [readString, readStringFrom_append h hfuel, bind, Except.bind, pure, Except.pure,
    String.ofList_toList]

/-! ## Strings that are passed over -/

theorem passEscape_letter {letter : Char} (h : (escapedChar? letter).isSome) (rest : List Char) :
    passEscape (letter :: rest) = .ok rest := by
  obtain ⟨c, hc⟩ := Option.isSome_iff_exists.mp h
  unfold passEscape
  split
  · next heq => cases heq
  · next heq =>
      cases heq
      exact absurd rfl (escapedChar?_ne_unit hc)
  · next heq =>
      cases heq
      rw [if_pos h]

theorem hexUnit?_rest {a b c d : Char} (h : (hexUnit? [a, b, c, d]).isSome) :
    ∃ n, hexUnit? [a, b, c, d] = some (n, []) := by
  obtain ⟨⟨n, rest⟩, hn⟩ := Option.isSome_iff_exists.mp h
  have hrest : rest = [] := by
    simp only [hexUnit?, bind, pure, Option.bind_eq_some_iff, Option.some.injEq,
      Prod.mk.injEq] at hn
    obtain ⟨_, -, _, -, _, -, _, -, -, rfl⟩ := hn
    rfl
  exact ⟨n, hrest ▸ hn⟩

theorem passEscape_unit {a b c d : Char} (h : (hexUnit? [a, b, c, d]).isSome)
    (rest : List Char) : passEscape ('u' :: a :: b :: c :: d :: rest) = .ok rest := by
  obtain ⟨n, hn⟩ := hexUnit?_rest h
  simp only [passEscape, readHexUnit_append hn]
  rfl

theorem passStringFrom_plain (fuel : Nat) {c : Char} (h : isPlain c) (text : List Char) :
    passStringFrom (fuel + 1) (c :: text) = passStringFrom fuel text := by
  simp only [isPlain, decide_eq_true_eq] at h
  rw [passStringFrom]
  · simp only [h.2.2, Bool.false_eq_true, if_false]
  · exact h.1
  · exact h.2.1

theorem passStringFrom_escape (fuel : Nat) {text rest : List Char}
    (h : passEscape text = .ok rest) :
    passStringFrom (fuel + 1) ('\\' :: text) = passStringFrom fuel rest := by
  rw [passStringFrom]
  simp only [h, bind, Except.bind]

theorem passStringFrom_append {body : List Char} (h : StringBody body) {fuel : Nat}
    (hfuel : body.length < fuel) (rest : List Char) :
    passStringFrom fuel (body ++ '"' :: rest) = .ok rest := by
  induction h generalizing fuel with
  | nil =>
      obtain ⟨fuel, rfl⟩ := Nat.exists_eq_succ_of_ne_zero (Nat.ne_zero_of_lt hfuel)
      rfl
  | plain hc _ ih =>
      obtain ⟨fuel, rfl⟩ := Nat.exists_eq_succ_of_ne_zero (Nat.ne_zero_of_lt hfuel)
      simp only [List.length_cons] at hfuel
      rw [List.cons_append, passStringFrom_plain fuel hc, ih (by omega)]
  | escape hc _ ih =>
      obtain ⟨fuel, rfl⟩ := Nat.exists_eq_succ_of_ne_zero (Nat.ne_zero_of_lt hfuel)
      simp only [List.length_cons] at hfuel
      rw [List.cons_append, List.cons_append, passStringFrom_escape fuel (passEscape_letter hc _),
        ih (by omega)]
  | unit hn _ ih =>
      obtain ⟨fuel, rfl⟩ := Nat.exists_eq_succ_of_ne_zero (Nat.ne_zero_of_lt hfuel)
      simp only [List.length_cons] at hfuel
      simp only [List.cons_append]
      rw [passStringFrom_escape fuel (passEscape_unit hn _), ih (by omega)]

theorem passString_append {body : List Char} (h : StringBody body) (rest : List Char) :
    passString (body ++ '"' :: rest) = .ok rest := by
  apply passStringFrom_append h
  simp only [List.length_append]
  omega

/-- What spells a text is the inside of a string. -/
theorem Spells.stringBody {cs body : List Char} (h : Spells cs body) : StringBody body := by
  induction h with
  | nil => exact .nil
  | plain hc _ ih => exact .plain hc ih
  | escape hc _ ih => exact .escape (Option.isSome_of_eq_some hc) ih
  | unit hn _ _ _ ih => exact .unit (Option.isSome_of_eq_some hn) ih
  | pair hn _ hn' _ _ ih =>
      exact .unit (Option.isSome_of_eq_some hn) (.unit (Option.isSome_of_eq_some hn') ih)

end LensCalibration.Json
