import LensCalibration.Proofs.Json.Leaves

/-!
# What is taken for a leaf is one

The readers of leaves take nothing but leaves off the front of a text: here the leaf is found from
a reading that succeeded.
-/

namespace LensCalibration

theorem bind_eq_ok {ε α β : Type} {x : Except ε α} {f : α → Except ε β} {b : β} :
    x.bind f = .ok b ↔ ∃ a, x = .ok a ∧ f a = .ok b := by
  cases x with
  | error e => simp [Except.bind]
  | ok a => simp [Except.bind]

theorem map_eq_ok {ε α β : Type} {x : Except ε α} {f : α → β} {b : β} :
    x.map f = .ok b ↔ ∃ a, x = .ok a ∧ f a = b := by
  cases x with
  | error e => simp [Except.map]
  | ok a => simp [Except.map]

theorem toOption_eq_some {ε α : Type} {x : Except ε α} {a : α} :
    x.toOption = some a ↔ x = .ok a := by
  cases x with
  | error e => simp [Except.toOption]
  | ok a => simp [Except.toOption]

theorem toOption_eq_none {ε α : Type} {x : Except ε α} :
    x.toOption = none ↔ ∃ e, x = .error e := by
  cases x with
  | error e => simp [Except.toOption]
  | ok a => simp [Except.toOption]

namespace Decimal

theorem Digit.toChar_of_ofChar? {c : Char} {d : Digit} (h : Digit.ofChar? c = some d) :
    d.toChar = c := by
  unfold Digit.ofChar? at h
  split at h
  · next hrange =>
      cases h
      have hlow : '0'.toNat ≤ c.toNat := hrange.1
      have hhigh : c.toNat ≤ '9'.toNat := hrange.2
      have hnat : '0'.toNat + (c.toNat - '0'.toNat) % 10 = c.toNat := by
        simp only [Char.reduceToNat] at hlow hhigh ⊢
        omega
      exact (congrArg Char.ofNat hnat).trans (Char.ofNat_toNat c)
  · cases h

theorem eq_append_of_takeDigits {text rest : List Char} {digits : List Digit}
    (h : takeDigits text = (digits, rest)) : text = digits.map Digit.toChar ++ rest := by
  induction text generalizing digits with
  | nil =>
      cases h
      rfl
  | cons c text ih =>
      rw [takeDigits] at h
      split at h
      · cases h
        rfl
      · next d hd =>
          cases h
          rw [List.map_cons, List.cons_append, Digit.toChar_of_ofChar? hd, ← ih rfl]

end Decimal

namespace Json

open Decimal

/-! ## Blanks and words -/

theorem exists_blanks (text : List Char) :
    ∃ blanks, Blanks blanks ∧ text = blanks ++ skipBlanks text :=
  ⟨text.takeWhile isBlank, List.all_eq_true.1 List.all_takeWhile,
    List.takeWhile_append_dropWhile.symm⟩

theorem eq_append_of_readWord {letters text rest : List Char}
    (h : readWord letters text = .ok rest) : text = letters ++ rest := by
  induction letters generalizing text with
  | nil =>
      cases h
      rfl
  | cons letter letters ih =>
      cases text with
      | nil => cases h
      | cons c text =>
          rw [readWord] at h
          split at h
          · next hc => rw [hc, ih h, List.cons_append]
          · cases h

/-! ## Numerals -/

theorem readMinus_spec (text : List Char) :
    text = (if (readMinus text).1 then ['-'] else []) ++ (readMinus text).2 := by
  unfold readMinus
  split <;> rfl

theorem readWhole_eq_ok {atEnd : Cause} {text rest : List Char} {digits : List Digit}
    (h : readWhole atEnd text = .ok (digits, rest)) :
    IsWhole digits ∧ text = digits.map Digit.toChar ++ rest := by
  unfold readWhole at h
  split at h
  · cases h
  · cases h
  · next digits rest hnil hzero htake =>
      cases h
      refine ⟨?_, eq_append_of_takeDigits htake⟩
      match digits with
      | [] => exact absurd rfl hnil
      | [d] =>
          by_cases hd : d = .zero
          · exact .inl (congrArg (fun d => [d]) hd)
          · exact .inr ⟨d, [], rfl, hd⟩
      | d :: d' :: digits =>
          refine .inr ⟨d, d' :: digits, rfl, fun hd => ?_⟩
          exact hzero d' digits (congrArg (· :: d' :: digits) hd)

theorem readFraction_eq_ok {atEnd : Cause} {text rest : List Char} {digits : List Digit}
    (h : readFraction atEnd text = .ok (digits, rest)) :
    text = fractionText digits ++ rest := by
  unfold readFraction at h
  split at h
  · split at h
    · cases h
    · next digits rest hnil htake =>
        cases h
        rw [eq_append_of_takeDigits htake]
        cases digits with
        | nil => exact absurd rfl hnil
        | cons d digits => rfl
  · cases h
    rfl

theorem readSign_spec (text : List Char) :
    ∃ sign, (if (readSign text).1 then sign = ['-'] else sign = [] ∨ sign = ['+']) ∧
      text = sign ++ (readSign text).2 := by
  unfold readSign
  split
  · exact ⟨['-'], rfl, rfl⟩
  · exact ⟨['+'], .inr rfl, rfl⟩
  · exact ⟨[], .inl rfl, rfl⟩

theorem readExponent_digits {atEnd : Cause} {letter : Char} {text rest : List Char}
    {e : Option Exponent} (hletter : letter = 'e' ∨ letter = 'E')
    (h : (match takeDigits (readSign text).2 with
      | ([], _) => failForDigit atEnd (readSign text).2
      | (digits, rest) => .ok (some ⟨(readSign text).1, digits⟩, rest) : Reading _) =
        .ok (e, rest)) :
    ∃ written, exponentWrittenAs e written ∧ letter :: text = written ++ rest := by
  obtain ⟨sign, hsign, htext⟩ := readSign_spec text
  split at h
  · cases h
  · next digits rest hnil htake =>
      cases h
      have hwritten : Exponent.WrittenAs ⟨(readSign text).1, digits⟩
          (letter :: (sign ++ digits.map Digit.toChar)) :=
        ⟨hnil, letter, sign, hletter, hsign, rfl⟩
      refine ⟨_, hwritten, ?_⟩
      rw [List.cons_append, List.append_assoc, ← eq_append_of_takeDigits htake, ← htext]

theorem readExponent_eq_ok {atEnd : Cause} {text rest : List Char} {e : Option Exponent}
    (h : readExponent atEnd text = .ok (e, rest)) :
    ∃ written, exponentWrittenAs e written ∧ text = written ++ rest := by
  unfold readExponent at h
  split at h
  · exact readExponent_digits (.inl rfl) h
  · exact readExponent_digits (.inr rfl) h
  · cases h
    exact ⟨[], rfl, rfl⟩

theorem readNumeral_eq_ok {atEnd : Cause} {text rest : List Char} {n : Numeral}
    (h : readNumeral atEnd text = .ok (n, rest)) :
    ∃ written, n.WrittenAs written ∧ text = written ++ rest := by
  obtain ⟨⟨whole, text₁⟩, hwhole, h⟩ := bind_eq_ok.1 h
  obtain ⟨⟨fraction, text₂⟩, hfraction, h⟩ := bind_eq_ok.1 h
  obtain ⟨⟨exponent, text₃⟩, hexponent, h⟩ := bind_eq_ok.1 h
  cases h
  obtain ⟨hgrammatical, htext⟩ := readWhole_eq_ok hwhole
  obtain ⟨written, hwritten, htext₂⟩ := readExponent_eq_ok hexponent
  refine ⟨_, ⟨hgrammatical, written, hwritten, rfl⟩, ?_⟩
  simp only [List.append_assoc]
  rw [← htext₂, ← readFraction_eq_ok hfraction, ← htext]
  exact readMinus_spec text

/-! ## Strings -/

theorem hexUnit?_eq_some {text rest : List Char} {n : Nat} (h : hexUnit? text = some (n, rest)) :
    ∃ a b c d, hexUnit? [a, b, c, d] = some (n, []) ∧ text = a :: b :: c :: d :: rest := by
  unfold hexUnit? at h
  split at h
  · next a b c d rest' =>
      simp only [bind, pure, Option.bind_eq_some_iff, Option.some.injEq, Prod.mk.injEq] at h
      obtain ⟨a', ha, b', hb, c', hc, d', hd, hn, rfl⟩ := h
      refine ⟨a, b, c, d, ?_, rfl⟩
      simp only [hexUnit?, bind, pure, Option.bind_eq_some_iff, Option.some.injEq, Prod.mk.injEq]
      exact ⟨a', ha, b', hb, c', hc, d', hd, hn, trivial⟩
  · cases h

theorem readHexUnit_eq_ok {text rest : List Char} {n : Nat}
    (h : readHexUnit text = .ok (n, rest)) :
    ∃ a b c d, hexUnit? [a, b, c, d] = some (n, []) ∧ text = a :: b :: c :: d :: rest := by
  unfold readHexUnit at h
  split at h
  · next unit rest' hunit =>
      cases h
      exact hexUnit?_eq_some hunit
  · split at h <;> cases h

/-- What stands for `c` behind a backslash. -/
def SpellsEscape (c : Char) (body : List Char) : Prop :=
  ∀ {cs text : List Char}, Spells cs text → Spells (c :: cs) ('\\' :: (body ++ text))

theorem readUnicodeEscape_eq_ok {text rest : List Char} {c : Char}
    (h : readUnicodeEscape text = .ok (c, rest)) :
    ∃ body, SpellsEscape c ('u' :: body) ∧ text = body ++ rest := by
  obtain ⟨⟨n, text₁⟩, hunit, hrest⟩ := bind_eq_ok.1 h
  obtain ⟨a₁, a₂, a₃, a₄, hn, rfl⟩ := readHexUnit_eq_ok hunit
  dsimp only at hrest
  split at hrest
  · cases hrest
  · next htrailing =>
      split at hrest
      · next hleading =>
          cases hrest
          refine ⟨[a₁, a₂, a₃, a₄], fun hcs => ?_, rfl⟩
          exact .unit hn (by simpa using hleading) (by simpa using htrailing) hcs
      · next hleading =>
          split at hrest
          · next text₂ =>
              obtain ⟨⟨n', text₃⟩, hunit', hpair⟩ := bind_eq_ok.1 hrest
              obtain ⟨b₁, b₂, b₃, b₄, hn', rfl⟩ := readHexUnit_eq_ok hunit'
              dsimp only at hpair
              split at hpair
              · next htrailing' =>
                  obtain ⟨rfl, rfl⟩ := Prod.mk.inj (Except.ok.inj hpair)
                  refine ⟨[a₁, a₂, a₃, a₄, '\\', 'u', b₁, b₂, b₃, b₄], fun hcs => ?_, rfl⟩
                  exact .pair hn (by simpa using hleading) hn' htrailing' hcs
              · cases hpair
          · cases hrest
          · cases hrest

theorem readEscape_eq_ok {text rest : List Char} {c : Char}
    (h : readEscape text = .ok (c, rest)) :
    ∃ body, SpellsEscape c body ∧ text = body ++ rest := by
  unfold readEscape at h
  split at h
  · cases h
  · obtain ⟨body, hbody, rfl⟩ := readUnicodeEscape_eq_ok h
    exact ⟨'u' :: body, hbody, rfl⟩
  · next letter text hu =>
      split at h
      · next c' hc =>
          cases h
          exact ⟨[letter], fun hcs => .escape hc hcs, rfl⟩
      · cases h

theorem isPlain_of_not_isControl {c : Char} (hquote : c ≠ '"') (hslash : c ≠ '\\')
    (hcontrol : ¬ isControl c = true) : isPlain c := by
  simp only [isPlain, decide_eq_true_eq]
  exact ⟨hquote, hslash, by simpa using hcontrol⟩

theorem readStringFrom_eq_ok {fuel : Nat} {text rest cs : List Char}
    (h : readStringFrom fuel text = .ok (cs, rest)) :
    ∃ body, Spells cs body ∧ text = body ++ '"' :: rest := by
  induction fuel generalizing text cs with
  | zero => cases h
  | succ fuel ih =>
      unfold readStringFrom at h
      split at h
      · cases h
      · cases h
        exact ⟨[], .nil, rfl⟩
      · obtain ⟨⟨c, text₁⟩, hc, h⟩ := bind_eq_ok.1 h
        obtain ⟨⟨cs, text₂⟩, hcs, h⟩ := bind_eq_ok.1 h
        cases h
        obtain ⟨escape, hescape, rfl⟩ := readEscape_eq_ok hc
        obtain ⟨body, hbody, rfl⟩ := ih hcs
        exact ⟨'\\' :: (escape ++ body), hescape hbody, by simp⟩
      · next c text hquote hslash =>
          split at h
          · cases h
          · next hcontrol =>
              obtain ⟨⟨cs, text₁⟩, hcs, h⟩ := bind_eq_ok.1 h
              cases h
              obtain ⟨body, hbody, rfl⟩ := ih hcs
              exact ⟨c :: body, .plain (isPlain_of_not_isControl hquote hslash hcontrol) hbody, rfl⟩

theorem readString_eq_ok {text rest : List Char} {s : String}
    (h : readString text = .ok (s, rest)) :
    ∃ body, Spells s.toList body ∧ text = body ++ '"' :: rest := by
  obtain ⟨⟨cs, rest'⟩, hcs, h⟩ := bind_eq_ok.1 h
  cases h
  rw [String.toList_ofList]
  exact readStringFrom_eq_ok hcs

/-! ## Strings that are passed over -/

/-- What may stand behind a backslash, whether or not it stands for a character. -/
def EscapeBody (body : List Char) : Prop :=
  ∀ {text : List Char}, StringBody text → StringBody ('\\' :: (body ++ text))

theorem passEscape_eq_ok {text rest : List Char} (h : passEscape text = .ok rest) :
    ∃ body, EscapeBody body ∧ text = body ++ rest := by
  unfold passEscape at h
  split at h
  · cases h
  · next text =>
      obtain ⟨⟨n, rest'⟩, hunit, rfl⟩ := map_eq_ok.1 h
      obtain ⟨a, b, c, d, hn, rfl⟩ := readHexUnit_eq_ok hunit
      exact ⟨['u', a, b, c, d], fun htext => .unit (Option.isSome_of_eq_some hn) htext, rfl⟩
  · next letter text hu =>
      split at h
      · next hletter =>
          cases h
          exact ⟨[letter], fun htext => .escape hletter htext, rfl⟩
      · cases h

theorem passStringFrom_eq_ok {fuel : Nat} {text rest : List Char}
    (h : passStringFrom fuel text = .ok rest) :
    ∃ body, StringBody body ∧ text = body ++ '"' :: rest := by
  induction fuel generalizing text with
  | zero => cases h
  | succ fuel ih =>
      unfold passStringFrom at h
      split at h
      · cases h
      · cases h
        exact ⟨[], .nil, rfl⟩
      · obtain ⟨text₁, hescape, hstring⟩ := bind_eq_ok.1 h
        obtain ⟨body, hrest, rfl⟩ := ih hstring
        obtain ⟨escape, hbody, rfl⟩ := passEscape_eq_ok hescape
        exact ⟨'\\' :: (escape ++ body), hbody hrest, by simp⟩
      · next c text hquote hslash =>
          split at h
          · cases h
          · next hcontrol =>
              obtain ⟨body, hbody, rfl⟩ := ih h
              exact ⟨c :: body, .plain (isPlain_of_not_isControl hquote hslash hcontrol) hbody, rfl⟩

theorem passString_eq_ok {text rest : List Char} (h : passString text = .ok rest) :
    ∃ body, StringBody body ∧ text = body ++ '"' :: rest :=
  passStringFrom_eq_ok h

end Json

end LensCalibration
