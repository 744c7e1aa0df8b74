import LensCalibration.Proofs.Json.SyntaxTree

/-!
# Passing over a value

A value that no field asks for is passed over whole, whatever it is, and nothing behind it is
touched.
-/

namespace LensCalibration.Json

open Decimal

/-! ## How a value begins -/

def SyntaxTree.BeginsWith : SyntaxTree → Char → Prop
  | .null, c => c = 'n'
  | .boolean true, c => c = 't'
  | .boolean false, c => c = 'f'
  | .number _, c => startsNumeral c = true
  | .string, c => c = '"'
  | .array _, c => c = '['
  | .object _, c => c = '{'

theorem startsNumeral_toChar (d : Digit) : startsNumeral d.toChar = true := by
  simp [startsNumeral]

theorem exists_cons_of_numeral {n : Numeral} {text : List Char} (h : n.WrittenAs text) :
    ∃ c rest, text = c :: rest ∧ startsNumeral c = true := by
  obtain ⟨hwhole, e, -, rfl⟩ := h
  obtain ⟨d, digits, hcons⟩ := hwhole.head
  rw [hcons]
  cases n.negative with
  | true => exact ⟨'-', _, rfl, rfl⟩
  | false => exact ⟨d.toChar, _, rfl, startsNumeral_toChar d⟩

theorem SyntaxTree.WrittenAs.exists_cons {s : SyntaxTree} {text : List Char}
    (h : s.WrittenAs text) : ∃ c rest, text = c :: rest ∧ s.BeginsWith c := by
  cases s with
  | null => exact ⟨_, _, h, rfl⟩
  | boolean value =>
      cases value with
      | true => exact ⟨_, _, h, rfl⟩
      | false => exact ⟨_, _, h, rfl⟩
  | number n => exact exists_cons_of_numeral h
  | string =>
      obtain ⟨body, -, rfl⟩ := h
      exact ⟨_, _, rfl, rfl⟩
  | array elements =>
      obtain ⟨inside, -, rfl⟩ := h
      exact ⟨_, _, rfl, rfl⟩
  | object members =>
      obtain ⟨inside, -, rfl⟩ := h
      exact ⟨_, _, rfl, rfl⟩

/-- A character at which a reader neither skips nor stops. -/
def BeginsValue (c : Char) : Prop :=
  isBlank c = false ∧ c ≠ ',' ∧ c ≠ ']' ∧ c ≠ '}'

theorem beginsValue_of_startsNumeral {c : Char} (h : startsNumeral c = true) : BeginsValue c := by
  refine ⟨?_, ?_, ?_, ?_⟩
  · cases hblank : isBlank c with
    | false => rfl
    | true =>
        simp only [isBlank, Bool.or_eq_true, decide_eq_true_eq] at hblank
        obtain ((rfl | rfl) | rfl) | rfl := hblank <;> cases h
  all_goals
    rintro rfl
    cases h

theorem SyntaxTree.BeginsWith.beginsValue {s : SyntaxTree} {c : Char} (h : s.BeginsWith c) :
    BeginsValue c := by
  cases s with
  | number n => exact beginsValue_of_startsNumeral h
  | boolean value =>
      cases value <;>
      · cases h
        exact ⟨rfl, by decide, by decide, by decide⟩
  | _ =>
      cases h
      exact ⟨rfl, by decide, by decide, by decide⟩

theorem SyntaxTree.BeginsWith.isArray {s : SyntaxTree} (h : s.BeginsWith '[') :
    ∃ elements, s = .array elements := by
  cases s with
  | array elements => exact ⟨elements, rfl⟩
  | boolean value => cases value <;> cases h
  | _ => cases h

theorem SyntaxTree.BeginsWith.isObject {s : SyntaxTree} (h : s.BeginsWith '{') :
    ∃ members, s = .object members := by
  cases s with
  | object members => exact ⟨members, rfl⟩
  | boolean value => cases value <;> cases h
  | _ => cases h

theorem skipBlanks_value {s : SyntaxTree} {blanks text : List Char} (hblanks : Blanks blanks)
    (h : s.WrittenAs text) (rest : List Char) :
    skipBlanks (blanks ++ (text ++ rest)) = text ++ rest := by
  obtain ⟨c, text, rfl, hc⟩ := h.exists_cons
  rw [skipBlanks_append hblanks]
  exact skipBlanks_cons hc.beginsValue.1 _

/-! ## What follows a value -/

theorem Separates.endsNumeral {separator : List Char} (h : Separates false separator)
    (rest : List Char) : EndsNumeral (separator ++ rest) := by
  obtain ⟨before, after, hbefore, -, rfl⟩ := h
  rw [List.append_assoc]
  exact endsNumeral_append hbefore (endsNumeral_cons (by decide) _)

theorem ElementsWrittenAs.endsNumeral {elements : List SyntaxTree} {text rest : List Char}
    (h : ElementsWrittenAs false elements text) (hrest : EndsNumeral rest) :
    EndsNumeral (text ++ rest) := by
  cases elements with
  | nil => exact endsNumeral_append h hrest
  | cons element others =>
      obtain ⟨separator, value, tail, hseparator, -, -, rfl⟩ := h
      simp only [List.append_assoc]
      exact hseparator.endsNumeral _

theorem MembersWrittenAs.endsNumeral {members : List MemberTree} {text rest : List Char}
    (h : MembersWrittenAs false members text) (hrest : EndsNumeral rest) :
    EndsNumeral (text ++ rest) := by
  cases members with
  | nil => exact endsNumeral_append h hrest
  | cons member others =>
      obtain ⟨separator, body, before, after, content, tail, hseparator, -, -, -, -, -, rfl⟩ := h
      simp only [List.append_assoc]
      exact hseparator.endsNumeral _

/-! ## Keys -/

theorem passColon_append {blanks : List Char} (h : Blanks blanks) (rest : List Char) :
    passColon (blanks ++ ':' :: rest) = .ok rest := by
  simp only [passColon, skipBlanks_append h]
  rfl

theorem passKey_append {blanks body before : List Char} (hblanks : Blanks blanks)
    (hbody : StringBody body) (hbefore : Blanks before) (rest : List Char) :
    passKey (blanks ++ '"' :: (body ++ '"' :: (before ++ ':' :: rest))) = .ok rest := by
  have hskip (text : List Char) : skipBlanks (blanks ++ '"' :: text) = '"' :: text := by
    rw [skipBlanks_append hblanks]
    rfl
  simp only [passKey, hskip, passString_append hbody, bind, Except.bind, passColon_append hbefore]

/-! ## Values -/

theorem passValueFrom_array (fuel : Nat) {element : SyntaxTree} {value rest : List Char}
    {blanks : List Char} (hblanks : Blanks blanks) (h : element.WrittenAs value) :
    passValueFrom (fuel + 1) ('[' :: (blanks ++ (value ++ rest))) =
      (passValueFrom fuel (value ++ rest)).bind (passElementsFrom fuel) := by
  obtain ⟨c, value, rfl, hc⟩ := h.exists_cons
  have hskip := skipBlanks_value hblanks h rest
  rw [passValueFrom, skipBlanks_cons rfl]
  simp only [hskip]
  rw [List.cons_append]
  split
  · next heq => cases heq
  · next heq =>
      cases heq
      exact absurd rfl hc.beginsValue.2.2.1
  · rfl

theorem passValueFrom_object (fuel : Nat) {blanks rest : List Char} (hblanks : Blanks blanks) :
    passValueFrom (fuel + 1) ('{' :: (blanks ++ '"' :: rest)) =
      ((passKey ('"' :: rest)).bind (passValueFrom fuel)).bind (passMembersFrom fuel) := by
  have hskip : skipBlanks (blanks ++ '"' :: rest) = '"' :: rest := by
    rw [skipBlanks_append hblanks]
    rfl
  rw [passValueFrom, skipBlanks_cons rfl]
  simp only [hskip]
  change ((passKey ('"' :: rest)).bind fun text =>
    (passValueFrom fuel text).bind (passMembersFrom fuel)) = _
  cases passKey ('"' :: rest) <;> rfl

theorem passValueFrom_number (fuel : Nat) {n : Numeral} {text rest : List Char}
    (h : n.WrittenAs text) (hrest : EndsNumeral rest) :
    passValueFrom (fuel + 1) (text ++ rest) = .ok rest := by
  have hread := readNumeral_append .invalidNumber h hrest
  obtain ⟨c, text, rfl, hc⟩ := exists_cons_of_numeral h
  rw [passValueFrom, List.cons_append, skipBlanks_cons (beginsValue_of_startsNumeral hc).1]
  split
  · next heq => cases heq
  iterate 6
    · next heq =>
        cases heq
        cases hc
  · next heq =>
      cases heq
      rw [if_pos hc, ← List.cons_append, hread]
      rfl

mutual

/-- Fuel beyond the length of the text is enough. -/
theorem passValueFrom_append : ∀ (s : SyntaxTree) {text blanks rest : List Char} {fuel : Nat},
    s.WrittenAs text → Blanks blanks → EndsNumeral rest → text.length < fuel →
      passValueFrom fuel (blanks ++ (text ++ rest)) = .ok rest
  | s, text, blanks, rest, 0, h, hblanks, hrest, hfuel => absurd hfuel (Nat.not_lt_zero _)
  | s, text, blanks, rest, fuel + 1, h, hblanks, hrest, hfuel => by
      have hskip : passValueFrom (fuel + 1) (blanks ++ (text ++ rest)) =
          passValueFrom (fuel + 1) (text ++ rest) := by
        have hnone := skipBlanks_value blanks_nil h rest
        rw [passValueFrom, passValueFrom, skipBlanks_value hblanks h]
        rw [List.nil_append] at hnone
        rw [hnone]
      rw [hskip]
      match s, h with
      | .null, h =>
          obtain rfl := h
          exact readWord_append _ _
      | .boolean true, h =>
          obtain rfl := h
          exact readWord_append _ _
      | .boolean false, h =>
          obtain rfl := h
          exact readWord_append _ _
      | .number n, h => exact passValueFrom_number fuel h hrest
      | .string, h =>
          obtain ⟨body, hbody, rfl⟩ := h
          simp only [List.cons_append, List.append_assoc]
          exact passString_append hbody rest
      | .array [], h =>
          obtain ⟨inside, hinside, rfl⟩ := h
          simp only [List.cons_append, List.append_assoc, List.nil_append]
          rw [passValueFrom, skipBlanks_cons rfl]
          simp only [skipBlanks_append hinside]
          rfl
      | .array (element :: others), h =>
          obtain ⟨inside, ⟨separator, value, tail, hseparator, hvalue, htail, rfl⟩, rfl⟩ := h
          simp only [List.length_cons, List.length_append] at hfuel
          simp only [List.cons_append, List.append_assoc, List.nil_append]
          rw [passValueFrom_array fuel hseparator hvalue]
          have hfirst : passValueFrom fuel _ = _ := passValueFrom_append element hvalue
            blanks_nil (htail.endsNumeral (endsNumeral_cons (c := ']') rfl rest)) (by omega)
          rw [List.nil_append] at hfirst
          rw [hfirst]
          exact passElementsFrom_append others htail (by omega)
      | .object [], h =>
          obtain ⟨inside, hinside, rfl⟩ := h
          simp only [List.cons_append, List.append_assoc, List.nil_append]
          rw [passValueFrom, skipBlanks_cons rfl]
          simp only [skipBlanks_append hinside]
          rfl
      | .object ((key, value) :: others), h =>
          obtain ⟨inside, ⟨separator, body, before, after, content, tail, hseparator, hbody,
            hbefore, hafter, hcontent, htail, rfl⟩, rfl⟩ := h
          simp only [List.length_cons, List.length_append] at hfuel
          simp only [List.cons_append, List.append_assoc, List.nil_append]
          rw [passValueFrom_object fuel hseparator]
          have hkey := passKey_append blanks_nil hbody.stringBody hbefore
            (after ++ (content ++ (tail ++ '}' :: rest)))
          rw [List.nil_append] at hkey
          rw [hkey]
          have hfirst : passValueFrom fuel _ = _ := passValueFrom_append value hcontent hafter
            (htail.endsNumeral (endsNumeral_cons (c := '}') rfl rest)) (by omega)
          simp only [Except.bind, hfirst]
          exact passMembersFrom_append others htail (by omega)

theorem passElementsFrom_append : ∀ (elements : List SyntaxTree) {text rest : List Char}
    {fuel : Nat}, ElementsWrittenAs false elements text → text.length < fuel →
      passElementsFrom fuel (text ++ ']' :: rest) = .ok rest
  | elements, text, rest, 0, h, hfuel => absurd hfuel (Nat.not_lt_zero _)
  | [], text, rest, fuel + 1, h, hfuel => by
      rw [passElementsFrom, skipBlanks_append h]
      rfl
  | element :: others, text, rest, fuel + 1, h, hfuel => by
      obtain ⟨separator, value, tail, ⟨before, after, hbefore, hafter, rfl⟩, hvalue, htail, rfl⟩ :=
        h
      simp only [List.length_append, List.length_cons] at hfuel
      simp only [List.append_assoc, List.cons_append]
      rw [passElementsFrom, skipBlanks_append hbefore, skipBlanks_cons rfl]
      have hfirst : passValueFrom fuel _ = _ := passValueFrom_append element hvalue hafter
        (htail.endsNumeral (endsNumeral_cons (c := ']') rfl rest)) (by omega)
      simp only [hfirst, bind, Except.bind]
      exact passElementsFrom_append others htail (by omega)

theorem passMembersFrom_append : ∀ (members : List MemberTree) {text rest : List Char}
    {fuel : Nat}, MembersWrittenAs false members text → text.length < fuel →
      passMembersFrom fuel (text ++ '}' :: rest) = .ok rest
  | members, text, rest, 0, h, hfuel => absurd hfuel (Nat.not_lt_zero _)
  | [], text, rest, fuel + 1, h, hfuel => by
      rw [passMembersFrom, skipBlanks_append h]
      rfl
  | (key, value) :: others, text, rest, fuel + 1, h, hfuel => by
      obtain ⟨separator, body, before, after, content, tail, ⟨lead, gap, hlead, hgap, rfl⟩, hbody,
        hbefore, hafter, hcontent, htail, rfl⟩ := h
      simp only [List.length_append, List.length_cons] at hfuel
      simp only [List.append_assoc, List.cons_append]
      rw [passMembersFrom, skipBlanks_append hlead, skipBlanks_cons rfl]
      have hkey := passKey_append hgap hbody.stringBody hbefore
        (after ++ (content ++ (tail ++ '}' :: rest)))
      have hfirst : passValueFrom fuel _ = _ := passValueFrom_append value hcontent hafter
        (htail.endsNumeral (endsNumeral_cons (c := '}') rfl rest)) (by omega)
      simp only [hkey, hfirst, bind, Except.bind]
      exact passMembersFrom_append others htail (by omega)

end

theorem passValue_append {s : SyntaxTree} {text blanks rest : List Char} (h : s.WrittenAs text)
    (hblanks : Blanks blanks) (hrest : EndsNumeral rest) :
    passValue (blanks ++ (text ++ rest)) = .ok rest := by
  apply passValueFrom_append s h hblanks hrest
  simp only [List.length_append]
  omega

end LensCalibration.Json
