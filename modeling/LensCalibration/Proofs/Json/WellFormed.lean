import LensCalibration.Proofs.Json.Reading

/-!
# Only well-formed texts are read

What is read or passed over is the text of some syntax tree.  Every text that is decoded therefore
has a tree, and by what is said of texts and trees, it is the tree that decides on the value.
-/

namespace LensCalibration.Json

open Decimal

/-- The text begins with blanks and a value, and goes on with the rest. -/
def BeginsWithValue (text rest : List Char) : Prop :=
  ∃ blanks inside, ∃ s : SyntaxTree, Blanks blanks ∧ s.WrittenAs inside ∧
    text = blanks ++ (inside ++ rest)

theorem BeginsWithValue.of_skipBlanks {text rest inside : List Char} {s : SyntaxTree}
    (hs : s.WrittenAs inside) (h : skipBlanks text = inside ++ rest) :
    BeginsWithValue text rest := by
  obtain ⟨blanks, hblanks, htext⟩ := exists_blanks text
  exact ⟨blanks, inside, s, hblanks, hs, h ▸ htext⟩

theorem exists_blanks_of_skipBlanks {text rest : List Char} (h : skipBlanks text = rest) :
    ∃ blanks, Blanks blanks ∧ text = blanks ++ rest := by
  obtain ⟨blanks, hblanks, htext⟩ := exists_blanks text
  exact ⟨blanks, hblanks, h ▸ htext⟩

theorem blanks_append {blanks blanks' : List Char} (h : Blanks blanks) (h' : Blanks blanks') :
    Blanks (blanks ++ blanks') := by
  intro c hc
  rcases List.mem_append.1 hc with hc | hc
  · exact h c hc
  · exact h' c hc

theorem Separates.append {first : Bool} {separator blanks : List Char}
    (h : Separates first separator) (hblanks : Blanks blanks) :
    Separates first (separator ++ blanks) := by
  cases first with
  | true => exact blanks_append h hblanks
  | false =>
      obtain ⟨before, after, hbefore, hafter, rfl⟩ := h
      exact ⟨before, after ++ blanks, hbefore, blanks_append hafter hblanks, by simp⟩

/-! ## Values that are passed over -/

theorem passColon_eq_ok {text rest : List Char} (h : passColon text = .ok rest) :
    ∃ blanks, Blanks blanks ∧ text = blanks ++ ':' :: rest := by
  unfold passColon at h
  split at h
  · cases h
  · next rest hskip =>
      cases h
      exact exists_blanks_of_skipBlanks hskip
  · cases h

theorem passKey_eq_ok {text rest : List Char} (h : passKey text = .ok rest) :
    ∃ lead body before, Blanks lead ∧ StringBody body ∧ Blanks before ∧
      text = lead ++ '"' :: (body ++ '"' :: (before ++ ':' :: rest)) := by
  unfold passKey at h
  split at h
  · cases h
  · next text₁ hskip =>
      obtain ⟨text₂, hstring, hcolon⟩ := bind_eq_ok.1 h
      obtain ⟨lead, hlead, rfl⟩ := exists_blanks_of_skipBlanks hskip
      obtain ⟨body, hbody, rfl⟩ := passString_eq_ok hstring
      obtain ⟨before, hbefore, rfl⟩ := passColon_eq_ok hcolon
      exact ⟨lead, body, before, hlead, hbody, hbefore, rfl⟩
  · cases h

/-- A value with its key, a separator before it and members behind it. -/
theorem BeginsWithValue.exists_member {first : Bool} {key : Option String}
    {separator body before text rest : List Char} (h : BeginsWithValue text rest)
    (hseparator : Separates first separator) (hkey : KeyWrittenAs key body)
    (hbefore : Blanks before) :
    ∃ s front, separator ++ '"' :: (body ++ '"' :: (before ++ ':' :: text)) = front ++ rest ∧
      ∀ {others : List MemberTree} {tail : List Char}, MembersWrittenAs false others tail →
        MembersWrittenAs first ((key, s) :: others) (front ++ tail) := by
  obtain ⟨after, inside, s, hafter, hs, rfl⟩ := h
  refine ⟨s, separator ++ '"' :: (body ++ '"' :: (before ++ ':' :: (after ++ inside))), by simp,
    fun htail => ?_⟩
  exact ⟨separator, body, before, after, inside, _, hseparator, hkey, hbefore, hafter, hs, htail,
    by simp⟩

/-- The member behind a separator that is passed over. -/
theorem exists_member_of_passKey {first : Bool} {separator text text₁ rest : List Char}
    (hseparator : Separates first separator) (hkey : passKey text = .ok text₁)
    (hvalue : BeginsWithValue text₁ rest) :
    ∃ member front, separator ++ text = front ++ rest ∧
      ∀ {others : List MemberTree} {tail : List Char}, MembersWrittenAs false others tail →
        MembersWrittenAs first (member :: others) (front ++ tail) := by
  obtain ⟨lead, body, before, hlead, hbody, hbefore, rfl⟩ := passKey_eq_ok hkey
  obtain ⟨key, hkey⟩ := exists_keyWrittenAs hbody
  obtain ⟨s, front, hfront, hmember⟩ :=
    hvalue.exists_member (hseparator.append hlead) hkey hbefore
  rw [List.append_assoc] at hfront
  exact ⟨(key, s), front, hfront, hmember⟩

section

variable {text text₁ rest inside : List Char}

theorem BeginsWithValue.array {elements : List SyntaxTree} (hskip : skipBlanks text = '[' :: text₁)
    (helements : ElementsWrittenAs true elements inside) (htext : text₁ = inside ++ ']' :: rest) :
    BeginsWithValue text rest :=
  .of_skipBlanks (s := .array elements) ⟨inside, helements, rfl⟩ (hskip.trans (by simp [htext]))

theorem BeginsWithValue.object {members : List MemberTree} (hskip : skipBlanks text = '{' :: text₁)
    (hmembers : MembersWrittenAs true members inside) (htext : text₁ = inside ++ '}' :: rest) :
    BeginsWithValue text rest :=
  .of_skipBlanks (s := .object members) ⟨inside, hmembers, rfl⟩ (hskip.trans (by simp [htext]))

end

mutual

theorem passValueFrom_eq_ok : ∀ {fuel : Nat} {text rest : List Char},
    passValueFrom fuel text = .ok rest → BeginsWithValue text rest
  | 0, _, _, h => by cases h
  | fuel + 1, text, rest, h => by
      rw [passValueFrom] at h
      split at h
      · cases h
      · next hskip =>
          exact .of_skipBlanks (s := .null) rfl (hskip.trans (by rw [eq_append_of_readWord h]; rfl))
      · next hskip =>
          exact .of_skipBlanks (s := .boolean true) rfl
            (hskip.trans (by rw [eq_append_of_readWord h]; rfl))
      · next hskip =>
          exact .of_skipBlanks (s := .boolean false) rfl
            (hskip.trans (by rw [eq_append_of_readWord h]; rfl))
      · next hskip =>
          obtain ⟨body, hbody, rfl⟩ := passString_eq_ok h
          exact .of_skipBlanks (s := .string) ⟨body, hbody, rfl⟩ (hskip.trans (by simp))
      · next text₁ hskip =>
          split at h
          · cases h
          · next hend =>
              cases h
              obtain ⟨blanks, hblanks, htext₁⟩ := exists_blanks_of_skipBlanks hend
              have hempty : ElementsWrittenAs true [] blanks := hblanks
              exact .array hskip hempty htext₁
          · obtain ⟨text₂, hvalue, helements⟩ := bind_eq_ok.1 h
            obtain ⟨lead, hlead, htext₁⟩ := exists_blanks text₁
            obtain ⟨blanks, inside, s, hblanks, hs, hvalue⟩ := passValueFrom_eq_ok hvalue
            obtain ⟨elements, tail, htail, rfl⟩ := passElementsFrom_eq_ok helements
            have hall : ElementsWrittenAs true (s :: elements) (lead ++ blanks ++ inside ++ tail) :=
              ⟨lead ++ blanks, inside, tail, blanks_append hlead hblanks, hs, htail, rfl⟩
            exact .array hskip hall (by rw [htext₁, hvalue]; simp)
      · next text₁ hskip =>
          split at h
          · cases h
          · next hend =>
              cases h
              obtain ⟨blanks, hblanks, htext₁⟩ := exists_blanks_of_skipBlanks hend
              have hempty : MembersWrittenAs true [] blanks := hblanks
              exact .object hskip hempty htext₁
          · obtain ⟨text₂, hkey, h⟩ := bind_eq_ok.1 h
            obtain ⟨text₃, hvalue, hmembers⟩ := bind_eq_ok.1 h
            obtain ⟨lead, hlead, htext₁⟩ := exists_blanks text₁
            have hseparator : Separates true lead := hlead
            obtain ⟨member, front, hfront, hmember⟩ :=
              exists_member_of_passKey hseparator hkey (passValueFrom_eq_ok hvalue)
            obtain ⟨members, tail, htail, rfl⟩ := passMembersFrom_eq_ok hmembers
            exact .object hskip (hmember htail) (by rw [htext₁, hfront]; simp)
      · next c text₁ _ _ _ _ _ _ hskip =>
          split at h
          · obtain ⟨⟨n, _⟩, hn, rfl⟩ := map_eq_ok.1 h
            obtain ⟨written, hwritten, htext⟩ := readNumeral_eq_ok hn
            exact .of_skipBlanks (s := .number n) hwritten (hskip.trans htext)
          · cases h

theorem passElementsFrom_eq_ok : ∀ {fuel : Nat} {text rest : List Char},
    passElementsFrom fuel text = .ok rest →
    ∃ elements inside, ElementsWrittenAs false elements inside ∧ text = inside ++ ']' :: rest
  | 0, _, _, h => by cases h
  | fuel + 1, text, rest, h => by
      rw [passElementsFrom] at h
      split at h
      · cases h
      · next hskip =>
          cases h
          obtain ⟨blanks, hblanks, rfl⟩ := exists_blanks_of_skipBlanks hskip
          exact ⟨[], blanks, hblanks, rfl⟩
      · next text₁ hskip =>
          obtain ⟨text₂, hvalue, helements⟩ := bind_eq_ok.1 h
          obtain ⟨lead, hlead, rfl⟩ := exists_blanks_of_skipBlanks hskip
          obtain ⟨blanks, inside, s, hblanks, hs, rfl⟩ := passValueFrom_eq_ok hvalue
          obtain ⟨elements, tail, htail, rfl⟩ := passElementsFrom_eq_ok helements
          exact ⟨s :: elements, _, ⟨lead ++ ',' :: blanks, inside, tail,
            ⟨lead, blanks, hlead, hblanks, rfl⟩, hs, htail, rfl⟩, by simp⟩
      · cases h

theorem passMembersFrom_eq_ok : ∀ {fuel : Nat} {text rest : List Char},
    passMembersFrom fuel text = .ok rest →
    ∃ members inside, MembersWrittenAs false members inside ∧ text = inside ++ '}' :: rest
  | 0, _, _, h => by cases h
  | fuel + 1, text, rest, h => by
      rw [passMembersFrom] at h
      split at h
      · cases h
      · next hskip =>
          cases h
          obtain ⟨blanks, hblanks, rfl⟩ := exists_blanks_of_skipBlanks hskip
          exact ⟨[], blanks, hblanks, rfl⟩
      · next text₁ hskip =>
          obtain ⟨text₂, hkey, h⟩ := bind_eq_ok.1 h
          obtain ⟨text₃, hvalue, hmembers⟩ := bind_eq_ok.1 h
          obtain ⟨lead, hlead, rfl⟩ := exists_blanks_of_skipBlanks hskip
          have hseparator : Separates false (lead ++ [',']) := ⟨lead, [], hlead, blanks_nil, rfl⟩
          obtain ⟨member, front, hfront, hmember⟩ :=
            exists_member_of_passKey hseparator hkey (passValueFrom_eq_ok hvalue)
          obtain ⟨members, tail, htail, rfl⟩ := passMembersFrom_eq_ok hmembers
          refine ⟨member :: members, _, hmember htail, ?_⟩
          simpa using hfront
      · cases h

end

/-! ## Scalars -/

section

variable {α : Type} {text rest : List Char} {value : α}

/-- A reader that takes nothing but values. -/
def ReadsValues (read : List Char → Reading (α × List Char)) : Prop :=
  ∀ {text rest : List Char} {value : α}, read text = .ok (value, rest) → BeginsWithValue text rest

theorem readAs_eq_ok {wanted : Wanted} {accept : Number → Except Cause α}
    (h : readAs wanted accept text = .ok (value, rest)) :
    BeginsWithValue text rest ∧ ∃ number, accept number = .ok value := by
  unfold readAs at h
  split at h
  · exact absurd h (mismatch_ne_ok _ _ _)
  · next hskip =>
      split at h
      · obtain ⟨⟨number, left⟩, hnumber, h⟩ := bind_eq_ok.1 h
        cases haccept : accept number with
        | error cause =>
            simp only [haccept] at h
            cases h
        | ok found =>
            simp only [haccept] at h
            cases h
            refine ⟨?_, number, haccept⟩
            obtain ⟨⟨n, left⟩, hnumeral, hvalue⟩ := bind_eq_ok.1 hnumber
            obtain ⟨written, hwritten, htext⟩ := readNumeral_eq_ok hnumeral
            dsimp only at hvalue
            split at hvalue
            · cases hvalue
              exact .of_skipBlanks (s := .number n) hwritten (hskip.trans htext)
            · cases hvalue
      · exact absurd h (mismatch_ne_ok _ _ _)

theorem readsValues_code (vocabulary : Vocabulary) : ReadsValues (readCode vocabulary) := by
  intro text rest entry h
  obtain ⟨⟨n, left⟩, hn, h⟩ := bind_eq_ok.1 h
  dsimp only at h
  split at h
  · cases h
    exact (readAs_eq_ok hn).1
  · cases h

theorem readsValues_map {β : Type} {read : List Char → Reading (α × List Char)} {f : α → β}
    (hread : ReadsValues read) :
    ReadsValues (fun text => do
      let (value, rest) ← read text
      return (f value, rest)) := by
  intro text rest value h
  obtain ⟨⟨found, left⟩, hfound, h⟩ := bind_eq_ok.1 h
  cases h
  exact hread hfound

end

/-! ## The steps of an array and of an object -/

theorem nextElement?_eq_some {first : Bool} {text next : List Char}
    (h : nextElement? first text = .ok (some next)) :
    ∃ separator, Separates first separator ∧ text = separator ++ next := by
  unfold nextElement? at h
  split at h
  · cases h
  · cases h
  · next c text₁ _ hskip =>
      obtain ⟨lead, hlead, rfl⟩ := exists_blanks_of_skipBlanks hskip
      split at h
      · next hfirst =>
          cases h
          subst hfirst
          exact ⟨lead, hlead, rfl⟩
      · next hfirst =>
          obtain rfl : first = false := by simpa using hfirst
          split at h
          · next hc =>
              split at h
              · cases h
              · cases h
              · cases h
                obtain ⟨gap, hgap, htext⟩ := exists_blanks text₁
                refine ⟨lead ++ ',' :: gap, ⟨lead, gap, hlead, hgap, rfl⟩, ?_⟩
                simpa [hc] using htext
          · cases h

theorem nextKey?_eq_some {first : Bool} {text next : List Char}
    (h : nextKey? first text = .ok (some next)) :
    ∃ separator, Separates first separator ∧ text = separator ++ '"' :: next := by
  unfold nextKey? at h
  split at h
  · cases h
  · cases h
  · next c text₁ _ hskip =>
      obtain ⟨lead, hlead, rfl⟩ := exists_blanks_of_skipBlanks hskip
      split at h
      · next hfirst =>
          subst hfirst
          split at h
          · next hc =>
              cases h
              exact ⟨lead, hlead, by rw [hc]⟩
          · cases h
      · next hfirst =>
          obtain rfl : first = false := by simpa using hfirst
          split at h
          · next hc =>
              split at h
              · cases h
              · next hquote =>
                  cases h
                  obtain ⟨gap, hgap, rfl⟩ := exists_blanks_of_skipBlanks hquote
                  exact ⟨lead ++ ',' :: gap, ⟨lead, gap, hlead, hgap, rfl⟩, by simp [hc]⟩
              · cases h
              · cases h
          · cases h

theorem enclose_eq_ok {α : Type} {bracket : Bracket} {inside : Reading (α × List Char)} {value : α}
    {rest : List Char} (h : bracket.enclose inside = .ok (value, rest)) :
    ∃ left, inside = .ok (value, left) ∧ bracket.close left = .ok rest := by
  unfold Bracket.enclose at h
  split at h
  · next value left =>
      obtain ⟨rest, hclose, h⟩ := map_eq_ok.1 h
      cases h
      exact ⟨left, rfl, hclose⟩
  · cases h
  · cases h

theorem close_square_eq_ok {text rest : List Char} (h : Bracket.square.close text = .ok rest) :
    ∃ blanks, Blanks blanks ∧ text = blanks ++ ']' :: rest := by
  unfold Bracket.close at h
  split at h
  · cases h
  · next hskip =>
      cases h
      exact exists_blanks_of_skipBlanks hskip
  · split at h <;> cases h
  all_goals contradiction

theorem close_curly_eq_ok {text rest : List Char} (h : Bracket.curly.close text = .ok rest) :
    ∃ blanks, Blanks blanks ∧ text = blanks ++ '}' :: rest := by
  unfold Bracket.close at h
  split at h
  all_goals first | contradiction | cases h
  all_goals exact exists_blanks_of_skipBlanks (by assumption)

/-! ## Arrays and objects -/

/-- The front of a text is the inside of an array, as far as the blanks before its end. -/
def IsInsideOfArray (first : Bool) (text rest : List Char) : Prop :=
  ∃ elements front, text = front ++ rest ∧
    ∀ {blanks : List Char}, Blanks blanks → ElementsWrittenAs first elements (front ++ blanks)

def IsInsideOfObject (first : Bool) (text rest : List Char) : Prop :=
  ∃ members front, text = front ++ rest ∧
    ∀ {blanks : List Char}, Blanks blanks → MembersWrittenAs first members (front ++ blanks)

theorem isInsideOfArray_nil (first : Bool) (text : List Char) : IsInsideOfArray first text text :=
  ⟨[], [], rfl, fun hblanks => hblanks⟩

theorem isInsideOfObject_nil (first : Bool) (text : List Char) :
    IsInsideOfObject first text text :=
  ⟨[], [], rfl, fun hblanks => hblanks⟩

theorem IsInsideOfArray.cons {first : Bool} {separator text text₁ rest : List Char}
    (hseparator : Separates first separator) (hvalue : BeginsWithValue text text₁)
    (hrest : IsInsideOfArray false text₁ rest) :
    IsInsideOfArray first (separator ++ text) rest := by
  obtain ⟨blanks, inside, s, hblanks, hs, rfl⟩ := hvalue
  obtain ⟨elements, front, rfl, helements⟩ := hrest
  refine ⟨s :: elements, separator ++ blanks ++ inside ++ front, by simp, fun hend => ?_⟩
  exact ⟨separator ++ blanks, inside, _, hseparator.append hblanks, hs, helements hend, by simp⟩

theorem beginsWithValue_array {α : Type} {inside : Reading (α × List Char)}
    {text text₁ rest : List Char} {value : α} (hskip : skipBlanks text = '[' :: text₁)
    (hinside : ∀ {left}, inside = .ok (value, left) → IsInsideOfArray true text₁ left)
    (h : Bracket.square.enclose inside = .ok (value, rest)) : BeginsWithValue text rest := by
  obtain ⟨left, hleft, hclose⟩ := enclose_eq_ok h
  obtain ⟨blanks, hblanks, rfl⟩ := close_square_eq_ok hclose
  obtain ⟨elements, front, rfl, helements⟩ := hinside hleft
  exact .array hskip (helements hblanks) (by simp)

theorem beginsWithValue_object {α : Type} {inside : Reading (α × List Char)}
    {text text₁ rest : List Char} {value : α} (hskip : skipBlanks text = '{' :: text₁)
    (hinside : ∀ {left}, inside = .ok (value, left) → IsInsideOfObject true text₁ left)
    (h : Bracket.curly.enclose inside = .ok (value, rest)) : BeginsWithValue text rest := by
  obtain ⟨left, hleft, hclose⟩ := enclose_eq_ok h
  obtain ⟨blanks, hblanks, rfl⟩ := close_curly_eq_ok hclose
  obtain ⟨members, front, rfl, hmembers⟩ := hinside hleft
  exact .object hskip (hmembers hblanks) (by simp)

section

variable {α : Type} {read : List Char → Reading (α × List Char)}

/-- The last element is read last, so what is said is how elements may go on behind those read. -/
theorem readElements_eq_ok (hread : ReadsValues read) {wanted : Wanted} {n : Nat}
    {text rest : List Char} {values : Vector α n}
    (h : readElements wanted read n text = .ok (values, rest)) :
    ∃ elements front, text = front ++ rest ∧ ∀ {others : List SyntaxTree} {tail : List Char},
      ElementsWrittenAs (n = 0) others tail →
        ElementsWrittenAs true (elements ++ others) (front ++ tail) := by
  induction n generalizing rest with
  | zero =>
      cases h
      exact ⟨[], [], rfl, fun htail => htail⟩
  | succ n ih =>
      obtain ⟨⟨values', text₁⟩, hvalues, h⟩ := bind_eq_ok.1 h
      obtain ⟨next, hnext, h⟩ := bind_eq_ok.1 h
      obtain ⟨elements, front, rfl, helements⟩ := ih hvalues
      cases next with
      | none => cases h
      | some next =>
          obtain ⟨⟨value, left⟩, hvalue, h⟩ := bind_eq_ok.1 h
          cases h
          obtain ⟨separator, hseparator, rfl⟩ := nextElement?_eq_some hnext
          obtain ⟨blanks, inside, s, hblanks, hs, rfl⟩ := hread hvalue
          refine ⟨elements ++ [s], front ++ separator ++ blanks ++ inside, by simp,
            fun {others tail} htail => ?_⟩
          have hnew : ElementsWrittenAs (n = 0) (s :: others)
              (separator ++ blanks ++ inside ++ tail) :=
            ⟨separator ++ blanks, inside, tail, hseparator.append hblanks, hs, htail, rfl⟩
          simpa using helements hnew

theorem readRest_eq_ok (hread : ReadsValues read) {fuel : Nat} {first : Bool}
    {text rest : List Char} {values : List α}
    (h : readRest read fuel first text = .ok (values, rest)) : IsInsideOfArray first text rest := by
  induction fuel generalizing first text values with
  | zero =>
      cases h
      exact isInsideOfArray_nil first _
  | succ fuel ih =>
      obtain ⟨next, hnext, h⟩ := bind_eq_ok.1 h
      cases next with
      | none =>
          cases h
          exact isInsideOfArray_nil first _
      | some next =>
          obtain ⟨⟨value, left⟩, hvalue, h⟩ := bind_eq_ok.1 h
          obtain ⟨⟨others, left'⟩, hothers, h⟩ := bind_eq_ok.1 h
          cases h
          obtain ⟨separator, hseparator, rfl⟩ := nextElement?_eq_some hnext
          exact .cons hseparator (hread hvalue) (ih hothers)

end

section

variable {σ : Type} {member : σ → String → List Char → Reading (σ × List Char)}

/-- A reader of members that takes nothing but a colon and a value. -/
def ReadsMembers (member : σ → String → List Char → Reading (σ × List Char)) : Prop :=
  ∀ {slots slots' : σ} {key : String} {text rest : List Char},
    member slots key text = .ok (slots', rest) →
    ∃ before text₁, Blanks before ∧ text = before ++ ':' :: text₁ ∧ BeginsWithValue text₁ rest

theorem readMembers_eq_ok (hmember : ReadsMembers member) {fuel : Nat} {first : Bool}
    {text rest : List Char} {slots slots' : σ}
    (h : readMembers member fuel first slots text = .ok (slots', rest)) :
    IsInsideOfObject first text rest := by
  induction fuel generalizing first text slots with
  | zero =>
      cases h
      exact isInsideOfObject_nil first _
  | succ fuel ih =>
      obtain ⟨next, hnext, h⟩ := bind_eq_ok.1 h
      cases next with
      | none =>
          cases h
          exact isInsideOfObject_nil first _
      | some next =>
          obtain ⟨⟨key, text₁⟩, hkey, h⟩ := bind_eq_ok.1 h
          obtain ⟨⟨slots₁, text₂⟩, hslots, hothers⟩ := bind_eq_ok.1 h
          obtain ⟨separator, hseparator, rfl⟩ := nextKey?_eq_some hnext
          obtain ⟨body, hbody, rfl⟩ := readString_eq_ok hkey
          obtain ⟨before, text₃, hbefore, rfl, hvalue⟩ := hmember hslots
          obtain ⟨members, tail, rfl, hmembers⟩ := ih hothers
          have hwritten : KeyWrittenAs (some key) body := hbody
          obtain ⟨s, front, hfront, hs⟩ := hvalue.exists_member hseparator hwritten hbefore
          refine ⟨(some key, s) :: members, front ++ tail, by rw [hfront]; simp, fun hend => ?_⟩
          rw [List.append_assoc]
          exact hs (hmembers hend)

end

/-! ## Every schema -/

theorem readsValues_array {element : Schema} (size : Nat) (h : ReadsValues element.read) :
    ReadsValues (Schema.array size element).read := by
  intro text rest value hread
  rw [Schema.read] at hread
  split at hread
  · next hskip =>
      refine beginsWithValue_array hskip (fun hinside => ?_) hread
      obtain ⟨elements, front, htext, helements⟩ := readElements_eq_ok h hinside
      refine ⟨elements, front, htext, fun {blanks} hblanks => ?_⟩
      have hend : ElementsWrittenAs true (elements ++ []) (front ++ blanks) := helements hblanks
      rwa [List.append_nil] at hend
  · exact absurd hread (mismatch_ne_ok _ _ _)

theorem readsValues_list {element : Schema} (h : ReadsValues element.read) :
    ReadsValues (Schema.list element).read := by
  intro text rest value hread
  rw [Schema.read] at hread
  split at hread
  · next hskip => exact beginsWithValue_array hskip (readRest_eq_ok h) hread
  · exact absurd hread (mismatch_ne_ok _ _ _)

def ReadsElements (fields : Fields) : Prop :=
  ∀ {wanted : Wanted} {index : Nat} {text rest : List Char} {values : fields.Values},
    fields.readInOrder wanted index text = .ok (values, rest) →
      IsInsideOfArray (index = 0) text rest

theorem readsElements_cons {key : String} {schema : Schema} {others : Fields}
    (hschema : ReadsValues schema.read) (hothers : ReadsElements others) :
    ReadsElements (.cons key schema others) := by
  intro wanted index text rest values h
  rw [Fields.readInOrder] at h
  obtain ⟨next, hnext, h⟩ := bind_eq_ok.1 h
  cases next with
  | none => cases h
  | some next =>
      obtain ⟨⟨value, text₁⟩, hvalue, h⟩ := bind_eq_ok.1 h
      obtain ⟨⟨values, text₂⟩, hvalues, h⟩ := bind_eq_ok.1 h
      cases h
      obtain ⟨separator, hseparator, rfl⟩ := nextElement?_eq_some hnext
      exact .cons hseparator (hschema hvalue) (hothers hvalues)

theorem readsMembers_nil : ReadsMembers Fields.nil.readMember := by
  rintro ⟨⟩ ⟨⟩ key text rest h
  rw [Fields.readMember] at h
  obtain ⟨text₁, hcolon, h⟩ := bind_eq_ok.1 h
  obtain ⟨left, hvalue, h⟩ := bind_eq_ok.1 h
  cases h
  obtain ⟨before, hbefore, rfl⟩ := passColon_eq_ok hcolon
  exact ⟨before, text₁, hbefore, rfl, passValueFrom_eq_ok hvalue⟩

theorem readsMembers_cons {field : String} {schema : Schema} {others : Fields}
    (hschema : ReadsValues schema.read) (hothers : ReadsMembers others.readMember) :
    ReadsMembers (Fields.cons field schema others).readMember := by
  rintro ⟨slot, slots⟩ slots' key text rest h
  simp only [Fields.readMember] at h
  split at h
  · cases slot with
    | some value => cases h
    | none =>
        obtain ⟨text₁, hcolon, h⟩ := bind_eq_ok.1 h
        obtain ⟨⟨value, left⟩, hvalue, h⟩ := bind_eq_ok.1 h
        cases h
        obtain ⟨before, hbefore, rfl⟩ := passColon_eq_ok hcolon
        exact ⟨before, text₁, hbefore, rfl, hschema hvalue⟩
  · obtain ⟨⟨slots₁, left⟩, hslots, h⟩ := bind_eq_ok.1 h
    cases h
    exact hothers hslots

/-- The inside of an object, up to its values. -/
def Fields.readObject (fields : Fields) (text : List Char) :
    Reading (fields.Values × List Char) := do
  let (slots, rest) ← readMembers fields.readMember (text.length + 1) true fields.noSlots text
  match fields.filled slots with
  | .ok values => return (values, rest)
  | .error key => failPending (.missingField key) rest

theorem read_record (name : String) (fields : Fields) (text : List Char) :
    ((Schema.record name fields).read text : Reading (fields.Values × List Char)) =
      match skipBlanks text with
      | '[' :: rest =>
          Bracket.square.enclose (fields.readInOrder (.record name fields.size) 0 rest)
      | '{' :: rest => Bracket.curly.enclose (fields.readObject rest)
      | rest => mismatch (.record name fields.size) rest := by
  rw [Schema.read]
  rfl

theorem readObject_eq_ok {fields : Fields} (h : ReadsMembers fields.readMember)
    {text rest : List Char} {values : fields.Values}
    (hread : fields.readObject text = .ok (values, rest)) : IsInsideOfObject true text rest := by
  obtain ⟨⟨slots, left⟩, hslots, hfilled⟩ := bind_eq_ok.1 hread
  dsimp only at hfilled
  split at hfilled
  · cases hfilled
    exact readMembers_eq_ok h hslots
  · cases hfilled

theorem readsValues_record (name : String) {fields : Fields} (helements : ReadsElements fields)
    (hmembers : ReadsMembers fields.readMember) :
    ReadsValues (Schema.record name fields).read := by
  intro text rest values h
  rw [read_record] at h
  split at h
  · next hskip => exact beginsWithValue_array hskip helements h
  · next hskip => exact beginsWithValue_object hskip (readObject_eq_ok hmembers) h
  · exact absurd h (mismatch_ne_ok _ _ _)

mutual

theorem Schema.readsValues : (schema : Schema) → ReadsValues schema.read
  | .single => by
      intro h
      rw [Schema.read] at h
      exact (readAs_eq_ok h).1
  | .int32 => by
      intro h
      rw [Schema.read] at h
      exact readsValues_map (fun h => (readAs_eq_ok h).1) h
  | .nat32 => by
      intro h
      rw [Schema.read] at h
      exact readsValues_map (fun h => (readAs_eq_ok h).1) h
  | .code vocabulary => readsValues_code vocabulary
  | .array size element => readsValues_array size element.readsValues
  | .list element => readsValues_list element.readsValues
  | .record name fields => readsValues_record name fields.readsElements fields.readsMembers

theorem Fields.readsElements : (fields : Fields) → ReadsElements fields
  | .nil => fun h => by
      cases h
      exact isInsideOfArray_nil _ _
  | .cons _ schema rest => readsElements_cons schema.readsValues rest.readsElements

theorem Fields.readsMembers : (fields : Fields) → ReadsMembers fields.readMember
  | .nil => readsMembers_nil
  | .cons _ schema rest => readsMembers_cons schema.readsValues rest.readsMembers

end

/-! ## Whole texts -/

theorem decode_eq_ok {schema : Schema} {text : String} {value : schema.Value} :
    schema.decode text = .ok value ↔
      ∃ rest, schema.read text.toList = .ok (value, rest) ∧ skipBlanks rest = [] := by
  rw [Schema.decode]
  constructor
  · intro h
    cases hchars : schema.decodeChars text.toList with
    | error failure =>
        rw [hchars] at h
        cases h
    | ok found =>
        rw [hchars] at h
        cases h
        obtain ⟨⟨value, rest⟩, hread, hend⟩ := bind_eq_ok.1 hchars
        dsimp only at hend
        split at hend
        · next hrest =>
            cases hend
            exact ⟨rest, hread, hrest⟩
        · cases hend
  · rintro ⟨rest, hread, hrest⟩
    have hchars : schema.decodeChars text.toList = .ok value := by
      refine bind_eq_ok.2 ⟨(value, rest), hread, ?_⟩
      simp only [hrest]
      rfl
    rw [hchars]
    rfl

/-- What is decoded has a tree, and the value is that of the tree. -/
theorem Schema.exists_tree_of_decode (schema : Schema) {text : String} {value : schema.Value}
    (h : schema.decode text = .ok value) :
    ∃ s : SyntaxTree, s.IsContentOf text ∧ schema.ofTree? s = some value := by
  obtain ⟨rest, hread, hrest⟩ := decode_eq_ok.1 h
  obtain ⟨blanks, inside, s, hblanks, hs, htext⟩ := schema.readsValues hread
  obtain ⟨after, hafter, rfl⟩ := exists_blanks_of_skipBlanks hrest
  have hcontent : s.IsContentOf text :=
    ⟨blanks, inside, after, hblanks, hs, hafter, by simpa using htext⟩
  have hvalue := schema.toOption_decode_tree hcontent
  rw [h] at hvalue
  exact ⟨s, hcontent, hvalue.symm⟩

end LensCalibration.Json
