import LensCalibration.Proofs.Json.Leaves

/-!
# What is written is a text of the document

The compact and the pretty form of a document are two of its texts, whatever its strings hold, as
long as its numerals are grammatical.
-/

namespace LensCalibration.Decimal

def Numeral.IsGrammatical (n : Numeral) : Prop :=
  IsWhole n.whole ∧ ∀ e ∈ n.exponent, e.digits ≠ []

instance : (digits : List Digit) → Decidable (IsWhole digits)
  | [] => isFalse (by rintro (h | ⟨d, rest, h, -⟩) <;> cases h)
  | d :: rest => decidable_of_iff (d :: rest = [.zero] ∨ d ≠ .zero) (by
      constructor
      · rintro (h | h)
        · exact .inl h
        · exact .inr ⟨d, rest, rfl, h⟩
      · rintro (h | ⟨d, rest, ⟨⟩, h⟩)
        · exact .inl h
        · exact .inr h)

instance (n : Numeral) : Decidable n.IsGrammatical :=
  inferInstanceAs (Decidable (_ ∧ _))

theorem Exponent.writtenAs_toChars {e : Exponent} (h : e.digits ≠ []) :
    e.WrittenAs e.toChars := by
  refine ⟨h, 'e', [if e.negative then '-' else '+'], .inl rfl, ?_, rfl⟩
  cases e.negative with
  | true => rfl
  | false => exact .inr rfl

theorem Numeral.writtenAs_toChars {n : Numeral} (h : n.IsGrammatical) :
    n.WrittenAs n.toChars := by
  refine ⟨h.1, n.exponent.elim [] Exponent.toChars, ?_, rfl⟩
  cases hexponent : n.exponent with
  | none => rfl
  | some e => exact e.writtenAs_toChars (h.2 e hexponent)

end LensCalibration.Decimal

namespace LensCalibration.Json

open Decimal

/-! ## Strings -/

theorem hexUnit?_hexChar : ∀ n < 32,
    hexUnit? ['0', '0', hexChar (n / 16), hexChar (n % 16)] = some (n, []) := by
  decide

theorem spells_escapeChar (c : Char) {cs text : List Char} (h : Spells cs text) :
    Spells (c :: cs) (escapeChar c ++ text) := by
  unfold escapeChar
  split
  case h_8 hquote hslash hb hf hn hr ht =>
    split
    · next hcontrol =>
        have hunit := Spells.unit (hexUnit?_hexChar c.toNat hcontrol)
          (by simp [isLeading]; omega) (by simp [isTrailing]; omega) h
        rwa [Char.ofNat_toNat] at hunit
    · next hcontrol =>
        refine .plain ?_ h
        simp only [isPlain, isControl, decide_eq_true_eq, decide_eq_false_iff_not]
        exact ⟨hquote, hslash, hcontrol⟩
  all_goals exact .escape rfl h

theorem spells_flatMap (cs : List Char) : Spells cs (cs.flatMap escapeChar) := by
  induction cs with
  | nil => exact .nil
  | cons c cs ih => exact spells_escapeChar c ih

theorem stringWrittenAs_flatMap (s : String) :
    StringWrittenAs s (s.toList.flatMap escapeChar) :=
  ⟨(spells_flatMap s.toList).stringBody, .inl (spells_flatMap s.toList)⟩

/-! ## Documents -/

theorem blanks_lineBreak (form : Form) (depth : Nat) : Blanks (form.lineBreak depth) := by
  cases form with
  | compact => exact blanks_nil
  | pretty =>
      intro c hc
      rcases List.mem_cons.mp hc with rfl | hc
      · rfl
      · rw [List.eq_of_mem_replicate hc]
        rfl

theorem separates_comma (form : Form) (depth : Nat) :
    Separates false (',' :: form.lineBreak depth) :=
  ⟨[], form.lineBreak depth, blanks_nil, blanks_lineBreak form depth, rfl⟩

theorem colon_eq (form : Form) : ∃ blanks, Blanks blanks ∧ form.colon = ':' :: blanks := by
  cases form with
  | compact => exact ⟨[], blanks_nil, rfl⟩
  | pretty => exact ⟨[' '], by simp [Blanks, isBlank], rfl⟩

mutual

/-- All numerals of a document are grammatical. -/
def Document.IsGrammatical : Document → Prop
  | .number n => n.IsGrammatical
  | .array elements => elements.AreGrammatical
  | .object members => members.AreGrammatical
  | _ => True

def Elements.AreGrammatical : Elements → Prop
  | .nil => True
  | .cons element rest => element.IsGrammatical ∧ rest.AreGrammatical

def Members.AreGrammatical : Members → Prop
  | .nil => True
  | .cons _ value rest => value.IsGrammatical ∧ rest.AreGrammatical

end

mutual

instance Document.decidableGrammatical : (d : Document) → Decidable d.IsGrammatical
  | .null | .boolean _ | .string _ => isTrue trivial
  | .number n => inferInstanceAs (Decidable n.IsGrammatical)
  | .array elements => elements.decidableGrammatical
  | .object members => members.decidableGrammatical

instance Elements.decidableGrammatical : (elements : Elements) →
    Decidable elements.AreGrammatical
  | .nil => isTrue trivial
  | .cons element rest =>
      haveI := element.decidableGrammatical
      haveI := rest.decidableGrammatical
      inferInstanceAs (Decidable (element.IsGrammatical ∧ rest.AreGrammatical))

instance Members.decidableGrammatical : (members : Members) → Decidable members.AreGrammatical
  | .nil => isTrue trivial
  | .cons _ value rest =>
      haveI := value.decidableGrammatical
      haveI := rest.decidableGrammatical
      inferInstanceAs (Decidable (value.IsGrammatical ∧ rest.AreGrammatical))

end

mutual

theorem Document.writtenAs_write (form : Form) : ∀ (depth : Nat) (d : Document),
    d.IsGrammatical → d.WrittenAs (d.write form depth)
  | _, .null, _ => rfl
  | _, .boolean true, _ => rfl
  | _, .boolean false, _ => rfl
  | _, .number n, h => Numeral.writtenAs_toChars h
  | _, .string s, _ => ⟨_, stringWrittenAs_flatMap s, rfl⟩
  | _, .array .nil, _ => ⟨[], blanks_nil, rfl⟩
  | depth, .array (.cons element rest), ⟨helement, hrest⟩ => by
      refine ⟨_, ⟨form.lineBreak (depth + 1), element.write form (depth + 1),
        rest.writeRest form (depth + 1) ++ form.lineBreak depth,
        blanks_lineBreak form (depth + 1),
        Document.writtenAs_write form (depth + 1) element helement,
        Elements.writtenAs_writeRest form (depth + 1) rest hrest (blanks_lineBreak form depth),
        rfl⟩, ?_⟩
      simp [Document.write]
  | _, .object .nil, _ => ⟨[], blanks_nil, rfl⟩
  | depth, .object (.cons key value rest), ⟨hvalue, hrest⟩ => by
      obtain ⟨gap, hgap, hcolon⟩ := colon_eq form
      refine ⟨_, ⟨form.lineBreak (depth + 1), key.toList.flatMap escapeChar, [], gap,
        value.write form (depth + 1), rest.writeRest form (depth + 1) ++ form.lineBreak depth,
        blanks_lineBreak form (depth + 1), spells_flatMap key.toList, blanks_nil, hgap,
        Document.writtenAs_write form (depth + 1) value hvalue,
        Members.writtenAs_writeRest form (depth + 1) rest hrest (blanks_lineBreak form depth),
        rfl⟩, ?_⟩
      simp [Document.write, writeString, hcolon]

theorem Elements.writtenAs_writeRest (form : Form) : ∀ (depth : Nat) (elements : Elements),
    elements.AreGrammatical → ∀ {blanks : List Char}, Blanks blanks →
      elements.WrittenAs false (elements.writeRest form depth ++ blanks)
  | _, .nil, _, _, hblanks => hblanks
  | depth, .cons element rest, ⟨helement, hrest⟩, blanks, hblanks => by
      refine ⟨',' :: form.lineBreak depth, element.write form depth,
        rest.writeRest form depth ++ blanks, separates_comma form depth,
        Document.writtenAs_write form depth element helement,
        Elements.writtenAs_writeRest form depth rest hrest hblanks, ?_⟩
      simp [Elements.writeRest]

theorem Members.writtenAs_writeRest (form : Form) : ∀ (depth : Nat) (members : Members),
    members.AreGrammatical → ∀ {blanks : List Char}, Blanks blanks →
      members.WrittenAs false (members.writeRest form depth ++ blanks)
  | _, .nil, _, _, hblanks => hblanks
  | depth, .cons key value rest, ⟨hvalue, hrest⟩, blanks, hblanks => by
      obtain ⟨gap, hgap, hcolon⟩ := colon_eq form
      refine ⟨',' :: form.lineBreak depth, key.toList.flatMap escapeChar, [], gap,
        value.write form depth, rest.writeRest form depth ++ blanks, separates_comma form depth,
        spells_flatMap key.toList, blanks_nil, hgap,
        Document.writtenAs_write form depth value hvalue,
        Members.writtenAs_writeRest form depth rest hrest hblanks, ?_⟩
      simp [Members.writeRest, writeString, hcolon]

end

theorem Document.isContentOf_toString (form : Form) {d : Document} (h : d.IsGrammatical) :
    d.IsContentOf (d.toString form) := by
  refine ⟨[], d.write form 0, [], blanks_nil, Document.writtenAs_write form 0 d h, blanks_nil, ?_⟩
  simp [Document.toString]

end LensCalibration.Json
