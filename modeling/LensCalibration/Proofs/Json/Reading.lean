import LensCalibration.Json.Reader
import LensCalibration.Proofs.Json.Consumption
import LensCalibration.Proofs.Json.Passing
import LensCalibration.Proofs.Json.TreeInterpretation

/-!
# A text is read as its tree

`Schema.read` on a text of a syntax tree succeeds exactly where the schema gives the tree a value,
and then it is that value that is read, and nothing behind the text.  What is read therefore does
not depend on blanks, on the spelling of strings and exponents, or on the order of members; and a
text of a document is read as the document.

Readings are compared as options here, which forgets where and why they fail.
-/

namespace LensCalibration

namespace Json

open Binary Decimal

/-! ## Readings as options -/

@[simp] theorem toOption_ok {α : Type} (x : α) : (Except.ok x : Reading α).toOption = some x := rfl

@[simp] theorem toOption_error {α : Type} (f : Failure) :
    (Except.error f : Reading α).toOption = none := rfl

theorem toOption_bind {α β : Type} (x : Reading α) (f : α → Reading β) :
    (x >>= f).toOption = x.toOption.bind fun a => (f a).toOption := by
  cases x <;> rfl

theorem toOption_map {α β : Type} (f : α → β) (x : Reading α) :
    (x.map f).toOption = x.toOption.map f := by
  cases x <;> rfl

theorem toOption_failing {α β : Type} (x : Reading α) (f : α → Reading β)
    (h : ∀ a, (f a).toOption = none) : (x >>= f).toOption = none := by
  cases x with
  | error e => rfl
  | ok a => exact h a

theorem toOption_mismatch {α : Type} (wanted : Wanted) (text : List Char) :
    (mismatch wanted text : Reading α).toOption = none := by
  unfold mismatch
  split
  · rfl
  · exact toOption_failing _ _ fun _ => rfl
  · exact toOption_failing _ _ fun _ => rfl
  · exact toOption_failing _ _ fun _ => rfl
  · exact toOption_failing _ _ fun _ => rfl
  · rfl
  · rfl
  · split
    · exact toOption_failing _ _ fun _ => rfl
    · rfl

theorem mismatch_ne_ok {α : Type} (wanted : Wanted) (text : List Char) (a : α) :
    mismatch wanted text ≠ .ok a := by
  intro h
  have hfails := toOption_mismatch (α := α) wanted text
  rw [h] at hfails
  cases hfails

/-- A reading of the inside of an array or object, taken on over its end. -/
def Bracket.closed? {α : Type} (bracket : Bracket) (inside : Option (α × List Char)) :
    Option (α × List Char) :=
  inside.bind fun (value, rest) => (bracket.close rest).toOption.map fun rest => (value, rest)

theorem toOption_enclose {α : Type} (bracket : Bracket) (inside : Reading (α × List Char)) :
    (bracket.enclose inside).toOption = bracket.closed? inside.toOption := by
  cases inside with
  | ok value => exact toOption_map _ _
  | error failure => cases failure <;> rfl

/-- What is done to a value alone may be done before or after the end is read. -/
theorem Bracket.closed?_bind {α β : Type} (bracket : Bracket) (inside : Option (α × List Char))
    (f : α → Option β) :
    bracket.closed? (inside.bind fun a => (f a.1).map fun y => (y, a.2)) =
      (bracket.closed? inside).bind fun a => (f a.1).map fun y => (y, a.2) := by
  cases inside with
  | none => rfl
  | some reading =>
      obtain ⟨value, rest⟩ := reading
      cases hf : f value <;> cases hclose : (bracket.close rest).toOption <;>
        simp [closed?, hf, hclose]

/-! ## Numbers -/

theorem readNumber_append {n : Numeral} {text rest : List Char} (h : n.WrittenAs text)
    (hrest : EndsNumeral rest) :
    (readNumber (text ++ rest)).toOption = n.value.toOption.map fun x => (x, rest) := by
  simp only [readNumber, readNumeral_append .endInValue h hrest, bind, Except.bind]
  cases n.value <;> rfl

theorem readAs_append {α : Type} (wanted : Wanted) (accept : Number → Except Cause α)
    {s : SyntaxTree} {text blanks rest : List Char} (h : s.WrittenAs text)
    (hblanks : Blanks blanks) (hrest : EndsNumeral rest) :
    (readAs wanted accept (blanks ++ (text ++ rest))).toOption =
      (s.number?.bind fun x => (accept x).toOption).map fun value => (value, rest) := by
  have hskip := skipBlanks_value hblanks h rest
  obtain ⟨c, text, rfl, hc⟩ := h.exists_cons
  simp only [List.cons_append] at hskip
  simp only [readAs, List.cons_append, hskip]
  match s, h, hc with
  | .number n, h, hc =>
      have hread := readNumber_append h hrest
      have hstart : startsNumeral c = true := hc
      rw [List.cons_append] at hread
      rw [if_pos hstart, toOption_bind, hread, SyntaxTree.number?]
      cases n.value with
      | error unread => rfl
      | ok x =>
          simp only [Except.toOption, Option.map_some, Option.bind_some]
          cases accept x <;> rfl
  | .null, _, hc | .boolean true, _, hc | .boolean false, _, hc | .string, _, hc
  | .array _, _, hc | .object _, _, hc =>
      cases hc
      rw [if_neg (by decide)]
      exact toOption_mismatch _ _

theorem toOption_acceptInteger (wanted : Wanted) (low high : Int) (x : Number) :
    (acceptInteger wanted low high x).toOption = integerWithin? low high x := by
  cases x with
  | integer n =>
      simp only [acceptInteger, integerWithin?]
      split <;> rfl
  | double negative magnitude => rfl

section

variable {s : SyntaxTree} {text blanks rest : List Char} (h : s.WrittenAs text)
  (hblanks : Blanks blanks) (hrest : EndsNumeral rest)

include h hblanks hrest

theorem readSingle_append :
    (readSingle (blanks ++ (text ++ rest))).toOption =
      (s.number?.map Number.toSingle).map fun x => (x, rest) := by
  rw [readSingle, readAs_append _ _ h hblanks hrest]
  cases s.number? <;> rfl

theorem readInt32_append :
    (readInt32 (blanks ++ (text ++ rest))).toOption =
      (s.integer? (-0x80000000) 0x7fffffff).map fun n => (n, rest) := by
  simp only [readInt32, readAs_append _ _ h hblanks hrest, toOption_acceptInteger]
  rfl

theorem readNat32_append :
    (readNat32 (blanks ++ (text ++ rest))).toOption =
      (s.integer? 0 0xffffffff).map fun n => (n, rest) := by
  simp only [readNat32, readAs_append _ _ h hblanks hrest, toOption_acceptInteger]
  rfl

theorem readCode_append (vocabulary : Vocabulary) :
    (readCode vocabulary (blanks ++ (text ++ rest))).toOption =
      ((s.integer? (-0x80000000) 0x7fffffff).bind vocabulary.ofCode?).map
        fun entry => (entry, rest) := by
  rw [readCode, toOption_bind, readInt32_append h hblanks hrest]
  cases s.integer? (-0x80000000) 0x7fffffff with
  | none => rfl
  | some n =>
      simp only [Option.map_some, Option.bind_some]
      cases vocabulary.ofCode? n <;> rfl

end

/-! ## The steps of an array -/

theorem nextElement?_nil (first : Bool) {blanks : List Char} (h : Blanks blanks)
    (rest : List Char) : nextElement? first (blanks ++ ']' :: rest) = .ok none := by
  rw [nextElement?, skipBlanks_append h]
  rfl

theorem nextElement?_cons {first : Bool} {separator text : List Char} {s : SyntaxTree}
    (hseparator : Separates first separator) (h : s.WrittenAs text) (rest : List Char) :
    nextElement? first (separator ++ (text ++ rest)) = .ok (some (text ++ rest)) := by
  obtain ⟨c, value, rfl, hc⟩ := h.exists_cons
  have hbegins := hc.beginsValue
  cases first with
  | true =>
      have hskip := skipBlanks_value hseparator h rest
      rw [nextElement?, hskip, List.cons_append]
      split
      · next heq => cases heq
      · next heq =>
          cases heq
          exact absurd rfl hbegins.2.2.1
      · next heq =>
          cases heq
          rfl
  | false =>
      obtain ⟨before, after, hbefore, hafter, rfl⟩ := hseparator
      have hskip := skipBlanks_value hafter h rest
      rw [List.append_assoc, List.cons_append, nextElement?, skipBlanks_append hbefore,
        skipBlanks_cons rfl]
      simp only [Bool.false_eq_true, if_false]
      split
      · next heq => cases heq
      · next heq => cases heq
      · next heq =>
          cases heq
          rw [if_pos rfl, hskip]
          split
          · next heq => cases heq
          · next heq =>
              cases heq
              exact absurd rfl hbegins.2.2.1
          · rfl

theorem close_square_nil {blanks : List Char} (h : Blanks blanks) (rest : List Char) :
    Bracket.square.close (blanks ++ ']' :: rest) = .ok rest := by
  simp only [Bracket.close, skipBlanks_append h]
  rfl

/-- An array that goes on where everything wanted has been read is refused. -/
theorem close_square_cons {first : Bool} {separator text : List Char} {s : SyntaxTree}
    (hseparator : Separates first separator) (h : s.WrittenAs text) (rest : List Char) :
    (Bracket.square.close (separator ++ (text ++ rest))).toOption = none := by
  cases first with
  | true =>
      have hskip := skipBlanks_value hseparator h rest
      obtain ⟨c, value, rfl, hc⟩ := h.exists_cons
      have hbegins := hc.beginsValue
      unfold Bracket.close
      rw [hskip, List.cons_append]
      split
      · next heq => cases heq
      · next heq =>
          cases heq
          exact absurd rfl hbegins.2.2.1
      · next heq =>
          cases heq
          exact absurd rfl hbegins.2.1
      · rfl
      · next heq _ => cases heq
      · rfl
      · rfl
  | false =>
      obtain ⟨before, after, hbefore, hafter, rfl⟩ := hseparator
      have hskip := skipBlanks_value hafter h rest
      unfold Bracket.close
      simp only [List.append_assoc, List.cons_append]
      rw [skipBlanks_append hbefore, skipBlanks_cons rfl]
      simp only [hskip]
      split <;> rfl

theorem closed?_square_nil {α : Type} (value : α) {blanks : List Char} (h : Blanks blanks)
    (rest : List Char) :
    Bracket.square.closed? (some (value, blanks ++ ']' :: rest)) = some (value, rest) := by
  simp [Bracket.closed?, close_square_nil h]

theorem closed?_square_cons {α : Type} (value : α) {first : Bool} {separator text : List Char}
    {s : SyntaxTree} (hseparator : Separates first separator) (h : s.WrittenAs text)
    (rest : List Char) :
    Bracket.square.closed? (some (value, separator ++ (text ++ rest))) = none := by
  simp [Bracket.closed?, close_square_cons hseparator h]

/-! ## The elements of an array -/

section

variable {α : Type} {read : List Char → Reading (α × List Char)} {of? : SyntaxTree → Option α}

/-- A reader that reads each text of a tree as the value that the tree has. -/
def ReadsAs (read : List Char → Reading (α × List Char)) (of? : SyntaxTree → Option α) : Prop :=
  ∀ {s : SyntaxTree} {text blanks rest : List Char}, s.WrittenAs text → Blanks blanks →
    EndsNumeral rest →
    (read (blanks ++ (text ++ rest))).toOption = (of? s).map fun value => (value, rest)

theorem ReadsAs.apply (h : ReadsAs read of?) {s : SyntaxTree} {text rest : List Char}
    (hs : s.WrittenAs text) (hrest : EndsNumeral rest) :
    (read (text ++ rest)).toOption = (of? s).map fun value => (value, rest) :=
  h hs blanks_nil hrest

/-- How the first elements of an array are read where `front` are their trees. -/
def ReadsFront (of? : SyntaxTree → Option α) {n : Nat} (front : List SyntaxTree) (left : List Char)
    (reading : Reading (Vector α n × List Char)) : Prop :=
  (reading.toOption = none ∧ front.mapM of? = none) ∨
    ∃ values : Vector α n,
      reading.toOption = some (values, left) ∧ front.mapM of? = some values.toList

theorem readElements_next (h : ReadsAs read of?) (wanted : Wanted) {n : Nat}
    {text separator value rest : List Char} {element : SyntaxTree} {values : Vector α n}
    (hread : (readElements wanted read n text).toOption =
      some (values, separator ++ (value ++ rest)))
    (hseparator : Separates (n = 0) separator) (hvalue : element.WrittenAs value)
    (hrest : EndsNumeral rest) :
    (readElements wanted read (n + 1) text).toOption =
      (of? element).map fun x => (values.push x, rest) := by
  rw [readElements, toOption_bind, hread]
  simp only [Option.bind_some]
  rw [nextElement?_cons hseparator hvalue]
  change (read (value ++ rest) >>= fun x => pure (values.push x.1, x.2)).toOption = _
  rw [toOption_bind, h.apply hvalue hrest]
  cases of? element <;> rfl

theorem readElements_end (wanted : Wanted) {n : Nat} {text blanks rest : List Char}
    {values : Vector α n}
    (hread : (readElements wanted read n text).toOption = some (values, blanks ++ ']' :: rest))
    (hblanks : Blanks blanks) : (readElements wanted read (n + 1) text).toOption = none := by
  rw [readElements, toOption_bind, hread]
  simp only [Option.bind_some]
  rw [nextElement?_nil _ hblanks]
  rfl

theorem readElements_failed (wanted : Wanted) {n : Nat} {text : List Char}
    (hread : (readElements wanted read n text).toOption = none) :
    (readElements wanted read (n + 1) text).toOption = none := by
  rw [readElements, toOption_bind, hread]
  rfl

/--
After `n` elements have been read, the others are still there; the alternative is that there are
fewer.
-/
theorem readElements_append (h : ReadsAs read of?) (wanted : Wanted) {elements : List SyntaxTree}
    {text : List Char} (htext : ElementsWrittenAs true elements text) (rest : List Char) (n : Nat) :
    (∃ (front others : List SyntaxTree) (tail : List Char),
        elements = front ++ others ∧ front.length = n ∧
        ElementsWrittenAs (n = 0) others tail ∧
        ReadsFront of? front (tail ++ ']' :: rest)
          (readElements wanted read n (text ++ ']' :: rest))) ∨
      (elements.length < n ∧
        (readElements wanted read n (text ++ ']' :: rest)).toOption = none) := by
  induction n with
  | zero => exact .inl ⟨[], elements, text, rfl, rfl, htext, .inr ⟨#v[], rfl, rfl⟩⟩
  | succ n ih =>
      rcases ih with ⟨front, others, tail, hlist, hlength, htail, hread⟩ | ⟨hlength, hread⟩
      · match others, htail with
        | [], htail =>
            refine .inr ⟨by simp [hlist, hlength], ?_⟩
            rcases hread with ⟨hread, -⟩ | ⟨values, hread, -⟩
            · exact readElements_failed wanted hread
            · exact readElements_end wanted hread htail
        | element :: others, htail =>
            obtain ⟨separator, value, tail, hseparator, hvalue, hothers, rfl⟩ := htail
            refine .inl ⟨front ++ [element], others, tail, ?_, ?_, hothers, ?_⟩
            · simp [hlist]
            · simp [hlength]
            · rcases hread with ⟨hread, hfront⟩ | ⟨values, hread, hfront⟩
              · exact .inl ⟨readElements_failed wanted hread, by simp [hfront]⟩
              · have hends := hothers.endsNumeral (endsNumeral_cons (c := ']') rfl rest)
                simp only [List.append_assoc] at hread
                have hnext := readElements_next h wanted hread hseparator hvalue hends
                cases hx : of? element with
                | none => exact .inl ⟨by simp [hnext, hx], by simp [hfront, hx]⟩
                | some x =>
                    exact .inr ⟨values.push x, by simp [hnext, hx],
                      by simp [hfront, hx, Vector.toList_push]⟩
      · exact .inr ⟨by omega, readElements_failed wanted hread⟩

theorem length_of_mapM_eq_some {γ β : Type} {f : γ → Option β} :
    ∀ {xs : List γ} {values : List β}, xs.mapM f = some values → values.length = xs.length
  | [], _, h => by
      cases h
      rfl
  | x :: xs, values, h => by
      simp only [List.mapM_cons, bind, pure, Option.bind_eq_some_iff, Option.some.injEq] at h
      obtain ⟨y, -, ys, hys, rfl⟩ := h
      simp [length_of_mapM_eq_some hys]

theorem vectorOf?_bind_eq_none {γ β : Type} {f : γ → Option β} {xs : List γ} {size : Nat}
    (h : xs.length ≠ size) : (xs.mapM f).bind (vectorOf? size) = none := by
  cases hmap : xs.mapM f with
  | none => rfl
  | some values => exact vectorOf?_eq_none (by rwa [length_of_mapM_eq_some hmap])

theorem readArray_append (h : ReadsAs read of?) (wanted : Wanted) (size : Nat)
    {elements : List SyntaxTree} {text : List Char} (htext : ElementsWrittenAs true elements text)
    (rest : List Char) :
    (Bracket.square.enclose (readElements wanted read size (text ++ ']' :: rest))).toOption =
      ((elements.mapM of?).bind (vectorOf? size)).map fun values => (values, rest) := by
  rw [toOption_enclose]
  rcases readElements_append h wanted htext rest size with
    ⟨front, others, tail, hlist, hlength, htail, hread⟩ | ⟨hlength, hread⟩
  · match others, htail with
    | [], htail =>
        obtain rfl : elements = front := by simpa using hlist
        rcases hread with ⟨hread, hfront⟩ | ⟨values, hread, hfront⟩
        · simp [hread, hfront, Bracket.closed?]
        · simp [hread, hfront, closed?_square_nil values htail]
    | element :: others, htail =>
        obtain ⟨separator, value, tail, hseparator, hvalue, -, rfl⟩ := htail
        rw [vectorOf?_bind_eq_none (by simp [hlist, hlength])]
        rcases hread with ⟨hread, -⟩ | ⟨values, hread, -⟩
        · simp [hread, Bracket.closed?]
        · rw [hread, List.append_assoc, List.append_assoc,
            closed?_square_cons values hseparator hvalue]
          rfl
  · rw [hread, vectorOf?_bind_eq_none (by omega)]
    rfl

/-- A list is read to its end, with fuel beyond the length of its text. -/
theorem readRest_append (h : ReadsAs read of?) :
    ∀ (elements : List SyntaxTree) {first : Bool} {text : List Char} {fuel : Nat}
      (rest : List Char), ElementsWrittenAs first elements text → text.length < fuel →
      Bracket.square.closed? (readRest read fuel first (text ++ ']' :: rest)).toOption =
        (elements.mapM of?).map fun values => (values, rest)
  | elements, first, text, 0, rest, _, hfuel => absurd hfuel (Nat.not_lt_zero _)
  | [], first, text, fuel + 1, rest, htext, _ => by
      rw [readRest, nextElement?_nil first htext]
      simp [bind, Except.bind, pure, Except.pure, Bracket.closed?, close_square_nil htext]
  | element :: others, first, text, fuel + 1, rest, htext, hfuel => by
      obtain ⟨separator, value, tail, hseparator, hvalue, htail, rfl⟩ := htext
      obtain ⟨c, value', hcons, -⟩ := hvalue.exists_cons
      have hlength : value.length = value'.length + 1 := by simp [hcons]
      simp only [List.length_append] at hfuel
      have hends := htail.endsNumeral (endsNumeral_cons (c := ']') rfl rest)
      have ih : Bracket.square.closed? (readRest read fuel false _).toOption = _ :=
        readRest_append h others rest htail (by omega)
      rw [readRest, List.append_assoc, List.append_assoc, nextElement?_cons hseparator hvalue]
      change Bracket.square.closed? (read (value ++ (tail ++ ']' :: rest)) >>= fun first =>
        readRest read fuel false first.2 >>= fun others =>
          pure (first.1 :: others.1, others.2)).toOption = _
      rw [toOption_bind, h.apply hvalue hends, List.mapM_cons]
      cases of? element with
      | none => rfl
      | some x =>
          simp only [Option.map_some, Option.bind_some, toOption_bind]
          have hclosed := Bracket.square.closed?_bind
            (readRest read fuel false (tail ++ ']' :: rest)).toOption (fun xs => some (x :: xs))
          rw [ih] at hclosed
          refine hclosed.trans ?_
          cases others.mapM of? <;> rfl

theorem readList_append (h : ReadsAs read of?) {elements : List SyntaxTree} {text : List Char}
    (htext : ElementsWrittenAs true elements text) (rest : List Char) :
    (Bracket.square.enclose (readRest read ((text ++ ']' :: rest).length + 1) true
        (text ++ ']' :: rest))).toOption =
      (elements.mapM of?).map fun values => (values, rest) := by
  rw [toOption_enclose]
  apply readRest_append h elements rest htext
  simp only [List.length_append]
  omega

end

/-! ## The members of an object -/

theorem nextKey?_nil (first : Bool) {blanks : List Char} (h : Blanks blanks) (rest : List Char) :
    nextKey? first (blanks ++ '}' :: rest) = .ok none := by
  rw [nextKey?, skipBlanks_append h]
  rfl

theorem nextKey?_cons {first : Bool} {separator : List Char} (h : Separates first separator)
    (rest : List Char) : nextKey? first (separator ++ '"' :: rest) = .ok (some rest) := by
  cases first with
  | true =>
      rw [nextKey?, skipBlanks_append h]
      rfl
  | false =>
      obtain ⟨before, after, hbefore, hafter, rfl⟩ := h
      rw [List.append_assoc, List.cons_append, nextKey?, skipBlanks_append hbefore,
        skipBlanks_cons rfl]
      simp only [Bool.false_eq_true, if_false]
      split
      · next heq => cases heq
      · next heq => cases heq
      · next heq =>
          cases heq
          rw [if_pos rfl, skipBlanks_append hafter]
          rfl

theorem close_curly {blanks : List Char} (h : Blanks blanks) (rest : List Char) :
    Bracket.curly.close (blanks ++ '}' :: rest) = .ok rest := by
  simp only [Bracket.close, skipBlanks_append h]
  rfl

/-- A text that stands for no Unicode text is not read as a string. -/
theorem readString_of_not_spells {body : List Char} (hbody : StringBody body)
    (hspells : ∀ cs, ¬ Spells cs body) (rest : List Char) :
    (readString (body ++ '"' :: rest)).toOption = none := by
  cases hread : readString (body ++ '"' :: rest) with
  | error f => rfl
  | ok found =>
      obtain ⟨spelled, hspelled, htext⟩ := readString_eq_ok hread
      have hpass := passString_append hbody rest
      rw [htext, passString_append hspelled.stringBody] at hpass
      rw [Except.ok.inj hpass] at htext
      exact absurd (List.append_cancel_right htext ▸ hspelled) (hspells _)

/-- A reader of members that does to the slots what `put?` does with the tree. -/
def PutsAs {σ : Type} (member : σ → String → List Char → Reading (σ × List Char))
    (put? : σ → String → SyntaxTree → Option σ) : Prop :=
  ∀ (slots : σ) (key : String) {s : SyntaxTree} {before after text rest : List Char},
    s.WrittenAs text → Blanks before → Blanks after → EndsNumeral rest →
    (member slots key (before ++ ':' :: (after ++ (text ++ rest)))).toOption =
      (put? slots key s).map fun slots => (slots, rest)

theorem readMembers_append {σ : Type} {member : σ → String → List Char → Reading (σ × List Char)}
    {put? : σ → String → SyntaxTree → Option σ} (h : PutsAs member put?) :
    ∀ (members : List MemberTree) {first : Bool} {text : List Char} {fuel : Nat} (slots : σ)
      (rest : List Char), MembersWrittenAs first members text → text.length < fuel →
      Bracket.curly.closed? (readMembers member fuel first slots (text ++ '}' :: rest)).toOption =
        (putAll? put? slots members).map fun slots => (slots, rest)
  | members, first, text, 0, slots, rest, _, hfuel => absurd hfuel (Nat.not_lt_zero _)
  | [], first, text, fuel + 1, slots, rest, htext, _ => by
      rw [readMembers, nextKey?_nil first htext]
      simp [bind, Except.bind, pure, Except.pure, Bracket.closed?, close_curly htext, putAll?]
  | (key, value) :: others, first, text, fuel + 1, slots, rest, htext, hfuel => by
      obtain ⟨separator, body, before, after, content, tail, hseparator, hbody, hbefore, hafter,
        hcontent, htail, rfl⟩ := htext
      simp only [List.length_append, List.length_cons] at hfuel
      have hends := htail.endsNumeral (endsNumeral_cons (c := '}') rfl rest)
      simp only [List.append_assoc, List.cons_append]
      rw [readMembers, nextKey?_cons hseparator]
      change Bracket.curly.closed? (readString _ >>= fun key =>
        member slots key.1 key.2 >>= fun slots =>
          readMembers member fuel false slots.1 slots.2).toOption = _
      cases key with
      | none =>
          rw [toOption_bind, readString_of_not_spells hbody.1 hbody.2]
          rfl
      | some key =>
          rw [readString_append hbody]
          change Bracket.curly.closed? (member slots key _ >>= fun slots =>
              readMembers member fuel false slots.1 slots.2).toOption = _
          rw [toOption_bind, h slots key hcontent hbefore hafter hends, putAll?, Option.bind_some]
          cases put? slots key value with
          | none => rfl
          | some slots => exact readMembers_append h others slots rest htail (by omega)

/-! ## Values of a schema -/

theorem reads_single : ReadsAs Schema.single.read Schema.single.ofTree? := by
  intro s text blanks rest h hblanks hrest
  rw [Schema.read, Schema.ofTree?]
  exact readSingle_append h hblanks hrest

theorem reads_int32 : ReadsAs Schema.int32.read Schema.int32.ofTree? := by
  intro s text blanks rest h hblanks hrest
  rw [Schema.read, toOption_bind, readInt32_append h hblanks hrest, Schema.ofTree?]
  cases s.integer? (-0x80000000) 0x7fffffff <;> rfl

theorem reads_nat32 : ReadsAs Schema.nat32.read Schema.nat32.ofTree? := by
  intro s text blanks rest h hblanks hrest
  rw [Schema.read, toOption_bind, readNat32_append h hblanks hrest, Schema.ofTree?]
  cases s.integer? 0 0xffffffff <;> rfl

theorem reads_code (vocabulary : Vocabulary) :
    ReadsAs (Schema.code vocabulary).read (Schema.code vocabulary).ofTree? := by
  intro s text blanks rest h hblanks hrest
  rw [Schema.read, Schema.ofTree?]
  exact readCode_append h hblanks hrest vocabulary

theorem reads_array (size : Nat) {element : Schema}
    (h : ReadsAs element.read element.ofTree?) :
    ReadsAs (Schema.array size element).read (Schema.array size element).ofTree? := by
  intro s text blanks rest hs hblanks hrest
  rw [Schema.read, skipBlanks_value hblanks hs, Schema.ofTree?]
  cases s with
  | array elements =>
      obtain ⟨inside, hinside, rfl⟩ := hs
      simp only [List.cons_append, List.append_assoc, List.nil_append]
      exact readArray_append h (.array size) size hinside rest
  | _ =>
      obtain ⟨c, text, rfl, hc⟩ := hs.exists_cons
      split
      · next heq =>
          cases heq
          obtain ⟨elements, ⟨⟩⟩ := hc.isArray
      · exact toOption_mismatch _ _

theorem reads_list {element : Schema} (h : ReadsAs element.read element.ofTree?) :
    ReadsAs (Schema.list element).read (Schema.list element).ofTree? := by
  intro s text blanks rest hs hblanks hrest
  rw [Schema.read, skipBlanks_value hblanks hs, Schema.ofTree?]
  cases s with
  | array elements =>
      obtain ⟨inside, hinside, rfl⟩ := hs
      simp only [List.cons_append, List.append_assoc, List.nil_append]
      exact readList_append h hinside rest
  | _ =>
      obtain ⟨c, text, rfl, hc⟩ := hs.exists_cons
      split
      · next heq =>
          cases heq
          obtain ⟨elements, ⟨⟩⟩ := hc.isArray
      · exact toOption_mismatch _ _

/-! ## Records -/

def ReadsInOrder (fields : Fields) : Prop :=
  ∀ (wanted : Wanted) (index : Nat) {elements : List SyntaxTree} {text : List Char}
    (rest : List Char), ElementsWrittenAs (index = 0) elements text →
    Bracket.square.closed? (fields.readInOrder wanted index (text ++ ']' :: rest)).toOption =
      (fields.ofTrees? elements).map fun values => (values, rest)

theorem readsInOrder_nil : ReadsInOrder .nil := by
  intro wanted index elements text rest h
  rw [Fields.readInOrder, Fields.ofTrees?]
  cases elements with
  | nil =>
      exact closed?_square_nil _ h rest
  | cons element others =>
      obtain ⟨separator, value, tail, hseparator, hvalue, -, rfl⟩ := h
      rw [List.append_assoc, List.append_assoc]
      exact closed?_square_cons _ hseparator hvalue _

theorem readsInOrder_cons {key : String} {schema : Schema} {others : Fields}
    (hschema : ReadsAs schema.read schema.ofTree?) (hothers : ReadsInOrder others) :
    ReadsInOrder (.cons key schema others) := by
  intro wanted index elements text rest h
  rw [Fields.readInOrder]
  cases elements with
  | nil =>
      rw [nextElement?_nil _ h, Fields.ofTrees?]
      rfl
  | cons element elements =>
      obtain ⟨separator, value, tail, hseparator, hvalue, htail, rfl⟩ := h
      have hends := htail.endsNumeral (endsNumeral_cons (c := ']') rfl rest)
      have ih := hothers wanted (index + 1) rest htail
      rw [List.append_assoc, List.append_assoc, nextElement?_cons hseparator hvalue]
      change Bracket.square.closed? (schema.read (value ++ (tail ++ ']' :: rest)) >>=
        fun first => others.readInOrder wanted (index + 1) first.2 >>=
          fun values => pure ((first.1, values.1), values.2)).toOption = _
      rw [toOption_bind, hschema.apply hvalue hends, Fields.ofTrees?_cons]
      cases schema.ofTree? element with
      | none => rfl
      | some x =>
          simp only [Option.map_some, Option.bind_some, toOption_bind]
          have hclosed := Bracket.square.closed?_bind
            (others.readInOrder wanted (index + 1) (tail ++ ']' :: rest)).toOption
            (fun xs => some (x, xs))
          rw [ih] at hclosed
          refine hclosed.trans ?_
          cases others.ofTrees? elements <;> rfl

theorem puts_nil : PutsAs Fields.nil.readMember Fields.nil.put? := by
  rintro ⟨⟩ key s before after text rest h hbefore hafter hrest
  simp only [Fields.readMember, passColon_append hbefore, bind, Except.bind,
    passValue_append h hafter hrest]
  rfl

theorem puts_cons {field : String} {schema : Schema} {others : Fields}
    (hschema : ReadsAs schema.read schema.ofTree?)
    (hothers : PutsAs others.readMember others.put?) :
    PutsAs (Fields.cons field schema others).readMember
      (Fields.cons field schema others).put? := by
  rintro ⟨slot, slots⟩ key s before after text rest h hbefore hafter hrest
  simp only [Fields.readMember, Fields.put?]
  by_cases hkey : field = key
  · rw [if_pos hkey, if_pos hkey]
    cases slot with
    | some value => rfl
    | none =>
        simp only [passColon_append hbefore]
        change (schema.read (after ++ (text ++ rest)) >>= fun value =>
          pure ((some value.1, slots), value.2)).toOption = _
        rw [toOption_bind, hschema h hafter hrest]
        cases schema.ofTree? s <;> rfl
  · rw [if_neg hkey, if_neg hkey, toOption_bind, hothers slots key h hbefore hafter hrest]
    cases others.put? slots key s <;> rfl

theorem readObject_append {fields : Fields} (h : PutsAs fields.readMember fields.put?)
    {members : List MemberTree} {text : List Char} (htext : MembersWrittenAs true members text)
    (rest : List Char) {fuel : Nat} (hfuel : text.length < fuel) :
    (Bracket.curly.enclose do
        let (slots, rest) ← readMembers fields.readMember fuel true fields.noSlots
          (text ++ '}' :: rest)
        match fields.filled slots with
        | .ok values => return (values, rest)
        | .error key => failPending (.missingField key) rest).toOption =
      (fields.ofMemberTrees? members).map fun values => (values, rest) := by
  have hinside (slots : fields.Slots) (rest : List Char) :
      (match fields.filled slots with
        | .ok values => pure (values, rest)
        | .error key => failPending (.missingField key) rest : Reading _).toOption =
      (fields.filled slots).toOption.map fun values => (values, rest) := by
    cases fields.filled slots <;> rfl
  rw [toOption_enclose, toOption_bind]
  simp only [hinside]
  rw [Bracket.closed?_bind _ _ fun slots => (fields.filled slots).toOption,
    readMembers_append h members fields.noSlots rest htext hfuel, ← Fields.filled_putAll?]
  cases putAll? fields.put? fields.noSlots members <;> rfl

theorem reads_record (name : String) {fields : Fields} (hinOrder : ReadsInOrder fields)
    (hmember : PutsAs fields.readMember fields.put?) :
    ReadsAs (Schema.record name fields).read (Schema.record name fields).ofTree? := by
  intro s text blanks rest hs hblanks hrest
  rw [Schema.read, skipBlanks_value hblanks hs, Schema.ofTree?]
  cases s with
  | array elements =>
      obtain ⟨inside, hinside, rfl⟩ := hs
      simp only [List.cons_append, List.append_assoc, List.nil_append]
      exact (toOption_enclose _ _).trans (hinOrder _ 0 rest hinside)
  | object members =>
      obtain ⟨inside, hinside, rfl⟩ := hs
      simp only [List.cons_append, List.append_assoc, List.nil_append]
      refine readObject_append hmember hinside rest ?_
      simp only [List.length_append]
      omega
  | _ =>
      obtain ⟨c, text, rfl, hc⟩ := hs.exists_cons
      split
      · next heq =>
          cases heq
          obtain ⟨elements, ⟨⟩⟩ := hc.isArray
      · next heq =>
          cases heq
          obtain ⟨members, ⟨⟩⟩ := hc.isObject
      · exact toOption_mismatch _ _

/-! ## Every schema -/

mutual

theorem Schema.reads : (schema : Schema) → ReadsAs schema.read schema.ofTree?
  | .single => reads_single
  | .int32 => reads_int32
  | .nat32 => reads_nat32
  | .code vocabulary => reads_code vocabulary
  | .array size element => reads_array size element.reads
  | .list element => reads_list element.reads
  | .record name fields => reads_record name fields.readsInOrder fields.puts

theorem Fields.readsInOrder : (fields : Fields) → ReadsInOrder fields
  | .nil => readsInOrder_nil
  | .cons _ schema rest => readsInOrder_cons schema.reads rest.readsInOrder

theorem Fields.puts : (fields : Fields) → PutsAs fields.readMember fields.put?
  | .nil => puts_nil
  | .cons _ schema rest => puts_cons schema.reads rest.puts

end

/-! ## Whole texts -/

theorem Schema.decodeChars_append (schema : Schema) {s : SyntaxTree}
    {before inside after : List Char} (hbefore : Blanks before) (h : s.WrittenAs inside)
    (hafter : Blanks after) :
    (schema.decodeChars (before ++ inside ++ after)).toOption = schema.ofTree? s := by
  have hends : EndsNumeral after := by
    simpa using endsNumeral_append hafter endsNumeral_nil
  rw [decodeChars, toOption_bind, List.append_assoc, schema.reads h hbefore hends]
  cases schema.ofTree? s with
  | none => rfl
  | some value =>
      simp only [Option.map_some, Option.bind_some, skipBlanks_eq_nil hafter]
      rfl

theorem Schema.toOption_decode_tree (schema : Schema) {s : SyntaxTree} {text : String}
    (h : s.IsContentOf text) : (schema.decode text).toOption = schema.ofTree? s := by
  obtain ⟨before, inside, after, hbefore, hinside, hafter, htext⟩ := h
  rw [← schema.decodeChars_append hbefore hinside hafter, ← htext, decode]
  cases schema.decodeChars text.toList <;> rfl

theorem Schema.toOption_decode (schema : Schema) {d : Document} {text : String}
    (h : d.IsContentOf text) : (schema.decode text).toOption = schema.ofDocument? d := by
  rw [schema.toOption_decode_tree h.tree, schema.ofTree?_tree]

section

variable (α : Type) [Coded α] {text : String}

theorem toOption_decode_eq_map :
    (decode α text).toOption = ((Coded.schema α).decode text).toOption.map Coded.ofValue := by
  rw [decode]
  cases (Coded.schema α).decode text <;> rfl

theorem toOption_decode {d : Document} (h : d.IsContentOf text) :
    (decode α text).toOption = ((Coded.schema α).ofDocument? d).map Coded.ofValue := by
  rw [toOption_decode_eq_map, Schema.toOption_decode _ h]

end

end Json

end LensCalibration
