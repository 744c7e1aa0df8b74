import Mathlib.Data.List.Forall2
import LensCalibration.Proofs.Json.Exchange

/-!
# Shapes of documents

A shape says which documents a schema accepts, in terms of the document alone: a record has each
of its keys exactly once, or one element for each of its fields; an integer literal has neither
point nor exponent, and is not a negative zero.
-/

namespace LensCalibration.Decimal

/-! ## Integer literals -/

/-- A numeral without point and exponent that stands for `i`; a negative zero is none. -/
def Numeral.IsIntegerLiteral (n : Numeral) (i : Int) : Prop :=
  n.fraction = [] ∧ n.exponent = none ∧
    if n.negative then i = -appendDigits 0 n.whole ∧ i ≠ 0 else i = appendDigits 0 n.whole

theorem absorb_eq_nil {limit start value : Nat} {digits : List Digit} (hstart : start ≤ limit) :
    absorb limit start digits = (value, []) ↔
      appendDigits start digits = value ∧ value ≤ limit := by
  constructor
  · intro h
    induction digits generalizing start with
    | nil =>
        cases h
        exact ⟨rfl, hstart⟩
    | cons d digits ih =>
        rw [absorb] at h
        split at h
        · next hfits => exact ih hfits h
        · cases h
  · rintro ⟨rfl, hlimit⟩
    exact absorb_eq hlimit

theorem Numeral.integer?_eq_some {n : Numeral} {i : Int} :
    n.integer? = some i ↔ n.IsIntegerLiteral i ∧ -2 ^ 63 ≤ i ∧ i < 2 ^ 64 := by
  have hlimit : significandLimit = 2 ^ 64 - 1 := rfl
  unfold integer? IsIntegerLiteral
  split
  · next value hfraction hexponent habsorb =>
      obtain ⟨hvalue, hle⟩ := (absorb_eq_nil (Nat.zero_le _)).1 habsorb
      rw [hfraction, hexponent, hvalue]
      cases n.negative with
      | true =>
          simp only [if_true]
          split
          · simp only [Option.some.injEq, true_and]
            omega
          · simp only [reduceCtorEq, true_and, false_iff]
            omega
      | false =>
          simp only [Bool.false_eq_true, if_false, Option.some.injEq, true_and]
          omega
  · next hnot =>
      constructor
      · rintro ⟨⟩
      · rintro ⟨⟨hfraction, hexponent, hsign⟩, hlow, hhigh⟩
        have habsorb : absorb significandLimit 0 n.whole = (appendDigits 0 n.whole, []) := by
          apply (absorb_eq_nil (Nat.zero_le _)).2
          split at hsign <;> omega
        exact absurd habsorb (hnot _ hfraction hexponent)

theorem Numeral.value_eq_integer {n : Numeral} {i : Int} :
    n.value = .ok (.integer i) ↔ n.integer? = some i := by
  unfold value
  split
  · next heq => simp [heq]
  · next heq =>
      rw [heq]
      constructor
      · intro h
        simp only at h
        split at h
        · split at h <;> cases h
        · split at h <;> cases h
      · rintro ⟨⟩

end LensCalibration.Decimal

namespace LensCalibration.Json

open Binary Decimal

abbrev Shape := Document → Prop

def Document.IsInteger (i : Int) : Shape
  | .number n => n.IsIntegerLiteral i
  | _ => False

def Document.IsIntegerFrom (low high : Int) (d : Document) : Prop :=
  ∃ i, d.IsInteger i ∧ low ≤ i ∧ i ≤ high

/-- A literal that is not too large to be a number, written as an integer or not. -/
def Document.IsNumber : Shape
  | .number n => ∃ x, n.value = .ok x
  | _ => False

theorem Document.isNumber_number {n : Numeral} : (number n).IsNumber ↔ ¬ n.Overflows :=
  exists_value_iff n

/-- For digits of 64 bits a power up to the largest may be too large, and any beyond it is. -/
theorem Document.isNumber_number_of_fits {n : Numeral} {written : Int}
    (hdouble : n.integer? = none) (hwritten : n.writtenExponent = .ok written)
    (hdigits : appendDigits 0 (n.whole ++ n.fraction) ≤ significandLimit) :
    (number n).IsNumber ↔
      let digits := appendDigits 0 (n.whole ++ n.fraction)
      let exponent := written - n.fraction.length
      digits = 0 ∨ exponent < 0 ∨
        exponent ≤ 308 ∧ ¬ ProductOverflows digits exponent.toNat := by
  have hexponent : -(n.fraction.length : Int) + written = written - n.fraction.length := by omega
  rw [isNumber_number, Numeral.Overflows, gathered_of_le hdigits, hwritten]
  simp only [hdouble, true_and, hexponent]
  by_cases hproduct : ProductOverflows (appendDigits 0 (n.whole ++ n.fraction))
      (written - n.fraction.length).toNat
  · simp only [hproduct, not_true, and_true, and_false, or_false]
    omega
  · simp only [hproduct, not_false_eq_true, and_true, and_false, or_false]
    omega

def Document.IsArrayOf (size : Nat) (shape : Shape) : Shape
  | .array elements => elements.toList.length = size ∧ ∀ d ∈ elements.toList, shape d
  | _ => False

/-- Members with other keys may stand between those of the fields, whatever their values are. -/
def Document.IsRecord (fields : List (String × Shape)) : Shape
  | .object members =>
      ∀ field ∈ fields, ∃ value, members.valuesOf field.1 = [value] ∧ field.2 value
  | .array elements => List.Forall₂ (fun field value => field.2 value) fields elements.toList
  | _ => False

/-! ## Leaves -/

theorem number?_eq_integer {d : Document} {i : Int} :
    d.number? = some (.integer i) ↔ d.IsInteger i ∧ -2 ^ 63 ≤ i ∧ i < 2 ^ 64 := by
  cases d with
  | number n =>
      change n.value.toOption = some (.integer i) ↔ n.IsIntegerLiteral i ∧ _
      rw [← Numeral.integer?_eq_some, ← Numeral.value_eq_integer]
      cases n.value <;> simp [Except.toOption]
  | _ =>
      constructor
      · rintro ⟨⟩
      · rintro ⟨⟨⟩, -⟩

theorem integer?_eq_some {low high i : Int} (hfits : -2 ^ 63 ≤ low ∧ high < 2 ^ 64)
    {d : Document} :
    d.integer? low high = some i ↔ d.IsInteger i ∧ low ≤ i ∧ i ≤ high := by
  have hnumber : d.integer? low high = some i ↔
      d.number? = some (.integer i) ∧ low ≤ i ∧ i ≤ high := by
    unfold Document.integer?
    cases d.number? with
    | none => simp
    | some x =>
        cases x with
        | integer k =>
            simp only [Option.bind_some, integerWithin?, Option.some.injEq, Number.integer.injEq]
            split
            · simp only [Option.some.injEq]
              omega
            · simp only [reduceCtorEq, false_iff]
              omega
        | double negative magnitude => simp [integerWithin?]
  rw [hnumber, number?_eq_integer]
  constructor
  · rintro ⟨⟨hinteger, -⟩, hrange⟩
    exact ⟨hinteger, hrange⟩
  · rintro ⟨hinteger, hlow, hhigh⟩
    exact ⟨⟨hinteger, by omega, by omega⟩, hlow, hhigh⟩

/-! ## Acceptance -/

/-- The documents with a valid value are those of the shape. -/
def Schema.Accepts (schema : Schema) (valid : schema.Value → Prop) (shape : Shape) : Prop :=
  ∀ d, (∃ value, schema.ofDocument? d = some value ∧ valid value) ↔ shape d

structure Fields.Accept (fields : Fields) (valid : fields.Values → Prop)
    (shapes : List (String × Shape)) : Prop where
  inOrder : ∀ ds, (∃ values, fields.ofElements? ds = some values ∧ valid values) ↔
    List.Forall₂ (fun field d => field.2 d) shapes ds
  byKey : ∀ members, (∃ values, fields.ofMembers? members = some values ∧ valid values) ↔
    ∀ field ∈ shapes, ∃ d, members.valuesOf field.1 = [d] ∧ field.2 d

theorem Schema.Accepts.congr {schema : Schema} {valid valid' : schema.Value → Prop} {shape : Shape}
    (h : schema.Accepts valid shape) (hvalid : ∀ value, valid value ↔ valid' value) :
    schema.Accepts valid' shape := by
  obtain rfl : valid = valid' := funext fun value => propext (hvalid value)
  exact h

theorem Fields.Accept.congr {fields : Fields} {valid valid' : fields.Values → Prop}
    {shapes : List (String × Shape)} (h : fields.Accept valid shapes)
    (hvalid : ∀ values, valid values ↔ valid' values) : fields.Accept valid' shapes := by
  obtain rfl : valid = valid' := funext fun values => propext (hvalid values)
  exact h

theorem accepts_single : Schema.single.Accepts (fun _ => True) Document.IsNumber := by
  intro d
  change (∃ x, d.number?.map Number.toSingle = some x ∧ True) ↔ _
  cases d with
  | number n =>
      change (∃ x, n.value.toOption.map Number.toSingle = some x ∧ True) ↔ ∃ x, n.value = .ok x
      cases n.value <;> simp [Except.toOption]
  | _ =>
      constructor
      · rintro ⟨x, ⟨⟩, -⟩
      · rintro ⟨⟩

theorem accepts_int32 :
    Schema.int32.Accepts (fun _ => True) (Document.IsIntegerFrom (-2 ^ 31) (2 ^ 31 - 1)) := by
  intro d
  change (∃ n, d.int32?.map Int32.ofInt = some n ∧ True) ↔ _
  constructor
  · rintro ⟨n, hn, -⟩
    obtain ⟨i, hi, -⟩ := Option.map_eq_some_iff.1 hn
    exact ⟨i, (integer?_eq_some (by decide)).1 hi⟩
  · rintro ⟨i, hi⟩
    have hread : d.int32? = some i := (integer?_eq_some (by decide)).2 hi
    exact ⟨Int32.ofInt i, by rw [hread]; rfl, trivial⟩

theorem accepts_nat32 {limit : Nat} (h : limit < 2 ^ 32) :
    Schema.nat32.Accepts (fun n => UInt32.toNat n ≤ limit) (Document.IsIntegerFrom 0 limit) := by
  intro d
  change (∃ n : UInt32, d.nat32?.map UInt32.ofInt = some n ∧ n.toNat ≤ limit) ↔ _
  have htoNat {i : Int} (hlow : 0 ≤ i) (hhigh : i ≤ 2 ^ 32 - 1) :
      (UInt32.ofInt i).toNat = i.toNat := by
    have hmod : i % 2 ^ 32 = i := by omega
    rw [UInt32.ofInt, hmod]
    exact UInt32.toNat_ofNat_of_lt' (by simp [UInt32.size]; omega)
  constructor
  · rintro ⟨n, hn, hle⟩
    obtain ⟨i, hi, rfl⟩ := Option.map_eq_some_iff.1 hn
    obtain ⟨hinteger, hlow, hhigh⟩ := (integer?_eq_some (by decide)).1 hi
    rw [htoNat hlow hhigh] at hle
    exact ⟨i, hinteger, hlow, by omega⟩
  · rintro ⟨i, hinteger, hlow, hhigh⟩
    have hread : d.nat32? = some i :=
      (integer?_eq_some (by decide)).2 ⟨hinteger, hlow, by omega⟩
    refine ⟨UInt32.ofInt i, by rw [hread]; rfl, ?_⟩
    rw [htoNat hlow (by omega)]
    omega

theorem accepts_code (vocabulary : Vocabulary) :
    (Schema.code vocabulary).Accepts (fun _ => True)
      (Document.IsIntegerFrom 0 (vocabulary.entries.length - 1)) := by
  intro d
  change (∃ entry, d.int32?.bind vocabulary.ofCode? = some entry ∧ True) ↔ _
  have hlength := vocabulary.length_entries_le
  constructor
  · rintro ⟨entry, hentry, -⟩
    obtain ⟨i, hi, hcode⟩ := Option.bind_eq_some_iff.1 hentry
    obtain ⟨hinteger, -⟩ := (integer?_eq_some (by decide)).1 hi
    exact ⟨i, hinteger, (vocabulary.exists_ofCode? i).1 ⟨entry, hcode⟩⟩
  · rintro ⟨i, hinteger, hlow, hhigh⟩
    obtain ⟨entry, hentry⟩ := (vocabulary.exists_ofCode? i).2 ⟨hlow, hhigh⟩
    have hread : d.int32? = some i :=
      (integer?_eq_some (by decide)).2 ⟨hinteger, by omega, by omega⟩
    exact ⟨entry, Option.bind_eq_some_iff.2 ⟨i, hread, hentry⟩, trivial⟩

/-! ## Arrays -/

theorem exists_mapM {α β : Type} {f : α → Option β} {xs : List α}
    (h : ∀ x ∈ xs, ∃ y, f x = some y) : ∃ ys, xs.mapM f = some ys := by
  induction xs with
  | nil => exact ⟨[], rfl⟩
  | cons x xs ih =>
      obtain ⟨y, hy⟩ := h x List.mem_cons_self
      obtain ⟨ys, hys⟩ := ih fun x' hx' => h x' (List.mem_cons_of_mem x hx')
      exact ⟨y :: ys, by simp [hy, hys]⟩

theorem exists_vectorOf?_mapM {α : Type} {of? : Document → Option α} (size : Nat)
    (ds : List Document) :
    (∃ values, (ds.mapM of?).bind (vectorOf? size) = some values) ↔
      ds.length = size ∧ ∀ d ∈ ds, ∃ value, of? d = some value := by
  constructor
  · rintro ⟨values, h⟩
    obtain ⟨list, hlist, hvector⟩ := Option.bind_eq_some_iff.1 h
    have hlength := length_of_mapM_eq_some hlist
    have hsize : list.length = size := by
      by_contra hne
      rw [vectorOf?_eq_none hne] at hvector
      cases hvector
    refine ⟨by omega, fun d hd => ?_⟩
    cases hvalue : of? d with
    | some value => exact ⟨value, rfl⟩
    | none =>
        rw [mapM_eq_none hd hvalue] at hlist
        cases hlist
  · rintro ⟨rfl, hall⟩
    obtain ⟨list, hlist⟩ := exists_mapM hall
    have hlength := length_of_mapM_eq_some hlist
    rw [hlist, Option.bind_some, vectorOf?, dif_pos hlength]
    exact ⟨_, rfl⟩

theorem accepts_array (size : Nat) {element : Schema} {shape : Shape}
    (h : element.Accepts (fun _ => True) shape) :
    (Schema.array size element).Accepts (fun _ => True) (Document.IsArrayOf size shape) := by
  intro d
  have helement (d : Document) : (∃ value, element.ofDocument? d = some value) ↔ shape d := by
    simpa only [and_true] using h d
  simp only [and_true]
  cases d with
  | array elements =>
      change (∃ values, (elements.toList.mapM element.ofDocument?).bind (vectorOf? size) =
        some values) ↔ _
      rw [exists_vectorOf?_mapM]
      simp only [helement]
      rfl
  | _ =>
      constructor
      · rintro ⟨values, ⟨⟩⟩
      · rintro ⟨⟩

/-! ## Records -/

theorem accept_nil : Fields.nil.Accept (fun _ => True) [] := by
  constructor
  · intro ds
    cases ds with
    | nil => exact ⟨fun _ => .nil, fun _ => ⟨(), rfl, trivial⟩⟩
    | cons d ds =>
        constructor
        · rintro ⟨values, ⟨⟩, -⟩
        · rintro ⟨⟩
  · intro members
    constructor
    · rintro - field ⟨⟩
    · rintro -
      exact ⟨(), rfl, trivial⟩

theorem valuesOf_without {k key : String} (h : k ≠ key) :
    ∀ members : Members, (members.without key).valuesOf k = members.valuesOf k
  | .nil => rfl
  | .cons field value rest => by
      have ih := valuesOf_without h rest
      by_cases hfield : field = key
      · have hother : field ≠ k := fun heq => h (heq.symm.trans hfield)
        rw [Members.without, if_pos hfield, Members.valuesOf, if_neg hother, ih]
      · rw [Members.without, if_neg hfield, Members.valuesOf, Members.valuesOf, ih]

theorem exists_pair {α β : Type} {first : Option α} {second : Option β} {valid : α → Prop}
    {valid' : β → Prop} :
    (∃ pair, (first.bind fun x => second.map fun y => (x, y)) = some pair ∧
        valid pair.1 ∧ valid' pair.2) ↔
      (∃ x, first = some x ∧ valid x) ∧ ∃ y, second = some y ∧ valid' y := by
  cases first <;> cases second <;> simp

theorem exists_only? {α : Type} {of? : Document → Option α} {valid : α → Prop} {shape : Shape}
    (h : ∀ d, (∃ value, of? d = some value ∧ valid value) ↔ shape d) (ds : List Document) :
    (∃ value, (only? ds).bind of? = some value ∧ valid value) ↔ ∃ d, ds = [d] ∧ shape d := by
  match ds with
  | [] => simp [only?]
  | [d] => simp [only?, h]
  | _ :: _ :: _ => simp [only?]

theorem accept_cons {key : String} {schema : Schema} {rest : Fields}
    {valid : schema.Value → Prop} {valids : rest.Values → Prop} {shape : Shape}
    {shapes : List (String × Shape)} (hkey : ∀ field ∈ shapes, field.1 ≠ key)
    (hschema : schema.Accepts valid shape) (hrest : rest.Accept valids shapes) :
    (Fields.cons key schema rest).Accept (fun values => valid values.1 ∧ valids values.2)
      ((key, shape) :: shapes) := by
  constructor
  · intro ds
    cases ds with
    | nil =>
        constructor
        · rintro ⟨values, ⟨⟩, -⟩
        · rintro ⟨⟩
    | cons d ds =>
        rw [List.forall₂_cons]
        exact exists_pair.trans (and_congr (hschema d) (hrest.inOrder ds))
  · intro members
    have hothers : (∃ values, rest.ofMembers? (members.without key) = some values ∧
        valids values) ↔ ∀ field ∈ shapes, ∃ d, members.valuesOf field.1 = [d] ∧ field.2 d := by
      rw [hrest.byKey]
      constructor
      · intro h field hfield
        rw [← valuesOf_without (hkey field hfield)]
        exact h field hfield
      · intro h field hfield
        rw [valuesOf_without (hkey field hfield)]
        exact h field hfield
    rw [List.forall_mem_cons]
    exact exists_pair.trans (and_congr (exists_only? hschema _) hothers)

theorem accepts_record (name : String) {fields : Fields} {valid : fields.Values → Prop}
    {shapes : List (String × Shape)} (h : fields.Accept valid shapes) :
    (Schema.record name fields).Accepts valid (Document.IsRecord shapes) := by
  intro d
  cases d with
  | array elements => exact h.inOrder elements.toList
  | object members => exact h.byKey members
  | _ =>
      constructor
      · rintro ⟨values, ⟨⟩, -⟩
      · rintro ⟨⟩

end LensCalibration.Json
