import LensCalibration.Json.Writer
import LensCalibration.Proofs.Decimal.Singles
import LensCalibration.Proofs.Json.Reading
import LensCalibration.Proofs.Vocabulary.Codes

/-!
# Reading back what is written

Integers and codes come back from a document as they were written.  A single comes back as the
single that its own numeral is read as, which is nothing at all where it is not finite.  So the
document of a value has the value that is left when each of its singles is exchanged on its own.
-/

namespace LensCalibration.Json

open Binary Decimal

/-! ## The singles of a value -/

mutual

def Schema.singles : (schema : Schema) → schema.Value → List Single
  | .single, x => [x]
  | .int32, _ => []
  | .nat32, _ => []
  | .code _, _ => []
  | .array _ element, xs => (Vector.toList xs).flatMap element.singles
  | .list element, xs => List.flatMap element.singles xs
  | .record _ fields, values => fields.singles values

def Fields.singles : (fields : Fields) → fields.Values → List Single
  | .nil, () => []
  | .cons _ schema rest, (value, values) => schema.singles value ++ rest.singles values

end

mutual

def Schema.mapSingles (f : Single → Single) : (schema : Schema) → schema.Value → schema.Value
  | .single, x => f x
  | .int32, n => n
  | .nat32, n => n
  | .code _, entry => entry
  | .array _ element, xs => Vector.map (element.mapSingles f) xs
  | .list element, xs => List.map (element.mapSingles f) xs
  | .record _ fields, values => fields.mapSingles f values

def Fields.mapSingles (f : Single → Single) : (fields : Fields) → fields.Values → fields.Values
  | .nil, () => ()
  | .cons _ schema rest, (value, values) => (schema.mapSingles f value, rest.mapSingles f values)

end

mutual

/-- The value with each single exchanged, unless one of them has nothing to exchange it for. -/
def Schema.exchange (f : Single → Option Single) : (schema : Schema) → schema.Value →
    Option schema.Value
  | .single, x => f x
  | .int32, n => some n
  | .nat32, n => some n
  | .code _, entry => some entry
  | .array size element, xs =>
      ((Vector.toList xs).mapM (element.exchange f)).bind (vectorOf? size)
  | .list element, xs => List.mapM (element.exchange f) xs
  | .record _ fields, values => fields.exchange f values

def Fields.exchange (f : Single → Option Single) : (fields : Fields) → fields.Values →
    Option fields.Values
  | .nil, () => some ()
  | .cons _ schema rest, (value, values) =>
      (schema.exchange f value).bind fun value =>
        (rest.exchange f values).map fun values => (value, values)

end

/-! ## Exchanging each single on its own -/

section

variable {α β : Type}

theorem mapM_eq_some_map {f : α → Option β} {g : α → β} {xs : List α}
    (h : ∀ x ∈ xs, f x = some (g x)) : xs.mapM f = some (xs.map g) := by
  induction xs with
  | nil => rfl
  | cons x xs ih =>
      have hx := h x List.mem_cons_self
      have hxs := ih fun y hy => h y (List.mem_cons_of_mem x hy)
      simp [hx, hxs]

theorem mapM_eq_none {f : α → Option β} {xs : List α} {x : α} (hx : x ∈ xs)
    (h : f x = none) : xs.mapM f = none := by
  induction xs with
  | nil => cases hx
  | cons y ys ih =>
      rw [List.mapM_cons]
      rcases List.mem_cons.1 hx with rfl | hy
      · simp [h]
      · cases hf : f y with
        | none => rfl
        | some z => simp [ih hy]

theorem vectorOf?_mapM_eq_some {n : Nat} {f : α → Option β} {g : α → β} {xs : Vector α n}
    (h : ∀ x ∈ xs.toList, f x = some (g x)) :
    (xs.toList.mapM f).bind (vectorOf? n) = some (xs.map g) := by
  rw [mapM_eq_some_map h, ← Vector.toList_map, Option.bind_some, vectorOf?_toList]

theorem vectorOf?_mapM_eq_none {n : Nat} {f : α → Option β} {xs : Vector α n} {x : α}
    (hx : x ∈ xs.toList) (h : f x = none) : (xs.toList.mapM f).bind (vectorOf? n) = none := by
  rw [mapM_eq_none hx h, Option.bind_none]

theorem pair_eq_some {first : Option α} {second : Option β} {x : α} {y : β}
    (hfirst : first = some x) (hsecond : second = some y) :
    (first.bind fun x => second.map fun y => (x, y)) = some (x, y) := by
  simp [hfirst, hsecond]

theorem pair_eq_none {first : Option α} {second : Option β} (h : first = none ∨ second = none) :
    (first.bind fun x => second.map fun y => (x, y)) = none := by
  rcases h with rfl | rfl
  · rfl
  · cases first <;> rfl

end

mutual

theorem Schema.exchange_eq_mapSingles {f : Single → Option Single} {g : Single → Single} :
    ∀ (schema : Schema) (value : schema.Value), (∀ x ∈ schema.singles value, f x = some (g x)) →
      schema.exchange f value = some (schema.mapSingles g value)
  | .single, x, h => h x (List.mem_singleton.2 rfl)
  | .int32, _, _ => rfl
  | .nat32, _, _ => rfl
  | .code _, _, _ => rfl
  | .array _ element, _, h => vectorOf?_mapM_eq_some fun x hx =>
      element.exchange_eq_mapSingles x fun y hy => h y (List.mem_flatMap.2 ⟨x, hx, hy⟩)
  | .list element, _, h => mapM_eq_some_map fun x hx =>
      element.exchange_eq_mapSingles x fun y hy => h y (List.mem_flatMap.2 ⟨x, hx, hy⟩)
  | .record _ fields, values, h => fields.exchange_eq_mapSingles values h

theorem Fields.exchange_eq_mapSingles {f : Single → Option Single} {g : Single → Single} :
    ∀ (fields : Fields) (values : fields.Values),
      (∀ x ∈ fields.singles values, f x = some (g x)) →
      fields.exchange f values = some (fields.mapSingles g values)
  | .nil, (), _ => rfl
  | .cons _ schema rest, (value, values), h =>
      pair_eq_some
        (schema.exchange_eq_mapSingles value fun x hx => h x (List.mem_append_left _ hx))
        (rest.exchange_eq_mapSingles values fun x hx => h x (List.mem_append_right _ hx))

end

mutual

theorem Schema.exchange_eq_none {f : Single → Option Single} {x : Single} (hx : f x = none) :
    ∀ (schema : Schema) (value : schema.Value), x ∈ schema.singles value →
      schema.exchange f value = none
  | .single, y, h => (congrArg f (List.mem_singleton.1 h).symm).trans hx
  | .array _ element, xs, h => by
      obtain ⟨value, hvalue, hmem⟩ := List.mem_flatMap.1 h
      exact vectorOf?_mapM_eq_none hvalue (element.exchange_eq_none hx value hmem)
  | .list element, xs, h => by
      obtain ⟨value, hvalue, hmem⟩ := List.mem_flatMap.1 h
      exact mapM_eq_none hvalue (element.exchange_eq_none hx value hmem)
  | .record _ fields, values, h => fields.exchange_eq_none hx values h

theorem Fields.exchange_eq_none {f : Single → Option Single} {x : Single} (hx : f x = none) :
    ∀ (fields : Fields) (values : fields.Values), x ∈ fields.singles values →
      fields.exchange f values = none
  | .cons _ schema rest, (value, values), h => by
      rcases List.mem_append.1 h with hvalue | hvalues
      · exact pair_eq_none (.inl (schema.exchange_eq_none hx value hvalue))
      · exact pair_eq_none (.inr (rest.exchange_eq_none hx values hvalues))

end

mutual

theorem Schema.mapSingles_id : ∀ (schema : Schema) (value : schema.Value),
    schema.mapSingles id value = value
  | .single, _ => rfl
  | .int32, _ => rfl
  | .nat32, _ => rfl
  | .code _, _ => rfl
  | .array _ element, xs => (Vector.map_congr_left fun x _ => element.mapSingles_id x).trans
      (Vector.map_id xs)
  | .list element, xs => (List.map_congr_left fun x _ => element.mapSingles_id x).trans
      (List.map_id xs)
  | .record _ fields, values => fields.mapSingles_id values

theorem Fields.mapSingles_id : ∀ (fields : Fields) (values : fields.Values),
    fields.mapSingles id values = values
  | .nil, () => rfl
  | .cons _ schema rest, (value, values) =>
      Prod.ext (schema.mapSingles_id value) (rest.mapSingles_id values)

end

/-! ## Leaves -/

/-- What a single is read as when it is written on its own. -/
def reread? (x : Single) : Option Single :=
  (ofSingle x).single?

theorem isGrammatical_ofSingle (x : Single) : (ofSingle x).IsGrammatical := by
  cases hx : x.isFinite with
  | true =>
      obtain ⟨n, y, hn, hgrammatical, -⟩ := exists_numeral? hx
      simp only [ofSingle, hn]
      exact hgrammatical
  | false =>
      simp only [ofSingle, numeral?_eq_none hx]
      trivial

theorem reread?_eq_none {x : Single} (h : x.isFinite = false) : reread? x = none := by
  simp only [reread?, ofSingle, numeral?_eq_none h]
  rfl

theorem exists_reread? {x : Single} (h : x.isFinite) : ∃ y, reread? x = some y := by
  obtain ⟨n, y, hn, -, hvalue⟩ := exists_numeral? h
  refine ⟨y.toSingle, ?_⟩
  simp only [reread?, ofSingle, hn, Document.single?, Document.number?, hvalue]
  rfl

theorem integer?_ofInt {low high n : Int} (hlow : low ≤ n) (hhigh : n ≤ high)
    (hfits : -2 ^ 63 ≤ low ∧ high < 2 ^ 64) : (ofInt n).integer? low high = some n := by
  have hvalue : (Numeral.ofInt n).value = .ok (.integer n) :=
    value_ofInt (by omega) (by omega)
  simp only [ofInt, Document.integer?, Document.number?, hvalue]
  exact if_pos ⟨hlow, hhigh⟩

theorem int32_ofDocument? (n : Int32) :
    Schema.int32.ofDocument? (Schema.int32.toDocument n) = some n := by
  have hlow := n.le_toInt
  have hhigh := n.toInt_lt
  have hread : (ofInt n.toInt).int32? = some n.toInt :=
    integer?_ofInt (by omega) (by omega) (by decide)
  exact (congrArg (Option.map Int32.ofInt) hread).trans (congrArg some n.ofInt_toInt)

theorem ofInt_toNat (n : UInt32) : UInt32.ofInt n.toNat = n := by
  have hhigh := n.toNat_lt
  have hmod : ((n.toNat : Int) % 2 ^ 32).toNat = n.toNat := by omega
  rw [UInt32.ofInt, hmod, UInt32.ofNat_toNat]

theorem nat32_ofDocument? (n : UInt32) :
    Schema.nat32.ofDocument? (Schema.nat32.toDocument n) = some n := by
  have hhigh := n.toNat_lt
  have hread : (ofInt n.toNat).nat32? = some (n.toNat : Int) :=
    integer?_ofInt (by omega) (by omega) (by decide)
  exact (congrArg (Option.map UInt32.ofInt) hread).trans (congrArg some (ofInt_toNat n))

theorem code_ofDocument? (vocabulary : Vocabulary) (entry : vocabulary.Entry) :
    (Schema.code vocabulary).ofDocument? ((Schema.code vocabulary).toDocument entry) =
      some entry := by
  have hcode := vocabulary.code_lt_length entry
  have hlength := vocabulary.length_entries_le
  have hread : (ofInt (vocabulary.code entry)).int32? = some (vocabulary.code entry : Int) :=
    integer?_ofInt (by omega) (by omega) (by decide)
  exact (congrArg (Option.bind · vocabulary.ofCode?) hread).trans (vocabulary.ofCode?_code entry)

/-! ## Records -/

mutual

def Schema.hasDistinctKeys : Schema → Bool
  | .array _ element => element.hasDistinctKeys
  | .list element => element.hasDistinctKeys
  | .record _ fields => fields.hasDistinctKeys
  | _ => true

/-- No two fields of a record have the same key, nor do those of the records in it. -/
def Fields.hasDistinctKeys : Fields → Bool
  | .nil => true
  | .cons key schema rest => key ∉ rest.keys && schema.hasDistinctKeys && rest.hasDistinctKeys

end

theorem toList_ofList (ds : List Document) : (Elements.ofList ds).toList = ds := by
  induction ds with
  | nil => rfl
  | cons d ds ih => rw [Elements.ofList, Elements.toList, ih]

theorem mapM_toList_ofList {α β : Type} {write : α → Document} {of? : Document → Option β}
    {f : α → Option β} (h : ∀ x, of? (write x) = f x) (xs : List α) :
    (Elements.ofList (xs.map write)).toList.mapM of? = xs.mapM f := by
  rw [toList_ofList, List.mapM_map]
  exact congrArg (fun f => List.mapM f xs) (funext h)

section

variable {key : String}

theorem valuesOf_toMembers : ∀ (fields : Fields) (values : fields.Values), key ∉ fields.keys →
    (fields.toMembers values).valuesOf key = []
  | .nil, (), _ => rfl
  | .cons field schema rest, (value, values), h => by
      obtain ⟨hfield, hrest⟩ := not_or.1 (mt List.mem_cons.2 h)
      exact (if_neg (Ne.symm hfield)).trans (valuesOf_toMembers rest values hrest)

theorem without_toMembers : ∀ (fields : Fields) (values : fields.Values), key ∉ fields.keys →
    (fields.toMembers values).without key = fields.toMembers values
  | .nil, (), _ => rfl
  | .cons field schema rest, (value, values), h => by
      obtain ⟨hfield, hrest⟩ := not_or.1 (mt List.mem_cons.2 h)
      exact (if_neg (Ne.symm hfield)).trans
        (congrArg _ (without_toMembers rest values hrest))

variable {schema : Schema} {rest : Fields} {value : schema.Value} {values : rest.Values}

theorem valuesOf_toMembers_self (h : key ∉ rest.keys) :
    ((Fields.cons key schema rest).toMembers (value, values)).valuesOf key =
      [schema.toDocument value] :=
  (if_pos rfl).trans (congrArg _ (valuesOf_toMembers rest values h))

theorem without_toMembers_self (h : key ∉ rest.keys) :
    ((Fields.cons key schema rest).toMembers (value, values)).without key =
      rest.toMembers values :=
  (if_pos rfl).trans (without_toMembers rest values h)

end

/-! ## Every schema -/

mutual

theorem Schema.ofDocument?_toDocument : ∀ (schema : Schema), schema.hasDistinctKeys →
    ∀ value : schema.Value, schema.ofDocument? (schema.toDocument value) =
      schema.exchange reread? value
  | .single, _, _ => rfl
  | .int32, _, n => int32_ofDocument? n
  | .nat32, _, n => nat32_ofDocument? n
  | .code vocabulary, _, entry => code_ofDocument? vocabulary entry
  | .array size element, h, xs => congrArg (Option.bind · (vectorOf? size))
      (mapM_toList_ofList (element.ofDocument?_toDocument h) (Vector.toList xs))
  | .list element, h, xs => mapM_toList_ofList (element.ofDocument?_toDocument h) xs
  | .record _ fields, h, values => fields.ofMembers?_toMembers h values

theorem Fields.ofMembers?_toMembers : ∀ (fields : Fields), fields.hasDistinctKeys →
    ∀ values : fields.Values, fields.ofMembers? (fields.toMembers values) =
      fields.exchange reread? values
  | .nil, _, _ => rfl
  | .cons key schema rest, h, (value, values) => by
      obtain ⟨⟨hkey, hschema⟩, hrest⟩ : (key ∉ rest.keys ∧ schema.hasDistinctKeys) ∧
          rest.hasDistinctKeys := by
        simpa [Fields.hasDistinctKeys] using h
      rw [Fields.ofMembers?, valuesOf_toMembers_self hkey, without_toMembers_self hkey,
        rest.ofMembers?_toMembers hrest values]
      exact congrArg (Option.bind · fun value =>
        (rest.exchange reread? values).map fun values => (value, values))
        (schema.ofDocument?_toDocument hschema value)

end

/-! ## Texts -/

theorem areGrammatical_ofList {ds : List Document} (h : ∀ d ∈ ds, d.IsGrammatical) :
    (Elements.ofList ds).AreGrammatical := by
  induction ds with
  | nil => trivial
  | cons d ds ih =>
      constructor
      · exact h d List.mem_cons_self
      · exact ih fun e he => h e (List.mem_cons_of_mem d he)

theorem areGrammatical_map {α : Type} {write : α → Document} (h : ∀ x, (write x).IsGrammatical)
    (xs : List α) : (Elements.ofList (xs.map write)).AreGrammatical := by
  apply areGrammatical_ofList
  intro d hd
  obtain ⟨x, -, rfl⟩ := List.mem_map.1 hd
  exact h x

mutual

theorem Schema.isGrammatical_toDocument : ∀ (schema : Schema) (value : schema.Value),
    (schema.toDocument value).IsGrammatical
  | .single, x => isGrammatical_ofSingle x
  | .int32, n => isGrammatical_ofInt (Int32.toInt n)
  | .nat32, n => isGrammatical_ofInt (UInt32.toNat n)
  | .code vocabulary, entry => isGrammatical_ofInt (vocabulary.code entry)
  | .array _ element, xs => areGrammatical_map element.isGrammatical_toDocument (Vector.toList xs)
  | .list element, xs => areGrammatical_map element.isGrammatical_toDocument xs
  | .record _ fields, values => fields.areGrammatical_toMembers values

theorem Fields.areGrammatical_toMembers : ∀ (fields : Fields) (values : fields.Values),
    (fields.toMembers values).AreGrammatical
  | .nil, () => trivial
  | .cons _ schema rest, (value, values) =>
      ⟨schema.isGrammatical_toDocument value, rest.areGrammatical_toMembers values⟩

end

section

variable {α : Type} [Coded α]

/-- Everything that is written is a text of its document. -/
theorem isContentOf_encode (form : Form) (x : α) : (toDocument x).IsContentOf (encode form x) :=
  Document.isContentOf_toString form (Schema.isGrammatical_toDocument _ _)

theorem toOption_decode_encode (hkeys : (Coded.schema α).hasDistinctKeys) (form : Form) (x : α) :
    (decode α (encode form x)).toOption =
      ((Coded.schema α).exchange reread? (Coded.toValue x)).map Coded.ofValue := by
  rw [toOption_decode α (isContentOf_encode form x), toDocument,
    Schema.ofDocument?_toDocument _ hkeys]

end

/-- A single that survives being written and read on its own. -/
def ReadsBack (x : Single) : Prop :=
  Schema.single.decode ((ofSingle x).toString .compact) = .ok x

theorem readsBack_iff {x : Single} : ReadsBack x ↔ reread? x = some x := by
  have hread : (Schema.single.decode ((ofSingle x).toString .compact)).toOption = reread? x :=
    Schema.single.toOption_decode
      (Document.isContentOf_toString .compact (isGrammatical_ofSingle x))
  rw [← hread, ReadsBack]
  exact toOption_eq_some.symm

instance (x : Single) : Decidable (ReadsBack x) :=
  decidable_of_iff _ readsBack_iff.symm

section

variable {α : Type} [Coded α] {x : α}

theorem decode_encode_eq_self (hkeys : (Coded.schema α).hasDistinctKeys) (form : Form)
    (h : ∀ y ∈ (Coded.schema α).singles (Coded.toValue x), ReadsBack y) :
    (decode α (encode form x)).toOption = some x := by
  have hreread : ∀ y ∈ (Coded.schema α).singles (Coded.toValue x), reread? y = some (id y) :=
    fun y hy => readsBack_iff.1 (h y hy)
  rw [toOption_decode_encode hkeys, Schema.exchange_eq_mapSingles _ _ hreread,
    Schema.mapSingles_id]
  exact congrArg some (Coded.ofValue_toValue x)

theorem decode_encode_eq_none (hkeys : (Coded.schema α).hasDistinctKeys) (form : Form)
    {y : Single} (hy : y ∈ (Coded.schema α).singles (Coded.toValue x)) (h : y.isFinite = false) :
    (decode α (encode form x)).toOption = none := by
  rw [toOption_decode_encode hkeys, Schema.exchange_eq_none (reread?_eq_none h) _ _ hy]
  rfl

end

/-- What was written can be read in any text of its document. -/
theorem Schema.decode_toDocument (schema : Schema) (hkeys : schema.hasDistinctKeys)
    {value : schema.Value} {text : String} (htext : (schema.toDocument value).IsContentOf text)
    (hread : ∀ x ∈ schema.singles value, ReadsBack x) : schema.decode text = .ok value := by
  have hsingles : ∀ x ∈ schema.singles value, reread? x = some (id x) :=
    fun x hx => readsBack_iff.1 (hread x hx)
  have hdecode := schema.toOption_decode htext
  rw [schema.ofDocument?_toDocument hkeys, schema.exchange_eq_mapSingles value hsingles,
    schema.mapSingles_id] at hdecode
  exact toOption_eq_some.1 hdecode

end LensCalibration.Json
