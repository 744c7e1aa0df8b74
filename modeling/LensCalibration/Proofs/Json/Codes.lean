import LensCalibration.Proofs.Json.Loosening
import LensCalibration.Proofs.Json.WellFormed

/-!
# Codes that stand for nothing

A loosened schema reads the same texts in the same steps.  So where it reads a value, the schema
itself either leaves the same text behind or is stopped by one of the codes of that value.
-/

namespace LensCalibration.Json

open Decimal

/-! ## Readings in step -/

def Failure.cause : Failure → Cause
  | .placed cause _ => cause
  | .pending cause _ => cause

theorem cause_toError (failure : Failure) (text : List Char) :
    (failure.toError text).cause = failure.cause := by
  cases failure <;> rfl

section

variable {α β γ δ σ : Type} {R : α → β → Prop} {S : γ → δ → Prop} {causes : β → List Cause}
  {causes' : δ → List Cause}

/--
Where the loose reading succeeds, the other one leaves the same text, or fails for one of the causes
that the value has.
-/
def Follows (R : α → β → Prop) (causes : β → List Cause) (loose : Reading (β × List Char))
    (strict : Reading (α × List Char)) : Prop :=
  ∀ w rest, loose = .ok (w, rest) →
    (∃ v, R v w ∧ strict = .ok (v, rest)) ∨
      ∃ failure, strict = .error failure ∧ failure.cause ∈ causes w

theorem Follows.error (failure : Failure) (strict : Reading (α × List Char)) :
    Follows R causes (.error failure) strict := by
  rintro w rest ⟨⟩

theorem Follows.ok {v : α} {w : β} (h : R v w) (rest : List Char) :
    Follows R causes (.ok (w, rest)) (.ok (v, rest)) := by
  rintro w rest ⟨⟩
  exact .inl ⟨v, h, rfl⟩

/-- A first step that both take. -/
theorem Follows.step {x : Reading σ} {loose : σ → Reading (β × List Char)}
    {strict : σ → Reading (α × List Char)} (h : ∀ a, Follows R causes (loose a) (strict a)) :
    Follows R causes (x >>= loose) (x >>= strict) := by
  cases x with
  | error failure => exact .error failure _
  | ok a => exact h a

theorem Follows.bind {loose : Reading (β × List Char)} {strict : Reading (α × List Char)}
    {loose' : β × List Char → Reading (δ × List Char)}
    {strict' : α × List Char → Reading (γ × List Char)} (h : Follows R causes loose strict)
    (hnext : ∀ v w rest, R v w → Follows S causes' (loose' (w, rest)) (strict' (v, rest)))
    (hkeep : ∀ w rest w' rest', loose' (w, rest) = .ok (w', rest') → causes w ⊆ causes' w') :
    Follows S causes' (loose >>= loose') (strict >>= strict') := by
  intro w' rest' hloose
  obtain ⟨⟨w, rest⟩, hw, hloose⟩ := bind_eq_ok.1 hloose
  rcases h w rest hw with ⟨v, hv, hstrict⟩ | ⟨failure, hstrict, hcause⟩
  · rw [hstrict]
    exact hnext v w rest hv w' rest' hloose
  · rw [hstrict]
    exact .inr ⟨failure, rfl, hkeep w rest w' rest' hloose hcause⟩

theorem Follows.map {loose : Reading (β × List Char)} {strict : Reading (α × List Char)}
    (h : Follows R causes loose strict) {f : α → γ} {g : β → δ}
    (hR : ∀ v w, R v w → S (f v) (g w)) (hkeep : ∀ w, causes w ⊆ causes' (g w)) :
    Follows S causes' (loose >>= fun a => pure (g a.1, a.2))
      (strict >>= fun a => pure (f a.1, a.2)) := by
  refine h.bind (fun v w rest hv => .ok (hR v w hv) rest) ?_
  rintro w rest w' rest' ⟨⟩
  exact hkeep w

theorem Follows.mismatch (wanted : Wanted) (text : List Char) (strict : Reading (α × List Char)) :
    Follows R causes (mismatch wanted text) strict :=
  fun _ _ h => absurd h (mismatch_ne_ok _ _ _)

theorem Follows.enclose (bracket : Bracket) {loose : Reading (β × List Char)}
    {strict : Reading (α × List Char)} (h : Follows R causes loose strict) :
    Follows R causes (bracket.enclose loose) (bracket.enclose strict) := by
  cases loose with
  | error failure => cases failure <;> exact .error _ _
  | ok reading =>
      obtain ⟨w, middle⟩ := reading
      rcases h w middle rfl with ⟨v, hv, rfl⟩ | ⟨failure, rfl, hcause⟩
      · simp only [Bracket.enclose]
        cases bracket.close middle with
        | error failure => exact .error _ _
        | ok rest => exact Follows.ok hv rest
      · intro w' rest hclose
        have hw : w' = w := by
          simp only [Bracket.enclose] at hclose
          cases hmiddle : bracket.close middle with
          | error failure =>
              rw [hmiddle] at hclose
              cases hclose
          | ok rest =>
              rw [hmiddle] at hclose
              cases hclose
              rfl
        rw [hw]
        cases failure with
        | placed cause left => exact .inr ⟨_, rfl, hcause⟩
        | pending cause left => exact .inr ⟨_, rfl, hcause⟩

/-- A value in one pair of brackets or in another; a value in none is refused. -/
theorem follows_match {inList inObject : List Char → Reading (β × List Char)}
    {inList' inObject' : List Char → Reading (α × List Char)}
    (hlist : ∀ rest, Follows R causes (inList rest) (inList' rest))
    (hobject : ∀ rest, Follows R causes (inObject rest) (inObject' rest))
    (wanted wanted' : Wanted) (text : List Char) :
    Follows R causes
      (match text with
      | '[' :: rest => Bracket.square.enclose (inList rest)
      | '{' :: rest => Bracket.curly.enclose (inObject rest)
      | rest => Json.mismatch wanted rest)
      (match text with
      | '[' :: rest => Bracket.square.enclose (inList' rest)
      | '{' :: rest => Bracket.curly.enclose (inObject' rest)
      | rest => Json.mismatch wanted' rest) := by
  split
  · exact (hlist _).enclose _
  · exact (hobject _).enclose _
  · exact .mismatch _ _ _

theorem follows_match_list {inList : List Char → Reading (β × List Char)}
    {inList' : List Char → Reading (α × List Char)}
    (hlist : ∀ rest, Follows R causes (inList rest) (inList' rest)) (wanted wanted' : Wanted)
    (text : List Char) :
    Follows R causes
      (match text with
      | '[' :: rest => Bracket.square.enclose (inList rest)
      | rest => Json.mismatch wanted rest)
      (match text with
      | '[' :: rest => Bracket.square.enclose (inList' rest)
      | rest => Json.mismatch wanted' rest) := by
  split
  · exact (hlist _).enclose _
  · exact .mismatch _ _ _

end

/-! ## Arrays -/

section

variable {α β : Type} {causes : β → List Cause} {loose : List Char → Reading (β × List Char)}
  {strict : List Char → Reading (α × List Char)}

/-- A value of which nothing is to be said follows any. -/
def Free (causes : β → List Cause) (_ : α) (w : β) : Prop :=
  causes w = []

/-- Readers that are in step on every text. -/
def InStep (causes : β → List Cause) (loose : List Char → Reading (β × List Char))
    (strict : List Char → Reading (α × List Char)) : Prop :=
  ∀ text, Follows (Free causes) causes (loose text) (strict text)

theorem flatMap_push (causes : β → List Cause) {n : Nat} (ws : Vector β n) (w : β) :
    (ws.push w).toList.flatMap causes = ws.toList.flatMap causes ++ causes w := by
  rw [Vector.toList_push, List.flatMap_append, List.flatMap_singleton]

theorem readElements_inStep (h : InStep causes loose strict) (wanted wanted' : Wanted) (n : Nat) :
    InStep (fun ws : Vector β n => ws.toList.flatMap causes) (readElements wanted loose n)
      (readElements wanted' strict n) := by
  intro text
  induction n with
  | zero =>
      rw [readElements, readElements]
      refine .ok ?_ text
      exact rfl
  | succ n ih =>
      rw [readElements, readElements]
      refine ih.bind ?_ ?_
      · intro vs ws rest hws
        refine .step fun next => ?_
        cases next with
        | none => exact .error _ _
        | some rest =>
            refine (h rest).map (g := ws.push) (f := vs.push) ?_ ?_
            · intro v w hw
              have hfree : ws.toList.flatMap causes = [] := hws
              rw [Free, flatMap_push, hfree, hw, List.append_nil]
            · intro w
              rw [flatMap_push]
              exact List.subset_append_right _ _
      · intro ws rest ws' rest' hnext
        obtain ⟨next, -, hnext⟩ := bind_eq_ok.1 hnext
        cases next with
        | none => cases hnext
        | some rest =>
            obtain ⟨⟨w, left⟩, -, hpush⟩ := bind_eq_ok.1 hnext
            cases hpush
            rw [flatMap_push]
            exact List.subset_append_left _ _

theorem readRest_inStep (h : InStep causes loose strict) (fuel : Nat) (first : Bool) :
    InStep (List.flatMap causes) (readRest loose fuel first) (readRest strict fuel first) := by
  intro text
  induction fuel generalizing first text with
  | zero =>
      rw [readRest, readRest]
      refine .ok ?_ text
      exact rfl
  | succ fuel ih =>
      rw [readRest, readRest]
      refine .step fun next => ?_
      cases next with
      | none =>
          refine .ok ?_ text
          exact rfl
      | some rest =>
          refine (h rest).bind ?_ ?_
          · intro v w rest hw
            refine (ih false rest).map (g := (w :: ·)) (f := (v :: ·)) ?_ ?_
            · intro vs ws hws
              rw [Free, List.flatMap_cons, hw, hws, List.append_nil]
            · exact fun ws => List.subset_append_right _ _
          · intro w rest ws rest' hnext
            obtain ⟨⟨others, left⟩, -, hcons⟩ := bind_eq_ok.1 hnext
            cases hcons
            exact List.subset_append_left _ _

end

/-! ## Numbers -/

theorem readInt32_bounds {text rest : List Char} {n : Int} (h : readInt32 text = .ok (n, rest)) :
    -0x80000000 ≤ n ∧ n ≤ 0x7fffffff := by
  obtain ⟨-, number, hnumber⟩ := readAs_eq_ok h
  cases number with
  | double negative x => cases hnumber
  | integer m =>
      simp only [acceptInteger] at hnumber
      split at hnumber
      · next hbounds =>
          cases hnumber
          exact hbounds
      · cases hnumber

theorem code_inStep (vocabulary : Vocabulary) :
    InStep (Schema.code vocabulary).strayCodes Schema.int32.read (Schema.code vocabulary).read := by
  intro text w rest hloose
  rw [Schema.read] at hloose
  obtain ⟨⟨n, left⟩, hn, hw⟩ := bind_eq_ok.1 hloose
  cases hw
  obtain ⟨hlow, hhigh⟩ := readInt32_bounds hn
  have hcode : (Schema.code vocabulary).strayCodes (Int32.ofInt n) = strayCode vocabulary n := by
    change strayCode vocabulary (Int32.ofInt n).toInt = _
    rw [Int32.toInt_ofInt_of_le (by omega) (by omega)]
  rw [Schema.read, readCode, hn, hcode, strayCode]
  cases hentry : vocabulary.ofCode? n with
  | some entry =>
      refine .inl ⟨entry, hcode.trans ?_, ?_⟩
      · rw [strayCode, hentry]
      · simp only [bind, Except.bind, hentry]
        rfl
  | none =>
      refine .inr ⟨.pending (.unrecognizedCode vocabulary n) rest, ?_, List.mem_singleton.2 rfl⟩
      simp only [bind, Except.bind, hentry]
      rfl

/-! ## Members -/

/-- What there is to say against the codes met so far. -/
def Fields.strayInSlots : (fields : Fields) → fields.loosened.Slots → List Cause
  | .nil, () => []
  | .cons _ schema rest, (slot, slots) => slot.elim [] schema.strayCodes ++ rest.strayInSlots slots

/-- The same slots are filled, and nothing is to be said against any. -/
def Fields.FreeSlots : (fields : Fields) → fields.Slots → fields.loosened.Slots → Prop
  | .nil, (), () => True
  | .cons _ schema rest, (slot, slots), (slot', slots') =>
      slot.isSome = slot'.isSome ∧ slot'.elim [] schema.strayCodes = [] ∧
        rest.FreeSlots slots slots'

theorem Fields.freeSlots_noSlots (fields : Fields) :
    fields.FreeSlots fields.noSlots fields.loosened.noSlots := by
  induction fields using Fields.noSlots.induct with
  | case1 => trivial
  | case2 key schema rest ih => exact ⟨rfl, rfl, ih⟩

section

variable {σ τ : Type} {R : σ → τ → Prop} {causes : τ → List Cause}
  {loose : τ → String → List Char → Reading (τ × List Char)}
  {strict : σ → String → List Char → Reading (σ × List Char)}

theorem readMembers_keeps
    (hkeep : ∀ t key text t' rest, loose t key text = .ok (t', rest) → causes t ⊆ causes t')
    {fuel : Nat} {first : Bool} {t t' : τ} {text rest : List Char}
    (h : readMembers loose fuel first t text = .ok (t', rest)) : causes t ⊆ causes t' := by
  induction fuel generalizing first t text with
  | zero =>
      rw [readMembers] at h
      cases h
      exact List.Subset.refl _
  | succ fuel ih =>
      rw [readMembers] at h
      obtain ⟨next, -, h⟩ := bind_eq_ok.1 h
      cases next with
      | none =>
          cases h
          exact List.Subset.refl _
      | some text =>
          obtain ⟨⟨key, text⟩, -, h⟩ := bind_eq_ok.1 h
          obtain ⟨⟨t₁, text⟩, hmember, h⟩ := bind_eq_ok.1 h
          exact List.Subset.trans (hkeep _ _ _ _ _ hmember) (ih h)

theorem readMembers_follows
    (hmember : ∀ s t key text, R s t → Follows R causes (loose t key text) (strict s key text))
    (hkeep : ∀ t key text t' rest, loose t key text = .ok (t', rest) → causes t ⊆ causes t')
    (fuel : Nat) (first : Bool) {s : σ} {t : τ} (h : R s t) (text : List Char) :
    Follows R causes (readMembers loose fuel first t text)
      (readMembers strict fuel first s text) := by
  induction fuel generalizing first s t text with
  | zero =>
      rw [readMembers, readMembers]
      exact .ok h text
  | succ fuel ih =>
      rw [readMembers, readMembers]
      refine .step fun next => ?_
      cases next with
      | none => exact Follows.ok h text
      | some text =>
          refine .step fun found => ?_
          obtain ⟨key, text⟩ := found
          refine (hmember s t key text h).bind ?_ ?_
          · exact fun s t rest h => ih false h rest
          · exact fun t rest t' rest' => readMembers_keeps hkeep

end

namespace Fields

/-- A member fills a slot, or none. -/
theorem readMember_keeps : ∀ (fields : Fields) (slots : fields.loosened.Slots) (key : String)
    (text : List Char) (slots' : fields.loosened.Slots) (rest : List Char),
    fields.loosened.readMember slots key text = .ok (slots', rest) →
    fields.strayInSlots slots ⊆ fields.strayInSlots slots'
  | .nil, (), _, _, (), _, _ => List.Subset.refl _
  | .cons field schema others, (slot, slots), key, text, (slot', slots'), rest, h => by
      change (Fields.cons field schema.loosened others.loosened).readMember (slot, slots) key
        text = _ at h
      simp only [readMember] at h
      split at h
      · cases slot with
        | some value => cases h
        | none =>
            obtain ⟨text, -, h⟩ := bind_eq_ok.1 h
            obtain ⟨⟨value, left⟩, -, h⟩ := bind_eq_ok.1 h
            cases h
            exact List.subset_append_right _ _
      · obtain ⟨⟨slots, left⟩, hothers, h⟩ := bind_eq_ok.1 h
        cases h
        exact List.append_subset.2 ⟨List.subset_append_left _ _,
          List.Subset.trans (readMember_keeps others _ _ _ _ _ hothers)
            (List.subset_append_right _ _)⟩

theorem FreeSlots.strayInSlots : ∀ (fields : Fields) {slots : fields.Slots}
    {slots' : fields.loosened.Slots}, fields.FreeSlots slots slots' →
    fields.strayInSlots slots' = []
  | .nil, (), (), _ => rfl
  | .cons _ _ rest, (_, _), (_, _), ⟨_, hslot, hslots⟩ =>
      List.append_eq_nil_iff.2 ⟨hslot, FreeSlots.strayInSlots rest hslots⟩

theorem filled_cons_eq_ok {key : String} {schema : Schema} {rest : Fields}
    {slot : Option schema.Value} {slots : rest.Slots} {value : schema.Value}
    {values : rest.Values} :
    (cons key schema rest).filled (slot, slots) = .ok (value, values) ↔
      slot = some value ∧ rest.filled slots = .ok values := by
  cases slot with
  | none =>
      constructor
      · rintro ⟨⟩
      · rintro ⟨⟨⟩, -⟩
  | some found =>
      change (rest.filled slots).map (fun values => (found, values)) = _ ↔ _
      cases rest.filled slots with
      | error key =>
          constructor
          · rintro ⟨⟩
          · rintro ⟨-, ⟨⟩⟩
      | ok others =>
          constructor
          · rintro ⟨⟩
            exact ⟨rfl, rfl⟩
          · rintro ⟨⟨⟩, ⟨⟩⟩
            rfl

theorem strayCodes_filled : ∀ (fields : Fields) {slots : fields.loosened.Slots}
    {values : fields.loosened.Values}, fields.loosened.filled slots = .ok values →
    fields.strayCodes values = fields.strayInSlots slots
  | .nil, (), (), _ => rfl
  | .cons key schema rest, (slot, slots), (value, values), h => by
      obtain ⟨rfl, hrest⟩ := filled_cons_eq_ok.1 h
      exact congrArg (schema.strayCodes value ++ ·) (strayCodes_filled rest hrest)

theorem FreeSlots.exists_filled : ∀ (fields : Fields) {slots : fields.Slots}
    {slots' : fields.loosened.Slots} {values' : fields.loosened.Values},
    fields.FreeSlots slots slots' → fields.loosened.filled slots' = .ok values' →
    ∃ values, fields.filled slots = .ok values
  | .nil, (), (), (), _, _ => ⟨(), rfl⟩
  | .cons key schema rest, (slot, slots), (slot', slots'), (value', values'), ⟨hsome, _, hslots⟩,
      h => by
      obtain ⟨rfl, hrest⟩ := filled_cons_eq_ok.1 h
      obtain ⟨value, rfl⟩ := Option.isSome_iff_exists.1 hsome
      obtain ⟨values, hvalues⟩ := FreeSlots.exists_filled rest hslots hrest
      exact ⟨(value, values), filled_cons_eq_ok.2 ⟨rfl, hvalues⟩⟩

end Fields

/-! ## Records -/

theorem readInOrder_nil (wanted wanted' : Wanted) (index : Nat) :
    InStep Fields.nil.strayCodes (Fields.nil.loosened.readInOrder wanted index)
      (Fields.nil.readInOrder wanted' index) := by
  intro text
  refine .ok ?_ text
  exact rfl

theorem readInOrder_cons {key : String} {schema : Schema} {rest : Fields}
    (hschema : InStep schema.strayCodes schema.loosened.read schema.read)
    (hrest : ∀ wanted wanted' index, InStep rest.strayCodes
      (rest.loosened.readInOrder wanted index) (rest.readInOrder wanted' index))
    (wanted wanted' : Wanted) (index : Nat) :
    InStep (Fields.cons key schema rest).strayCodes
      ((Fields.cons key schema rest).loosened.readInOrder wanted index)
      ((Fields.cons key schema rest).readInOrder wanted' index) := by
  intro text
  change Follows _ _
    ((Fields.cons key schema.loosened rest.loosened).readInOrder wanted index text) _
  rw [Fields.readInOrder, Fields.readInOrder]
  refine .step fun next => ?_
  cases next with
  | none => exact .error _ _
  | some text =>
      refine (hschema text).bind ?_ ?_
      · intro v w text hw
        refine (hrest wanted wanted' (index + 1) text).map (g := fun ws => (w, ws))
          (f := fun vs => (v, vs)) ?_ ?_
        · exact fun vs ws hws => List.append_eq_nil_iff.2 ⟨hw, hws⟩
        · exact fun ws => List.subset_append_right _ _
      · intro w text values left hnext
        obtain ⟨⟨ws, others⟩, -, hpair⟩ := bind_eq_ok.1 hnext
        cases hpair
        exact List.subset_append_left _ _

/-- Members are in step as long as nothing is to be said against the slots. -/
def MembersInStep (fields : Fields) : Prop :=
  ∀ (slots : fields.Slots) (slots' : fields.loosened.Slots) (key : String) (text : List Char),
    fields.FreeSlots slots slots' →
    Follows fields.FreeSlots fields.strayInSlots (fields.loosened.readMember slots' key text)
      (fields.readMember slots key text)

theorem membersInStep_nil : MembersInStep .nil := by
  rintro ⟨⟩ ⟨⟩ key text hslots
  change Follows _ _ (Fields.nil.readMember () key text) (Fields.nil.readMember () key text)
  rw [Fields.readMember]
  refine .step fun text => .step fun rest => ?_
  exact Follows.ok trivial rest

theorem membersInStep_cons {field : String} {schema : Schema} {rest : Fields}
    (hschema : InStep schema.strayCodes schema.loosened.read schema.read)
    (hrest : MembersInStep rest) : MembersInStep (.cons field schema rest) := by
  rintro ⟨slot, slots⟩ ⟨slot', slots'⟩ key text ⟨hsome, hslot, hslots⟩
  change Follows _ _ ((Fields.cons field schema.loosened rest.loosened).readMember (slot', slots')
    key text) _
  simp only [Fields.readMember]
  split
  · cases slot' with
    | some value => exact .error _ _
    | none =>
        cases slot with
        | some value => cases hsome
        | none =>
            refine .step fun text => (hschema text).map (g := fun w => (some w, slots'))
              (f := fun v => (some v, slots)) ?_ ?_
            · exact fun v w hw => ⟨rfl, hw, hslots⟩
            · exact fun w => List.subset_append_left _ _
  · refine (hrest slots slots' key text hslots).map (g := fun slots => (slot', slots))
      (f := fun slots => (slot, slots)) ?_ ?_
    · exact fun vs ws hws => ⟨hsome, hslot, hws⟩
    · exact fun ws => List.subset_append_right _ _

theorem readObject_inStep {fields : Fields} (hmembers : MembersInStep fields) :
    InStep fields.strayCodes fields.loosened.readObject fields.readObject := by
  intro text
  have hslots := readMembers_follows hmembers fields.readMember_keeps (text.length + 1) true
    fields.freeSlots_noSlots text
  refine hslots.bind ?_ ?_
  · intro slots slots' left hfree
    cases hfilled : fields.loosened.filled slots' with
    | error key =>
        simp only [hfilled]
        exact .error _ _
    | ok values' =>
        obtain ⟨values, hvalues⟩ := hfree.exists_filled fields hfilled
        simp only [hfilled, hvalues]
        refine Follows.ok ?_ left
        rw [Free, fields.strayCodes_filled hfilled, hfree.strayInSlots]
  · intro slots left values left' h
    cases hfilled : fields.loosened.filled slots with
    | error key =>
        simp only [hfilled] at h
        cases h
    | ok values' =>
        simp only [hfilled] at h
        cases h
        rw [fields.strayCodes_filled hfilled]
        exact List.Subset.refl _

theorem record_inStep (name : String) {fields : Fields}
    (hinOrder : ∀ wanted wanted' index, InStep fields.strayCodes
      (fields.loosened.readInOrder wanted index) (fields.readInOrder wanted' index))
    (hmembers : MembersInStep fields) :
    InStep (fun values => fields.strayCodes values) (Schema.record name fields.loosened).read
      (Schema.record name fields).read := by
  intro text
  rw [read_record, read_record]
  exact follows_match (hinOrder _ _ 0) (readObject_inStep hmembers) _ _ (skipBlanks text)

/-! ## Every schema -/

theorem array_inStep (size : Nat) {element : Schema}
    (h : InStep element.strayCodes element.loosened.read element.read) :
    InStep (Schema.array size element).strayCodes (Schema.array size element.loosened).read
      (Schema.array size element).read := by
  intro text
  rw [Schema.read, Schema.read]
  exact follows_match_list (readElements_inStep h _ _ size) _ _ (skipBlanks text)

theorem list_inStep {element : Schema}
    (h : InStep element.strayCodes element.loosened.read element.read) :
    InStep (Schema.list element).strayCodes (Schema.list element.loosened).read
      (Schema.list element).read := by
  intro text
  rw [Schema.read, Schema.read]
  exact follows_match_list (fun rest => readRest_inStep h _ true rest) _ _ (skipBlanks text)

/-- A reader is in step with itself where nothing can be said against a value. -/
theorem inStep_self {α : Type} (read : List Char → Reading (α × List Char)) :
    InStep (fun _ => []) read read :=
  fun _ v _ h => .inl ⟨v, rfl, h⟩

mutual

theorem Schema.inStep : ∀ schema : Schema,
    InStep schema.strayCodes schema.loosened.read schema.read
  | .single => inStep_self _
  | .int32 => inStep_self _
  | .nat32 => inStep_self _
  | .code vocabulary => code_inStep vocabulary
  | .array size element => array_inStep size element.inStep
  | .list element => list_inStep element.inStep
  | .record name fields => record_inStep name fields.readInOrder_inStep fields.membersInStep

theorem Fields.readInOrder_inStep : ∀ (fields : Fields) (wanted wanted' : Wanted) (index : Nat),
    InStep fields.strayCodes (fields.loosened.readInOrder wanted index)
      (fields.readInOrder wanted' index)
  | .nil => readInOrder_nil
  | .cons _ schema rest => readInOrder_cons schema.inStep rest.readInOrder_inStep

theorem Fields.membersInStep : ∀ fields : Fields, MembersInStep fields
  | .nil => membersInStep_nil
  | .cons _ schema rest => membersInStep_cons schema.inStep rest.membersInStep

end

/-! ## Whole texts -/

/-- Where every integer is taken for a code, only the codes can be against the text. -/
theorem Schema.decode_loosened (schema : Schema) {text : String} {w : schema.loosened.Value}
    (h : schema.loosened.decode text = .ok w) :
    (schema.strayCodes w = [] ∧ ∃ v, schema.decode text = .ok v) ∨
      ∃ e, schema.decode text = .error e ∧ e.cause ∈ schema.strayCodes w := by
  obtain ⟨rest, hread, hrest⟩ := decode_eq_ok.1 h
  rcases schema.inStep _ w rest hread with ⟨v, hfree, hv⟩ | ⟨failure, hfailure, hcause⟩
  · exact .inl ⟨hfree, v, decode_eq_ok.2 ⟨rest, hv, hrest⟩⟩
  · refine .inr ⟨failure.toError text.toList, ?_, ?_⟩
    · rw [decode, decodeChars, hfailure]
      rfl
    · rwa [cause_toError]

end LensCalibration.Json
