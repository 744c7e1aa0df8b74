import LensCalibration.Proofs.Json.Interpretation
import LensCalibration.Proofs.Json.SyntaxTree

/-!
# Interpreting a syntax tree by a schema

`Schema.ofTree?` is the value that a tree has for a schema; on the tree of a document it is that of
the document.  The members of an object are looked up by their keys, but a reader meets them one
after the other: both come to the same.
-/

namespace LensCalibration.Json

open Binary Decimal

/-! ## Numbers and members -/

namespace SyntaxTree

def number? : SyntaxTree → Option Number
  | .number n => n.value.toOption
  | _ => none

def integer? (low high : Int) (s : SyntaxTree) : Option Int :=
  s.number?.bind (integerWithin? low high)

def array? {α : Type} (elements? : List SyntaxTree → Option α) : SyntaxTree → Option α
  | .array elements => elements? elements
  | _ => none

def record? {α : Type} (inOrder? : List SyntaxTree → Option α)
    (byKey? : List MemberTree → Option α) : SyntaxTree → Option α
  | .array elements => inOrder? elements
  | .object members => byKey? members
  | _ => none

end SyntaxTree

namespace MemberTree

/-- The values of the members with this key. -/
def valuesOf (key : String) (members : List MemberTree) : List SyntaxTree :=
  members.filterMap fun m => if m.1 = some key then some m.2 else none

/-- The members with other keys. -/
def without (key : String) (members : List MemberTree) : List MemberTree :=
  members.filter fun m => m.1 ≠ some key

variable {key : String} {m : MemberTree} (members : List MemberTree)

theorem valuesOf_cons_self (s : SyntaxTree) :
    valuesOf key ((some key, s) :: members) = s :: valuesOf key members :=
  List.filterMap_cons_some (if_pos rfl)

theorem valuesOf_cons_of_ne (h : m.1 ≠ some key) :
    valuesOf key (m :: members) = valuesOf key members :=
  List.filterMap_cons_none (if_neg h)

theorem without_cons_self (s : SyntaxTree) :
    without key ((some key, s) :: members) = without key members :=
  List.filter_cons_of_neg (by simp)

theorem without_cons_of_ne (h : m.1 ≠ some key) :
    without key (m :: members) = m :: without key members :=
  List.filter_cons_of_pos (by simpa using h)

end MemberTree

/-! ## Values of a schema -/

mutual

def Schema.ofTree? : (schema : Schema) → SyntaxTree → Option schema.Value
  | .single, s => s.number?.map Number.toSingle
  | .int32, s => (s.integer? (-0x80000000) 0x7fffffff).map Int32.ofInt
  | .nat32, s => (s.integer? 0 0xffffffff).map UInt32.ofInt
  | .code vocabulary, s => (s.integer? (-0x80000000) 0x7fffffff).bind vocabulary.ofCode?
  | .array size element, s =>
      s.array? fun trees => (trees.mapM element.ofTree?).bind (vectorOf? size)
  | .list element, s => s.array? fun trees => trees.mapM element.ofTree?
  | .record _ fields, s => s.record? fields.ofTrees? fields.ofMemberTrees?

/-- The fields in order, one for each element. -/
def Fields.ofTrees? : (fields : Fields) → List SyntaxTree → Option fields.Values
  | .nil, trees => if trees.isEmpty then some () else none
  | .cons _ schema rest, trees =>
      (first? trees).bind fun (s, trees) => (schema.ofTree? s).bind fun value =>
        (rest.ofTrees? trees).map fun values => (value, values)

/-- The fields by their keys; what is left over has to have Unicode keys. -/
def Fields.ofMemberTrees? : (fields : Fields) → List MemberTree → Option fields.Values
  | .nil, members => if members.all (·.1.isSome) then some () else none
  | .cons key schema rest, members =>
      ((only? (MemberTree.valuesOf key members)).bind schema.ofTree?).bind fun value =>
        (rest.ofMemberTrees? (MemberTree.without key members)).map fun values => (value, values)

end

theorem Fields.ofTrees?_cons (key : String) (schema : Schema) (rest : Fields) (s : SyntaxTree)
    (trees : List SyntaxTree) :
    (Fields.cons key schema rest).ofTrees? (s :: trees) =
      (schema.ofTree? s).bind fun value =>
        (rest.ofTrees? trees).map fun values => (value, values) := by
  rw [ofTrees?]
  rfl

/-! ## The tree of a document -/

theorem number?_tree (d : Document) : d.tree.number? = d.number? := by
  cases d <;> rfl

theorem integer?_tree (low high : Int) (d : Document) :
    d.tree.integer? low high = d.integer? low high := by
  rw [SyntaxTree.integer?, number?_tree, Document.integer?]

theorem Elements.trees_eq : ∀ elements : Elements, elements.trees = elements.toList.map Document.tree
  | .nil => rfl
  | .cons element rest => congrArg (element.tree :: ·) rest.trees_eq

theorem Members.all_isSome_trees : ∀ members : Members, members.trees.all (·.1.isSome) = true
  | .nil => rfl
  | .cons _ _ rest => rest.all_isSome_trees

section

variable (key : String)

theorem Members.valuesOf_trees : ∀ members : Members,
    MemberTree.valuesOf key members.trees = (members.valuesOf key).map Document.tree
  | .nil => rfl
  | .cons k value rest => by
      rw [trees, valuesOf]
      split
      · next hk => rw [hk, MemberTree.valuesOf_cons_self, valuesOf_trees rest, List.map_cons]
      · next hk => rw [MemberTree.valuesOf_cons_of_ne _ (by simpa using hk), valuesOf_trees rest]

theorem Members.without_trees : ∀ members : Members,
    MemberTree.without key members.trees = (members.without key).trees
  | .nil => rfl
  | .cons k value rest => by
      rw [trees, without]
      split
      · next hk => rw [hk, MemberTree.without_cons_self, without_trees rest]
      · next hk =>
          rw [MemberTree.without_cons_of_ne _ (by simpa using hk), without_trees rest, trees]

end

theorem only?_map {α β : Type} (f : α → β) (xs : List α) : only? (xs.map f) = (only? xs).map f := by
  match xs with
  | [] | [_] | _ :: _ :: _ => rfl

theorem mapM_tree {α : Type} {of? : Document → Option α} {ofTree? : SyntaxTree → Option α}
    (h : ∀ d, ofTree? d.tree = of? d) (ds : List Document) :
    (ds.map Document.tree).mapM ofTree? = ds.mapM of? := by
  rw [List.mapM_map]
  exact congrArg (fun f => List.mapM f ds) (funext h)

mutual

theorem Schema.ofTree?_tree : ∀ (schema : Schema) (d : Document),
    schema.ofTree? d.tree = schema.ofDocument? d
  | .single, d => congrArg (Option.map _) (number?_tree d)
  | .int32, d => congrArg (Option.map _) (integer?_tree _ _ d)
  | .nat32, d => congrArg (Option.map _) (integer?_tree _ _ d)
  | .code vocabulary, d => congrArg (Option.bind · _) (integer?_tree _ _ d)
  | .array size element, d => by
      cases d with
      | array elements =>
          have helements := mapM_tree element.ofTree?_tree elements.toList
          rw [← elements.trees_eq] at helements
          exact congrArg (Option.bind · (vectorOf? size)) helements
      | _ => rfl
  | .list element, d => by
      cases d with
      | array elements =>
          have helements := mapM_tree element.ofTree?_tree elements.toList
          rw [← elements.trees_eq] at helements
          exact helements
      | _ => rfl
  | .record name fields, d => by
      cases d with
      | array elements =>
          have helements := fields.ofTrees?_map elements.toList
          rw [← elements.trees_eq] at helements
          exact helements
      | object members => exact fields.ofMemberTrees?_trees members
      | _ => rfl

theorem Fields.ofTrees?_map : ∀ (fields : Fields) (ds : List Document),
    fields.ofTrees? (ds.map Document.tree) = fields.ofElements? ds
  | .nil, ds => by
      cases ds <;> rfl
  | .cons key schema rest, [] => rfl
  | .cons key schema rest, d :: ds => by
      rw [List.map_cons, Fields.ofTrees?_cons, Fields.ofElements?_cons, schema.ofTree?_tree d,
        rest.ofTrees?_map ds]

theorem Fields.ofMemberTrees?_trees : ∀ (fields : Fields) (members : Members),
    fields.ofMemberTrees? members.trees = fields.ofMembers? members
  | .nil, members => if_pos members.all_isSome_trees
  | .cons key schema rest, members => by
      have hvalue : (only? (MemberTree.valuesOf key members.trees)).bind schema.ofTree? =
          (only? (members.valuesOf key)).bind schema.ofDocument? := by
        rw [Members.valuesOf_trees, only?_map]
        cases only? (members.valuesOf key) with
        | none => rfl
        | some d => exact schema.ofTree?_tree d
      rw [Fields.ofMemberTrees?, Fields.ofMembers?, hvalue, Members.without_trees,
        rest.ofMemberTrees?_trees (members.without key)]

end

/-! ## Filling slots one after the other -/

/-- What a member does to the slots of the fields. -/
def Fields.put? : (fields : Fields) → fields.Slots → (key : String) → SyntaxTree →
    Option fields.Slots
  | .nil, (), _, _ => some ()
  | .cons field schema rest, (slot, slots), key, s =>
      if field = key then
        match slot with
        | some _ => none
        | none => (schema.ofTree? s).map fun value => (some value, slots)
      else (rest.put? slots key s).map fun slots => (slot, slots)

/-- What the members do to the slots; the key of each is read before its value. -/
def putAll? {σ : Type} (put? : σ → String → SyntaxTree → Option σ) : σ → List MemberTree → Option σ
  | slots, [] => some slots
  | slots, (key, s) :: rest =>
      key.bind fun key => (put? slots key s).bind fun slots => putAll? put? slots rest

/-- What the values with the key of a field do to its slot. -/
def Schema.fill? (schema : Schema) : Option schema.Value → List SyntaxTree →
    Option (Option schema.Value)
  | slot, [] => some slot
  | some _, _ :: _ => none
  | none, s :: rest => (schema.ofTree? s).bind fun value => schema.fill? (some value) rest

theorem Schema.fill?_none (schema : Schema) (trees : List SyntaxTree) :
    (schema.fill? none trees).bind id = (only? trees).bind schema.ofTree? := by
  match trees with
  | [] => rfl
  | [s] =>
      simp only [fill?, only?, Option.bind_some]
      cases schema.ofTree? s <;> rfl
  | s :: _ :: _ =>
      simp only [fill?, only?]
      cases schema.ofTree? s <;> rfl

/-- The first field takes the members with its key out, and the others see only the rest. -/
theorem Fields.putAll?_cons (key : String) (schema : Schema) (rest : Fields)
    (members : List MemberTree) (slot : Option schema.Value) (slots : rest.Slots) :
    putAll? (Fields.cons key schema rest).put? (slot, slots) members =
      (schema.fill? slot (MemberTree.valuesOf key members)).bind fun slot =>
        (putAll? rest.put? slots (MemberTree.without key members)).map
          fun slots => (slot, slots) := by
  induction members generalizing slot slots with
  | nil => rfl
  | cons member others ih =>
      obtain ⟨found, s⟩ := member
      by_cases hfound : found = some key
      · subst hfound
        rw [MemberTree.valuesOf_cons_self, MemberTree.without_cons_self]
        cases slot with
        | some value =>
            simp only [putAll?, Option.bind_some, put?, if_true, Schema.fill?]
            rfl
        | none =>
            simp only [putAll?, Option.bind_some, put?, if_true, Schema.fill?]
            cases schema.ofTree? s with
            | none => rfl
            | some value => exact ih (some value) slots
      · rw [MemberTree.valuesOf_cons_of_ne _ hfound, MemberTree.without_cons_of_ne _ hfound]
        cases found with
        | none => cases schema.fill? slot (MemberTree.valuesOf key others) <;> rfl
        | some k =>
            have hne : key ≠ k := fun h => hfound (congrArg some h.symm)
            simp only [putAll?, Option.bind_some, put?, if_neg hne]
            -- The member is put before or after the values of the first field: both orders agree.
            cases rest.put? slots k s with
            | none => cases schema.fill? slot (MemberTree.valuesOf key others) <;> rfl
            | some slots => exact ih slot slots

theorem Fields.putAll?_nil (members : List MemberTree) (slots : Fields.nil.Slots) :
    putAll? Fields.nil.put? slots members =
      if members.all (·.1.isSome) then some slots else none := by
  induction members with
  | nil => rfl
  | cons member others ih =>
      obtain ⟨found, s⟩ := member
      cases found with
      | none => rfl
      | some key => exact ih

theorem Fields.filled_putAll? : ∀ (fields : Fields) (members : List MemberTree),
    ((putAll? fields.put? fields.noSlots members).bind fun slots =>
      (fields.filled slots).toOption) = fields.ofMemberTrees? members
  | .nil, members => by
      rw [Fields.putAll?_nil, ofMemberTrees?]
      split <;> rfl
  | .cons key schema rest, members => by
      rw [ofMemberTrees?, ← schema.fill?_none, ← Fields.filled_putAll? rest, noSlots,
        Fields.putAll?_cons]
      cases schema.fill? none (MemberTree.valuesOf key members) with
      | none => rfl
      | some slot =>
          cases putAll? rest.put? rest.noSlots (MemberTree.without key members) with
          | none => cases slot <;> rfl
          | some slots =>
              cases slot with
              | none => rfl
              | some value =>
                  change ((rest.filled slots).map fun values => (value, values)).toOption =
                    (rest.filled slots).toOption.map fun values => (value, values)
                  cases rest.filled slots <;> rfl

end LensCalibration.Json
