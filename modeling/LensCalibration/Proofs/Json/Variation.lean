import Mathlib.Data.List.Perm.Basic
import Mathlib.Logic.Relation
import LensCalibration.Proofs.Json.Exchange
import LensCalibration.Proofs.Json.WellFormed

/-!
# Variations of a text

Two texts are variations of each other where they have the same syntax tree, or where one tree
comes from the other by a change of one record somewhere in it.  If the change does not matter to
the record then it does not matter to the whole, and neither does any number of such changes.
-/

namespace LensCalibration.Json

/-! ## Members in any order -/

theorem only?_perm {α : Type} {xs ys : List α} (h : xs.Perm ys) : only? xs = only? ys := by
  match xs with
  | [] => rw [h.nil_eq]
  | [x] => rw [List.singleton_perm.1 h]
  | x :: x' :: xs =>
      match ys, h.length_eq with
      | y :: y' :: ys, _ => rfl

namespace Fields

theorem ofMemberTrees?_perm (fields : Fields) {members members' : List MemberTree}
    (h : members.Perm members') : fields.ofMemberTrees? members = fields.ofMemberTrees? members' := by
  induction fields using Fields.keys.induct generalizing members members' with
  | case1 => rw [ofMemberTrees?, ofMemberTrees?, h.all_eq]
  | case2 key schema rest ih =>
      have hvalue : only? (MemberTree.valuesOf key members) =
          only? (MemberTree.valuesOf key members') := only?_perm (h.filterMap _)
      have hothers : (MemberTree.without key members).Perm (MemberTree.without key members') :=
        h.filter _
      rw [ofMemberTrees?, ofMemberTrees?, hvalue, ih hothers]

variable {key : String} {s s' : SyntaxTree}

theorem ofMemberTrees?_cons_of_notMem : ∀ {fields : Fields} (members : List MemberTree),
    key ∉ fields.keys →
      fields.ofMemberTrees? ((some key, s) :: members) = fields.ofMemberTrees? members
  | .nil, _, _ => rfl
  | .cons field schema rest, members, h => by
      simp only [keys, List.mem_cons, not_or] at h
      obtain ⟨hkey, hrest⟩ := h
      have hne : (some key, s).1 ≠ some field := fun h => hkey (Option.some.inj h)
      rw [ofMemberTrees?, ofMemberTrees?, MemberTree.valuesOf_cons_of_ne _ hne,
        MemberTree.without_cons_of_ne _ hne, ofMemberTrees?_cons_of_notMem _ hrest]

/-! ## Fields by key and by position -/

def schemaOf? (key : String) : Fields → Option Schema
  | .nil => none
  | .cons field schema rest => if field = key then some schema else rest.schemaOf? key

def schemaAt? : Fields → (index : Nat) → Option Schema
  | .nil, _ => none
  | .cons _ schema _, 0 => some schema
  | .cons _ _ rest, index + 1 => rest.schemaAt? index

theorem ofMemberTrees?_cons_congr {schema : Schema} (h : schema.ofTree? s = schema.ofTree? s') :
    ∀ {fields : Fields} (members : List MemberTree), fields.schemaOf? key = some schema →
      fields.ofMemberTrees? ((some key, s) :: members) =
        fields.ofMemberTrees? ((some key, s') :: members)
  | .cons field schema' rest, members, hfield => by
      rw [schemaOf?] at hfield
      split at hfield
      · next hkey =>
          obtain rfl := hkey
          obtain rfl := Option.some.inj hfield
          simp only [ofMemberTrees?, MemberTree.valuesOf_cons_self, MemberTree.without_cons_self]
          -- Behind another value of the same key neither of them counts.
          cases MemberTree.valuesOf field members with
          | nil => rw [only?, only?, Option.bind_some, Option.bind_some, h]
          | cons other others => rfl
      · next hkey =>
          have hne (s : SyntaxTree) : (some key, s).1 ≠ some field :=
            fun h => hkey (Option.some.inj h).symm
          rw [ofMemberTrees?, ofMemberTrees?, MemberTree.valuesOf_cons_of_ne _ (hne s),
            MemberTree.valuesOf_cons_of_ne _ (hne s'), MemberTree.without_cons_of_ne _ (hne s),
            MemberTree.without_cons_of_ne _ (hne s'), ofMemberTrees?_cons_congr h _ hfield]

theorem ofTrees?_congr {schema : Schema} (h : schema.ofTree? s = schema.ofTree? s')
    {after : List SyntaxTree} : ∀ {fields : Fields} {before : List SyntaxTree},
      fields.schemaAt? before.length = some schema →
      fields.ofTrees? (before ++ s :: after) = fields.ofTrees? (before ++ s' :: after)
  | .cons _ _ rest, [], hfield => by
      obtain rfl := Option.some.inj hfield
      rw [List.nil_append, List.nil_append, ofTrees?_cons, ofTrees?_cons, h]
  | .cons _ _ rest, t :: before, hfield => by
      have hrest : rest.ofTrees? (before ++ s :: after) = rest.ofTrees? (before ++ s' :: after) :=
        ofTrees?_congr h hfield
      rw [List.cons_append, List.cons_append, ofTrees?_cons, ofTrees?_cons, hrest]

theorem hasDistinctKeys_of_schemaOf? {schema : Schema} : ∀ {fields : Fields},
    fields.hasDistinctKeys → fields.schemaOf? key = some schema → schema.hasDistinctKeys
  | .cons field schema' rest, hkeys, hfield => by
      simp only [hasDistinctKeys, Bool.and_eq_true] at hkeys
      rw [schemaOf?] at hfield
      split at hfield
      · exact Option.some.inj hfield ▸ hkeys.1.2
      · exact hasDistinctKeys_of_schemaOf? hkeys.2 hfield

theorem hasDistinctKeys_of_schemaAt? {schema : Schema} : ∀ {fields : Fields} {index : Nat},
    fields.hasDistinctKeys → fields.schemaAt? index = some schema → schema.hasDistinctKeys
  | .cons field schema' rest, index, hkeys, hfield => by
      simp only [hasDistinctKeys, Bool.and_eq_true] at hkeys
      cases index with
      | zero => exact Option.some.inj hfield ▸ hkeys.1.2
      | succ index => exact hasDistinctKeys_of_schemaAt? hkeys.2 hfield

end Fields

/-! ## A change of one record -/

/-- What an array of this schema has at an index. -/
def Schema.elementAt? : Schema → (index : Nat) → Option Schema
  | .array _ element, _ => some element
  | .list element, _ => some element
  | .record _ fields, index => fields.schemaAt? index
  | _, _ => none

/-- Trees that differ by `R` in one record at any depth, and in nothing else. -/
inductive Within (R : Fields → SyntaxTree → SyntaxTree → Prop) :
    Schema → SyntaxTree → SyntaxTree → Prop where
  | here {name : String} {fields : Fields} {s s' : SyntaxTree} (h : R fields s s') :
      Within R (.record name fields) s s'
  | member {name key : String} {fields : Fields} {schema : Schema} {s s' : SyntaxTree}
      (before after : List MemberTree) (hfield : fields.schemaOf? key = some schema)
      (h : Within R schema s s') :
      Within R (.record name fields) (.object (before ++ (some key, s) :: after))
        (.object (before ++ (some key, s') :: after))
  | element {schema element : Schema} {s s' : SyntaxTree} (before after : List SyntaxTree)
      (helement : schema.elementAt? before.length = some element) (h : Within R element s s') :
      Within R schema (.array (before ++ s :: after)) (.array (before ++ s' :: after))

/-- A change that does not matter to a record. -/
def IsNeutral (R : Fields → SyntaxTree → SyntaxTree → Prop) : Prop :=
  ∀ (name : String) (fields : Fields), fields.hasDistinctKeys → ∀ s s' : SyntaxTree,
    R fields s s' → (Schema.record name fields).ofTree? s = (Schema.record name fields).ofTree? s'

theorem Schema.hasDistinctKeys_of_elementAt? {schema element : Schema} {index : Nat}
    (hkeys : schema.hasDistinctKeys) (h : schema.elementAt? index = some element) :
    element.hasDistinctKeys := by
  cases schema with
  | array size element' =>
      cases h
      exact hkeys
  | list element' =>
      cases h
      exact hkeys
  | record name fields => exact Fields.hasDistinctKeys_of_schemaAt? hkeys h
  | _ => cases h

theorem Schema.ofTree?_element {schema element : Schema} {s s' : SyntaxTree}
    {before after : List SyntaxTree} (helement : schema.elementAt? before.length = some element)
    (h : element.ofTree? s = element.ofTree? s') :
    schema.ofTree? (.array (before ++ s :: after)) =
      schema.ofTree? (.array (before ++ s' :: after)) := by
  have hmapM : (before ++ s :: after).mapM element.ofTree? =
      (before ++ s' :: after).mapM element.ofTree? := by
    simp only [List.mapM_append, List.mapM_cons, h]
  cases schema with
  | array size element' =>
      cases helement
      exact congrArg (Option.bind · (vectorOf? size)) hmapM
  | list element' =>
      cases helement
      exact hmapM
  | record name fields => exact Fields.ofTrees?_congr h helement
  | _ => cases helement

variable {R : Fields → SyntaxTree → SyntaxTree → Prop}

theorem Within.ofTree?_eq (hR : IsNeutral R) {schema : Schema} {s s' : SyntaxTree}
    (h : Within R schema s s') (hkeys : schema.hasDistinctKeys) :
    schema.ofTree? s = schema.ofTree? s' := by
  induction h with
  | here h => exact hR _ _ hkeys _ _ h
  | @member name key fields schema s s' before after hfield h ih =>
      have hs := ih (fields.hasDistinctKeys_of_schemaOf? hkeys hfield)
      have hfront (s : SyntaxTree) : fields.ofMemberTrees? (before ++ (some key, s) :: after) =
          fields.ofMemberTrees? ((some key, s) :: (before ++ after)) :=
        fields.ofMemberTrees?_perm List.perm_middle
      change fields.ofMemberTrees? _ = fields.ofMemberTrees? _
      rw [hfront, hfront, Fields.ofMemberTrees?_cons_congr hs _ hfield]
  | element before after helement h ih =>
      exact Schema.ofTree?_element helement (ih (Schema.hasDistinctKeys_of_elementAt? hkeys helement))

/-! ## Texts -/

/-- One step from a text to a variation of it. -/
inductive Schema.Varies (R : Fields → SyntaxTree → SyntaxTree → Prop) (schema : Schema) :
    (text text' : String) → Prop where
  /-- The same tree: other blanks, other spellings of keys and numerals, or other strings. -/
  | spelling {s : SyntaxTree} {text text' : String} (h : s.IsContentOf text)
      (h' : s.IsContentOf text') : Varies R schema text text'
  | content {s s' : SyntaxTree} {text text' : String} (h : s.IsContentOf text)
      (h' : s'.IsContentOf text') (hs : Within R schema s s') : Varies R schema text text'

theorem Schema.Varies.toOption_decode_eq {schema : Schema} (hR : IsNeutral R)
    (hkeys : schema.hasDistinctKeys) {text text' : String} (h : schema.Varies R text text') :
    (schema.decode text).toOption = (schema.decode text').toOption := by
  cases h with
  | spelling h h' => rw [schema.toOption_decode_tree h, schema.toOption_decode_tree h']
  | content h h' hs =>
      rw [schema.toOption_decode_tree h, schema.toOption_decode_tree h', hs.ofTree?_eq hR hkeys]

/-- Any number of variations, taken forth or back. -/
theorem Schema.toOption_decode_eq_of_eqvGen {schema : Schema} (hR : IsNeutral R)
    (hkeys : schema.hasDistinctKeys) {text text' : String}
    (h : Relation.EqvGen (schema.Varies R) text text') :
    (schema.decode text).toOption = (schema.decode text').toOption := by
  induction h with
  | rel text text' h => exact h.toOption_decode_eq hR hkeys
  | refl text => rfl
  | symm text text' h ih => exact ih.symm
  | trans text text' text'' h h' ih ih' => exact ih.trans ih'

theorem toOption_decode_eq_of_eqvGen (α : Type) [Coded α] (hR : IsNeutral R)
    (hkeys : (Coded.schema α).hasDistinctKeys) {text text' : String}
    (h : Relation.EqvGen ((Coded.schema α).Varies R) text text') :
    (decode α text).toOption = (decode α text').toOption := by
  rw [toOption_decode_eq_map, toOption_decode_eq_map, Schema.toOption_decode_eq_of_eqvGen hR hkeys h]

end LensCalibration.Json
