import LensCalibration.Proofs.Json.Leaves

/-!
# Syntax trees

A syntax tree is what stands in a text that is well-formed, blanks apart.  It says less than a
document of its strings, which no record asks for, and more of its keys: one that has a surrogate
without a partner is no Unicode text, so that no document has it, but a value that is passed over
may hold it all the same.
-/

namespace LensCalibration.Json

open Decimal

/-- A key that is no Unicode text is `none`. -/
inductive SyntaxTree where
  | null
  | boolean (value : Bool)
  | number (numeral : Numeral)
  | string
  | array (elements : List SyntaxTree)
  | object (members : List (Option String × SyntaxTree))

abbrev MemberTree := Option String × SyntaxTree

/-! ## Texts -/

def KeyWrittenAs : Option String → List Char → Prop
  | some key, body => Spells key.toList body
  | none, body => StringBody body ∧ ∀ cs, ¬ Spells cs body

theorem KeyWrittenAs.stringBody {key : Option String} {body : List Char}
    (h : KeyWrittenAs key body) : StringBody body := by
  cases key with
  | none => exact h.1
  | some key => exact Spells.stringBody h

theorem exists_keyWrittenAs {body : List Char} (h : StringBody body) :
    ∃ key, KeyWrittenAs key body := by
  by_cases hspells : ∃ cs, Spells cs body
  · obtain ⟨cs, hcs⟩ := hspells
    exact ⟨some (String.ofList cs), by simpa [KeyWrittenAs] using hcs⟩
  · exact ⟨none, h, fun cs hcs => hspells ⟨cs, hcs⟩⟩

mutual

def SyntaxTree.WrittenAs : SyntaxTree → List Char → Prop
  | .null, text => text = ['n', 'u', 'l', 'l']
  | .boolean true, text => text = ['t', 'r', 'u', 'e']
  | .boolean false, text => text = ['f', 'a', 'l', 's', 'e']
  | .number n, text => n.WrittenAs text
  | .string, text => ∃ body, StringBody body ∧ text = '"' :: (body ++ ['"'])
  | .array elements, text =>
      ∃ inside, ElementsWrittenAs true elements inside ∧ text = '[' :: (inside ++ [']'])
  | .object members, text =>
      ∃ inside, MembersWrittenAs true members inside ∧ text = '{' :: (inside ++ ['}'])

/-- Elements and the blanks after them. -/
def ElementsWrittenAs : (first : Bool) → List SyntaxTree → List Char → Prop
  | _, [], text => Blanks text
  | first, element :: rest, text =>
      ∃ separator value others, Separates first separator ∧ element.WrittenAs value ∧
        ElementsWrittenAs false rest others ∧ text = separator ++ value ++ others

/-- Members and the blanks after them. -/
def MembersWrittenAs : (first : Bool) → List MemberTree → List Char → Prop
  | _, [], text => Blanks text
  | first, (key, value) :: rest, text =>
      ∃ separator body before after content others, Separates first separator ∧
        KeyWrittenAs key body ∧ Blanks before ∧ Blanks after ∧ value.WrittenAs content ∧
        MembersWrittenAs false rest others ∧
        text = separator ++ '"' :: (body ++ '"' :: (before ++ ':' :: (after ++ content ++ others)))

end

/-- A whole text may have blanks around its value. -/
def SyntaxTree.IsContentOf (s : SyntaxTree) (text : String) : Prop :=
  ∃ before inside after, Blanks before ∧ s.WrittenAs inside ∧ Blanks after ∧
    text.toList = before ++ inside ++ after

/-! ## The tree of a document -/

mutual

def Document.tree : Document → SyntaxTree
  | .null => .null
  | .boolean value => .boolean value
  | .number n => .number n
  | .string _ => .string
  | .array elements => .array elements.trees
  | .object members => .object members.trees

def Elements.trees : Elements → List SyntaxTree
  | .nil => []
  | .cons element rest => element.tree :: rest.trees

def Members.trees : Members → List MemberTree
  | .nil => []
  | .cons key value rest => (some key, value.tree) :: rest.trees

end

mutual

theorem Document.WrittenAs.tree : ∀ {d : Document} {text : List Char},
    d.WrittenAs text → d.tree.WrittenAs text
  | .null, _, h => h
  | .boolean true, _, h => h
  | .boolean false, _, h => h
  | .number _, _, h => h
  | .string _, _, ⟨body, hbody, htext⟩ => ⟨body, hbody.1, htext⟩
  | .array _, _, ⟨inside, hinside, htext⟩ => ⟨inside, hinside.trees, htext⟩
  | .object _, _, ⟨inside, hinside, htext⟩ => ⟨inside, hinside.trees, htext⟩

theorem Elements.WrittenAs.trees : ∀ {elements : Elements} {first : Bool} {text : List Char},
    elements.WrittenAs first text → ElementsWrittenAs first elements.trees text
  | .nil, _, _, h => h
  | .cons _ _, _, _, ⟨separator, value, others, hseparator, hvalue, hothers, htext⟩ =>
      ⟨separator, value, others, hseparator, hvalue.tree, hothers.trees, htext⟩

theorem Members.WrittenAs.trees : ∀ {members : Members} {first : Bool} {text : List Char},
    members.WrittenAs first text → MembersWrittenAs first members.trees text
  | .nil, _, _, h => h
  | .cons _ _ _, _, _, ⟨separator, body, before, after, content, others, hseparator, hbody,
      hbefore, hafter, hcontent, hothers, htext⟩ =>
      ⟨separator, body, before, after, content, others, hseparator, hbody, hbefore, hafter,
        hcontent.tree, hothers.trees, htext⟩

end

theorem Document.IsContentOf.tree {d : Document} {text : String} (h : d.IsContentOf text) :
    d.tree.IsContentOf text := by
  obtain ⟨before, inside, after, hbefore, hinside, hafter, htext⟩ := h
  exact ⟨before, inside, after, hbefore, hinside.tree, hafter, htext⟩

end LensCalibration.Json
