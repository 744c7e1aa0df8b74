import LensCalibration.Proofs.Blob.Reload
import LensCalibration.Proofs.Json.Variation

/-!
# The layout of a blob

Neither the order of the members of a record nor members that are no fields of it matter to what
is loaded, wherever in the blob the record is, and blanks do not matter either.
-/

namespace LensCalibration

open Json

namespace Json

/-- One change in the members of a record that does not touch its fields. -/
inductive Rearranged (fields : Fields) : SyntaxTree → SyntaxTree → Prop where
  | order {members members' : List MemberTree} (h : members.Perm members') :
      Rearranged fields (.object members) (.object members')
  /-- A member that is no field, with any value. -/
  | stranger {key : String} (value : SyntaxTree) (before after : List MemberTree)
      (hkey : key ∉ fields.keys) :
      Rearranged fields (.object (before ++ after)) (.object (before ++ (some key, value) :: after))

theorem isNeutral_rearranged : IsNeutral Rearranged := by
  intro name fields _ s s' h
  cases h with
  | order h => exact fields.ofMemberTrees?_perm h
  | stranger value before after hkey =>
      change fields.ofMemberTrees? _ = fields.ofMemberTrees? _
      rw [fields.ofMemberTrees?_perm List.perm_middle, Fields.ofMemberTrees?_cons_of_notMem _ hkey]

end Json

namespace Calibration

theorem ofBlob_of_rearranged {text : String} {c : Calibration} (h : ofBlob text = .ok c) :
    (∃ s : SyntaxTree, s.IsContentOf text) ∧
      ∀ text', Relation.EqvGen (schema.Varies Rearranged) text text' → ofBlob text' = .ok c := by
  obtain ⟨hdecode, hvalid⟩ := ofBlob_eq_ok.1 h
  constructor
  · rw [toOption_decode_eq_map] at hdecode
    obtain ⟨value, hvalue, -⟩ := Option.map_eq_some_iff.1 hdecode
    obtain ⟨s, hs, -⟩ := schema.exists_tree_of_decode (toOption_eq_some.1 hvalue)
    exact ⟨s, hs⟩
  · intro text' htext
    have hsame := toOption_decode_eq_of_eqvGen Calibration isNeutral_rearranged (by decide) htext
    exact ofBlob_eq_ok.2 ⟨hsame ▸ hdecode, hvalid⟩

/-- The members of a calibration in the order opposite to that of its fields. -/
def backwards (c : Calibration) : List (String × Document) :=
  [("color_resolution", toDocument c.colorResolution), ("depth_mode", toDocument c.depthMode),
    ("extrinsics", toDocument c.table), ("color_camera_calibration", toDocument c.colorCamera),
    ("depth_camera_calibration", toDocument c.depthCamera)]

/-- From the pretty blob to a compact one, backwards and with a member that is no field. -/
theorem ofBlob_of_rearranged_sample :
    ofBlob sample.toBlob = .ok sample ∧
      (∃ s : SyntaxTree, s.IsContentOf sample.toBlob) ∧
      ofBlob ((Document.object (.ofList
        (("unit", .string "mm") :: backwards sample))).toString .compact) = .ok sample := by
  have hblob : ofBlob sample.toBlob = .ok sample := ofBlob_eq_ok.2 ⟨decode_toBlob_sample, rfl⟩
  obtain ⟨htree, hrearranged⟩ := ofBlob_of_rearranged hblob
  refine ⟨hblob, htree, hrearranged _ (.trans _
    ((Document.object (.ofList (backwards sample))).toString .compact) _ (.rel _ _ ?_)
    (.rel _ _ ?_))⟩
  · exact .content (isContentOf_encode .pretty sample).tree
      (Document.isContentOf_toString .compact (by decide +kernel)).tree
      (.here (.order (List.reverse_perm _).symm))
  · exact .content (Document.isContentOf_toString .compact (by decide +kernel)).tree
      (Document.isContentOf_toString .compact (by decide +kernel)).tree
      (.here (.stranger .string [] _ (by decide)))

end Calibration

end LensCalibration
