import LensCalibration.Proofs.Blob.Acceptance
import LensCalibration.Proofs.Blob.Reload
import LensCalibration.Proofs.Cameras.Intrinsics
import LensCalibration.Proofs.Json.Variation

/-!
# Named and positional records

A record may name its fields or list their values in the order of the fields.  Any records of a
blob may change from one form to the other, and the order of the parameters is the native one in
both.
-/

namespace LensCalibration

open Binary Decimal Json

/-! ## Members and elements -/

namespace Json

/-- A record that names its fields, and the list of their values in the order of the fields. -/
inductive Positioned (fields : Fields) : SyntaxTree → SyntaxTree → Prop where
  | of {members : List MemberTree} {values : List SyntaxTree}
      (hunicode : ∀ m ∈ members, m.1.isSome)
      (hvalues : fields.keys.map (MemberTree.valuesOf · members) = values.map fun s => [s]) :
      Positioned fields (.object members) (.array values)

theorem MemberTree.valuesOf_without {key other : String} (h : other ≠ key)
    (members : List MemberTree) : valuesOf other (without key members) = valuesOf other members := by
  rw [valuesOf, without, List.filterMap_filter]
  refine List.filterMap_congr fun m _ => ?_
  by_cases hm : m.1 = some other
  · simp [hm, h]
  · simp [hm]

theorem Fields.ofMemberTrees?_eq_ofTrees? : ∀ {fields : Fields} {members : List MemberTree}
    {values : List SyntaxTree}, fields.hasDistinctKeys → (∀ m ∈ members, m.1.isSome) →
    fields.keys.map (MemberTree.valuesOf · members) = (values.map fun s => [s]) →
      fields.ofMemberTrees? members = fields.ofTrees? values
  | .nil, members, values, _, hunicode, hvalues => by
      obtain rfl : values = [] := List.map_eq_nil_iff.1 hvalues.symm
      exact if_pos (List.all_eq_true.2 hunicode)
  | .cons key schema rest, members, s :: values, hkeys, hunicode, hvalues => by
      simp only [hasDistinctKeys, Bool.and_eq_true, decide_eq_true_eq] at hkeys
      obtain ⟨⟨hkey, -⟩, hrest⟩ := hkeys
      obtain ⟨hs, hvalues⟩ := List.cons.inj hvalues
      have hs : MemberTree.valuesOf key members = [s] := hs
      have hothers : rest.keys.map (MemberTree.valuesOf · (MemberTree.without key members)) =
          values.map fun s => [s] := by
        rw [← hvalues]
        refine List.map_congr_left fun other hother => MemberTree.valuesOf_without ?_ members
        rintro rfl
        exact hkey hother
      have hunicode' : ∀ m ∈ MemberTree.without key members, m.1.isSome :=
        fun m hm => hunicode m (List.mem_of_mem_filter hm)
      rw [ofMemberTrees?, ofTrees?_cons, hs, only?, Option.bind_some,
        ofMemberTrees?_eq_ofTrees? hrest hunicode' hothers]
      rfl

theorem isNeutral_positioned : IsNeutral Positioned := by
  rintro name fields hkeys s s' ⟨hunicode, hvalues⟩
  exact fields.ofMemberTrees?_eq_ofTrees? hkeys hunicode hvalues

/-- The members that name the values in the order of the keys. -/
def Members.zip (keys : List String) (values : List Document) : Members :=
  .ofList (keys.zip values)

theorem MemberTree.valuesOf_zip_of_notMem {key : String} : ∀ {keys : List String}
    {values : List Document}, key ∉ keys → valuesOf key (Members.zip keys values).trees = []
  | [], _, _ => rfl
  | _ :: _, [], _ => rfl
  | k :: keys, d :: values, h => by
      simp only [List.mem_cons, not_or] at h
      have hne : (some k, d.tree).1 ≠ some key := fun hk => h.1 (Option.some.inj hk).symm
      exact (valuesOf_cons_of_ne _ hne).trans (valuesOf_zip_of_notMem h.2)

theorem MemberTree.map_valuesOf_zip : ∀ {keys : List String} {values : List Document},
    keys.Nodup → keys.length = values.length →
      keys.map (valuesOf · (Members.zip keys values).trees) =
        (values.map Document.tree).map fun s => [s]
  | [], [], _, _ => rfl
  | key :: keys, d :: values, hkeys, hlength => by
      obtain ⟨hkey, hkeys⟩ := List.nodup_cons.1 hkeys
      have hfirst : valuesOf key (Members.zip (key :: keys) (d :: values)).trees = [d.tree] := by
        refine (valuesOf_cons_self _ _).trans ?_
        exact congrArg (d.tree :: ·) (valuesOf_zip_of_notMem hkey)
      have hothers : keys.map (valuesOf · (Members.zip (key :: keys) (d :: values)).trees) =
          keys.map (valuesOf · (Members.zip keys values).trees) :=
        List.map_congr_left fun other hother =>
          valuesOf_cons_of_ne _ fun h => hkey (Option.some.inj h ▸ hother)
      rw [List.map_cons, hfirst, hothers, map_valuesOf_zip hkeys (Nat.succ.inj hlength)]
      rfl

theorem positioned_zip {fields : Fields} {values : List Document} (hkeys : fields.keys.Nodup)
    (hlength : fields.keys.length = values.length) :
    Positioned fields (Document.object (.zip fields.keys values)).tree
      (Document.array (.ofList values)).tree := by
  change Positioned fields (.object _) (.array (Elements.ofList values).trees)
  rw [Elements.trees_eq, toList_ofList]
  exact .of (List.all_eq_true.1 (Members.all_isSome_trees _))
    (MemberTree.map_valuesOf_zip hkeys hlength)

end Json

/-! ## Parameters -/

theorem map_toList_mapM {α β : Type} {n : Nat} (f : α → Option β) (xs : Vector α n) :
    (xs.mapM f).map Vector.toList = xs.toList.mapM f := by
  calc
    (xs.mapM f).map Vector.toList = Array.toList <$> Vector.toArray <$> xs.mapM f := by
      cases xs.mapM f <;> rfl
    _ = xs.toList.mapM f := by
      rw [Vector.toArray_mapM, Array.toList_mapM]
      rfl

def Decimal.Numeral.single? (n : Numeral) : Option Single :=
  n.value.toOption.map Number.toSingle

def singleList : (keys : List String) → (singleFields keys).Values → List Single
  | [], () => []
  | _ :: keys, (x, xs) => x :: singleList keys xs

theorem ofElements?_singleFields : ∀ {keys : List String} {ns : List Numeral},
    keys.length = ns.length →
      ((singleFields keys).ofElements? (ns.map .number)).map (singleList keys) =
        ns.mapM Numeral.single?
  | [], [], _ => rfl
  | key :: keys, n :: ns, hlength => by
      have hrest := ofElements?_singleFields (Nat.succ.inj hlength)
      rw [List.mapM_cons, ← hrest, List.map_cons]
      change Option.map _ ((Fields.cons key .single (singleFields keys)).ofElements? _) = _
      rw [Fields.ofElements?_cons]
      change Option.map _ (Option.bind n.single? _) = Option.bind n.single? _
      cases n.single? with
      | none => rfl
      | some x => cases (singleFields keys).ofElements? (ns.map .number) <;> rfl

namespace IntrinsicParameters

/-- The numbers in native order. -/
def listed (ns : Vector Numeral 15) : Document :=
  .array (.ofList (ns.toList.map .number))

/-- The numbers in native order, each with its name. -/
def named (ns : Vector Numeral 15) : Document :=
  .object (.zip keys (ns.toList.map .number))

theorem toVector_ofValue_toList (values : schema.Value) :
    (Coded.ofValue values : IntrinsicParameters).toVector.toList = singleList keys values :=
  rfl

theorem ofDocument?_listed (ns : Vector Numeral 15) :
    (schema.ofDocument? (listed ns)).map Coded.ofValue =
      (ns.mapM Numeral.single?).map ofVector := by
  have hlist : (schema.ofDocument? (listed ns)).map (singleList keys) =
      (ns.mapM Numeral.single?).map Vector.toList := by
    rw [map_toList_mapM]
    change ((singleFields keys).ofElements? (Elements.ofList _).toList).map _ = _
    rw [toList_ofList]
    exact ofElements?_singleFields ns.length_toList.symm
  cases hread : schema.ofDocument? (listed ns) with
  | none =>
      rw [hread] at hlist
      cases hvalues : ns.mapM Numeral.single? with
      | none => rfl
      | some values =>
          rw [hvalues] at hlist
          cases hlist
  | some value =>
      rw [hread] at hlist
      obtain ⟨values, hvalues, htoList⟩ := Option.map_eq_some_iff.1 hlist.symm
      have hvector : (Coded.ofValue value : IntrinsicParameters).toVector = values :=
        Vector.toList_inj.1 ((toVector_ofValue_toList value).trans htoList.symm)
      rw [hvalues, ← hvector]
      rfl

/-- The names change nothing, since they come in the order of the fields. -/
theorem ofTree?_named (ns : Vector Numeral 15) :
    schema.ofTree? (named ns).tree = schema.ofTree? (listed ns).tree := by
  have hlength : keys.length = (ns.toList.map Document.number).length := by
    rw [List.length_map, ns.length_toList]
    rfl
  have hpositioned : Positioned (singleFields keys) (named ns).tree (listed ns).tree :=
    positioned_zip (by decide) hlength
  exact isNeutral_positioned "IntrinsicParameters" _ (by decide) _ _ hpositioned

section

variable {ns : Vector Numeral 15} {text : String}

theorem toOption_decode_listed (h : (listed ns).IsContentOf text) :
    (decode IntrinsicParameters text).toOption = (ns.mapM Numeral.single?).map ofVector := by
  rw [toOption_decode IntrinsicParameters h]
  exact ofDocument?_listed ns

theorem toOption_decode_named (h : (named ns).IsContentOf text) :
    (decode IntrinsicParameters text).toOption = (ns.mapM Numeral.single?).map ofVector := by
  have hdocument : schema.ofDocument? (named ns) = schema.ofDocument? (listed ns) := by
    rw [← schema.ofTree?_tree, ofTree?_named, schema.ofTree?_tree]
  rw [toOption_decode IntrinsicParameters h, ← ofDocument?_listed ns]
  exact congrArg (Option.map Coded.ofValue) hdocument

end

end IntrinsicParameters

/-! ## Blobs -/

namespace Calibration

theorem decode_of_positioned :
    (∀ {text text' : String} {c : Calibration}, decode Calibration text = .ok c →
      Relation.EqvGen (schema.Varies Positioned) text text' →
        decode Calibration text' = .ok c ∧ ofBlob text' = ofBlob text) ∧
      ∀ (ns : Vector Numeral 15) {listText objectText : String},
        (IntrinsicParameters.listed ns).IsContentOf listText →
        (IntrinsicParameters.named ns).IsContentOf objectText →
          (decode IntrinsicParameters listText).toOption =
              (ns.mapM Numeral.single?).map .ofVector ∧
            (decode IntrinsicParameters objectText).toOption =
              (ns.mapM Numeral.single?).map .ofVector ∧
            ∀ values, (IntrinsicParameters.ofVector values).toVector = values := by
  constructor
  · intro text text' c hdecode htext
    have hc : (decode Calibration text).toOption = some c := toOption_eq_some.2 hdecode
    have hc' : (decode Calibration text').toOption = some c :=
      toOption_decode_eq_of_eqvGen Calibration isNeutral_positioned (by decide) htext ▸ hc
    exact ⟨toOption_eq_some.1 hc', by rw [ofBlob_of_decode hc, ofBlob_of_decode hc']⟩
  · intro ns listText objectText hlist hobject
    exact ⟨IntrinsicParameters.toOption_decode_listed hlist,
      IntrinsicParameters.toOption_decode_named hobject,
      fun _ => IntrinsicParameters.toVector_ofVector⟩

/-- The fields of the sample in their order, around some depth camera. -/
def sampleFields (depthCamera : Document) : List Document :=
  [depthCamera, toDocument sample.colorCamera, toDocument sample.table,
    toDocument sample.depthMode, toDocument sample.colorResolution]

/-- The fields of its depth camera, around some intrinsics. -/
def sampleCameraFields (intrinsics : Document) : List Document :=
  let camera := sample.depthCamera
  [toDocument camera.extrinsics, intrinsics, ofInt camera.width.toInt, ofInt camera.height.toInt,
    ofSingle camera.metricRadius]

def sampleIntrinsicsFields : List Document :=
  let intrinsics := sample.depthCamera.intrinsics
  [toDocument intrinsics.model, ofInt intrinsics.parameterCount.toNat,
    toDocument intrinsics.parameters]

def namedSample (depthCamera : Document) : Document :=
  .object (.zip ["depth_camera_calibration", "color_camera_calibration", "extrinsics", "depth_mode",
    "color_resolution"] (sampleFields depthCamera))

def namedSampleCamera (intrinsics : Document) : Document :=
  .object (.zip ["extrinsics", "intrinsics", "resolution_width", "resolution_height",
    "metric_radius"] (sampleCameraFields intrinsics))

theorem toDocument_sample :
    toDocument sample = namedSample (namedSampleCamera (.object
      (.zip ["type", "parameter_count", "parameters"] sampleIntrinsicsFields))) :=
  rfl

/-- The intrinsics of the depth camera lose their names, then the camera and the calibration do. -/
theorem decode_of_positioned_sample :
    let camera : Document := .array (.ofList (sampleCameraFields
      (.array (.ofList sampleIntrinsicsFields))))
    let text := (Document.array (.ofList (sampleFields camera))).toString .compact
    let ns : Vector Numeral 15 := Vector.ofFn fun i => Numeral.ofInt (i + 1)
    let parameters := IntrinsicParameters.ofVector
      (Vector.ofFn fun i => (Number.integer (i + 1)).toSingle)
    decode Calibration sample.toBlob = .ok sample ∧
      (decode Calibration text = .ok sample ∧ ofBlob text = ofBlob sample.toBlob) ∧
      (decode IntrinsicParameters ((IntrinsicParameters.listed ns).toString .compact)).toOption =
        some parameters ∧
      (decode IntrinsicParameters ((IntrinsicParameters.named ns).toString .compact)).toOption =
        some parameters := by
  intro camera text ns parameters
  let intrinsics := Document.array (.ofList sampleIntrinsicsFields)
  have hdecode : decode Calibration sample.toBlob = .ok sample :=
    toOption_eq_some.1 decode_toBlob_sample
  have hpretty : (toDocument sample).IsContentOf sample.toBlob := isContentOf_encode .pretty sample
  have hfirst : (namedSample (namedSampleCamera intrinsics)).IsContentOf
      ((namedSample (namedSampleCamera intrinsics)).toString .compact) :=
    Document.isContentOf_toString .compact (by decide +kernel)
  have hsecond : (namedSample camera).IsContentOf ((namedSample camera).toString .compact) :=
    Document.isContentOf_toString .compact (by decide +kernel)
  have hlast : (Document.array (.ofList (sampleFields camera))).IsContentOf text :=
    Document.isContentOf_toString .compact (by decide +kernel)
  have hintrinsics : Within Positioned Intrinsics.schema
      (Document.object (.zip ["type", "parameter_count", "parameters"] sampleIntrinsicsFields)).tree
      intrinsics.tree :=
    .here (positioned_zip (by decide) rfl)
  have hinside : Within Positioned schema (toDocument sample).tree
      (namedSample (namedSampleCamera intrinsics)).tree := by
    rw [toDocument_sample]
    exact .member [] _ rfl (.member [_] _ rfl hintrinsics)
  have hcamera : Within Positioned Camera.schema (namedSampleCamera intrinsics).tree camera.tree :=
    .here (positioned_zip (by decide) rfl)
  have haround : Within Positioned schema (namedSample (namedSampleCamera intrinsics)).tree
      (namedSample camera).tree :=
    .member [] _ rfl hcamera
  have hcalibration : Within Positioned schema (namedSample camera).tree
      (Document.array (.ofList (sampleFields camera))).tree :=
    .here (positioned_zip (by decide) rfl)
  have hvaried : Relation.EqvGen (schema.Varies Positioned) sample.toBlob text :=
    .trans _ _ _ (.rel _ _ (.content hpretty.tree hfirst.tree hinside))
      (.trans _ _ _ (.rel _ _ (.content hfirst.tree hsecond.tree haround))
        (.rel _ _ (.content hsecond.tree hlast.tree hcalibration)))
  have hvalues : ns.mapM Numeral.single? = some (Vector.ofFn fun i =>
      (Number.integer (i + 1)).toSingle) := by
    decide +kernel
  have hlisted : (IntrinsicParameters.listed ns).IsContentOf
      ((IntrinsicParameters.listed ns).toString .compact) :=
    Document.isContentOf_toString .compact (by decide +kernel)
  have hnamed : (IntrinsicParameters.named ns).IsContentOf
      ((IntrinsicParameters.named ns).toString .compact) :=
    Document.isContentOf_toString .compact (by decide +kernel)
  obtain ⟨hlist, hobject, -⟩ := decode_of_positioned.2 ns hlisted hnamed
  rw [hvalues] at hlist hobject
  exact ⟨hdecode, decode_of_positioned.1 hdecode hvaried, hlist, hobject⟩

end Calibration

end LensCalibration
