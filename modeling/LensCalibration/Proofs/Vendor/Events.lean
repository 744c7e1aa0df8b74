import LensCalibration.Proofs.Vendor.Matching

/-!
# What is logged on the way to a calibration

A call ends in one of four ways, and each has its own events: one warning where the mode has no
depth calibration, one where no entry matches, and otherwise the selection, followed by the
calibration if one is built.  So the log alone shows how the call ended.
-/

namespace LensCalibration

/-! ## Lines -/

/-- What a reader of the log sees of an event. -/
def Event.line (event : Event) : Level × String :=
  (event.level, event.message)

def Logged.lines {α : Type} (x : Logged α) : List (Level × String) :=
  x.events.map Event.line

/-- The two warnings differ in their fourth character. -/
theorem Event.message_noMatch_ne (count : Nat) (depth mode : DepthMode) (color : ColorResolution) :
    (noMatch count depth color).message ≠ (noDepthCalibration mode).message := by
  intro h
  change "no camera param matches " ++ depth.name ++ ", " ++ color.name ++ " among " ++
    toString count ++ " candidates" = "no depth calibration for " ++ mode.name at h
  have hchars := congrArg String.toList h
  have hmatch : "no camera param matches ".toList =
      "no c".toList ++ "amera param matches ".toList := by decide
  have hdepth : "no depth calibration for ".toList =
      "no d".toList ++ "epth calibration for ".toList := by decide
  simp only [String.toList_append, List.append_assoc, hmatch, hdepth] at hchars
  exact absurd (List.append_inj hchars rfl).1 (by decide)

/-- A log that begins with a selection is no lone warning. -/
theorem Event.lines_selected_ne {index count : Nat} {depth : DepthMode} {color : ColorResolution}
    {rest : List (Level × String)} {event : Event} (h : event.level = .warn) :
    (selected index count depth color).line :: rest ≠ [event.line] := by
  intro hlines
  have hlevel : Level.debug = event.level := congrArg Prod.fst (List.cons.inj hlines).1
  rw [h] at hlevel
  cases hlevel

namespace Vendor

variable {entries : List Entry} {depth : DepthMode} {color : ColorResolution}

/-! ## Outcomes -/

/-- Every way in which a call can end, with all that it logs. -/
inductive Outcome (entries : List Entry) (depth : DepthMode) (color : ColorResolution) :
    Logged Calibration → Prop
  | unsupported :
      Outcome entries depth color
        ⟨.error (.unsupportedDepthMode depth), [.noDepthCalibration depth]⟩
  | noMatch :
      Outcome entries depth color
        ⟨.error (.noMatchingCamera depth color), [.noMatch entries.length depth color]⟩
  | refused {e : Entry} {index : Nat} {width height : UInt32}
      (hselect : (select entries depth color).result = .ok (e, index))
      (hbuild : (build e depth color).result = .error (.invalidVendorResolution width height)) :
      Outcome entries depth color
        ⟨.error (.invalidVendorResolution width height),
          [.selected index entries.length depth color]⟩
  | built {e : Entry} {index : Nat} {c : Calibration}
      (hselect : (select entries depth color).result = .ok (e, index))
      (hbuild : (build e depth color).result = .ok c) :
      Outcome entries depth color
        ⟨.ok c, [.selected index entries.length depth color, .built depth color]⟩

theorem outcome_calibrate (entries : List Entry) (depth : DepthMode) (color : ColorResolution) :
    Outcome entries depth color (calibrate entries depth color) := by
  cases h : calibratedResolution? depth with
  | none =>
      rw [calibrate_eq_of_none h]
      exact .unsupported
  | some r =>
      rw [calibrate_eq h]
      cases hfound : entries.zipIdx.find? fun a => a.1.suits r color.resolution? with
      | none => exact .noMatch
      | some found =>
          obtain ⟨e, index⟩ := found
          have hselect : (select entries depth color).result = .ok (e, index) := by
            rw [result_select h, hfound]
          -- Building looks at the mode a second time, but what was selected has passed already.
          have hbuild := build_eq h e color
          dsimp only
          split at hbuild
          · split at hbuild
            · rw [hbuild]
              exact .built hselect (congrArg Logged.result hbuild)
            · rw [hbuild]
              exact .refused hselect (congrArg Logged.result hbuild)
          · rw [hbuild]
            exact .refused hselect (congrArg Logged.result hbuild)

/-! ## The log and the result -/

/-- The call ends as building from the entry at `index` does, and tells of both steps. -/
structure IsTakenAt (entries : List Entry) (depth : DepthMode) (color : ColorResolution)
    (call : Logged Calibration) (e : Entry) (index : Nat) : Prop where
  lt_length : index < entries.length
  getElem? : entries[index]? = some e
  result_select : (select entries depth color).result = .ok (e, index)
  result_eq : call.result = (build e depth color).result
  lines_of_ok : ∀ c, call.result = .ok c →
    call.lines =
      [(.debug, s!"selected camera param {index}/{entries.length} for {depth.name}, {color.name}"),
        (.debug, s!"built calibration for {depth.name}, {color.name}")]
  lines_of_error : ∀ error, call.result = .error error →
    (∃ width height, error = .invalidVendorResolution width height) ∧
      call.lines = [(.debug,
        s!"selected camera param {index}/{entries.length} for {depth.name}, {color.name}")]

theorem getElem?_of_result_select {e : Entry} {index : Nat}
    (h : (select entries depth color).result = .ok (e, index)) : entries[index]? = some e := by
  cases hmode : calibratedResolution? depth with
  | none =>
      rw [result_select_of_none hmode] at h
      cases h
  | some r => exact ((result_select_eq_ok_iff_isFirstMatch hmode).1 h).getElem

namespace Outcome

variable {call : Logged Calibration}

theorem lines_eq_noDepthCalibration (h : Outcome entries depth color call) :
    call.lines = [(Event.noDepthCalibration depth).line] ↔
      ∃ mode, call.result = .error (.unsupportedDepthMode mode) := by
  cases h with
  | unsupported => exact iff_of_true rfl ⟨depth, rfl⟩
  | noMatch =>
      refine iff_of_false (fun hlines => ?_) nofun
      exact Event.message_noMatch_ne _ _ _ _ (congrArg Prod.snd (List.cons.inj hlines).1)
  | refused => exact iff_of_false (Event.lines_selected_ne rfl) nofun
  | built => exact iff_of_false (Event.lines_selected_ne rfl) nofun

theorem lines_eq_noMatch (h : Outcome entries depth color call) :
    call.lines = [(Event.noMatch entries.length depth color).line] ↔
      ∃ mode resolution, call.result = .error (.noMatchingCamera mode resolution) := by
  cases h with
  | unsupported =>
      refine iff_of_false (fun hlines => ?_) nofun
      exact Event.message_noMatch_ne _ _ _ _ (congrArg Prod.snd (List.cons.inj hlines).1.symm)
  | noMatch => exact iff_of_true rfl ⟨depth, color, rfl⟩
  | refused => exact iff_of_false (Event.lines_selected_ne rfl) nofun
  | built => exact iff_of_false (Event.lines_selected_ne rfl) nofun

theorem result_cases (h : Outcome entries depth color call) :
    (∃ mode, call.result = .error (.unsupportedDepthMode mode)) ∨
      (∃ mode resolution, call.result = .error (.noMatchingCamera mode resolution)) ∨
      ∃ e index, IsTakenAt entries depth color call e index := by
  cases h with
  | unsupported => exact .inl ⟨depth, rfl⟩
  | noMatch => exact .inr (.inl ⟨depth, color, rfl⟩)
  | @refused e index width height hselect hbuild =>
      have hget := getElem?_of_result_select hselect
      refine .inr (.inr ⟨e, index, (List.getElem?_eq_some_iff.1 hget).1, hget, hselect,
        hbuild.symm, ?_, ?_⟩)
      · intro c hc
        cases hc
      · rintro error ⟨⟩
        exact ⟨⟨width, height, rfl⟩, rfl⟩
  | @built e index c hselect hbuild =>
      have hget := getElem?_of_result_select hselect
      refine .inr (.inr ⟨e, index, (List.getElem?_eq_some_iff.1 hget).1, hget, hselect,
        hbuild.symm, fun _ _ => rfl, ?_⟩)
      intro error herror
      cases herror

theorem length_warnings_le (h : Outcome entries depth color call) :
    (call.lines.filter (·.1 = .warn)).length ≤ 1 := by
  cases h with
  | unsupported => exact Nat.le_refl 1
  | noMatch => exact Nat.le_refl 1
  | refused => exact Nat.zero_le 1
  | built => exact Nat.zero_le 1

end Outcome

theorem lines_calibrate (entries : List Entry) (depth : DepthMode) (color : ColorResolution) :
    let call := calibrate entries depth color
    (call.lines = [(.warn, s!"no depth calibration for {depth.name}")] ↔
        ∃ mode, call.result = .error (.unsupportedDepthMode mode)) ∧
      (call.lines = [(.warn,
        s!"no camera param matches {depth.name}, {color.name} among {entries.length} candidates")] ↔
        ∃ mode resolution, call.result = .error (.noMatchingCamera mode resolution)) ∧
      ((∃ mode, call.result = .error (.unsupportedDepthMode mode)) ∨
        (∃ mode resolution, call.result = .error (.noMatchingCamera mode resolution)) ∨
        ∃ e index, IsTakenAt entries depth color call e index) ∧
      (call.lines.filter (·.1 = .warn)).length ≤ 1 := by
  have h := outcome_calibrate entries depth color
  exact ⟨h.lines_eq_noDepthCalibration, h.lines_eq_noMatch, h.result_cases, h.length_warnings_le⟩

/-- An entry without sizes is selected and then refused, which is no warning. -/
example : (calibrate [default] .narrowUnbinned .r720p).events =
    [.selected 0 1 .narrowUnbinned .r720p] := rfl

end Vendor

end LensCalibration
