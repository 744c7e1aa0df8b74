import LensCalibration.Proofs.Cameras.Intrinsics
import LensCalibration.Proofs.Files.Blob
import LensCalibration.Proofs.Vendor.Selection
import LensCalibration.Session

/-!
# Parameter counts in the course of a run

A run replaces a calibration, changes parts of it, and keeps copies.  As long as no count is set by
hand, every count that is reached is one of as many parameters as there are.
-/

namespace LensCalibration

open Binary Files

/-! ## Overwritten fields -/

/-- A field with its new value; the count of parameters is the one that is not among them. -/
inductive Overwrite where
  | model (role : CameraRole) (value : LensModel)
  | parameters (role : CameraRole) (value : IntrinsicParameters)
  | extrinsics (role : CameraRole) (value : Extrinsics)
  | width (role : CameraRole) (value : Int32)
  | height (role : CameraRole) (value : Int32)
  | metricRadius (role : CameraRole) (value : Single)
  | cell (source target : Sensor) (value : Extrinsics)
  | depthMode (value : DepthMode)
  | colorResolution (value : ColorResolution)

def Overwrite.apply (c : Calibration) : Overwrite → Calibration
  | .model role value => c.change role fun c => { c with intrinsics.model := value }
  | .parameters role value => c.change role fun c => { c with intrinsics.parameters := value }
  | .extrinsics role value => c.change role fun c => { c with extrinsics := value }
  | .width role value => c.change role fun c => { c with width := value }
  | .height role value => c.change role fun c => { c with height := value }
  | .metricRadius role value => c.change role fun c => { c with metricRadius := value }
  | .cell source target value => c.setExtrinsics source target value
  | .depthMode value => { c with depthMode := value }
  | .colorResolution value => { c with colorResolution := value }

theorem Overwrite.parameterCount_apply (c : Calibration) (o : Overwrite) (role : CameraRole) :
    ((o.apply c).camera role).intrinsics.parameterCount =
      (c.camera role).intrinsics.parameterCount := by
  cases o with
  | model changed | parameters changed | extrinsics changed | width changed | height changed
  | metricRadius changed => cases changed <;> cases role <;> rfl
  | cell | depthMode | colorResolution => cases role <;> rfl

theorem Overwrite.validate_apply {c : Calibration} (h : c.validate = .ok ()) (o : Overwrite) :
    (o.apply c).validate = .ok () := by
  simp only [Calibration.validate_iff_forall_role, Intrinsics.validate_eq_ok,
    o.parameterCount_apply] at h ⊢
  exact h

/-! ## Operations -/

/-- The present calibration and its copies. -/
structure Copies where
  current : Calibration
  saved : List Calibration
  deriving DecidableEq

/-- What is read or built replaces the present calibration, or the intrinsics of a camera. -/
inductive Operation where
  | load (text : String)
  | read (lookup : Lookup) (path : String)
  | calibrate (entries : List Vendor.Entry) (depth : DepthMode) (color : ColorResolution)
  | raw (role : CameraRole) (code : Int) (count : UInt32) (values : List Single)
  | remodel (role : CameraRole) (model : LensModel) (parameters : IntrinsicParameters)
  | clear (role : CameraRole)
  | overwrite (field : Overwrite)
  | save
  | restore (index : Nat)

namespace Copies

def initial : Copies := ⟨default, []⟩

def all (s : Copies) : List Calibration :=
  s.current :: s.saved

def replaced (s : Copies) : Except CalibrationError Calibration → Copies
  | .ok current => { s with current }
  | .error _ => s

theorem replaced_of_eq_ok {s : Copies} {next : Except CalibrationError Calibration}
    {c : Calibration} (h : next = .ok c) : s.replaced next = { s with current := c } := by
  rw [h, replaced]

def apply (s : Copies) : Operation → Copies
  | .load text => s.replaced (Calibration.ofBlob text)
  | .read lookup path => s.replaced (readBlob lookup path).result
  | .calibrate entries depth color => s.replaced (Vendor.calibrate entries depth color).result
  | .raw role code count values =>
      s.replaced do
        let intrinsics ← Intrinsics.ofRaw code count values
        return s.current.change role fun c => { c with intrinsics }
  | .remodel role model parameters =>
      s.replaced <| .ok <|
        s.current.change role fun c => { c with intrinsics := .ofModel model parameters }
  | .clear role =>
      s.replaced <| .ok <| s.current.change role fun c => { c with intrinsics := default }
  | .overwrite field => s.replaced (.ok (field.apply s.current))
  | .save => { s with saved := s.saved ++ [s.current] }
  | .restore index =>
      match s.saved[index]? with
      | some current => { s with current }
      | none => s

def run (s : Copies) (operations : List Operation) : Copies :=
  operations.foldl apply s

/-! ## Valid counts -/

def IsValid (s : Copies) : Prop :=
  ∀ c ∈ s.all, c.validate = .ok ()

variable {s : Copies}

theorem isValid_initial : initial.IsValid := by
  intro c hc
  rw [List.mem_singleton.1 hc]
  exact Calibration.validate_iff_forall_role.2 fun role => by cases role <;> rfl

theorem IsValid.update (h : s.IsValid) {current : Calibration}
    (hcurrent : current.validate = .ok ()) : IsValid { s with current } := by
  rintro c (_ | ⟨_, hsaved⟩)
  · exact hcurrent
  · exact h c (List.mem_cons_of_mem _ hsaved)

theorem IsValid.replaced (h : s.IsValid) {next : Except CalibrationError Calibration}
    (hnext : ∀ c, next = .ok c → c.validate = .ok ()) : (s.replaced next).IsValid := by
  cases next with
  | error e => exact h
  | ok current => exact h.update (hnext current rfl)

theorem IsValid.apply (h : s.IsValid) (operation : Operation) : (s.apply operation).IsValid := by
  have hcurrent : s.current.validate = .ok () := h _ List.mem_cons_self
  cases operation with
  | load text => exact h.replaced fun c hc => (Calibration.ofBlob_eq_ok.1 hc).2
  | read lookup path => exact h.replaced fun c => validate_of_readBlob
  | calibrate entries depth color => exact h.replaced fun c => Vendor.validate_of_calibrate
  | raw role code count values =>
      apply h.replaced
      intro c hc
      obtain ⟨i, hi, hc⟩ := bind_eq_ok.1 hc
      cases hc
      exact Calibration.validate_change hcurrent (Intrinsics.ofRaw_eq_ok.1 hi).2.2.2
  | remodel role model parameters =>
      apply h.replaced
      rintro c ⟨⟩
      exact Calibration.validate_change hcurrent (Intrinsics.validate_ofModel model parameters)
  | clear role =>
      apply h.replaced
      rintro c ⟨⟩
      exact Calibration.validate_change hcurrent Intrinsics.validate_default
  | overwrite field =>
      apply h.replaced
      rintro c ⟨⟩
      exact field.validate_apply hcurrent
  | save =>
      intro c hc
      rcases List.mem_append.1 (show c ∈ s.all ++ [s.current] from hc) with hall | hlast
      · exact h c hall
      · rwa [List.mem_singleton.1 hlast]
  | restore index =>
      simp only [Copies.apply]
      split
      · next copy hcopy =>
          exact h.update (h copy (List.mem_cons_of_mem _ (List.mem_of_getElem? hcopy)))
      · exact h

theorem IsValid.run (h : s.IsValid) (operations : List Operation) : (s.run operations).IsValid := by
  induction operations generalizing s with
  | nil => exact h
  | cons operation operations ih => exact ih (h.apply operation)

theorem validParameters_run (operations : List Operation) :
    ∀ c ∈ (initial.run operations).all, c.validate = .ok () ∧ ∀ role : CameraRole,
      let i := (c.camera role).intrinsics
      i.validParameters.length = i.parameterCount.toNat ∧
        i.validParameters <+: i.parameters.toVector.toList := by
  intro c hc
  have hvalid := isValid_initial.run operations c hc
  refine ⟨hvalid, fun role => ⟨Intrinsics.length_validParameters ?_, ?_⟩⟩
  · exact Calibration.validate_iff_forall_role.1 hvalid role
  · exact Intrinsics.validParameters_isPrefixOf

/-- Nine parameters are taken, and sixteen are refused. -/
theorem validParameters_run_raw :
    let operations := [.raw .color 4 9 [], .save, .raw .color 4 16 []]
    let c := (default : Calibration).change .color fun c =>
      { c with intrinsics := ⟨.brownConrady, 9, default⟩ }
    c ∈ (initial.run operations).all ∧ c.validate = .ok () ∧ ∀ role : CameraRole,
      let i := (c.camera role).intrinsics
      i.validParameters.length = i.parameterCount.toNat ∧
        i.validParameters <+: i.parameters.toVector.toList := by
  intro operations c
  have hrun : initial.run operations = ⟨c, [c]⟩ := by decide +kernel
  have hc : c ∈ (initial.run operations).all := by
    rw [hrun]
    exact List.mem_cons_self
  exact ⟨hc, validParameters_run operations c hc⟩

end Copies

/-! ## Sessions -/

namespace Session

/-- The only step that sets a count by hand. -/
def Step.SetsCount : Step → Prop
  | .edit (.count ..) => True
  | _ => False

def State.copies (s : State) : Copies :=
  ⟨s.calibration, s.saved⟩

theorem orRefuse_eq_ok {α : Type} {x : Except CalibrationError α} {a : α} :
    orRefuse x = .ok a ↔ x = .ok a := by
  cases x with
  | error e => exact ⟨nofun, nofun⟩
  | ok a => exact ⟨by rintro ⟨⟩; rfl, by rintro ⟨⟩; rfl⟩

theorem changeCamera_eq_ok {c d : Calibration} {code : Int} {f : Camera → Camera}
    (h : changeCamera c code f = .ok d) : ∃ role, c.change role f = d := by
  obtain ⟨sensor, -, h⟩ := bind_eq_ok.1 h
  cases sensor with
  | depth =>
      cases h
      exact ⟨.depth, rfl⟩
  | color =>
      cases h
      exact ⟨.color, rfl⟩
  | gyro | accel => cases h

theorem Edit.exists_run {c d : Calibration} {edit : Edit} (h : edit.apply c = .ok d)
    (hcount : ¬ (Step.edit edit).SetsCount) (saved : List Calibration) :
    ∃ operations, (⟨c, saved⟩ : Copies).run operations = ⟨d, saved⟩ := by
  cases edit with
  | model code camera =>
      obtain ⟨lens, -, h⟩ := bind_eq_ok.1 h
      obtain ⟨role, rfl⟩ := changeCamera_eq_ok h
      exact ⟨[.overwrite (.model role lens)], rfl⟩
  | count camera count => exact absurd trivial hcount
  | parameters values camera =>
      obtain ⟨slots, -, h⟩ := bind_eq_ok.1 h
      obtain ⟨role, rfl⟩ := changeCamera_eq_ok h
      exact ⟨[.overwrite (.parameters role slots)], rfl⟩
  | raw code count values camera =>
      obtain ⟨i, hi, h⟩ := bind_eq_ok.1 h
      obtain ⟨role, rfl⟩ := changeCamera_eq_ok h
      refine ⟨[.raw role code count values], Copies.replaced_of_eq_ok ?_⟩
      exact bind_eq_ok.2 ⟨i, orRefuse_eq_ok.1 hi, rfl⟩
  | remodel name camera =>
      obtain ⟨lens, -, h⟩ := bind_eq_ok.1 h
      obtain ⟨role, rfl⟩ := changeCamera_eq_ok h
      exact ⟨[.remodel role lens (c.camera role).intrinsics.parameters], by cases role <;> rfl⟩
  | resolution width height camera =>
      unfold Edit.apply at h
      obtain ⟨role, rfl⟩ := changeCamera_eq_ok h
      exact ⟨[.overwrite (.width role width), .overwrite (.height role height)],
        by cases role <;> rfl⟩
  | radius camera value =>
      unfold Edit.apply at h
      obtain ⟨role, rfl⟩ := changeCamera_eq_ok h
      exact ⟨[.overwrite (.metricRadius role value)], rfl⟩
  | extrinsics extrinsics camera =>
      unfold Edit.apply at h
      obtain ⟨role, rfl⟩ := changeCamera_eq_ok h
      exact ⟨[.overwrite (.extrinsics role extrinsics)], rfl⟩
  | cell extrinsics source target =>
      obtain ⟨source, -, h⟩ := bind_eq_ok.1 h
      obtain ⟨target, -, h⟩ := bind_eq_ok.1 h
      cases h
      exact ⟨[.overwrite (.cell source target extrinsics)], rfl⟩
  | modes depth color =>
      obtain ⟨depth, -, h⟩ := bind_eq_ok.1 h
      obtain ⟨color, -, h⟩ := bind_eq_ok.1 h
      cases h
      exact ⟨[.overwrite (.depthMode depth), .overwrite (.colorResolution color)], rfl⟩

theorem validate_fromVendor {entries : String} {depth color : Int} {c : Calibration}
    (h : (fromVendor entries depth color).result = .ok c) : c.validate = .ok () := by
  simp only [fromVendor, Logged.result_bind, Logged.result_ofExcept] at h
  obtain ⟨entries, -, h⟩ := bind_eq_ok.1 h
  obtain ⟨depth, -, h⟩ := bind_eq_ok.1 h
  obtain ⟨color, -, h⟩ := bind_eq_ok.1 h
  exact Vendor.validate_of_calibrate h

namespace State

variable {s : State}

theorem isValid_replaced (h : s.copies.IsValid) {events : List Event}
    {next : Except Refusal Calibration} (hnext : ∀ c, next = .ok c → c.validate = .ok ()) :
    (s.replaced events next).state.copies.IsValid := by
  cases next with
  | error refusal => exact h
  | ok c =>
      have hvalid := h.update (hnext c rfl)
      exact hvalid

theorem isValid_filed (h : s.copies.IsValid) (files : Except CalibrationError Tree) :
    (s.filed files).state.copies.IsValid := by
  cases files with
  | error e => exact h
  | ok files => exact h

theorem isValid_run (h : s.copies.IsValid) {step : Step} (hstep : ¬ step.SetsCount) :
    (s.run step).state.copies.IsValid := by
  cases step with
  | reset =>
      apply isValid_replaced h
      rintro c ⟨⟩
      exact Copies.isValid_initial _ List.mem_cons_self
  | load text =>
      apply isValid_replaced h
      exact fun c hc => (Calibration.ofBlob_eq_ok.1 (orRefuse_eq_ok.1 hc)).2
  | vendor entries depth color =>
      exact isValid_replaced h fun c hc => validate_fromVendor (orRefuse_eq_ok.1 hc)
  | read path =>
      exact isValid_replaced h fun c hc => validate_of_readBlob (orRefuse_eq_ok.1 hc)
  | edit edit =>
      apply isValid_replaced h
      intro c hc
      obtain ⟨operations, hrun⟩ := edit.exists_run hc hstep s.saved
      have hvalid := h.run operations
      rw [State.copies, hrun] at hvalid
      exact hvalid c List.mem_cons_self
  | save => exact h.apply .save
  | restore index =>
      apply isValid_replaced h
      intro c hc
      unfold State.copy at hc
      split at hc
      · next copy hcopy =>
          cases hc
          exact h _ (List.mem_cons_of_mem _ (List.mem_of_getElem? hcopy))
      · cases hc
  | put path bytes => exact isValid_filed h _
  | write path => exact isValid_filed h _
  | ask | compare | get => exact h

theorem isValid_runAll (h : s.copies.IsValid) {steps : List Step}
    (hsteps : ∀ step ∈ steps, ¬ step.SetsCount) :
    ∀ outcome ∈ s.runAll steps, outcome.state.copies.IsValid := by
  induction steps generalizing s with
  | nil => exact List.forall_mem_nil _
  | cons step steps ih =>
      have hfirst := isValid_run h (hsteps step List.mem_cons_self)
      exact List.forall_mem_cons.2
        ⟨hfirst, ih hfirst fun step hstep => hsteps step (List.mem_cons_of_mem _ hstep)⟩

end State

end Session

end LensCalibration
