import McAttControl.Loop.Frame

/-!
# The rattitude override

`run()` (`src/unnamed/part_000:1333–1341`) clears `flag_control_attitude_enabled` when rattitude
mode is on and a stick is beyond `_rattitude_thres`. It clears it in `_v_control_mode`, the
cached copy of the last `vehicle_control_mode` message, which `vehicle_control_mode_poll`
(`:342–353`) overwrites only when a new message arrives. So the override outlives the stick
deflection: until the next control-mode message, attitude control stays off whatever the
sticks do. On the PID path (`:1424`) the flag decides whether `control_attitude` runs, which is
visible on the bus: only `control_attitude` takes the pending attitude setpoint.
-/

namespace McAttControl

variable {α σ : Type} [LinearOrderedField α]

variable (lib : Libm α) (C : Collab α σ)

/-- The PID path takes the pending attitude setpoint exactly when it runs `control_attitude`. -/
theorem pidBranch_vehicleAttitudeSetpoint (s : Ctrl α σ) (b : Bus α) (dt : α) :
    (pidBranch lib C s b dt).1.2.vehicleAttitudeSetpoint =
      if s.vControlMode.flagControlAttitudeEnabled then none else b.vehicleAttitudeSetpoint := by
  unfold pidBranch ratesSetpointStage; dsimp only
  split
  · rfl
  · split <;> rfl

/-- The cached attitude flag an iteration acts on: the last message's, cleared by the override. -/
theorem beginIteration_attitudeEnabled (r : Runner α σ) (sample : SensorGyro α) :
    (beginIteration lib C r sample).vControlMode.flagControlAttitudeEnabled =
      ((pollCopy r.bus.vehicleControlMode r.ctrl.vControlMode).flagControlAttitudeEnabled &&
        !rattitudeActive (pollTopics lib C { r.ctrl with sensorGyro := sample } r.bus)) := by
  have hm := pollTopics_vControlMode lib C { r.ctrl with sensorGyro := sample } r.bus
  unfold beginIteration rattitudeOverride
  split
  · simp [‹_›]
  · simp only [hm, Bool.eq_false_iff.mpr ‹_›, Bool.not_false, Bool.and_true]

/-- The iteration leaves the cached control mode it acted on. -/
theorem iterate_vControlMode (r : Runner α σ) (now : UInt64) (sample : SensorGyro α) :
    (iterate lib C r now sample).1.ctrl.vControlMode = (beginIteration lib C r sample).vControlMode :=
  (iterate_keepsConfig lib C r now sample).vControlMode

/-- Events that bring no `vehicle_control_mode` message. -/
def Event.noControlMode : Event α → Prop
  | .publish msgs => msgs.vehicleControlMode = none
  | _ => True

/-- Once the cached attitude flag is cleared and no control-mode message is pending, it stays
cleared over every run that brings no control-mode message, whatever the sticks. -/
theorem run_attitudeEnabled_stays_false (r : Runner α σ) (es : List (Event α))
    (hes : ∀ e ∈ es, e.noControlMode) (hbus : r.bus.vehicleControlMode = none)
    (hflag : r.ctrl.vControlMode.flagControlAttitudeEnabled = false) :
    (Runner.run lib C r es).1.ctrl.vControlMode.flagControlAttitudeEnabled = false := by
  refine (Runner.run_induction (fun r => r.bus.vehicleControlMode = none ∧
      r.ctrl.vControlMode.flagControlAttitudeEnabled = false) Event.noControlMode
    (fun r e he ⟨hb, hf⟩ => ?_) es r hes ⟨hbus, hflag⟩).2
  cases e with
  | publish msgs =>
    exact ⟨by simp only [Runner.step, Bus.merge, show msgs.vehicleControlMode = none from he,
      Option.none_orElse, hb], hf⟩
  | timeout => exact ⟨hb, hf⟩
  | pollError => exact ⟨hb, hf⟩
  | noData => exact ⟨hb, hf⟩
  | gyro now sample =>
    obtain ⟨att, rates, hb'⟩ := controlBranch_bus lib C (beginIteration lib C r sample)
      r.bus.afterPolls (clampDt (elapsedSeconds now r.lastRun))
    refine ⟨by rw [Runner.step, iterate]; simp only [hb']; rfl, ?_⟩
    show (iterate lib C r now sample).1.ctrl.vControlMode.flagControlAttitudeEnabled = false
    rw [iterate_vControlMode, beginIteration_attitudeEnabled, hb, pollCopy_none, hf,
      Bool.false_and]

/-- An iteration on the PID path whose cached attitude flag is cleared, with no control-mode
message pending, acts on the cleared flag and does not run `control_attitude`, so it leaves the
pending attitude setpoint on the bus. -/
theorem iterate_keeps_attitudeSetpoint (r : Runner α σ) (now : UInt64) (sample : SensorGyro α)
    (hsw : (beginIteration lib C r sample).gains.switchUde = 0)
    (hbus : r.bus.vehicleControlMode = none)
    (hflag : r.ctrl.vControlMode.flagControlAttitudeEnabled = false) :
    (iterate lib C r now sample).1.bus.vehicleAttitudeSetpoint = r.bus.vehicleAttitudeSetpoint ∧
      (beginIteration lib C r sample).vControlMode.flagControlAttitudeEnabled = false := by
  have hf : (beginIteration lib C r sample).vControlMode.flagControlAttitudeEnabled = false := by
    rw [beginIteration_attitudeEnabled, hbus, pollCopy_none, hflag, Bool.false_and]
  refine ⟨?_, hf⟩
  show (controlBranch lib C (beginIteration lib C r sample) r.bus.afterPolls
    (clampDt (elapsedSeconds now r.lastRun))).1.2.vehicleAttitudeSetpoint = _
  rw [controlBranch, if_neg (not_not.mpr hsw), pidBranch_vehicleAttitudeSetpoint, hf]
  rfl

/-- The override outlives the stick. From construction, a first iteration in rattitude mode
with the roll stick at `1` (beyond the default threshold `0`) clears attitude control. Then the
sticks return to centre and an attitude setpoint is published, with no new control-mode
message: the last control-mode message still has attitude control on and the override no longer
fires, yet the second iteration acts on a cleared flag and does not run `control_attitude`, so
the attitude setpoint stays pending. -/
theorem rattitude_override_outlives_stick :
    let lib : Libm ℚ := { (default : Libm ℚ) with isFinite := fun _ => true }
    let C : Collab ℚ Unit := default
    let mode : VehicleControlMode := { (default : VehicleControlMode) with
      flagArmed := true, flagControlManualEnabled := true, flagControlAttitudeEnabled := true
      flagControlRattitudeEnabled := true, flagControlRatesEnabled := true }
    let first : Bus ℚ := { Bus.empty with
      vehicleControlMode := some mode
      manualControlSetpoint := some { (default : ManualControlSetpoint ℚ) with x := 1 }
      vehicleStatus := some ⟨true, false⟩ }
    let second : Bus ℚ := { Bus.empty with
      manualControlSetpoint := some default
      vehicleAttitudeSetpoint := some default }
    let r := (Runner.run lib C (Runner.start (construct lib C default 250 default) Bus.empty 1 1 0)
      [.publish first, .gyro 4000 default, .publish second]).1
    mode.flagControlAttitudeEnabled = true ∧ r.bus.vehicleControlMode = none ∧
      rattitudeActive (pollTopics lib C { r.ctrl with sensorGyro := default } r.bus) = false ∧
      (beginIteration lib C r default).gains.switchUde = 0 ∧
      (beginIteration lib C r default).vControlMode.flagControlAttitudeEnabled = false ∧
      (iterate lib C r 8000 default).1.bus.vehicleAttitudeSetpoint.isSome = true := by
  refine ⟨rfl, ?hb, ?hr, ?hsw, (iterate_keeps_attitudeSetpoint _ _ _ 8000 default ?hsw ?hb ?hf).2,
    (congrArg Option.isSome (iterate_keeps_attitudeSetpoint _ _ _ 8000 default ?hsw ?hb ?hf).1).trans
      ?hset⟩
  case hf =>
    rw [Runner.run_cons_fst, Runner.run_cons_fst]
    refine run_attitudeEnabled_stays_false _ _ _ [_]
      (fun e he => by rw [List.mem_singleton.mp he]; rfl) ?_ ?_ <;> with_unfolding_all decide
  all_goals with_unfolding_all decide

end McAttControl
