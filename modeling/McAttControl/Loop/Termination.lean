import McAttControl.Loop.Frame

/-!
# Flight termination and the actuator commands of an iteration

The termination block of `run()` (`src/unnamed/part_000:1550–1577`) sits at the end of the
iteration, after the control path has already published its own `actuator_controls` message
(UDE path `:1404–1419`, PID path `:1505–1517`). So in a termination iteration the path's command
goes out unchanged, and the block then zeroes setpoints, integrators and outputs and publishes
an all-zero command. What holds is that the last command of the iteration is zero, and the
state the iteration leaves is zeroed.
-/

namespace McAttControl

variable {α σ : Type} [LinearOrderedField α]

/-- The actuator command a publication carries, if it is one. -/
def Pub.actuatorCommand : Pub α → Option (ActuatorControls α)
  | .actuatorControls a => some a
  | _ => none

/-- The actuator commands among a list of publications, in order. -/
def actuatorCommands (pubs : List (Pub α)) : List (ActuatorControls α) :=
  pubs.filterMap Pub.actuatorCommand

omit [LinearOrderedField α] in
@[simp] theorem actuatorCommands_append (ps qs : List (Pub α)) :
    actuatorCommands (ps ++ qs) = actuatorCommands ps ++ actuatorCommands qs :=
  List.filterMap_append _ _ _

omit [LinearOrderedField α] in
@[simp] theorem actuatorCommands_nil : actuatorCommands ([] : List (Pub α)) = [] := rfl

/-! ### Which stages send commands -/

variable (lib : Libm α) (C : Collab α σ) (s : Ctrl α σ) (b : Bus α) (dt : α)

omit [LinearOrderedField α] in
theorem actuatorCommands_publishActuators :
    actuatorCommands (publishActuators s).2 =
      if publishesActuators s then [s.actuators] else [] := by
  rw [publishActuators_snd]; split <;> rfl

omit [LinearOrderedField α] in
/-- Once `publishActuators` has sent, a later call sends too. -/
theorem publishesActuators_publishActuators (h : publishesActuators s = true) :
    publishesActuators (publishActuators s).1 = true := by
  obtain ⟨pub, he⟩ := publishActuators_fst s
  have hp := publishActuators_actuators0Pub s
  rw [he] at hp ⊢
  have hc : s.gains.actuators0CircuitBreakerEnabled = false := by simp_all [publishesActuators]
  have hp' : pub = true := by simpa [h] using hp
  simp [publishesActuators, hc, hp']

theorem mixer_no_command (r p y t : α) : actuatorCommands (mixer s r p y t).2 = [] := by
  unfold mixer publishOrAdvertise; dsimp only; split <;> rfl

omit [LinearOrderedField α] in
theorem publishRatesSetpoint_no_command : actuatorCommands (publishRatesSetpoint s).2 = [] := by
  unfold publishRatesSetpoint publishOrAdvertise; dsimp only; split <;> rfl

theorem publishUde_no_command : actuatorCommands (publishUde s dt).2 = [] := by
  unfold publishUde publishOrAdvertise; dsimp only; split <;> rfl

/-- A path whose last publication is `publishActuators`: the commands before it are none, and
if it sent one, the path's end state would send again. -/
def CommandsLast (s' : Ctrl α σ) (pubs : List (Pub α)) : Prop :=
  actuatorCommands pubs ≠ [] → publishesActuators s' = true

omit [LinearOrderedField α] in
theorem commandsLast_publishActuators (pre : List (Pub α)) (hpre : actuatorCommands pre = []) :
    CommandsLast (publishActuators s).1 (pre ++ (publishActuators s).2) := by
  intro h
  rw [actuatorCommands_append, hpre, List.nil_append, actuatorCommands_publishActuators] at h
  split at h
  · exact publishesActuators_publishActuators s ‹_›
  · exact absurd rfl h

theorem udeBranch_commandsLast :
    CommandsLast (udeBranch lib C s b dt).1.1 (udeBranch lib C s b dt).2 := by
  unfold udeBranch
  dsimp only
  apply commandsLast_publishActuators
  split
  · rfl
  · exact mixer_no_command _ _ _ _ _

theorem pidBranch_commandsLast :
    CommandsLast (pidBranch lib C s b dt).1.1 (pidBranch lib C s b dt).2 := by
  have hr : actuatorCommands (ratesSetpointStage lib C s b dt).2 = [] := by
    unfold ratesSetpointStage; dsimp only
    split
    · exact publishRatesSetpoint_no_command _
    · split
      · exact publishRatesSetpoint_no_command _
      · rfl
  unfold pidBranch rateStage
  dsimp only
  split
  · intro h
    rw [actuatorCommands_append, hr, List.nil_append, actuatorCommands_append] at h
    refine commandsLast_publishActuators _ [] rfl ?_
    simpa [Pub.actuatorCommand, actuatorCommands] using h
  · intro h; simp [hr] at h

theorem controlBranch_commandsLast :
    CommandsLast (controlBranch lib C s b dt).1.1 (controlBranch lib C s b dt).2 := by
  unfold controlBranch; split
  · exact udeBranch_commandsLast lib C s b dt
  · exact pidBranch_commandsLast lib C s b dt

/-! ### A termination iteration -/

/-- The controller flight termination leaves before publishing: setpoints, integrators and
`control[0..3]` zero. -/
def terminated (s : Ctrl α σ) : Ctrl α σ :=
  { s with ratesSp := 0, ratesInt := 0, integralUde := 0, thrustSp := 0, attControl := 0
           actuators := s.actuators.setMain 0 }

theorem terminationOverride_of_active (h : terminationActive s = true) :
    terminationOverride s = publishActuators (terminated s) := by
  unfold terminationOverride; rw [if_pos h]; rfl

/-- The end of a termination iteration: the UDE status, then the zero command if it is sent;
the controller left is the zeroed one up to the actuator handle and the loop-rate estimate. -/
theorem endIteration_of_terminationActive (h : terminationActive s = true) (now taskStart : UInt64)
    (acc : α) (n : Nat) :
    (endIteration C s now taskStart dt acc n).2 =
        (publishUde s dt).2 ++ (publishActuators (terminated (publishUde s dt).1)).2 ∧
      ∃ pub rate filters, (endIteration C s now taskStart dt acc n).1.1 =
        { terminated (publishUde s dt).1 with
          actuators0Pub := pub, loopUpdateRateHz := rate, lpFiltersD := filters } := by
  have ht : terminationOverride (publishUde s dt).1 = publishActuators (terminated (publishUde s dt).1) :=
    terminationOverride_of_active _ h
  obtain ⟨pub, hp⟩ := publishActuators_fst (terminated (publishUde s dt).1)
  obtain ⟨rate, filters, hl⟩ := loopRateEstimate_fst C
    (publishActuators (terminated (publishUde s dt).1)).1 dt now taskStart acc n
  have hpubs : (endIteration C s now taskStart dt acc n).2 =
      (publishUde s dt).2 ++ (publishActuators (terminated (publishUde s dt).1)).2 := by
    simp only [endIteration, ht]
  refine ⟨hpubs, pub, rate, filters, ?_⟩
  show (loopRateEstimate C (terminationOverride (publishUde s dt).1).1 now taskStart dt acc n).1 = _
  rw [ht, hl, hp]

/-- In an iteration whose cached control mode has flight termination set, on a vehicle that is
not a VTOL, the last actuator command the iteration publishes is zero on `control[0..3]` (the
control path's own command, sent before, is not), and the iteration leaves the rate setpoint,
both integrators, the thrust setpoint, the torque command and `control[0..3]` at zero. -/
theorem iterate_termination_last_command_zero (r : Runner α σ) (now : UInt64)
    (sample : SensorGyro α) (h : terminationActive (beginIteration lib C r sample) = true) :
    let out := iterate lib C r now sample
    (∀ a ∈ (actuatorCommands out.2).getLast?, ∀ i : Fin 8, i.val < 4 → a.control i = 0) ∧
      out.1.ctrl.ratesSp = 0 ∧ out.1.ctrl.ratesInt = 0 ∧ out.1.ctrl.integralUde = 0 ∧
      out.1.ctrl.thrustSp = 0 ∧ out.1.ctrl.attControl = 0 ∧
      ∀ i : Fin 8, i.val < 4 → out.1.ctrl.actuators.control i = 0 := by
  intro out
  set dt : α := clampDt (elapsedSeconds now r.lastRun)
  set br := controlBranch lib C (beginIteration lib C r sample) r.bus.afterPolls dt
  have hcfg := controlBranch_keepsConfig lib C (beginIteration lib C r sample) r.bus.afterPolls dt
  have hact : terminationActive br.1.1 = true := by
    rw [← h]; unfold terminationActive; rw [hcfg.vControlMode, hcfg.vehicleStatus]
  obtain ⟨hpubs, pub, rate, filters, hctrl⟩ := endIteration_of_terminationActive C br.1.1 dt hact
    now r.taskStart r.dtAccumulator r.loopCounter
  have hzero : ∀ i : Fin 8, i.val < 4 → (terminated (publishUde br.1.1 dt).1).actuators.control i = 0 :=
    fun i hi => by simp [terminated, ActuatorControls.setMain, hi]
  have hout2 : out.2 = br.2 ++ ((publishUde br.1.1 dt).2 ++
      (publishActuators (terminated (publishUde br.1.1 dt).1)).2) := by
    rw [← hpubs]; rfl
  have hout1 : out.1.ctrl = { terminated (publishUde br.1.1 dt).1 with
      actuators0Pub := pub, loopUpdateRateHz := rate, lpFiltersD := filters } := by
    rw [← hctrl]; rfl
  refine ⟨?_, ?_⟩
  · rw [hout2, actuatorCommands_append, actuatorCommands_append, publishUde_no_command,
      actuatorCommands_publishActuators, List.nil_append]
    have hsame : publishesActuators (terminated (publishUde br.1.1 dt).1) = publishesActuators br.1.1 := by
      dsimp only [publishesActuators, terminated, publishUde]
    rw [hsame]
    cases hp : publishesActuators br.1.1
    · have hnil : actuatorCommands br.2 = [] := by
        by_contra hne; exact absurd (controlBranch_commandsLast lib C _ _ dt hne) (by simp [hp])
      simp [hnil]
    · intro a ha
      simp only [if_true, List.getLast?_append, List.getLast?_singleton, Option.or_some,
        Option.mem_def, Option.some.injEq] at ha
      exact ha ▸ hzero
  · rw [hout1]
    exact ⟨rfl, rfl, rfl, rfl, rfl, hzero⟩

/-- Flight termination does not stop the control path's own command: from construction with
default parameters (PID path, breaker off), a first iteration with termination, rate control and
an external rates setpoint of thrust `0.5` publishes the path's command with `control[3] = 0.5`
before the termination block's zero command. -/
theorem termination_iteration_sends_path_command :
    let lib : Libm ℚ := { (default : Libm ℚ) with isFinite := fun _ => true }
    let C : Collab ℚ Unit := default
    let msgs : Bus ℚ := { Bus.empty with
      vehicleControlMode := some { (default : VehicleControlMode) with
        flagArmed := true, flagControlRatesEnabled := true, flagControlTerminationEnabled := true }
      vehicleStatus := some ⟨true, false⟩
      vehicleRatesSetpoint := some { (default : VehicleRatesSetpoint ℚ) with thrust := 1 / 2 } }
    let r := (Runner.step lib C (Runner.start (construct lib C default 250 default) Bus.empty 1 1 0)
      (.publish msgs)).1
    terminationActive (beginIteration lib C r default) = true ∧
      (actuatorCommands (iterate lib C r 4000 default).2).map (fun a => a.control 3) = [1 / 2, 0] :=
  ⟨rfl, rfl⟩

/-- The same iteration, through the general theorem: its last command is the zero one. -/
theorem iterate_termination_last_command_zero_first_tick :
    let lib : Libm ℚ := { (default : Libm ℚ) with isFinite := fun _ => true }
    let C : Collab ℚ Unit := default
    let msgs : Bus ℚ := { Bus.empty with
      vehicleControlMode := some { (default : VehicleControlMode) with
        flagArmed := true, flagControlRatesEnabled := true, flagControlTerminationEnabled := true }
      vehicleStatus := some ⟨true, false⟩
      vehicleRatesSetpoint := some { (default : VehicleRatesSetpoint ℚ) with thrust := 1 / 2 } }
    let r := (Runner.step lib C (Runner.start (construct lib C default 250 default) Bus.empty 1 1 0)
      (.publish msgs)).1
    let out := iterate lib C r 4000 default
    terminationActive (beginIteration lib C r default) = true ∧
      (∀ a ∈ (actuatorCommands out.2).getLast?, ∀ i : Fin 8, i.val < 4 → a.control i = 0) ∧
      out.1.ctrl.ratesSp = 0 ∧ out.1.ctrl.ratesInt = 0 ∧ out.1.ctrl.integralUde = 0 ∧
      out.1.ctrl.thrustSp = 0 ∧ out.1.ctrl.attControl = 0 ∧
      ∀ i : Fin 8, i.val < 4 → out.1.ctrl.actuators.control i = 0 :=
  ⟨rfl, iterate_termination_last_command_zero _ _ _ _ _ rfl⟩

end McAttControl
