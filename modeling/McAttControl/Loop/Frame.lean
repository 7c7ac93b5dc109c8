import McAttControl.Loop.Run

/-!
# What each stage of an iteration writes

Frame lemmas for the stages of `run()` (`src/unnamed/part_000:1328–1580`). After the polls, no
stage writes the cached configuration (parameters, gains, control mode, vehicle status, actuator
topic, UDE integrator limits); the output stages (mixing, publishing, the loop-rate estimate)
leave both integrators alone too. Each stage gets its lemma here, and the results about whole
iterations cite these and never unfold a stage.
-/

namespace McAttControl

variable {α σ : Type}

/-- The configuration an iteration reads after its polls and never writes. -/
structure KeepsConfig (s s' : Ctrl α σ) : Prop where
  params : s'.params = s.params
  gains : s'.gains = s.gains
  vControlMode : s'.vControlMode = s.vControlMode
  vehicleStatus : s'.vehicleStatus = s.vehicleStatus
  actuatorsId : s'.actuatorsId = s.actuatorsId
  integralLimitUde : s'.integralLimitUde = s.integralLimitUde

/-- An output stage: the configuration and both integrators are unchanged. -/
structure KeepsIntegrators (s s' : Ctrl α σ) extends KeepsConfig s s' : Prop where
  ratesInt : s'.ratesInt = s.ratesInt
  integralUde : s'.integralUde = s.integralUde

/-- An output stage: moreover both thrust setpoints are unchanged. -/
structure KeepsControl (s s' : Ctrl α σ) extends KeepsIntegrators s s' : Prop where
  thrustSp : s'.thrustSp = s.thrustSp
  udeThrustSp : s'.ude.thrustSp = s.ude.thrustSp
  vAttSp : s'.vAttSp = s.vAttSp

/-- What a control law leaves to the output stages: the actuator controls being assembled and
the clock of the UDE status. -/
structure KeepsOutputs (s s' : Ctrl α σ) : Prop where
  actuators : s'.actuators = s.actuators
  udeStartTime : s'.ude.startTime = s.ude.startTime

theorem KeepsConfig.refl (s : Ctrl α σ) : KeepsConfig s s := ⟨rfl, rfl, rfl, rfl, rfl, rfl⟩

theorem KeepsConfig.trans {s t u : Ctrl α σ} (h : KeepsConfig s t) (h' : KeepsConfig t u) :
    KeepsConfig s u :=
  ⟨h'.params.trans h.params, h'.gains.trans h.gains, h'.vControlMode.trans h.vControlMode,
    h'.vehicleStatus.trans h.vehicleStatus, h'.actuatorsId.trans h.actuatorsId,
    h'.integralLimitUde.trans h.integralLimitUde⟩

theorem KeepsIntegrators.refl (s : Ctrl α σ) : KeepsIntegrators s s :=
  ⟨KeepsConfig.refl s, rfl, rfl⟩

theorem KeepsIntegrators.trans {s t u : Ctrl α σ} (h : KeepsIntegrators s t)
    (h' : KeepsIntegrators t u) : KeepsIntegrators s u :=
  ⟨h.toKeepsConfig.trans h'.toKeepsConfig, h'.ratesInt.trans h.ratesInt,
    h'.integralUde.trans h.integralUde⟩

theorem KeepsControl.trans {s t u : Ctrl α σ} (h : KeepsControl s t) (h' : KeepsControl t u) :
    KeepsControl s u :=
  ⟨h.toKeepsIntegrators.trans h'.toKeepsIntegrators, h'.thrustSp.trans h.thrustSp,
    h'.udeThrustSp.trans h.udeThrustSp, h'.vAttSp.trans h.vAttSp⟩

theorem KeepsOutputs.trans {s t u : Ctrl α σ} (h : KeepsOutputs s t) (h' : KeepsOutputs t u) :
    KeepsOutputs s u :=
  ⟨h'.actuators.trans h.actuators, h'.udeStartTime.trans h.udeStartTime⟩

/-! ### Publishing -/

section Publish

variable (s : Ctrl α σ)

/-- Whether `publishActuators` sends: breaker off, and a handle or a known topic. -/
def publishesActuators (s : Ctrl α σ) : Bool :=
  !s.gains.actuators0CircuitBreakerEnabled && (s.actuators0Pub || s.actuatorsId.isSome)

/-- `publishActuators` only records the handle. -/
theorem publishActuators_fst : ∃ pub, (publishActuators s).1 = { s with actuators0Pub := pub } := by
  unfold publishActuators; split
  · exact ⟨s.actuators0Pub, rfl⟩
  · exact ⟨_, rfl⟩

/-- `publishActuators` sends the current controls exactly when it publishes. -/
theorem publishActuators_snd : (publishActuators s).2 =
    if publishesActuators s then [.actuatorControls s.actuators] else [] := by
  unfold publishActuators publishesActuators publishOrAdvertise
  cases s.gains.actuators0CircuitBreakerEnabled <;> cases s.actuators0Pub <;>
    cases s.actuatorsId.isSome <;> rfl

/-- After sending, the handle exists. -/
theorem publishActuators_actuators0Pub :
    (publishActuators s).1.actuators0Pub = (s.actuators0Pub || publishesActuators s) := by
  unfold publishActuators publishesActuators publishOrAdvertise
  split
  · simp_all
  · split <;> simp_all

theorem publishActuators_keepsControl : KeepsControl s (publishActuators s).1 := by
  obtain ⟨pub, h⟩ := publishActuators_fst s
  rw [h]; exact ⟨⟨⟨rfl, rfl, rfl, rfl, rfl, rfl⟩, rfl, rfl⟩, rfl, rfl, rfl⟩

theorem publishActuators_keepsOutputs : KeepsOutputs s (publishActuators s).1 := by
  obtain ⟨pub, h⟩ := publishActuators_fst s
  rw [h]; exact ⟨rfl, rfl⟩

theorem publishRatesSetpoint_keepsControl : KeepsControl s (publishRatesSetpoint s).1 :=
  ⟨⟨⟨rfl, rfl, rfl, rfl, rfl, rfl⟩, rfl, rfl⟩, rfl, rfl, rfl⟩

end Publish

variable [LinearOrderedField α] (lib : Libm α) (C : Collab α σ) (s : Ctrl α σ) (b : Bus α)
  (dt : α) (attSp : Option (VehicleAttitudeSetpoint α))

/-! ### The control laws -/

theorem controlAttitude_keepsConfig : KeepsConfig s (controlAttitude lib C s attSp dt) :=
  ⟨rfl, rfl, rfl, rfl, rfl, rfl⟩

theorem controlAttitude_keepsOutputs : KeepsOutputs s (controlAttitude lib C s attSp dt) :=
  ⟨rfl, rfl⟩

@[simp] theorem controlAttitude_integralUde :
    (controlAttitude lib C s attSp dt).integralUde = s.integralUde := rfl

/-- `control_attitude` writes the rate integrator only in the weather-vane case, on yaw. -/
theorem controlAttitude_ratesInt :
    (controlAttitude lib C s attSp dt).ratesInt =
      if weatherVane s.vehicleStatus (pollCopy attSp s.vAttSp) s.vControlMode then
        Function.update s.ratesInt 2 0 else s.ratesInt := rfl

theorem controlAttitudeRates_keepsConfig : KeepsConfig s (controlAttitudeRates lib C s dt) :=
  ⟨rfl, rfl, rfl, rfl, rfl, rfl⟩

theorem controlAttitudeRates_keepsOutputs : KeepsOutputs s (controlAttitudeRates lib C s dt) :=
  ⟨rfl, rfl⟩

@[simp] theorem controlAttitudeRates_integralUde :
    (controlAttitudeRates lib C s dt).integralUde = s.integralUde := rfl

/-- What the own law of a UDE strategy does after `control_attitude_rates`: it keeps the
configuration, the outputs, the rate integrator and both thrust setpoints, and writes the UDE
integral by the guarded update. -/
structure UdeLawStep (lib : Libm α) (s s' : Ctrl α σ) extends KeepsConfig s s', KeepsOutputs s s' :
    Prop where
  ratesInt : s'.ratesInt = s.ratesInt
  thrustSp : s'.thrustSp = s.thrustSp
  udeThrustSp : s'.ude.thrustSp = s.ude.thrustSp
  integralUde : ∃ c, s'.integralUde = udeIntegral lib s c

theorem cascadeUdeLaw_step : UdeLawStep lib s (cascadeUdeLaw lib s dt) := by
  unfold cascadeUdeLaw; exact ⟨⟨rfl, rfl, rfl, rfl, rfl, rfl⟩, ⟨rfl, rfl⟩, rfl, rfl, rfl, _, rfl⟩

theorem mUdeLaw_step : UdeLawStep lib s (mUdeLaw lib C s dt) := by
  unfold mUdeLaw; exact ⟨⟨rfl, rfl, rfl, rfl, rfl, rfl⟩, ⟨rfl, rfl⟩, rfl, rfl, rfl, _, rfl⟩

theorem pdUdeLaw_step : UdeLawStep lib s (pdUdeLaw lib s dt) := by
  unfold pdUdeLaw; exact ⟨⟨rfl, rfl, rfl, rfl, rfl, rfl⟩, ⟨rfl, rfl⟩, rfl, rfl, rfl, _, rfl⟩

/-- The calls every strategy makes after its reset. -/
theorem udeLaws_keepsConfig (s₀ : Ctrl α σ) (hs : KeepsConfig s s₀) :
    KeepsConfig s (controlAttitudeRates lib C (controlAttitude lib C s₀ attSp dt) dt) :=
  (hs.trans (controlAttitude_keepsConfig lib C _ dt attSp)).trans
    (controlAttitudeRates_keepsConfig lib C _ dt)

theorem udeLaws_keepsOutputs (s₀ : Ctrl α σ) (hs : KeepsOutputs s s₀) :
    KeepsOutputs s (controlAttitudeRates lib C (controlAttitude lib C s₀ attSp dt) dt) :=
  (hs.trans (controlAttitude_keepsOutputs lib C _ dt attSp)).trans
    (controlAttitudeRates_keepsOutputs lib C _ dt)

theorem resetIntegralUde_keepsConfig : KeepsConfig s (resetIntegralUde s) :=
  ⟨rfl, rfl, rfl, rfl, rfl, rfl⟩

theorem resetMotorEstimate_keepsConfig : KeepsConfig s (resetMotorEstimate s) :=
  ⟨rfl, rfl, rfl, rfl, rfl, rfl⟩

theorem resetIntegralUde_keepsOutputs : KeepsOutputs s (resetIntegralUde s) := ⟨rfl, rfl⟩

theorem resetMotorEstimate_keepsOutputs : KeepsOutputs s (resetMotorEstimate s) := by
  dsimp only [resetMotorEstimate]; exact ⟨rfl, by split <;> rfl⟩

theorem udeStrategy_keepsConfig : KeepsConfig s (udeStrategy lib C s attSp dt) := by
  unfold udeStrategy
  split_ifs
  · exact (udeLaws_keepsConfig lib C s dt attSp _ (resetIntegralUde_keepsConfig s)).trans
      (pdUdeLaw_step lib _ dt).toKeepsConfig
  · exact (udeLaws_keepsConfig lib C s dt attSp _ (resetIntegralUde_keepsConfig s)).trans
      (cascadeUdeLaw_step lib _ dt).toKeepsConfig
  · exact (udeLaws_keepsConfig lib C s dt attSp _ (resetMotorEstimate_keepsConfig s)).trans
      (mUdeLaw_step lib C _ dt).toKeepsConfig
  · exact KeepsConfig.refl s

theorem udeStrategy_keepsOutputs : KeepsOutputs s (udeStrategy lib C s attSp dt) := by
  unfold udeStrategy
  split_ifs
  · exact (udeLaws_keepsOutputs lib C s dt attSp _ (resetIntegralUde_keepsOutputs s)).trans
      (pdUdeLaw_step lib _ dt).toKeepsOutputs
  · exact (udeLaws_keepsOutputs lib C s dt attSp _ (resetIntegralUde_keepsOutputs s)).trans
      (cascadeUdeLaw_step lib _ dt).toKeepsOutputs
  · exact (udeLaws_keepsOutputs lib C s dt attSp _ (resetMotorEstimate_keepsOutputs s)).trans
      (mUdeLaw_step lib C _ dt).toKeepsOutputs
  · exact ⟨rfl, rfl⟩

/-! ### Output stages -/

theorem platformZeroTorque_keepsControl : KeepsControl s (platformZeroTorque s) := by
  unfold platformZeroTorque; split_ifs <;> exact ⟨⟨⟨rfl, rfl, rfl, rfl, rfl, rfl⟩, rfl, rfl⟩, rfl, rfl, rfl⟩

theorem platformZeroTorque_keepsOutputs : KeepsOutputs s (platformZeroTorque s) := by
  unfold platformZeroTorque; split_ifs <;> exact ⟨rfl, rfl⟩

theorem publishUde_keepsControl : KeepsControl s (publishUde s dt).1 :=
  ⟨⟨⟨rfl, rfl, rfl, rfl, rfl, rfl⟩, rfl, rfl⟩, rfl, rfl, rfl⟩

/-- The loop-rate estimate writes only the rate and the D-term filters. -/
theorem loopRateEstimate_fst (now taskStart : UInt64) (acc : α) (n : Nat) :
    ∃ rate filters, (loopRateEstimate C s now taskStart dt acc n).1 =
      { s with loopUpdateRateHz := rate, lpFiltersD := filters } := by
  unfold loopRateEstimate; dsimp only; split_ifs
  · exact ⟨_, _, rfl⟩
  all_goals exact ⟨s.loopUpdateRateHz, s.lpFiltersD, rfl⟩

theorem loopRateEstimate_keepsControl (now taskStart : UInt64) (acc : α) (n : Nat) :
    KeepsControl s (loopRateEstimate C s now taskStart dt acc n).1 := by
  obtain ⟨rate, filters, h⟩ := loopRateEstimate_fst C s dt now taskStart acc n
  rw [h]; exact ⟨⟨⟨rfl, rfl, rfl, rfl, rfl, rfl⟩, rfl, rfl⟩, rfl, rfl, rfl⟩

/-! ### The two paths -/

/-- After the strategy, the UDE path only mixes and publishes. -/
theorem udeBranch_keepsControl :
    KeepsControl (udeStrategy lib C s b.vehicleAttitudeSetpoint dt) (udeBranch lib C s b dt).1.1 := by
  refine (platformZeroTorque_keepsControl _).trans (KeepsControl.trans ?_
    (publishActuators_keepsControl _))
  dsimp only [udeBranch]
  split <;> exact ⟨⟨⟨rfl, rfl, rfl, rfl, rfl, rfl⟩, rfl, rfl⟩, rfl, rfl, rfl⟩

/-- The rate setpoint stage runs `control_attitude` exactly when attitude control is enabled,
and otherwise only sets the rate setpoint and thrust. -/
theorem ratesSetpointStage_cases :
    (s.vControlMode.flagControlAttitudeEnabled = true ∧
        KeepsControl (controlAttitude lib C s b.vehicleAttitudeSetpoint dt)
          (ratesSetpointStage lib C s b dt).1.1) ∨
      (s.vControlMode.flagControlAttitudeEnabled = false ∧
        KeepsIntegrators s (ratesSetpointStage lib C s b dt).1.1) := by
  unfold ratesSetpointStage
  dsimp only
  split
  · exact .inl ⟨‹_›, publishRatesSetpoint_keepsControl _⟩
  · refine .inr ⟨Bool.eq_false_iff.mpr ‹_›, ?_⟩
    split <;> exact ⟨⟨rfl, rfl, rfl, rfl, rfl, rfl⟩, rfl, rfl⟩

/-- The rate stage runs `control_attitude_rates` exactly when rate control is enabled. -/
theorem rateStage_cases :
    (s.vControlMode.flagControlRatesEnabled = true ∧
        KeepsControl (controlAttitudeRates lib C s dt) (rateStage lib C s dt).1) ∨
      (s.vControlMode.flagControlRatesEnabled = false ∧ (rateStage lib C s dt).1 = s) := by
  unfold rateStage
  dsimp only
  split
  · refine .inl ⟨‹_›, KeepsControl.trans ?_ (publishActuators_keepsControl _)⟩
    split_ifs <;> exact ⟨⟨⟨rfl, rfl, rfl, rfl, rfl, rfl⟩, rfl, rfl⟩, rfl, rfl, rfl⟩
  · exact .inr ⟨Bool.eq_false_iff.mpr ‹_›, rfl⟩

theorem ratesSetpointStage_keepsOutputs : KeepsOutputs s (ratesSetpointStage lib C s b dt).1.1 := by
  unfold ratesSetpointStage; dsimp only
  split_ifs <;> exact ⟨rfl, rfl⟩

theorem ratesSetpointStage_keepsConfig : KeepsConfig s (ratesSetpointStage lib C s b dt).1.1 := by
  rcases ratesSetpointStage_cases lib C s b dt with ⟨-, h⟩ | ⟨-, h⟩
  · exact (controlAttitude_keepsConfig lib C s dt _).trans h.toKeepsIntegrators.toKeepsConfig
  · exact h.toKeepsConfig

theorem pidBranch_keepsConfig : KeepsConfig s (pidBranch lib C s b dt).1.1 := by
  refine (ratesSetpointStage_keepsConfig lib C s b dt).trans ?_
  rcases rateStage_cases lib C (ratesSetpointStage lib C s b dt).1.1 dt with ⟨-, h⟩ | ⟨-, h⟩
  · exact (controlAttitudeRates_keepsConfig lib C _ dt).trans h.toKeepsIntegrators.toKeepsConfig
  · exact h ▸ KeepsConfig.refl _

theorem udeBranch_keepsConfig : KeepsConfig s (udeBranch lib C s b dt).1.1 :=
  (udeStrategy_keepsConfig lib C s dt _).trans
    (udeBranch_keepsControl lib C s b dt).toKeepsIntegrators.toKeepsConfig

theorem terminationOverride_keepsConfig : KeepsConfig s (terminationOverride s).1 := by
  unfold terminationOverride
  split
  · refine KeepsConfig.trans ?_ (publishActuators_keepsControl _).toKeepsIntegrators.toKeepsConfig
    exact ⟨rfl, rfl, rfl, rfl, rfl, rfl⟩
  · exact KeepsConfig.refl s

/-! ### The start of an iteration -/

/-- The polls write neither integrator nor the UDE limits. -/
theorem pollTopics_integrators :
    (pollTopics lib C s b).ratesInt = s.ratesInt ∧
      (pollTopics lib C s b).integralUde = s.integralUde ∧
      (pollTopics lib C s b).integralLimitUde = s.integralLimitUde := by
  unfold pollTopics
  cases b.parameterUpdate <;>
    simp only [parameterUpdatePoll, parametersUpdated, vehicleControlModePoll, vehicleManualPoll,
      vehicleStatusPoll, vehicleMotorLimitsPoll, batteryStatusPoll, vehicleAttitudePoll,
      sensorCorrectionPoll, sensorBiasPoll, and_self]

/-- The integrator limits after the polls: those of a pending parameter update, if any. -/
theorem pollTopics_rateIntLim :
    (pollTopics lib C s b).gains.rateIntLim =
      match b.parameterUpdate with
      | none => s.gains.rateIntLim
      | some p => rateIntegLims p := by
  unfold pollTopics
  cases b.parameterUpdate <;>
    simp only [parameterUpdatePoll, parametersUpdated, vehicleControlModePoll, vehicleManualPoll,
      vehicleStatusPoll, vehicleMotorLimitsPoll, batteryStatusPoll, vehicleAttitudePoll,
      sensorCorrectionPoll, sensorBiasPoll, rateIntLim_gainsOf]

/-- The cached control mode after the polls: the pending message, if any. -/
theorem pollTopics_vControlMode :
    (pollTopics lib C s b).vControlMode = pollCopy b.vehicleControlMode s.vControlMode := by
  unfold pollTopics
  cases b.parameterUpdate <;>
    simp only [parameterUpdatePoll, parametersUpdated, vehicleControlModePoll, vehicleManualPoll,
      vehicleStatusPoll, vehicleMotorLimitsPoll, batteryStatusPoll, vehicleAttitudePoll,
      sensorCorrectionPoll, sensorBiasPoll]

/-- The rattitude override writes only the cached attitude flag. -/
theorem rattitudeOverride_eq (s : Ctrl α σ) :
    ∃ m, rattitudeOverride s = { s with vControlMode := m } := by
  unfold rattitudeOverride; split
  · exact ⟨_, rfl⟩
  · exact ⟨s.vControlMode, rfl⟩

/-! ### The end of an iteration -/

/-- Flight termination either zeroes setpoints, integrators and outputs (and may record the
actuator handle), or leaves the controller as it is. -/
theorem terminationOverride_cases :
    (terminationActive s = true ∧ ∃ pub, (terminationOverride s).1 =
      { s with ratesSp := 0, ratesInt := 0, integralUde := 0, thrustSp := 0, attControl := 0
               actuators := s.actuators.setMain 0, actuators0Pub := pub }) ∨
      (terminationActive s = false ∧ (terminationOverride s).1 = s) := by
  unfold terminationOverride
  split
  · exact .inl ⟨‹_›, publishActuators_fst _⟩
  · exact .inr ⟨Bool.eq_false_iff.mpr ‹_›, rfl⟩

theorem controlBranch_keepsConfig : KeepsConfig s (controlBranch lib C s b dt).1.1 := by
  unfold controlBranch; split
  · exact udeBranch_keepsConfig lib C s b dt
  · exact pidBranch_keepsConfig lib C s b dt

/-- The control path takes at most the two setpoint messages off the bus. -/
theorem controlBranch_bus : ∃ att rates, (controlBranch lib C s b dt).1.2 =
    { b with vehicleAttitudeSetpoint := att, vehicleRatesSetpoint := rates } := by
  unfold controlBranch udeBranch pidBranch ratesSetpointStage
  split
  · dsimp only; split
    · exact ⟨_, _, rfl⟩
    · exact ⟨b.vehicleAttitudeSetpoint, b.vehicleRatesSetpoint, rfl⟩
  · dsimp only; split
    · exact ⟨_, _, rfl⟩
    · split
      · exact ⟨b.vehicleAttitudeSetpoint, b.vehicleRatesSetpoint, rfl⟩
      · exact ⟨_, _, rfl⟩

theorem endIteration_keepsConfig (now taskStart : UInt64) (acc : α) (n : Nat) :
    KeepsConfig s (endIteration C s now taskStart dt acc n).1.1 :=
  ((publishUde_keepsControl s dt).toKeepsIntegrators.toKeepsConfig.trans
    (terminationOverride_keepsConfig _)).trans
    (loopRateEstimate_keepsControl C _ dt now taskStart acc n).toKeepsIntegrators.toKeepsConfig

/-- An iteration leaves the configuration it read after its polls. -/
theorem iterate_keepsConfig (r : Runner α σ) (now : UInt64) (sample : SensorGyro α) :
    KeepsConfig (beginIteration lib C r sample) (iterate lib C r now sample).1.ctrl :=
  (controlBranch_keepsConfig lib C _ _ _).trans (endIteration_keepsConfig C _ _ _ _ _ _)

/-! ### Properties kept by whole iterations

A property of the controller that every output stage keeps (`hkeep`) and that the control laws
keep holds after the control path; one that flight termination keeps too holds after the
iteration. The invariants of the development are all proved through these. -/

section Preserves

variable (P : Ctrl α σ → Prop) (hkeep : ∀ {s s'}, KeepsIntegrators s s' → P s → P s')
  (hatt : ∀ s attSp dt, P s → P (controlAttitude lib C s attSp dt))
  (hrates : ∀ s dt, P s → P (controlAttitudeRates lib C s dt))
include hkeep hatt hrates

theorem pidBranch_preserves (h : P s) : P (pidBranch lib C s b dt).1.1 := by
  have hr : P (ratesSetpointStage lib C s b dt).1.1 := by
    rcases ratesSetpointStage_cases lib C s b dt with ⟨-, hk⟩ | ⟨-, hk⟩
    · exact hkeep hk.toKeepsIntegrators (hatt _ _ _ h)
    · exact hkeep hk h
  show P (rateStage lib C (ratesSetpointStage lib C s b dt).1.1 dt).1
  rcases rateStage_cases lib C (ratesSetpointStage lib C s b dt).1.1 dt with ⟨-, hk⟩ | ⟨-, he⟩
  · exact hkeep hk.toKeepsIntegrators (hrates _ _ hr)
  · rw [he]; exact hr

theorem controlBranch_preserves (hude : ∀ s attSp dt, P s → P (udeStrategy lib C s attSp dt))
    (h : P s) : P (controlBranch lib C s b dt).1.1 := by
  unfold controlBranch; split
  · exact hkeep (udeBranch_keepsControl lib C s b dt).toKeepsIntegrators (hude _ _ _ h)
  · exact pidBranch_preserves lib C s b dt P hkeep hatt hrates h

omit hatt hrates in
theorem endIteration_preserves (hterm : ∀ s, P s → P (terminationOverride s).1) (h : P s)
    (now taskStart : UInt64) (acc : α) (n : Nat) :
    P (endIteration C s now taskStart dt acc n).1.1 :=
  hkeep (loopRateEstimate_keepsControl C _ dt now taskStart acc n).toKeepsIntegrators
    (hterm _ (hkeep (publishUde_keepsControl s dt).toKeepsIntegrators h))

/-- A property that holds after the polls, and that the stages keep, holds after the
iteration. -/
theorem iterate_preserves (hude : ∀ s attSp dt, P s → P (udeStrategy lib C s attSp dt))
    (hterm : ∀ s, P s → P (terminationOverride s).1) (r : Runner α σ) (now : UInt64)
    (sample : SensorGyro α) (h : P (beginIteration lib C r sample)) :
    P (iterate lib C r now sample).1.ctrl :=
  endIteration_preserves C _ _ P hkeep hterm
    (controlBranch_preserves lib C _ _ _ P hkeep hatt hrates hude h) _ _ _ _

end Preserves

/-- `udeStrategy` runs one of the three strategies or nothing. -/
theorem udeStrategy_preserves (P : Ctrl α σ → Prop) (h : P s)
    (h1 : P (controlAttitudeUde lib C s attSp dt)) (h2 : P (controlAttitudeCascadeUde lib C s attSp dt))
    (h3 : P (controlAttitudeMUde lib C s attSp dt)) : P (udeStrategy lib C s attSp dt) := by
  unfold udeStrategy; split_ifs
  exacts [h1, h2, h3, h]

end McAttControl
