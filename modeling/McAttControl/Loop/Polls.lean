import McAttControl.Loop.Frame

/-!
# What the polls write

The nine polls at the top of every iteration (`src/unnamed/part_000:1323–1331`, the methods of
`:327–485`) copy each pending message into its member; `vehicle_status_poll` also chooses the
output topics on the first status, and `sensor_correction_poll` the gyro. `Polled` says what they
leave, and `KeepsInputs` that no stage after them writes those members again.
-/

namespace McAttControl

variable {α σ : Type} [LinearOrderedField α]

/-! ### The polls -/

/-- What the polls of one iteration leave in the members they write, from the pending
messages `b` and the controller `s` before them; the attitude setpoint, polled later, and the
advertisement handles are left. -/
structure Polled (lib : Libm α) (C : Collab α σ) (b : Bus α) (s s' : Ctrl α σ) : Prop where
  params : s'.params = pollCopy b.parameterUpdate s.params
  gains : s'.gains = pollCopy (b.parameterUpdate.map (gainsOf lib C)) s.gains
  vehicleStatus : s'.vehicleStatus = pollCopy b.vehicleStatus s.vehicleStatus
  manualControlSp : s'.manualControlSp = pollCopy b.manualControlSetpoint s.manualControlSp
  saturationStatus : s'.saturationStatus = pollCopy b.multirotorMotorLimits s.saturationStatus
  batteryStatus : s'.batteryStatus = pollCopy b.batteryStatus s.batteryStatus
  vAtt : s'.vAtt = pollCopy b.vehicleAttitude s.vAtt
  sensorCorrection : s'.sensorCorrection = pollCopy b.sensorCorrection s.sensorCorrection
  sensorBias : s'.sensorBias = pollCopy b.sensorBias s.sensorBias
  gyroCount : s'.gyroCount = s.gyroCount
  selectedGyro : s'.selectedGyro =
    if (pollCopy b.sensorCorrection s.sensorCorrection).selectedGyroInstance < s.gyroCount then
      (pollCopy b.sensorCorrection s.sensorCorrection).selectedGyroInstance
    else s.selectedGyro
  ratesSpId : s'.ratesSpId =
    if b.vehicleStatus.isSome && s.ratesSpId.isNone then
      some (if (pollCopy b.vehicleStatus s.vehicleStatus).isVtol then .mcVirtualRatesSetpoint
        else .vehicleRatesSetpoint)
    else s.ratesSpId
  actuatorsId : s'.actuatorsId =
    if b.vehicleStatus.isSome && s.ratesSpId.isNone then
      some (if (pollCopy b.vehicleStatus s.vehicleStatus).isVtol then .actuatorControlsVirtualMc
        else .actuatorControls0)
    else s.actuatorsId
  vAttSp : s'.vAttSp = s.vAttSp
  actuators0Pub : s'.actuators0Pub = s.actuators0Pub
  vRatesSpPub : s'.vRatesSpPub = s.vRatesSpPub

variable (lib : Libm α) (C : Collab α σ) (s : Ctrl α σ) (b : Bus α) (dt : α)
  (attSp : Option (VehicleAttitudeSetpoint α))

theorem pollTopics_polled : Polled lib C b s (pollTopics lib C s b) := by
  unfold pollTopics
  cases h : b.parameterUpdate <;>
    dsimp only [parameterUpdatePoll, parametersUpdated, vehicleControlModePoll, vehicleManualPoll,
      vehicleStatusPoll, vehicleMotorLimitsPoll, batteryStatusPoll, vehicleAttitudePoll,
      sensorCorrectionPoll, sensorBiasPoll] <;>
    constructor <;> simp only [h, pollCopy_none, pollCopy_some, Option.map_none', Option.map_some']

/-- The start of an iteration: the polls, after the sample is stored; the rattitude override
that follows writes none of their members. -/
theorem beginIteration_polled (r : Runner α σ) (sample : SensorGyro α) :
    Polled lib C r.bus r.ctrl (beginIteration lib C r sample) := by
  obtain ⟨m, h⟩ := rattitudeOverride_eq (pollTopics lib C { r.ctrl with sensorGyro := sample } r.bus)
  have hp := pollTopics_polled lib C { r.ctrl with sensorGyro := sample } r.bus
  rw [beginIteration, h]
  exact ⟨hp.params, hp.gains, hp.vehicleStatus, hp.manualControlSp, hp.saturationStatus,
    hp.batteryStatus, hp.vAtt, hp.sensorCorrection, hp.sensorBias, hp.gyroCount, hp.selectedGyro,
    hp.ratesSpId, hp.actuatorsId, hp.vAttSp, hp.actuators0Pub, hp.vRatesSpPub⟩

/-! ### The rest of an iteration -/

/-- The polled members that no stage after the polls writes, besides the configuration of
`KeepsConfig`. -/
structure KeepsInputs (s s' : Ctrl α σ) : Prop where
  manualControlSp : s'.manualControlSp = s.manualControlSp
  saturationStatus : s'.saturationStatus = s.saturationStatus
  batteryStatus : s'.batteryStatus = s.batteryStatus
  vAtt : s'.vAtt = s.vAtt
  sensorCorrection : s'.sensorCorrection = s.sensorCorrection
  sensorBias : s'.sensorBias = s.sensorBias
  gyroCount : s'.gyroCount = s.gyroCount
  selectedGyro : s'.selectedGyro = s.selectedGyro
  ratesSpId : s'.ratesSpId = s.ratesSpId

omit [LinearOrderedField α] in
theorem KeepsInputs.refl (s : Ctrl α σ) : KeepsInputs s s := by constructor <;> rfl

omit [LinearOrderedField α] in
theorem KeepsInputs.trans {s t u : Ctrl α σ} (h : KeepsInputs s t) (h' : KeepsInputs t u) :
    KeepsInputs s u :=
  ⟨h'.1.trans h.1, h'.2.trans h.2, h'.3.trans h.3, h'.4.trans h.4, h'.5.trans h.5, h'.6.trans h.6,
    h'.7.trans h.7, h'.8.trans h.8, h'.9.trans h.9⟩

theorem controlAttitude_keepsInputs : KeepsInputs s (controlAttitude lib C s attSp dt) := by
  constructor <;> rfl

theorem controlAttitudeRates_keepsInputs : KeepsInputs s (controlAttitudeRates lib C s dt) := by
  constructor <;> rfl

/-- The calls every UDE strategy makes after its reset, then its own law. -/
theorem udeLaws_keepsInputs (s₀ : Ctrl α σ) (hs : KeepsInputs s s₀)
    (law : Ctrl α σ → Ctrl α σ) (hlaw : ∀ s, KeepsInputs s (law s)) :
    KeepsInputs s (law (controlAttitudeRates lib C (controlAttitude lib C s₀ attSp dt) dt)) :=
  ((hs.trans (controlAttitude_keepsInputs lib C _ dt attSp)).trans
    (controlAttitudeRates_keepsInputs lib C _ dt)).trans (hlaw _)

theorem udeStrategy_keepsInputs : KeepsInputs s (udeStrategy lib C s attSp dt) := by
  unfold udeStrategy controlAttitudeUde controlAttitudeCascadeUde controlAttitudeMUde
  split_ifs
  · exact udeLaws_keepsInputs lib C s dt attSp _ (by constructor <;> rfl) (pdUdeLaw lib · dt)
      fun _ => by unfold pdUdeLaw; constructor <;> rfl
  · exact udeLaws_keepsInputs lib C s dt attSp _ (by constructor <;> rfl) (cascadeUdeLaw lib · dt)
      fun _ => by unfold cascadeUdeLaw; constructor <;> rfl
  · exact udeLaws_keepsInputs lib C s dt attSp _ (by constructor <;> rfl) (mUdeLaw lib C · dt)
      fun _ => by unfold mUdeLaw; constructor <;> rfl
  · exact KeepsInputs.refl s

omit [LinearOrderedField α] in
theorem publishActuators_keepsInputs : KeepsInputs s (publishActuators s).1 := by
  obtain ⟨pub, h⟩ := publishActuators_fst s
  rw [h]; constructor <;> rfl

theorem platformZeroTorque_keepsInputs : KeepsInputs s (platformZeroTorque s) := by
  unfold platformZeroTorque; split_ifs <;> constructor <;> rfl

theorem udeBranch_keepsInputs : KeepsInputs s (udeBranch lib C s b dt).1.1 := by
  refine (udeStrategy_keepsInputs lib C s dt b.vehicleAttitudeSetpoint).trans
    ((platformZeroTorque_keepsInputs _).trans (KeepsInputs.trans ?_ (publishActuators_keepsInputs _)))
  dsimp only [udeBranch]
  split <;> constructor <;> rfl

theorem ratesSetpointStage_keepsInputs : KeepsInputs s (ratesSetpointStage lib C s b dt).1.1 := by
  unfold ratesSetpointStage; dsimp only
  split
  · exact (controlAttitude_keepsInputs lib C s dt b.vehicleAttitudeSetpoint).trans
      (by constructor <;> rfl)
  · split <;> constructor <;> rfl

theorem pidBranch_keepsInputs : KeepsInputs s (pidBranch lib C s b dt).1.1 := by
  refine (ratesSetpointStage_keepsInputs lib C s b dt).trans ?_
  show KeepsInputs _ (rateStage lib C (ratesSetpointStage lib C s b dt).1.1 dt).1
  unfold rateStage; dsimp only
  split
  · refine (controlAttitudeRates_keepsInputs lib C _ dt).trans
      (KeepsInputs.trans ?_ (publishActuators_keepsInputs _))
    split_ifs <;> constructor <;> rfl
  · exact KeepsInputs.refl _

theorem controlBranch_keepsInputs : KeepsInputs s (controlBranch lib C s b dt).1.1 := by
  unfold controlBranch; split
  · exact udeBranch_keepsInputs lib C s b dt
  · exact pidBranch_keepsInputs lib C s b dt

theorem endIteration_keepsInputs (now taskStart : UInt64) (acc : α) (n : Nat) :
    KeepsInputs s (endIteration C s now taskStart dt acc n).1.1 := by
  have hterm : ∀ s : Ctrl α σ, KeepsInputs s (terminationOverride s).1 := fun s => by
    unfold terminationOverride; split
    · exact KeepsInputs.trans (by constructor <;> rfl) (publishActuators_keepsInputs _)
    · exact KeepsInputs.refl s
  obtain ⟨rate, filters, h⟩ := loopRateEstimate_fst C (terminationOverride (publishUde s dt).1).1
    dt now taskStart acc n
  refine KeepsInputs.trans (by constructor <;> rfl : KeepsInputs s (publishUde s dt).1)
    ((hterm _).trans ?_)
  show KeepsInputs _ (loopRateEstimate C _ now taskStart dt acc n).1
  rw [h]; constructor <;> rfl

/-- An iteration leaves the polled members as its polls left them. -/
theorem iterate_keepsInputs (r : Runner α σ) (now : UInt64) (sample : SensorGyro α) :
    KeepsInputs (beginIteration lib C r sample) (iterate lib C r now sample).1.ctrl :=
  (controlBranch_keepsInputs lib C _ _ _).trans (endIteration_keepsInputs C _ _ _ _ _ _)

end McAttControl
