import McAttControl.Controller.Messages

/-!
# The controller object

`MulticopterAttitudeControl` as a record `Ctrl α σ` of the members its methods read or write,
with the constructor (`src/unnamed/part_000:111–228`), `parameters_updated` (`:230–341`) and
the `*_poll` methods (`:343–489`). The header `mc_att_control.hpp` is not under `src/`: the
members the constructor does not set keep the values of an arbitrary record `pre`, standing
for the header's default member initialisers.
-/

namespace McAttControl

variable (α σ : Type)

/-- The members `parameters_updated` precomputes from the parameter snapshot. -/
structure Gains where
  inputSource : Int
  usePlatform : Int
  switchUde : Int
  switchMixer : Int
  switchTd : Int
  tFilterUde : α
  tF : α
  tF1 : α
  tF2 : α
  tTorque : α
  kpUde : Fin 3 → α
  kdUde : Fin 3 → α
  kmUde : Fin 3 → α
  tUde : Fin 3 → α
  attitudeP : Fin 3 → α
  rateP : Fin 3 → α
  rateI : Fin 3 → α
  rateIntLim : Fin 3 → α
  rateD : Fin 3 → α
  rateFf : Fin 3 → α
  mcRateMax : Fin 3 → α
  autoRateMax : Fin 3 → α
  acroRateMax : Fin 3 → α
  actuators0CircuitBreakerEnabled : Bool
  boardRotation : Dcmf α
  deriving Inhabited

/-- `ude_s`, the status bundle of the UDE controllers; every array has the three axes. -/
structure UdeStatus where
  startTime : α
  inputTime : α
  thrustSp : α
  torqueEst : Fin 3 → α
  f1Est : Fin 3 → α
  f1DotEst : Fin 3 → α
  f2Est : Fin 3 → α
  fEst : Fin 3 → α
  uTotal : Fin 3 → α
  errorAttitudeRate : Fin 3 → α
  feedforward : Fin 3 → α
  uLKp : Fin 3 → α
  uD : Fin 3 → α
  uLKd : Fin 3 → α
  uLKm : Fin 3 → α
  torqueRef : Fin 3 → α
  f2 : Fin 3 → α
  attitudeDotRefHpf : Fin 3 → α
  attitudeRef : Fin 3 → α
  attitudeDotRef : Fin 3 → α
  attitudeDdotRef : Fin 3 → α
  attitudeDddotRef : Fin 3 → α
  attitudeNow : Fin 3 → α
  errorAttitude : Fin 3 → α
  attitudeRateNow : Fin 3 → α
  deriving Inhabited

/-- `mixer_s`: the last mixer inputs, motor thrusts, throttles and re-mixed outputs. -/
structure MixerStatus where
  inputRoll : α
  inputPitch : α
  inputYaw : α
  inputThrust : α
  f1 : α
  f2 : α
  f3 : α
  f4 : α
  throttle1 : α
  throttle2 : α
  throttle3 : α
  throttle4 : α
  outputRoll : α
  outputPitch : α
  outputYaw : α
  outputThrust : α
  deriving Inhabited

/-- What one iteration publishes, in order. -/
inductive Pub where
  | actuatorControls (msg : ActuatorControls α)
  | vehicleRatesSetpoint (msg : VehicleRatesSetpoint α)
  | rateCtrlStatus (msg : RateCtrlStatus α)
  | ude (msg : UdeStatus α)
  | mixer (msg : MixerStatus α)

/-- `_rates_sp_id`: the rates setpoint topic chosen on the first vehicle status. -/
inductive RatesSpTopic where
  | vehicleRatesSetpoint
  | mcVirtualRatesSetpoint
  deriving DecidableEq, Repr

/-- `_actuators_id`: the actuator topic chosen on the first vehicle status. -/
inductive ActuatorsTopic where
  | actuatorControls0
  | actuatorControlsVirtualMc
  deriving DecidableEq, Repr

/-- The members of `MulticopterAttitudeControl` the modelled methods use. The `*Pub` flags say
whether the advertisement handle exists (is not `nullptr`). -/
structure Ctrl where
  params : Params α
  gains : Gains α
  vControlMode : VehicleControlMode
  manualControlSp : ManualControlSetpoint α
  vehicleStatus : VehicleStatus
  saturationStatus : SaturationStatus
  batteryStatus : BatteryStatus α
  vAtt : VehicleAttitude α
  vAttSp : VehicleAttitudeSetpoint α
  vRatesSp : VehicleRatesSetpoint α
  sensorCorrection : SensorCorrection α
  sensorBias : SensorBias α
  sensorGyro : SensorGyro α
  selectedGyro : Nat
  gyroCount : Nat
  ratesPrev : Fin 3 → α
  ratesPrevFiltered : Fin 3 → α
  ratesSp : Fin 3 → α
  ratesInt : Fin 3 → α
  thrustSp : α
  attControl : Fin 3 → α
  actuators : ActuatorControls α
  loopUpdateRateHz : α
  lpFiltersD : Fin 3 → σ
  iQuadrotor : Fin 3 → α
  integralLimitUde : Fin 3 → α
  integralUde : Fin 3 → α
  attitudeDotSpLast : Fin 3 → α
  attitudeSpLast : Fin 3 → α
  lastPrintTime : α
  printTime : α
  inputSourceTime : α
  lpfDelay : Fin 2 → LPFwithDelay α
  lpf : Fin 2 → σ
  hpf : Fin 2 → σ
  hpf2 : Fin 2 → σ
  bpf : Fin 2 → σ
  hpfTd : Fin 2 → σ
  ude : UdeStatus α
  mixer : MixerStatus α
  ratesSpId : Option RatesSpTopic
  actuatorsId : Option ActuatorsTopic
  actuators0Pub : Bool
  vRatesSpPub : Bool
  mixerPub : Bool
  udePub : Bool
  deriving Inhabited

variable {α σ}

/-- The loops `for (int i = 0; i < 2; i++)` over roll and pitch: write `new` on those two axes
and keep the yaw entry of `old`. -/
def rollPitch (new old : Fin 3 → α) : Fin 3 → α := ![new 0, new 1, old 2]

@[simp] theorem rollPitch_zero (new old : Fin 3 → α) : rollPitch new old 0 = new 0 := rfl
@[simp] theorem rollPitch_one (new old : Fin 3 → α) : rollPitch new old 1 = new 1 := rfl
@[simp] theorem rollPitch_two (new old : Fin 3 → α) : rollPitch new old 2 = old 2 := rfl

/-- The common body of the `*_poll` methods: `orb_check` then, if updated, `orb_copy` the
pending message over the cached one. -/
def pollCopy {β : Type} (pending : Option β) (cached : β) : β := pending.getD cached

@[simp] theorem pollCopy_none {β : Type} (cached : β) : pollCopy none cached = cached := rfl
@[simp] theorem pollCopy_some {β : Type} (m cached : β) : pollCopy (some m) cached = m := rfl

/-- `if (pub != nullptr) orb_publish(...); else if (id) pub = orb_advertise(...);`: the message
goes out when the handle exists or the topic is known, and then the handle exists. -/
def publishOrAdvertise (pub idKnown : Bool) (m : Pub α) : Bool × List (Pub α) :=
  if pub || idKnown then (true, [m]) else (pub, [])

variable [LinearOrderedField α]

/-! ### Constants of `mc_att_control_main.cpp` -/

/-- `MIN_TAKEOFF_THRUST`. -/
def minTakeoffThrust : α := 1 / 10
/-- `TPA_RATE_LOWER_LIMIT`. -/
def tpaRateLowerLimit : α := 1 / 20
/-- `MOTOR_ALPHA`, the motor time constant. -/
def motorAlpha : α := 1 / 25
/-- `Ixx`, `Iyy`, `Izz`: the vehicle inertia `I_quadrotor`. -/
def inertia : Fin 3 → α := ![1 / 100, 1 / 100, 3 / 200]
/-- `INT_LIMIT`, the bound of every UDE integrator. -/
def intLimit : α := 1

/-- The guarded Euler update shared by the rate and UDE integrators,
`if (PX4_ISFINITE(v) && v > -lim && v < lim) { x = v; }`: commit the candidate only when it is
finite and strictly inside the limit, else keep the previous value. -/
def commitIfInRange (lib : Libm α) (lim candidate prev : α) : α :=
  if lib.isFinite candidate ∧ -lim < candidate ∧ candidate < lim then candidate else prev

/-- A committed value is always strictly inside the limit; otherwise nothing changes. -/
theorem commitIfInRange_cases (lib : Libm α) (lim candidate prev : α) :
    (commitIfInRange lib lim candidate prev = candidate ∧ -lim < candidate ∧ candidate < lim) ∨
      commitIfInRange lib lim candidate prev = prev := by
  unfold commitIfInRange
  split_ifs with h
  · exact .inl ⟨rfl, h.2⟩
  · exact .inr rfl

/-- The open band `(-lim, lim)` is kept by a guarded update. -/
theorem commitIfInRange_mem {lib : Libm α} {lim candidate prev : α}
    (h : -lim < prev ∧ prev < lim) :
    -lim < commitIfInRange lib lim candidate prev ∧ commitIfInRange lib lim candidate prev < lim := by
  rcases commitIfInRange_cases lib lim candidate prev with ⟨he, hc⟩ | he <;> rw [he] <;>
    assumption

/-! ### `parameters_updated` -/

/-- The per-axis integrator limits of a snapshot, `_roll_rate_integ_lim` and its pitch and yaw
counterparts (`:269–285`). -/
def rateIntegLims (p : Params α) : Fin 3 → α :=
  ![p.roll.rateIntegLim, p.pitch.rateIntegLim, p.yaw.rateIntegLim]

/-- The precomputed members as `parameters_updated` (`:230–341`) sets them from a snapshot. -/
def gainsOf (lib : Libm α) (C : Collab α σ) (p : Params α) : Gains α where
  inputSource := p.inputSource
  usePlatform := p.usePlatform
  switchUde := p.switchUde
  switchMixer := p.switchMixer
  switchTd := p.switchTd
  tFilterUde := p.udeTFilter
  tF := p.tf
  tF1 := p.tf1
  tF2 := p.tf2
  tTorque := p.tTorque
  kpUde := fun _ => p.kpUde
  kdUde := fun _ => p.kdUde
  kmUde := fun _ => p.kmUde
  tUde := fun _ => p.tUde
  attitudeP := ![p.roll.p, p.pitch.p, p.yaw.p]
  rateP := ![p.roll.rateP, p.pitch.rateP, p.yaw.rateP]
  rateI := ![p.roll.rateI, p.pitch.rateI, p.yaw.rateI]
  rateIntLim := rateIntegLims p
  rateD := ![p.roll.rateD, p.pitch.rateD, p.yaw.rateD]
  rateFf := ![p.roll.rateFf, p.pitch.rateFf, p.yaw.rateFf]
  mcRateMax := ![radians lib.pi p.rollRateMax, radians lib.pi p.pitchRateMax,
    radians lib.pi p.yawRateMax]
  autoRateMax := ![radians lib.pi p.rollRateMax, radians lib.pi p.pitchRateMax,
    radians lib.pi p.yawAutoMax]
  acroRateMax := ![radians lib.pi p.acroRollMax, radians lib.pi p.acroPitchMax,
    radians lib.pi p.acroYawMax]
  actuators0CircuitBreakerEnabled := p.cbrkRateCtrl
  boardRotation := Dcmf.mul
    (Dcmf.ofEuler lib ![lib.pi / 180 * p.boardOffsetX, lib.pi / 180 * p.boardOffsetY,
      lib.pi / 180 * p.boardOffsetZ])
    (C.getRotMatrix p.boardRotation)

/-- `parameters_updated()`: recompute the gains from the current snapshot and, when the
D-term cutoff changed by more than `0.01`, re-tune and reset the three D-term filters. -/
def parametersUpdated (lib : Libm α) (C : Collab α σ) (s : Ctrl α σ) : Ctrl α σ :=
  let p := s.params
  { s with
    gains := gainsOf lib C p
    lpFiltersD :=
      if 1 / 100 < |C.lp2pGetCutoffFreq (s.lpFiltersD 0) - p.dTermCutoffFreq| then
        fun i => C.lp2pReset
          (C.lp2pSetCutoffFrequency (s.lpFiltersD i) s.loopUpdateRateHz p.dTermCutoffFreq)
          (s.ratesPrev i)
      else s.lpFiltersD }

/-- The integrator limits are the per-axis integrator parameters of the snapshot. -/
@[simp] theorem rateIntLim_gainsOf (lib : Libm α) (C : Collab α σ) (p : Params α) :
    (gainsOf lib C p).rateIntLim = rateIntegLims p := rfl

/-! ### The constructor -/

/-- `MulticopterAttitudeControl()`: the initialiser list builds the D-term filters at
`initial_update_rate_hz` with a `50 Hz` cutoff, then the body runs on the parameter snapshot
`p`. Members the body does not set keep their value in `pre`. -/
def construct (lib : Libm α) (C : Collab α σ) (pre : Ctrl α σ) (initialUpdateRateHz : α)
    (p : Params α) : Ctrl α σ :=
  let s : Ctrl α σ :=
    { pre with
      params := p
      lpFiltersD := fun _ => C.lp2pConstruct initialUpdateRateHz 50
      lpfDelay := fun _ => LPFwithDelay.init
      attitudeDotSpLast := 0
      attitudeSpLast := 0
      ude := { pre.ude with
        startTime := 0, inputTime := 0, thrustSp := 0, torqueEst := 0, f1Est := 0,
        f1DotEst := 0, f2Est := 0, fEst := 0, uTotal := 0 }
      iQuadrotor := inertia
      integralLimitUde := fun _ => intLimit }
  let s := parametersUpdated lib C s
  { s with
    lastPrintTime := 0
    printTime := 0
    inputSourceTime := 0
    lpfDelay := fun i => C.delaySetConstant (s.lpfDelay i) motorAlpha
    lpf := fun i => C.lpfInitialization (s.lpf i) s.gains.tF
    hpf := fun i => C.hpfInitialization (s.hpf i) s.gains.tF
    hpf2 := fun i => C.hpf2Initialization (s.hpf2 i) s.gains.tF1 s.gains.tF2
    bpf := fun i => C.bpfInitialization (s.bpf i) s.gains.tF1 s.gains.tF2
    hpfTd := fun i => C.hpfTdInitialization (s.hpfTd i) s.gains.tFilterUde
    vehicleStatus := { s.vehicleStatus with isRotaryWing := true }
    vAtt := ⟨Function.update s.vAtt.q 0 1⟩
    vAttSp := { s.vAttSp with qD := Function.update s.vAttSp.qD 0 1 }
    ratesPrev := 0
    ratesPrevFiltered := 0
    ratesSp := 0
    ratesInt := 0
    integralUde := 0
    thrustSp := 0
    attControl := 0
    sensorCorrection := { s.sensorCorrection with
      gyroScale0 := fun _ => 1, gyroScale1 := fun _ => 1, gyroScale2 := fun _ => 1 } }

/-! ### The polls -/

/-- `parameter_update_poll()`: on a parameter update, `updateParams()` then
`parameters_updated()`. -/
def parameterUpdatePoll (lib : Libm α) (C : Collab α σ) (s : Ctrl α σ) :
    Option (Params α) → Ctrl α σ
  | none => s
  | some p => parametersUpdated lib C { s with params := p }

/-- `vehicle_control_mode_poll()`. -/
def vehicleControlModePoll (s : Ctrl α σ) (m : Option VehicleControlMode) : Ctrl α σ :=
  { s with vControlMode := pollCopy m s.vControlMode }

/-- `vehicle_manual_poll()`. -/
def vehicleManualPoll (s : Ctrl α σ) (m : Option (ManualControlSetpoint α)) : Ctrl α σ :=
  { s with manualControlSp := pollCopy m s.manualControlSp }

/-- `vehicle_attitude_setpoint_poll()`. -/
def vehicleAttitudeSetpointPoll (s : Ctrl α σ) (m : Option (VehicleAttitudeSetpoint α)) :
    Ctrl α σ :=
  { s with vAttSp := pollCopy m s.vAttSp }

/-- `vehicle_rates_setpoint_poll()`. -/
def vehicleRatesSetpointPoll (s : Ctrl α σ) (m : Option (VehicleRatesSetpoint α)) : Ctrl α σ :=
  { s with vRatesSp := pollCopy m s.vRatesSp }

/-- `vehicle_status_poll()`: copy, and on the first status choose the rates setpoint and
actuator topics, the virtual ones for a VTOL. -/
def vehicleStatusPoll (s : Ctrl α σ) (m : Option VehicleStatus) : Ctrl α σ :=
  let st := pollCopy m s.vehicleStatus
  let choose := m.isSome && s.ratesSpId.isNone
  { s with
    vehicleStatus := st
    ratesSpId := if choose then
      some (if st.isVtol then .mcVirtualRatesSetpoint else .vehicleRatesSetpoint) else s.ratesSpId
    actuatorsId := if choose then
      some (if st.isVtol then .actuatorControlsVirtualMc else .actuatorControls0) else s.actuatorsId }

/-- `vehicle_motor_limits_poll()`: the saturation flags of a new message. -/
def vehicleMotorLimitsPoll (s : Ctrl α σ) (m : Option SaturationStatus) : Ctrl α σ :=
  { s with saturationStatus := pollCopy m s.saturationStatus }

/-- `battery_status_poll()`. -/
def batteryStatusPoll (s : Ctrl α σ) (m : Option (BatteryStatus α)) : Ctrl α σ :=
  { s with batteryStatus := pollCopy m s.batteryStatus }

/-- `vehicle_attitude_poll()`. -/
def vehicleAttitudePoll (s : Ctrl α σ) (m : Option (VehicleAttitude α)) : Ctrl α σ :=
  { s with vAtt := pollCopy m s.vAtt }

/-- `sensor_correction_poll()`: copy, then select the reported gyro if it exists. -/
def sensorCorrectionPoll (s : Ctrl α σ) (m : Option (SensorCorrection α)) : Ctrl α σ :=
  let c := pollCopy m s.sensorCorrection
  { s with
    sensorCorrection := c
    selectedGyro := if c.selectedGyroInstance < s.gyroCount then c.selectedGyroInstance
      else s.selectedGyro }

/-- `sensor_bias_poll()`. -/
def sensorBiasPoll (s : Ctrl α σ) (m : Option (SensorBias α)) : Ctrl α σ :=
  { s with sensorBias := pollCopy m s.sensorBias }

end McAttControl
