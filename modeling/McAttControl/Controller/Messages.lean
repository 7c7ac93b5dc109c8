import McAttControl.Base.Matrix

/-!
# uORB messages, parameters and external collaborators

The fields of each uORB message that `mc_att_control_main.cpp` reads or writes, the parameter
snapshot behind its `_param.get()` calls, the pending-message bus behind its
`orb_check`/`orb_copy` polls, and the log of what it publishes. Message fields no modelled
function reads (timestamps, the gyro instance ids, ...) are left out.

The filter classes `LPF`, `HPF`, `HPF2`, `BPF`, the class of `HPF_td`, `LowPassFilter2p`,
`math::superexpo` and `get_rot_matrix` are called by the controller but are not under `src/`;
they form the parameter `Collab`, over an opaque filter state `σ`. `LPFwithDelay` has its
header in `src/` (its data is modelled) but not its method bodies.
-/

namespace McAttControl

/-- `vehicle_control_mode_s`: the flags the controller reads. -/
structure VehicleControlMode where
  flagArmed : Bool
  flagControlManualEnabled : Bool
  flagControlAutoEnabled : Bool
  flagControlVelocityEnabled : Bool
  flagControlAttitudeEnabled : Bool
  flagControlRattitudeEnabled : Bool
  flagControlRatesEnabled : Bool
  flagControlTerminationEnabled : Bool
  deriving DecidableEq, Repr, Inhabited

/-- `vehicle_status_s`: rotary-wing and VTOL status. -/
structure VehicleStatus where
  isRotaryWing : Bool
  isVtol : Bool
  deriving DecidableEq, Repr, Inhabited

/-- The decoded `_saturation_status.flags` of a `multirotor_motor_limits_s` message: per axis,
whether a positive or negative demand change would increase actuator saturation. -/
structure SaturationStatus where
  rollPos : Bool
  rollNeg : Bool
  pitchPos : Bool
  pitchNeg : Bool
  yawPos : Bool
  yawNeg : Bool
  deriving DecidableEq, Repr, Inhabited

namespace SaturationStatus

/-- `positive_saturation` for axis `i` (roll 0, pitch 1, yaw 2). -/
def pos (s : SaturationStatus) (i : Fin 3) : Bool :=
  (i = 0 && s.rollPos) || (i = 1 && s.pitchPos) || (i = 2 && s.yawPos)

/-- `negative_saturation` for axis `i`. -/
def neg (s : SaturationStatus) (i : Fin 3) : Bool :=
  (i = 0 && s.rollNeg) || (i = 1 && s.pitchNeg) || (i = 2 && s.yawNeg)

end SaturationStatus

variable (α : Type)

/-- `manual_control_setpoint_s`: stick positions. -/
structure ManualControlSetpoint where
  x : α
  y : α
  z : α
  r : α
  deriving Inhabited

/-- `battery_status_s`: the effort scale. -/
structure BatteryStatus where
  scale : α
  deriving Inhabited

/-- `vehicle_attitude_s`: the attitude quaternion. -/
structure VehicleAttitude where
  q : Fin 4 → α
  deriving Inhabited

/-- `vehicle_attitude_setpoint_s`. -/
structure VehicleAttitudeSetpoint where
  qD : Fin 4 → α
  thrust : α
  yawSpMoveRate : α
  disableMcYawControl : Bool
  landingGear : α
  deriving Inhabited

/-- `vehicle_rates_setpoint_s`. -/
structure VehicleRatesSetpoint where
  roll : α
  pitch : α
  yaw : α
  thrust : α
  deriving Inhabited

/-- `sensor_correction_s`: per-instance gyro offsets and scales, and the selected instance. -/
structure SensorCorrection where
  gyroOffset0 : Fin 3 → α
  gyroOffset1 : Fin 3 → α
  gyroOffset2 : Fin 3 → α
  gyroScale0 : Fin 3 → α
  gyroScale1 : Fin 3 → α
  gyroScale2 : Fin 3 → α
  selectedGyroInstance : Nat
  deriving Inhabited

/-- `sensor_bias_s`: the in-run gyro biases. -/
structure SensorBias where
  gyroXBias : α
  gyroYBias : α
  gyroZBias : α
  deriving Inhabited

/-- `sensor_gyro_s`: one raw gyro sample. -/
structure SensorGyro where
  x : α
  y : α
  z : α
  deriving Inhabited

/-- `actuator_controls_s`: the eight control channels. -/
structure ActuatorControls where
  control : Fin 8 → α
  deriving Inhabited

/-- `rate_ctrl_status_s`. -/
structure RateCtrlStatus where
  rollspeed : α
  pitchspeed : α
  yawspeed : α
  rollspeedInteg : α
  pitchspeedInteg : α
  yawspeedInteg : α
  deriving Inhabited

/-- The per-axis parameter block `MC_{ROLL,PITCH,YAW}_P`, `MC_*RATE_P/I/D/FF` and the rate
integrator limit, read in the same way for each axis by `parameters_updated`. -/
structure AxisParams where
  p : α
  rateP : α
  rateI : α
  rateIntegLim : α
  rateD : α
  rateFf : α
  deriving Inhabited

/-- The parameter values behind every `_param.get()` of the controller. -/
structure Params where
  inputSource : Int
  usePlatform : Int
  switchUde : Int
  switchMixer : Int
  switchTd : Int
  udeTFilter : α
  tf : α
  tf1 : α
  tf2 : α
  tTorque : α
  kpUde : α
  kdUde : α
  kmUde : α
  tUde : α
  roll : AxisParams α
  pitch : AxisParams α
  yaw : AxisParams α
  dTermCutoffFreq : α
  rollRateMax : α
  pitchRateMax : α
  yawRateMax : α
  yawAutoMax : α
  acroRollMax : α
  acroPitchMax : α
  acroYawMax : α
  /-- `circuit_breaker_enabled("CBRK_RATE_CTRL", CBRK_RATE_CTRL_KEY)` for this snapshot. -/
  cbrkRateCtrl : Bool
  boardRotation : Int
  boardOffsetX : α
  boardOffsetY : α
  boardOffsetZ : α
  yawFf : α
  vtolWvYawRateScale : α
  tpaBreakpointP : α
  tpaBreakpointI : α
  tpaBreakpointD : α
  tpaRateP : α
  tpaRateI : α
  tpaRateD : α
  rattitudeThres : α
  acroExpoRp : α
  acroSuperexpoRp : α
  acroExpoY : α
  acroSuperexpoY : α
  batScaleEn : Int
  deriving Inhabited

/-- The newest message of each subscribed topic that the controller has not copied yet:
`orb_check` reports it as updated, `orb_copy` takes it. A parameter update carries the
snapshot `updateParams()` then reads. -/
structure Bus where
  parameterUpdate : Option (Params α)
  vehicleControlMode : Option VehicleControlMode
  manualControlSetpoint : Option (ManualControlSetpoint α)
  vehicleStatus : Option VehicleStatus
  multirotorMotorLimits : Option SaturationStatus
  batteryStatus : Option (BatteryStatus α)
  vehicleAttitude : Option (VehicleAttitude α)
  sensorCorrection : Option (SensorCorrection α)
  sensorBias : Option (SensorBias α)
  vehicleAttitudeSetpoint : Option (VehicleAttitudeSetpoint α)
  vehicleRatesSetpoint : Option (VehicleRatesSetpoint α)
  deriving Inhabited

/-- The data layout of `math::LPFwithDelay` from `LPFwithDelay.hpp`. -/
structure LPFwithDelay where
  outputPrev : α
  delay : α
  inputPrev : Fin 10 → α
  T : α
  deriving Inhabited

variable {α}

namespace Bus

/-- A bus on which nothing is pending. -/
def empty : Bus α := ⟨none, none, none, none, none, none, none, none, none, none, none⟩

/-- Messages published since the last look replace the older pending ones, topic by topic. -/
def merge (old new : Bus α) : Bus α :=
  ⟨new.parameterUpdate <|> old.parameterUpdate, new.vehicleControlMode <|> old.vehicleControlMode,
   new.manualControlSetpoint <|> old.manualControlSetpoint, new.vehicleStatus <|> old.vehicleStatus,
   new.multirotorMotorLimits <|> old.multirotorMotorLimits, new.batteryStatus <|> old.batteryStatus,
   new.vehicleAttitude <|> old.vehicleAttitude, new.sensorCorrection <|> old.sensorCorrection,
   new.sensorBias <|> old.sensorBias,
   new.vehicleAttitudeSetpoint <|> old.vehicleAttitudeSetpoint,
   new.vehicleRatesSetpoint <|> old.vehicleRatesSetpoint⟩

end Bus

/-- `LPFwithDelay(void)`: every field zero. -/
def LPFwithDelay.init [Zero α] : LPFwithDelay α := ⟨0, 0, fun _ => 0, 0⟩

/-- The methods the controller calls whose code is not under `src/`. Filter objects other
than `LPFwithDelay` have the opaque state `σ`. -/
structure Collab (α σ : Type) where
  /-- `LowPassFilter2p(sample_freq, cutoff_freq)`. -/
  lp2pConstruct : α → α → σ
  /-- `LowPassFilter2p::apply(sample)`. -/
  lp2pApply : σ → α → σ × α
  /-- `LowPassFilter2p::reset(sample)` (its return value is discarded by the controller). -/
  lp2pReset : σ → α → σ
  /-- `LowPassFilter2p::set_cutoff_frequency(sample_freq, cutoff_freq)`. -/
  lp2pSetCutoffFrequency : σ → α → α → σ
  /-- `LowPassFilter2p::get_cutoff_freq()`. -/
  lp2pGetCutoffFreq : σ → α
  lpfInitialization : σ → α → σ
  lpfUpdate : σ → α → α → σ × α
  hpfInitialization : σ → α → σ
  hpfUpdate : σ → α → α → σ × α
  hpf2Initialization : σ → α → α → σ
  hpf2Update : σ → α → α → σ × α
  bpfInitialization : σ → α → α → σ
  bpfUpdate : σ → α → α → σ × α
  hpfTdInitialization : σ → α → σ
  hpfTdUpdate : σ → α → α → σ × α
  /-- `LPFwithDelay::set_constant(time_constant)`. -/
  delaySetConstant : LPFwithDelay α → α → LPFwithDelay α
  /-- `LPFwithDelay::update(input, dt)`, returning the filtered result. -/
  delayUpdate : LPFwithDelay α → α → α → LPFwithDelay α × α
  /-- `LPFwithDelay::get_delay_output()`. -/
  delayGetDelayOutput : LPFwithDelay α → α
  /-- `math::superexpo(value, e, g)`. -/
  superexpo : α → α → α → α
  /-- `get_rot_matrix((enum Rotation)param)`. -/
  getRotMatrix : Int → Dcmf α
  deriving Inhabited

end McAttControl
