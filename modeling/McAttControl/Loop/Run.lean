import McAttControl.Controller.Ude
import McAttControl.Controller.Mixer

/-!
# The run loop

`MulticopterAttitudeControl::run()` (`src/unnamed/part_000:1235–1613`) as a state machine. The
loop's locals that survive an iteration (`task_start`, `last_run`, `dt_accumulator`,
`loop_counter`) and the messages pending on the bus join the controller in a `Runner`. The
environment publishes messages, the poll may time out or fail, and a gyro wake-up runs one
iteration, which returns what it publishes in order.
-/

namespace McAttControl

variable (α σ : Type)

/-- The controller, the pending messages and the locals of `run()` kept across iterations. -/
structure Runner where
  ctrl : Ctrl α σ
  bus : Bus α
  taskStart : UInt64
  lastRun : UInt64
  dtAccumulator : α
  loopCounter : Nat
  deriving Inhabited

/-- What can happen between two looks at the loop: other modules publish, `px4_poll` times out
or fails, returns without `POLLIN`, or wakes on a gyro sample at time `now` (microseconds). -/
inductive Event where
  | publish (msgs : Bus α)
  | timeout
  | pollError
  | noData
  | gyro (now : UInt64) (sample : SensorGyro α)

variable {α σ} [LinearOrderedField α]

/-! ### Stages of one iteration -/

/-- `/* guard against too small (< 0.2ms) and too large (> 20ms) dt's */`. -/
def clampDt (dt : α) : α :=
  if dt < 1 / 5000 then 1 / 5000 else if 1 / 50 < dt then 1 / 50 else dt

/-- `(now - last_run) / 1e6f`, with the unsigned 64-bit difference of `hrt_abstime`. -/
def elapsedSeconds (now lastRun : UInt64) : α := ((now - lastRun).toNat : α) / 1000000

/-- The nine polls of `:1319–1327`, in order, from the pending messages `b`. -/
def pollTopics (lib : Libm α) (C : Collab α σ) (s : Ctrl α σ) (b : Bus α) : Ctrl α σ :=
  let s := parameterUpdatePoll lib C s b.parameterUpdate
  let s := vehicleControlModePoll s b.vehicleControlMode
  let s := vehicleManualPoll s b.manualControlSetpoint
  let s := vehicleStatusPoll s b.vehicleStatus
  let s := vehicleMotorLimitsPoll s b.multirotorMotorLimits
  let s := batteryStatusPoll s b.batteryStatus
  let s := vehicleAttitudePoll s b.vehicleAttitude
  let s := sensorCorrectionPoll s b.sensorCorrection
  sensorBiasPoll s b.sensorBias

/-- The bus after those polls: only the two setpoint topics polled later may stay pending. -/
def Bus.afterPolls (b : Bus α) : Bus α :=
  { Bus.empty with
    vehicleAttitudeSetpoint := b.vehicleAttitudeSetpoint
    vehicleRatesSetpoint := b.vehicleRatesSetpoint }

/-- Whether the rattitude stick override of `:1332–1337` fires. -/
def rattitudeActive (s : Ctrl α σ) : Bool :=
  s.vControlMode.flagControlRattitudeEnabled &&
    (decide (s.params.rattitudeThres < |s.manualControlSp.y|) ||
      decide (s.params.rattitudeThres < |s.manualControlSp.x|))

/-- The rattitude override: beyond the stick threshold, clear the cached attitude flag. -/
def rattitudeOverride (s : Ctrl α σ) : Ctrl α σ :=
  if rattitudeActive s then
    { s with vControlMode := { s.vControlMode with flagControlAttitudeEnabled := false } }
  else s

/-- `PX4_ISFINITE(x) ? x : 0.0f`. -/
def finiteOrZero (lib : Libm α) (x : α) : α := if lib.isFinite x then x else 0

/-- Write `control[0..3]`, keeping the other channels. -/
def ActuatorControls.setMain (a : ActuatorControls α) (c : Fin 4 → α) : ActuatorControls α :=
  ⟨fun i => if h : i.val < 4 then c ⟨i.val, h⟩ else a.control i⟩

/-- `control[i] *= scale` for `i < 4`. -/
def ActuatorControls.scaleMain (a : ActuatorControls α) (k : α) : ActuatorControls α :=
  ⟨fun i => if i.val < 4 then a.control i * k else a.control i⟩

/-- Set the landing gear channel `control[7]`, then scale by the battery when enabled. -/
def finishActuators (s : Ctrl α σ) (a : ActuatorControls α) : ActuatorControls α :=
  let a : ActuatorControls α := ⟨Function.update a.control 7 s.vAttSp.landingGear⟩
  if s.params.batScaleEn ≠ 0 ∧ 0 < s.batteryStatus.scale then a.scaleMain s.batteryStatus.scale
  else a

/-- Publish `_actuators` unless the rate-control circuit breaker is set. -/
def publishActuators (s : Ctrl α σ) : Ctrl α σ × List (Pub α) :=
  if s.gains.actuators0CircuitBreakerEnabled then (s, [])
  else
    let out := publishOrAdvertise s.actuators0Pub s.actuatorsId.isSome
      (.actuatorControls s.actuators)
    ({ s with actuators0Pub := out.1 }, out.2)

/-- Whether `switch_ude` selects one of the three strategies (`:1343–1355`). -/
def udeStrategyRuns (s : Ctrl α σ) : Bool :=
  s.gains.switchUde = 1 || s.gains.switchUde = 2 || s.gains.switchUde = 3

/-- The strategy selected by `switch_ude`; other values run none. -/
def udeStrategy (lib : Libm α) (C : Collab α σ) (s : Ctrl α σ)
    (attSp : Option (VehicleAttitudeSetpoint α)) (dt : α) : Ctrl α σ :=
  if s.gains.switchUde = 1 then controlAttitudeUde lib C s attSp dt
  else if s.gains.switchUde = 2 then controlAttitudeCascadeUde lib C s attSp dt
  else if s.gains.switchUde = 3 then controlAttitudeMUde lib C s attSp dt
  else s

/-- `_ude.u_total[0] = _ude.u_total[2] = 0` in platform mode (`:1361–1365`, `:1381–1385`). -/
def platformZeroTorque (s : Ctrl α σ) : Ctrl α σ :=
  if s.gains.usePlatform = 1 then
    { s with ude := { s.ude with uTotal := ![0, s.ude.uTotal 1, 0] } }
  else s

/-- The UDE path (`:1342–1419`): run the strategy, then output its torques directly or through
the mixer, and publish. The attitude setpoint is taken when a strategy ran. -/
def udeBranch (lib : Libm α) (C : Collab α σ) (s : Ctrl α σ) (b : Bus α) (dt : α) :
    (Ctrl α σ × Bus α) × List (Pub α) :=
  let b' := if udeStrategyRuns s then { b with vehicleAttitudeSetpoint := none } else b
  let s := platformZeroTorque (udeStrategy lib C s b.vehicleAttitudeSetpoint dt)
  let out : Ctrl α σ × List (Pub α) :=
    if s.gains.switchMixer = 0 then
      let u := s.ude
      ({ s with actuators := s.actuators.setMain ![finiteOrZero lib (u.uTotal 0),
          finiteOrZero lib (u.uTotal 1), finiteOrZero lib (u.uTotal 2),
          finiteOrZero lib u.thrustSp] }, [])
    else
      let u := s.ude
      let m := mixer s (u.uTotal 0) (u.uTotal 1) (u.uTotal 2) u.thrustSp
      let s := m.1
      let mx := if s.gains.usePlatform = 1 then { s.mixer with outputRoll := 0, outputYaw := 0 }
        else s.mixer
      ({ s with
        mixer := mx
        actuators := s.actuators.setMain ![finiteOrZero lib mx.outputRoll,
          finiteOrZero lib mx.outputPitch, finiteOrZero lib mx.outputYaw,
          finiteOrZero lib mx.outputThrust] }, m.2)
  let s := out.1
  let p := publishActuators { s with actuators := finishActuators s s.actuators }
  ((p.1, b'), out.2 ++ p.2)

/-- `vehicle_rates_setpoint_s` from the rate setpoint and thrust. -/
def ratesSetpointMsg (s : Ctrl α σ) : VehicleRatesSetpoint α :=
  ⟨s.ratesSp 0, s.ratesSp 1, s.ratesSp 2, s.thrustSp⟩

/-- Store and publish the rates setpoint (`:1431–1442`). -/
def publishRatesSetpoint (s : Ctrl α σ) : Ctrl α σ × List (Pub α) :=
  let s := { s with vRatesSp := ratesSetpointMsg s }
  let out := publishOrAdvertise s.vRatesSpPub s.ratesSpId.isSome (.vehicleRatesSetpoint s.vRatesSp)
  ({ s with vRatesSpPub := out.1 }, out.2)

/-- The rate setpoint source of the PID path (`:1424–1474`): the attitude law, the acro sticks,
or the external rates setpoint. -/
def ratesSetpointStage (lib : Libm α) (C : Collab α σ) (s : Ctrl α σ) (b : Bus α) (dt : α) :
    (Ctrl α σ × Bus α) × List (Pub α) :=
  if s.vControlMode.flagControlAttitudeEnabled then
    let p := publishRatesSetpoint (controlAttitude lib C s b.vehicleAttitudeSetpoint dt)
    ((p.1, { b with vehicleAttitudeSetpoint := none }), p.2)
  else if s.vControlMode.flagControlManualEnabled then
    let m := s.manualControlSp
    let p := s.params
    let manRateSp := ![C.superexpo m.y p.acroExpoRp p.acroSuperexpoRp,
      C.superexpo (-m.x) p.acroExpoRp p.acroSuperexpoRp, C.superexpo m.r p.acroExpoY p.acroSuperexpoY]
    let q := publishRatesSetpoint
      { s with ratesSp := Vec3.emult manRateSp s.gains.acroRateMax, thrustSp := m.z }
    ((q.1, b), q.2)
  else
    let s := vehicleRatesSetpointPoll s b.vehicleRatesSetpoint
    let v := s.vRatesSp
    (({ s with ratesSp := ![v.roll, v.pitch, v.yaw], thrustSp := v.thrust },
      { b with vehicleRatesSetpoint := none }), [])

/-- `rate_ctrl_status_s` from the last rates and the integrator. -/
def rateCtrlStatusMsg (s : Ctrl α σ) : RateCtrlStatus α :=
  ⟨s.ratesPrev 0, s.ratesPrev 1, s.ratesPrev 2, s.ratesInt 0, s.ratesInt 1, s.ratesInt 2⟩

/-- The rate loop of the PID path (`:1477–1519`): run `control_attitude_rates`, publish the
guarded actuator controls and the controller status. -/
def rateStage (lib : Libm α) (C : Collab α σ) (s : Ctrl α σ) (dt : α) :
    Ctrl α σ × List (Pub α) :=
  if s.vControlMode.flagControlRatesEnabled then
    let s := controlAttitudeRates lib C s dt
    let s := if s.gains.usePlatform = 1 then
      { s with attControl := ![0, s.attControl 1, 0] } else s
    let a := s.actuators.setMain ![finiteOrZero lib (s.attControl 0),
      finiteOrZero lib (s.attControl 1), finiteOrZero lib (s.attControl 2),
      finiteOrZero lib s.thrustSp]
    let p := publishActuators { s with actuators := finishActuators s a }
    (p.1, p.2 ++ [.rateCtrlStatus (rateCtrlStatusMsg p.1)])
  else (s, [])

/-- The default PID path (`:1421–1520`). -/
def pidBranch (lib : Libm α) (C : Collab α σ) (s : Ctrl α σ) (b : Bus α) (dt : α) :
    (Ctrl α σ × Bus α) × List (Pub α) :=
  let r := ratesSetpointStage lib C s b dt
  let q := rateStage lib C r.1.1 dt
  ((q.1, r.1.2), r.2 ++ q.2)

/-- Publish the UDE status with its clock advanced by `dt` (`:1525–1535`). -/
def publishUde (s : Ctrl α σ) (dt : α) : Ctrl α σ × List (Pub α) :=
  let s := { s with ude := { s.ude with startTime := s.ude.startTime + dt } }
  let out := publishOrAdvertise s.udePub true (.ude s.ude)
  ({ s with udePub := out.1 }, out.2)

/-- Whether the flight-termination override of `:1537–1563` applies. -/
def terminationActive (s : Ctrl α σ) : Bool :=
  s.vControlMode.flagControlTerminationEnabled && !s.vehicleStatus.isVtol

/-- Flight termination: zero the setpoints, integrators and outputs, and publish zero controls. -/
def terminationOverride (s : Ctrl α σ) : Ctrl α σ × List (Pub α) :=
  if terminationActive s then
    publishActuators { s with
      ratesSp := 0, ratesInt := 0, integralUde := 0, thrustSp := 0, attControl := 0
      actuators := s.actuators.setMain 0 }
  else (s, [])

/-- The loop-rate estimate of `:1566–1580`: while disarmed or in the first `3.3 s`, accumulate
`dt`; past one second, average the measured rate into `_loop_update_rate_hz` and re-tune the
D-term filters. Returns the controller, the accumulator and the counter. -/
def loopRateEstimate (C : Collab α σ) (s : Ctrl α σ) (now taskStart : UInt64) (dt acc : α)
    (counter : Nat) : Ctrl α σ × α × Nat :=
  if !s.vControlMode.flagArmed || decide (now - taskStart < 3300000) then
    let acc := acc + dt
    let counter := counter + 1
    if 1 < acc then
      let rate := s.loopUpdateRateHz * (1 / 2) + (counter : α) / acc * (1 / 2)
      ({ s with
        loopUpdateRateHz := rate
        lpFiltersD := fun i => C.lp2pSetCutoffFrequency (s.lpFiltersD i) rate
          s.params.dTermCutoffFreq }, 0, 0)
    else (s, acc, counter)
  else (s, acc, counter)

/-- The controller state after the polls and the rattitude override of one iteration. -/
def beginIteration (lib : Libm α) (C : Collab α σ) (r : Runner α σ) (sample : SensorGyro α) :
    Ctrl α σ :=
  rattitudeOverride (pollTopics lib C { r.ctrl with sensorGyro := sample } r.bus)

/-- The control path of an iteration: the UDE strategies when `switch_ude` is set, the PID path
otherwise. -/
def controlBranch (lib : Libm α) (C : Collab α σ) (s : Ctrl α σ) (b : Bus α) (dt : α) :
    (Ctrl α σ × Bus α) × List (Pub α) :=
  if s.gains.switchUde ≠ 0 then udeBranch lib C s b dt else pidBranch lib C s b dt

/-- The end of an iteration: publish the UDE status, apply flight termination and estimate the
loop rate. Returns the controller, the accumulator, the counter and the publications. -/
def endIteration (C : Collab α σ) (s : Ctrl α σ) (now taskStart : UInt64) (dt acc : α)
    (counter : Nat) : (Ctrl α σ × α × Nat) × List (Pub α) :=
  let u := publishUde s dt
  let t := terminationOverride u.1
  (loopRateEstimate C t.1 now taskStart dt acc counter, u.2 ++ t.2)

/-- One iteration of the loop body on a gyro sample at `now`. -/
def iterate (lib : Libm α) (C : Collab α σ) (r : Runner α σ) (now : UInt64)
    (sample : SensorGyro α) : Runner α σ × List (Pub α) :=
  let dt := clampDt (elapsedSeconds now r.lastRun)
  let br := controlBranch lib C (beginIteration lib C r sample) r.bus.afterPolls dt
  let e := endIteration C br.1.1 now r.taskStart dt r.dtAccumulator r.loopCounter
  (⟨e.1.1, br.1.2, r.taskStart, now, e.1.2.1, e.1.2.2⟩, br.2 ++ e.2)

/-! ### The loop -/

/-- The setup of `run()` (`:1237–1270`): the gyro count, the initial copy of the sensor
correction, and the loop's locals at the task start time. -/
def Runner.start (c : Ctrl α σ) (b : Bus α) (groupCount maxGyroCount : Nat) (taskStart : UInt64) :
    Runner α σ :=
  let n := min groupCount maxGyroCount
  ⟨{ c with
      gyroCount := if n = 0 then 1 else n
      sensorCorrection := pollCopy b.sensorCorrection c.sensorCorrection },
    { b with sensorCorrection := none }, taskStart, taskStart, 0, 0⟩

/-- One event of the loop. -/
def Runner.step (lib : Libm α) (C : Collab α σ) (r : Runner α σ) : Event α → Runner α σ × List (Pub α)
  | .publish msgs => ({ r with bus := r.bus.merge msgs }, [])
  | .timeout => (r, [])
  | .pollError => (r, [])
  | .noData => (r, [])
  | .gyro now sample => iterate lib C r now sample

/-- A run of the loop over a sequence of events, with everything it publishes in order. -/
def Runner.run (lib : Libm α) (C : Collab α σ) : Runner α σ → List (Event α) → Runner α σ × List (Pub α)
  | r, [] => (r, [])
  | r, e :: es =>
    let x := r.step lib C e
    let y := Runner.run lib C x.1 es
    (y.1, x.2 ++ y.2)

/-- A run over `e :: es` ends where the run over `es` from the first step's runner ends. -/
theorem Runner.run_cons_fst (lib : Libm α) (C : Collab α σ) (r : Runner α σ) (e : Event α)
    (es : List (Event α)) :
    (Runner.run lib C r (e :: es)).1 = (Runner.run lib C (r.step lib C e).1 es).1 := rfl

/-- A property that every step allowed by `Q` keeps holds at the end of every run whose events
`Q` allows. -/
theorem Runner.run_induction {lib : Libm α} {C : Collab α σ} (P : Runner α σ → Prop)
    (Q : Event α → Prop) (hstep : ∀ r e, Q e → P r → P (r.step lib C e).1) :
    ∀ (es : List (Event α)) (r : Runner α σ), (∀ e ∈ es, Q e) → P r → P (Runner.run lib C r es).1
  | [], _, _, h => h
  | e :: es, r, hq, h =>
    Runner.run_induction P Q hstep es _ (fun e' he' => hq e' (List.mem_cons_of_mem e he'))
      (hstep r e (hq e (List.mem_cons_self e es)) h)

end McAttControl
