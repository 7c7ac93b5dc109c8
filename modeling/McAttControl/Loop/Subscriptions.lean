import McAttControl.Loop.Polls

/-!
# What an iteration reads

Since the polls copy each pending message and nothing after them writes the copies
(`Loop.Polls`), the members an iteration computes with are the last messages published on their
topics, however publishes, timeouts and iterations interleave: each subscription of the loop
refines a register that holds the newest message. The same holds for the attitude setpoint,
which only the attitude law polls, and the gains always follow the newest parameter snapshot.

The member of `vehicle_control_mode` is left out: rattitude overrides it. So is the rates
setpoint: `publishRatesSetpoint` overwrites `_v_rates_sp` with the controller's own setpoint.
-/

namespace McAttControl

variable {α σ : Type} [LinearOrderedField α] (lib : Libm α) (C : Collab α σ)

/-! ### The newest message of a topic

The abstract model of a subscription: a register that each publish on the topic overwrites
and that nothing else touches. -/

/-- How one event changes the newest message of the topic whose pending slot is `pending`. -/
def Event.deliver {β : Type} (pending : Bus α → Option β) : Event α → β → β
  | .publish msgs, v => pollCopy (pending msgs) v
  | .timeout, v | .pollError, v | .noData, v | .gyro _ _, v => v

/-- The newest message on the topic after the events `es`, from the newest one `v` before. -/
def lastPublished {β : Type} (pending : Bus α → Option β) (v : β) (es : List (Event α)) : β :=
  es.foldl (fun v e => e.deliver pending v) v

/-- A subscription of the loop, its slot on the bus and the member holding its last copy, such
that an iteration keeps the newest message: the pending one, or else the copy. -/
structure Register (lib : Libm α) (C : Collab α σ) (β : Type) where
  pending : Bus α → Option β
  cached : Ctrl α σ → β
  /-- A newer message replaces the pending one. -/
  pending_merge : ∀ old new : Bus α, pending (old.merge new) = (pending new <|> pending old)
  /-- An iteration neither loses the newest message nor makes up another. -/
  iterate_read : ∀ r now sample,
    pollCopy (pending (iterate lib C r now sample).1.bus) (cached (iterate lib C r now sample).1.ctrl) =
      pollCopy (pending r.bus) (cached r.ctrl)

namespace Register

variable {lib C} {β : Type} (R : Register lib C β)

/-- The newest message a runner holds on the topic. -/
def read (r : Runner α σ) : β := pollCopy (R.pending r.bus) (R.cached r.ctrl)

theorem read_step (r : Runner α σ) (e : Event α) :
    R.read (r.step lib C e).1 = e.deliver R.pending (R.read r) := by
  cases e with
  | publish msgs =>
    show pollCopy (R.pending (r.bus.merge msgs)) (R.cached r.ctrl) =
      pollCopy (R.pending msgs) (pollCopy (R.pending r.bus) (R.cached r.ctrl))
    rw [R.pending_merge]
    cases R.pending msgs <;> rfl
  | timeout => rfl
  | pollError => rfl
  | noData => rfl
  | gyro now sample => exact R.iterate_read r now sample

/-- Over any run, the runner holds the newest message published on the topic. -/
theorem read_run (r : Runner α σ) (es : List (Event α)) :
    R.read (Runner.run lib C r es).1 = lastPublished R.pending (R.read r) es := by
  induction es generalizing r with
  | nil => rfl
  | cons e es ih =>
    show R.read (Runner.run lib C (r.step lib C e).1 es).1 = _
    rw [ih, R.read_step]
    rfl

end Register

/-- A topic polled at the top of every iteration: its slot on the bus, the member its poll
writes, and the laws the loop gives the pair. -/
structure Topic (lib : Libm α) (C : Collab α σ) (β : Type) where
  pending : Bus α → Option β
  cached : Ctrl α σ → β
  pending_merge : ∀ old new : Bus α, pending (old.merge new) = (pending new <|> pending old)
  /-- After an iteration nothing is pending on the topic. -/
  pending_taken : ∀ (b : Bus α) att rates, pending
    { b.afterPolls with vehicleAttitudeSetpoint := att, vehicleRatesSetpoint := rates } = none
  /-- The poll copies the pending message. -/
  cached_poll : ∀ r sample,
    cached (beginIteration lib C r sample) = pollCopy (pending r.bus) (cached r.ctrl)
  /-- The rest of the iteration leaves the member. -/
  cached_kept : ∀ r now sample,
    cached (iterate lib C r now sample).1.ctrl = cached (beginIteration lib C r sample)

namespace Topic

variable {lib C} {β : Type} (T : Topic lib C β)

/-- A polled topic is a register: the poll takes the pending message into the member. -/
def toRegister : Register lib C β where
  pending := T.pending
  cached := T.cached
  pending_merge := T.pending_merge
  iterate_read r now sample := by
    obtain ⟨att, rates, hb⟩ := controlBranch_bus lib C (beginIteration lib C r sample)
      r.bus.afterPolls (clampDt (elapsedSeconds now r.lastRun))
    have hbus : (iterate lib C r now sample).1.bus = _ := hb
    rw [hbus, T.pending_taken, pollCopy_none, T.cached_kept, T.cached_poll]

/-- Every iteration computes with the newest message published on the topic. -/
theorem cached_beginIteration_run (r : Runner α σ) (es : List (Event α)) (sample : SensorGyro α) :
    T.cached (beginIteration lib C (Runner.run lib C r es).1 sample) =
      lastPublished T.pending (T.toRegister.read r) es := by
  rw [T.cached_poll]
  exact T.toRegister.read_run r es

end Topic

/-! ### The polled topics -/

/-- `parameter_update` into `_params`. -/
def paramsTopic : Topic lib C (Params α) where
  pending := Bus.parameterUpdate
  cached := Ctrl.params
  pending_merge _ _ := rfl
  pending_taken _ _ _ := rfl
  cached_poll r sample := (beginIteration_polled lib C r sample).params
  cached_kept r now sample := (iterate_keepsConfig lib C r now sample).params

/-- `vehicle_status` into `_vehicle_status`. -/
def vehicleStatusTopic : Topic lib C VehicleStatus where
  pending := Bus.vehicleStatus
  cached := Ctrl.vehicleStatus
  pending_merge _ _ := rfl
  pending_taken _ _ _ := rfl
  cached_poll r sample := (beginIteration_polled lib C r sample).vehicleStatus
  cached_kept r now sample := (iterate_keepsConfig lib C r now sample).vehicleStatus

/-- `manual_control_setpoint` into `_manual_control_sp`. -/
def manualControlSpTopic : Topic lib C (ManualControlSetpoint α) where
  pending := Bus.manualControlSetpoint
  cached := Ctrl.manualControlSp
  pending_merge _ _ := rfl
  pending_taken _ _ _ := rfl
  cached_poll r sample := (beginIteration_polled lib C r sample).manualControlSp
  cached_kept r now sample := (iterate_keepsInputs lib C r now sample).manualControlSp

/-- `multirotor_motor_limits` into `_saturation_status`. -/
def saturationStatusTopic : Topic lib C SaturationStatus where
  pending := Bus.multirotorMotorLimits
  cached := Ctrl.saturationStatus
  pending_merge _ _ := rfl
  pending_taken _ _ _ := rfl
  cached_poll r sample := (beginIteration_polled lib C r sample).saturationStatus
  cached_kept r now sample := (iterate_keepsInputs lib C r now sample).saturationStatus

/-- `battery_status` into `_battery_status`. -/
def batteryStatusTopic : Topic lib C (BatteryStatus α) where
  pending := Bus.batteryStatus
  cached := Ctrl.batteryStatus
  pending_merge _ _ := rfl
  pending_taken _ _ _ := rfl
  cached_poll r sample := (beginIteration_polled lib C r sample).batteryStatus
  cached_kept r now sample := (iterate_keepsInputs lib C r now sample).batteryStatus

/-- `vehicle_attitude` into `_v_att`. -/
def vAttTopic : Topic lib C (VehicleAttitude α) where
  pending := Bus.vehicleAttitude
  cached := Ctrl.vAtt
  pending_merge _ _ := rfl
  pending_taken _ _ _ := rfl
  cached_poll r sample := (beginIteration_polled lib C r sample).vAtt
  cached_kept r now sample := (iterate_keepsInputs lib C r now sample).vAtt

/-- `sensor_correction` into `_sensor_correction`. -/
def sensorCorrectionTopic : Topic lib C (SensorCorrection α) where
  pending := Bus.sensorCorrection
  cached := Ctrl.sensorCorrection
  pending_merge _ _ := rfl
  pending_taken _ _ _ := rfl
  cached_poll r sample := (beginIteration_polled lib C r sample).sensorCorrection
  cached_kept r now sample := (iterate_keepsInputs lib C r now sample).sensorCorrection

/-- `sensor_bias` into `_sensor_bias`. -/
def sensorBiasTopic : Topic lib C (SensorBias α) where
  pending := Bus.sensorBias
  cached := Ctrl.sensorBias
  pending_merge _ _ := rfl
  pending_taken _ _ _ := rfl
  cached_poll r sample := (beginIteration_polled lib C r sample).sensorBias
  cached_kept r now sample := (iterate_keepsInputs lib C r now sample).sensorBias

/-- Whatever the order of publishes, poll results and gyro wake-ups, every iteration computes
with the newest message published on each polled topic: the one pending or cached at the start
of the run, replaced by each later publish on that topic. -/
theorem iteration_reads_latest_messages (r : Runner α σ) (es : List (Event α))
    (sample : SensorGyro α) :
    let s := beginIteration lib C (Runner.run lib C r es).1 sample
    s.params = lastPublished Bus.parameterUpdate
        (pollCopy r.bus.parameterUpdate r.ctrl.params) es ∧
      s.vehicleStatus = lastPublished Bus.vehicleStatus
        (pollCopy r.bus.vehicleStatus r.ctrl.vehicleStatus) es ∧
      s.manualControlSp = lastPublished Bus.manualControlSetpoint
        (pollCopy r.bus.manualControlSetpoint r.ctrl.manualControlSp) es ∧
      s.saturationStatus = lastPublished Bus.multirotorMotorLimits
        (pollCopy r.bus.multirotorMotorLimits r.ctrl.saturationStatus) es ∧
      s.batteryStatus = lastPublished Bus.batteryStatus
        (pollCopy r.bus.batteryStatus r.ctrl.batteryStatus) es ∧
      s.vAtt = lastPublished Bus.vehicleAttitude (pollCopy r.bus.vehicleAttitude r.ctrl.vAtt) es ∧
      s.sensorCorrection = lastPublished Bus.sensorCorrection
        (pollCopy r.bus.sensorCorrection r.ctrl.sensorCorrection) es ∧
      s.sensorBias = lastPublished Bus.sensorBias (pollCopy r.bus.sensorBias r.ctrl.sensorBias) es :=
  ⟨(paramsTopic lib C).cached_beginIteration_run r es sample,
    (vehicleStatusTopic lib C).cached_beginIteration_run r es sample,
    (manualControlSpTopic lib C).cached_beginIteration_run r es sample,
    (saturationStatusTopic lib C).cached_beginIteration_run r es sample,
    (batteryStatusTopic lib C).cached_beginIteration_run r es sample,
    (vAttTopic lib C).cached_beginIteration_run r es sample,
    (sensorCorrectionTopic lib C).cached_beginIteration_run r es sample,
    (sensorBiasTopic lib C).cached_beginIteration_run r es sample⟩

/-! ### The attitude setpoint

`vehicle_attitude_setpoint` is polled only by `control_attitude` (`:837`), so a message waits on
the bus through the iterations that do not run the attitude law. It is still never lost or
overtaken: the pending message or, if none, `_v_att_sp` is the newest one. -/

section AttitudeSetpoint

variable (s : Ctrl α σ) (b : Bus α) (dt : α) (attSp : Option (VehicleAttitudeSetpoint α))

@[simp] theorem controlAttitude_vAttSp :
    (controlAttitude lib C s attSp dt).vAttSp = pollCopy attSp s.vAttSp := rfl

/-- A strategy that runs takes the setpoint through its `control_attitude` call. -/
theorem udeStrategy_vAttSp (h : udeStrategyRuns s = true) :
    (udeStrategy lib C s attSp dt).vAttSp = pollCopy attSp s.vAttSp := by
  unfold udeStrategy
  split_ifs with h1 h2 h3
  · rfl
  · rfl
  · unfold controlAttitudeMUde mUdeLaw resetMotorEstimate; rfl
  · simp [udeStrategyRuns, h1, h2, h3] at h

theorem udeStrategy_of_not_runs (h : udeStrategyRuns s = false) :
    udeStrategy lib C s attSp dt = s := by
  unfold udeStrategy
  split_ifs with h1 h2 h3 <;> simp_all [udeStrategyRuns]

/-- The UDE path takes the setpoint off the bus exactly when a strategy runs. -/
theorem udeBranch_attSp_read :
    pollCopy (udeBranch lib C s b dt).1.2.vehicleAttitudeSetpoint (udeBranch lib C s b dt).1.1.vAttSp =
      pollCopy b.vehicleAttitudeSetpoint s.vAttSp := by
  have hv : (udeBranch lib C s b dt).1.1.vAttSp =
      (udeStrategy lib C s b.vehicleAttitudeSetpoint dt).vAttSp := by
    refine (publishActuators_keepsControl _).vAttSp.trans ?_
    dsimp only [udeBranch, platformZeroTorque]
    split_ifs <;> rfl
  have hb : (udeBranch lib C s b dt).1.2 =
      if udeStrategyRuns s then { b with vehicleAttitudeSetpoint := none } else b := rfl
  rw [hv, hb]
  cases hr : udeStrategyRuns s
  · rw [udeStrategy_of_not_runs lib C s dt _ hr]; rfl
  · rw [udeStrategy_vAttSp lib C s dt _ hr]; rfl

/-- The rate stage of the PID path leaves the setpoint member. -/
theorem rateStage_vAttSp : (rateStage lib C s dt).1.vAttSp = s.vAttSp := by
  rcases rateStage_cases lib C s dt with ⟨-, h⟩ | ⟨-, h⟩
  · exact h.vAttSp
  · rw [h]

theorem controlBranch_attSp_read :
    pollCopy (controlBranch lib C s b dt).1.2.vehicleAttitudeSetpoint
        (controlBranch lib C s b dt).1.1.vAttSp =
      pollCopy b.vehicleAttitudeSetpoint s.vAttSp := by
  unfold controlBranch; split
  · exact udeBranch_attSp_read lib C s b dt
  · show pollCopy (ratesSetpointStage lib C s b dt).1.2.vehicleAttitudeSetpoint
      (rateStage lib C (ratesSetpointStage lib C s b dt).1.1 dt).1.vAttSp = _
    rw [rateStage_vAttSp]
    unfold ratesSetpointStage; dsimp only
    split
    · rfl
    · split <;> rfl

theorem endIteration_vAttSp (now taskStart : UInt64) (acc : α) (n : Nat) :
    (endIteration C s now taskStart dt acc n).1.1.vAttSp = s.vAttSp := by
  refine (loopRateEstimate_keepsControl C _ dt now taskStart acc n).vAttSp.trans ?_
  show (terminationOverride (publishUde s dt).1).1.vAttSp = s.vAttSp
  unfold terminationOverride; split
  · exact (publishActuators_keepsControl _).vAttSp
  · rfl

end AttitudeSetpoint

/-- `vehicle_attitude_setpoint` into `_v_att_sp`, taken by the attitude law. -/
def vAttSpRegister : Register lib C (VehicleAttitudeSetpoint α) where
  pending := Bus.vehicleAttitudeSetpoint
  cached := Ctrl.vAttSp
  pending_merge _ _ := rfl
  iterate_read r now sample := by
    show pollCopy (controlBranch lib C (beginIteration lib C r sample) r.bus.afterPolls
        (clampDt (elapsedSeconds now r.lastRun))).1.2.vehicleAttitudeSetpoint
      (endIteration C _ now r.taskStart _ r.dtAccumulator r.loopCounter).1.1.vAttSp = _
    rw [endIteration_vAttSp, controlBranch_attSp_read, (beginIteration_polled lib C r sample).vAttSp]
    rfl

/-- An attitude setpoint is never lost or overtaken: however the events interleave, and whichever
iterations skip the attitude law (rate or manual modes, a `switch_ude` that runs no strategy),
the next `control_attitude` call computes with the newest setpoint published, at each of its
three call sites (the PID path, and the strategies after their resets). -/
theorem attitude_law_uses_latest_setpoint (r : Runner α σ) (es : List (Event α))
    (sample : SensorGyro α) (dt : α) :
    let r' := (Runner.run lib C r es).1
    let s₀ := beginIteration lib C r' sample
    let m := lastPublished Bus.vehicleAttitudeSetpoint
      (pollCopy r.bus.vehicleAttitudeSetpoint r.ctrl.vAttSp) es
    (controlAttitude lib C s₀ r'.bus.afterPolls.vehicleAttitudeSetpoint dt).vAttSp = m ∧
      (controlAttitude lib C (resetIntegralUde s₀) r'.bus.afterPolls.vehicleAttitudeSetpoint
        dt).vAttSp = m ∧
      (controlAttitude lib C (resetMotorEstimate s₀) r'.bus.afterPolls.vehicleAttitudeSetpoint
        dt).vAttSp = m := by
  intro r' s₀ m
  have h : pollCopy r'.bus.vehicleAttitudeSetpoint s₀.vAttSp = m := by
    rw [(beginIteration_polled lib C r' sample).vAttSp]
    exact (vAttSpRegister lib C).read_run r es
  have hm : (resetMotorEstimate s₀).vAttSp = s₀.vAttSp := by
    dsimp only [resetMotorEstimate]
  exact ⟨h, h, by rw [controlAttitude_vAttSp, hm]; exact h⟩

/-! ### The gains follow the parameters -/

/-- The precomputed gains are those of the cached parameter snapshot. -/
def GainsCoherent (s : Ctrl α σ) : Prop := s.gains = gainsOf lib C s.params

theorem Polled.gainsCoherent {b : Bus α} {s s' : Ctrl α σ} (hp : Polled lib C b s s')
    (h : GainsCoherent lib C s) : GainsCoherent lib C s' := by
  unfold GainsCoherent
  rw [hp.gains, hp.params]
  cases b.parameterUpdate
  · exact h
  · rfl

theorem gainsCoherent_step (r : Runner α σ) (h : GainsCoherent lib C r.ctrl) (e : Event α) :
    GainsCoherent lib C (r.step lib C e).1.ctrl := by
  cases e with
  | gyro now sample =>
    have hk := iterate_keepsConfig lib C r now sample
    have hb := (beginIteration_polled lib C r sample).gainsCoherent lib C h
    unfold GainsCoherent at hb ⊢
    rw [Runner.step, hk.gains, hk.params]
    exact hb
  | _ => exact h

theorem construct_gainsCoherent (pre : Ctrl α σ) (rate : α) (p : Params α) :
    (construct lib C pre rate p).params = p ∧ GainsCoherent lib C (construct lib C pre rate p) :=
  ⟨rfl, rfl⟩

/-- From construction, the gains of every iteration are those `parameters_updated` computes
from the newest parameter snapshot published (the constructor's own snapshot `p` until the
first update). -/
theorem iteration_gains_from_latest_parameters (pre : Ctrl α σ) (initialUpdateRateHz : α)
    (p : Params α) (b : Bus α) (groupCount maxGyroCount : Nat) (taskStart : UInt64)
    (es : List (Event α)) (sample : SensorGyro α) :
    (beginIteration lib C (Runner.run lib C (Runner.start (construct lib C pre initialUpdateRateHz p)
      b groupCount maxGyroCount taskStart) es).1 sample).gains =
      gainsOf lib C (lastPublished Bus.parameterUpdate (pollCopy b.parameterUpdate p) es) := by
  have hc := construct_gainsCoherent lib C pre initialUpdateRateHz p
  have hrun := Runner.run_induction (fun r => GainsCoherent lib C r.ctrl) (fun _ => True)
    (fun r e _ h => gainsCoherent_step lib C r h e) es
    (Runner.start (construct lib C pre initialUpdateRateHz p) b groupCount maxGyroCount taskStart)
    (fun _ _ => trivial) hc.2
  have hb := (beginIteration_polled lib C _ sample).gainsCoherent lib C hrun
  unfold GainsCoherent at hb
  rw [hb]
  exact congrArg (gainsOf lib C) ((paramsTopic lib C).cached_beginIteration_run _ es sample)

end McAttControl
