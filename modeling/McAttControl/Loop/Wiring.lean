import McAttControl.Loop.Polls

/-!
# Gyro selection and output topics

Two choices of the loop are handles rather than data. `_selected_gyro` indexes
`_sensor_gyro_sub`, which `run()` fills for the instances below `_gyro_count` only
(`src/unnamed/part_000:1253–1261`), and the loop polls and copies that entry (`:1285`, `:1320`);
`sensor_correction_poll` takes a reported instance only when it is below `_gyro_count`
(`:467–469`). `_rates_sp_id` and `_actuators_id` are chosen together by the first vehicle status
(`:403–411`) and name the topics every later publish goes to.

Over every run: the selected gyro is always a subscribed instance; the two output topics are
always those of one airframe (both virtual for a VTOL) and never change once chosen; and until
the first vehicle status nothing is sent to either of them.
-/

namespace McAttControl

variable {α σ : Type} [LinearOrderedField α] (lib : Libm α) (C : Collab α σ)

/-! ### The selected gyro -/

/-- `_gyro_count` is `g` and `_selected_gyro` one of its instances. -/
def GyroSelected (g : Nat) (s : Ctrl α σ) : Prop := s.gyroCount = g ∧ s.selectedGyro < g

theorem Polled.gyroSelected {g : Nat} {b : Bus α} {s s' : Ctrl α σ} (hp : Polled lib C b s s')
    (h : GyroSelected g s) : GyroSelected g s' := by
  refine ⟨hp.gyroCount.trans h.1, ?_⟩
  rw [hp.selectedGyro, ← h.1]
  split_ifs with hlt
  · exact hlt
  · exact h.1 ▸ h.2

theorem gyroSelected_step {g : Nat} (r : Runner α σ) (h : GyroSelected g r.ctrl) (e : Event α) :
    GyroSelected g (r.step lib C e).1.ctrl := by
  cases e with
  | gyro now sample =>
    have hk := iterate_keepsInputs lib C r now sample
    have hb := (beginIteration_polled lib C r sample).gyroSelected lib C h
    rw [Runner.step]
    exact ⟨hk.gyroCount.trans hb.1, hk.selectedGyro ▸ hb.2⟩
  | _ => exact h

/-- From a controller with `_selected_gyro = 0`, the selected gyro is a subscribed instance in
every state the loop reaches, both where `run()` polls and copies the gyro and after the
polls of the next iteration; `_gyro_count` stays what the setup computed. -/
theorem selected_gyro_always_subscribed (c : Ctrl α σ) (hc : c.selectedGyro = 0) (b : Bus α)
    (groupCount maxGyroCount : Nat) (taskStart : UInt64) (es : List (Event α))
    (sample : SensorGyro α) :
    let n := min groupCount maxGyroCount
    let r := (Runner.run lib C (Runner.start c b groupCount maxGyroCount taskStart) es).1
    r.ctrl.gyroCount = (if n = 0 then 1 else n) ∧ r.ctrl.selectedGyro < r.ctrl.gyroCount ∧
      (beginIteration lib C r sample).selectedGyro < r.ctrl.gyroCount := by
  intro n r
  have h0 : GyroSelected (if n = 0 then 1 else n)
      (Runner.start c b groupCount maxGyroCount taskStart).ctrl := by
    refine ⟨rfl, ?_⟩
    show c.selectedGyro < _
    split_ifs <;> omega
  have hr := Runner.run_induction (fun r => GyroSelected (if n = 0 then 1 else n) r.ctrl)
    (fun _ => True) (fun r e _ h => gyroSelected_step lib C r h e) es _ (fun _ _ => trivial) h0
  have hb := (beginIteration_polled lib C r sample).gyroSelected lib C hr
  refine ⟨hr.1, ?_, ?_⟩ <;> rw [hr.1]
  exacts [hr.2, hb.2]

theorem selected_gyro_always_subscribed_default :
    (default : Ctrl ℚ Unit).selectedGyro = 0 ∧
      let r := (Runner.run default default (Runner.start (default : Ctrl ℚ Unit) Bus.empty 2 3 0)
        [.gyro 4000 default]).1
      r.ctrl.gyroCount = 2 ∧ r.ctrl.selectedGyro < r.ctrl.gyroCount ∧
        (beginIteration default default r default).selectedGyro < r.ctrl.gyroCount :=
  ⟨rfl, selected_gyro_always_subscribed default default default rfl Bus.empty 2 3 0
    [.gyro 4000 default] default⟩

/-! ### The output topics -/

/-- The actuator topic `vehicle_status_poll` pairs with each rates setpoint topic. -/
def actuatorsTopicFor : RatesSpTopic → ActuatorsTopic
  | .vehicleRatesSetpoint => .actuatorControls0
  | .mcVirtualRatesSetpoint => .actuatorControlsVirtualMc

/-- Both topics unchosen, or both chosen for the same airframe. -/
def TopicsPaired (s : Ctrl α σ) : Prop := s.actuatorsId = s.ratesSpId.map actuatorsTopicFor

instance (s : Ctrl α σ) : Decidable (TopicsPaired s) :=
  inferInstanceAs (Decidable (_ = _))

theorem Polled.topicsPaired {b : Bus α} {s s' : Ctrl α σ} (hp : Polled lib C b s s')
    (h : TopicsPaired s) : TopicsPaired s' := by
  unfold TopicsPaired
  rw [hp.actuatorsId, hp.ratesSpId]
  split_ifs with hv
  · rfl
  · rfl
  · exact h

/-- The polls never change a chosen rates setpoint topic. -/
theorem Polled.ratesSpId_of_some {b : Bus α} {s s' : Ctrl α σ} (hp : Polled lib C b s s')
    {t : RatesSpTopic} (h : s.ratesSpId = some t) : s'.ratesSpId = some t := by
  rw [hp.ratesSpId, h]
  simp only [Option.isNone_some, Bool.and_false, Bool.false_eq_true, if_false]

/-- The two output topics, once both chosen as `t` and its actuator topic, or both unchosen. -/
def TopicsFixed (t : Option RatesSpTopic) (s : Ctrl α σ) : Prop :=
  TopicsPaired s ∧ ∀ t', t = some t' → s.ratesSpId = some t'

theorem topicsFixed_step {t : Option RatesSpTopic} (r : Runner α σ) (h : TopicsFixed t r.ctrl)
    (e : Event α) : TopicsFixed t (r.step lib C e).1.ctrl := by
  cases e with
  | gyro now sample =>
    have hp := beginIteration_polled lib C r sample
    have hk := iterate_keepsInputs lib C r now sample
    have hc := iterate_keepsConfig lib C r now sample
    rw [Runner.step]
    refine ⟨?_, fun t' ht => hk.ratesSpId.trans (hp.ratesSpId_of_some lib C (h.2 t' ht))⟩
    have hb := hp.topicsPaired lib C h.1
    unfold TopicsPaired at hb ⊢
    rw [hc.actuatorsId, hk.ratesSpId]
    exact hb
  | _ => exact h

/-- Over every run from a controller whose output topics are both unchosen, or chosen for one
airframe, they stay paired (`actuator_controls_0` with `vehicle_rates_setpoint`,
`actuator_controls_virtual_mc` with `mc_virtual_rates_setpoint`), and a chosen pair never
changes. -/
theorem output_topics_paired_and_fixed (r : Runner α σ) (h : TopicsPaired r.ctrl)
    (es : List (Event α)) :
    let s := (Runner.run lib C r es).1.ctrl
    TopicsPaired s ∧ ∀ t, r.ctrl.ratesSpId = some t →
      s.ratesSpId = some t ∧ s.actuatorsId = some (actuatorsTopicFor t) := by
  intro s
  have hrun := Runner.run_induction (fun r' => TopicsFixed r.ctrl.ratesSpId r'.ctrl)
    (fun _ => True) (fun r' e _ h => topicsFixed_step lib C r' h e) es r (fun _ _ => trivial)
    ⟨h, fun _ ht => ht⟩
  refine ⟨hrun.1, fun t ht => ?_⟩
  have hs := hrun.2 t ht
  exact ⟨hs, hrun.1.trans (by rw [hs]; rfl)⟩

/-- A controller told a multicopter status and ticked once has chosen `vehicle_rates_setpoint`
and `actuator_controls_0`; a later run that reports a VTOL status and ticks again keeps both. -/
theorem output_topics_paired_and_fixed_after_vtol :
    let r := (Runner.run default (default : Collab ℚ Unit) (default : Runner ℚ Unit)
      [.publish { Bus.empty with vehicleStatus := some ⟨true, false⟩ }, .gyro 4000 default]).1
    let es : List (Event ℚ) :=
      [.publish { Bus.empty with vehicleStatus := some ⟨true, true⟩ }, .gyro 8000 default]
    r.ctrl.ratesSpId = some .vehicleRatesSetpoint ∧ TopicsPaired r.ctrl ∧
      let s := (Runner.run default default r es).1.ctrl
      TopicsPaired s ∧ ∀ t, r.ctrl.ratesSpId = some t →
        s.ratesSpId = some t ∧ s.actuatorsId = some (actuatorsTopicFor t) := by
  refine ⟨by with_unfolding_all decide, ?h, output_topics_paired_and_fixed default default _ ?h _⟩
  case h => with_unfolding_all decide

/-! ### Nothing before the first vehicle status

`_actuators_0_pub` and `_v_rates_sp_pub` are advertised only once `_actuators_id` or
`_rates_sp_id` is known (`:1411–1417`, `:1435–1440`, `:1460–1465`, `:1510–1516`, `:1568–1574`),
and only `vehicle_status_poll` sets those (`:403–411`). Until a vehicle status arrives the loop
runs its control path but sends nothing to either output topic. -/

/-- Neither output topic chosen and neither handle advertised, as after construction. -/
structure Unwired (s : Ctrl α σ) : Prop where
  ratesSpId : s.ratesSpId = none
  actuatorsId : s.actuatorsId = none
  actuators0Pub : s.actuators0Pub = false
  vRatesSpPub : s.vRatesSpPub = false

/-- Whether a publication goes to one of the topics `vehicle_status_poll` chooses. -/
def Pub.onOutputTopic : Pub α → Bool
  | .actuatorControls _ => true
  | .vehicleRatesSetpoint _ => true
  | _ => false

/-- The publications of a list that go to an output topic, in order. -/
def outputTopicPubs (pubs : List (Pub α)) : List (Pub α) := pubs.filter Pub.onOutputTopic

omit [LinearOrderedField α] in
@[simp] theorem outputTopicPubs_append (ps qs : List (Pub α)) :
    outputTopicPubs (ps ++ qs) = outputTopicPubs ps ++ outputTopicPubs qs :=
  List.filter_append _ _

/-- Whether an event delivers a vehicle status. -/
def Event.carriesVehicleStatus : Event α → Bool
  | .publish msgs => msgs.vehicleStatus.isSome
  | _ => false

theorem mixer_outputTopicPubs (s : Ctrl α σ) (roll pitch yaw throttle : α) :
    outputTopicPubs (mixer s roll pitch yaw throttle).2 = [] := by
  unfold mixer publishOrAdvertise; dsimp only; split <;> rfl

theorem publishUde_outputTopicPubs (s : Ctrl α σ) (dt : α) :
    outputTopicPubs (publishUde s dt).2 = [] := by
  unfold publishUde publishOrAdvertise; dsimp only; split <;> rfl

/-- The topic choices and both advertisement handles are unchanged: every stage but
`vehicle_status_poll` and the two publishes. -/
structure KeepsWiring (s s' : Ctrl α σ) : Prop where
  ratesSpId : s'.ratesSpId = s.ratesSpId
  actuatorsId : s'.actuatorsId = s.actuatorsId
  actuators0Pub : s'.actuators0Pub = s.actuators0Pub
  vRatesSpPub : s'.vRatesSpPub = s.vRatesSpPub

omit [LinearOrderedField α] in
theorem KeepsWiring.trans {s t u : Ctrl α σ} (h : KeepsWiring s t) (h' : KeepsWiring t u) :
    KeepsWiring s u :=
  ⟨h'.1.trans h.1, h'.2.trans h.2, h'.3.trans h.3, h'.4.trans h.4⟩

omit [LinearOrderedField α] in
theorem Unwired.keeps {s s' : Ctrl α σ} (h : Unwired s) (hk : KeepsWiring s s') : Unwired s' :=
  ⟨hk.1.trans h.1, hk.2.trans h.2, hk.3.trans h.3, hk.4.trans h.4⟩

section Keeps

variable (s : Ctrl α σ) (dt : α) (attSp : Option (VehicleAttitudeSetpoint α))

theorem controlAttitude_keepsWiring : KeepsWiring s (controlAttitude lib C s attSp dt) :=
  ⟨rfl, rfl, rfl, rfl⟩

theorem controlAttitudeRates_keepsWiring : KeepsWiring s (controlAttitudeRates lib C s dt) :=
  ⟨rfl, rfl, rfl, rfl⟩

theorem udeStrategy_keepsWiring : KeepsWiring s (udeStrategy lib C s attSp dt) := by
  have hlaws : ∀ s₀ (law : Ctrl α σ → Ctrl α σ), KeepsWiring s s₀ → (∀ t, KeepsWiring t (law t)) →
      KeepsWiring s (law (controlAttitudeRates lib C (controlAttitude lib C s₀ attSp dt) dt)) :=
    fun s₀ _ h hl => ((h.trans (controlAttitude_keepsWiring lib C _ dt attSp)).trans
      (controlAttitudeRates_keepsWiring lib C _ dt)).trans (hl _)
  unfold udeStrategy controlAttitudeUde controlAttitudeCascadeUde controlAttitudeMUde
  split_ifs
  · exact hlaws _ (pdUdeLaw lib · dt) ⟨rfl, rfl, rfl, rfl⟩ fun _ => ⟨rfl, rfl, rfl, rfl⟩
  · exact hlaws _ (cascadeUdeLaw lib · dt) ⟨rfl, rfl, rfl, rfl⟩ fun _ => ⟨rfl, rfl, rfl, rfl⟩
  · exact hlaws _ (mUdeLaw lib C · dt) ⟨rfl, rfl, rfl, rfl⟩ fun _ => ⟨rfl, rfl, rfl, rfl⟩
  · exact ⟨rfl, rfl, rfl, rfl⟩

theorem platformZeroTorque_keepsWiring : KeepsWiring s (platformZeroTorque s) := by
  unfold platformZeroTorque; split_ifs <;> exact ⟨rfl, rfl, rfl, rfl⟩

end Keeps

section Unwired

variable {s : Ctrl α σ} (h : Unwired s) (b : Bus α) (dt : α)
include h

omit [LinearOrderedField α] in
theorem publishActuators_unwired : Unwired (publishActuators s).1 ∧ (publishActuators s).2 = [] := by
  unfold publishActuators; split
  · exact ⟨h, rfl⟩
  · refine ⟨⟨h.1, h.2, ?_, h.4⟩, ?_⟩ <;>
      simp only [h.actuators0Pub, h.actuatorsId, Option.isSome_none] <;> rfl

omit [LinearOrderedField α] in
theorem publishRatesSetpoint_unwired :
    Unwired (publishRatesSetpoint s).1 ∧ (publishRatesSetpoint s).2 = [] := by
  refine ⟨⟨h.1, h.2, h.3, ?_⟩, ?_⟩ <;> unfold publishRatesSetpoint <;>
    simp only [h.vRatesSpPub, h.ratesSpId, Option.isSome_none] <;> rfl

theorem udeBranch_unwired :
    Unwired (udeBranch lib C s b dt).1.1 ∧ outputTopicPubs (udeBranch lib C s b dt).2 = [] := by
  have h₁ : Unwired (platformZeroTorque (udeStrategy lib C s b.vehicleAttitudeSetpoint dt)) :=
    h.keeps ((udeStrategy_keepsWiring lib C s dt _).trans (platformZeroTorque_keepsWiring _))
  unfold udeBranch; dsimp only
  split
  · refine (publishActuators_unwired ?_).imp_right fun hp => ?_
    · exact ⟨h₁.1, h₁.2, h₁.3, h₁.4⟩
    · rw [outputTopicPubs_append, hp]; rfl
  · refine (publishActuators_unwired ?_).imp_right fun hp => ?_
    · exact ⟨h₁.1, h₁.2, h₁.3, h₁.4⟩
    · rw [outputTopicPubs_append, hp, mixer_outputTopicPubs]; rfl

theorem ratesSetpointStage_unwired :
    Unwired (ratesSetpointStage lib C s b dt).1.1 ∧
      outputTopicPubs (ratesSetpointStage lib C s b dt).2 = [] := by
  unfold ratesSetpointStage; dsimp only
  split
  · refine (publishRatesSetpoint_unwired
      (h.keeps (controlAttitude_keepsWiring lib C s dt _))).imp_right fun hp => ?_
    rw [hp]; rfl
  · split
    · refine (publishRatesSetpoint_unwired ?_).imp_right fun hp => ?_
      · exact ⟨h.1, h.2, h.3, h.4⟩
      · rw [hp]; rfl
    · exact ⟨⟨h.1, h.2, h.3, h.4⟩, rfl⟩

theorem rateStage_unwired :
    Unwired (rateStage lib C s dt).1 ∧ outputTopicPubs (rateStage lib C s dt).2 = [] := by
  have hr := h.keeps (controlAttitudeRates_keepsWiring lib C s dt)
  unfold rateStage; dsimp only
  split
  · split_ifs <;> refine (publishActuators_unwired ?_).imp_right fun hp => ?_
    · exact ⟨hr.1, hr.2, hr.3, hr.4⟩
    · rw [outputTopicPubs_append, hp]; rfl
    · exact ⟨hr.1, hr.2, hr.3, hr.4⟩
    · rw [outputTopicPubs_append, hp]; rfl
  · exact ⟨h, rfl⟩

theorem pidBranch_unwired :
    Unwired (pidBranch lib C s b dt).1.1 ∧ outputTopicPubs (pidBranch lib C s b dt).2 = [] := by
  obtain ⟨hr, hr'⟩ := ratesSetpointStage_unwired lib C h b dt
  obtain ⟨hq, hq'⟩ := rateStage_unwired lib C hr dt
  refine ⟨hq, ?_⟩
  change outputTopicPubs ((ratesSetpointStage lib C s b dt).2 ++
    (rateStage lib C (ratesSetpointStage lib C s b dt).1.1 dt).2) = []
  rw [outputTopicPubs_append, hr', hq']; rfl

theorem controlBranch_unwired :
    Unwired (controlBranch lib C s b dt).1.1 ∧ outputTopicPubs (controlBranch lib C s b dt).2 = [] := by
  unfold controlBranch; split
  exacts [udeBranch_unwired lib C h b dt, pidBranch_unwired lib C h b dt]

theorem terminationOverride_unwired :
    Unwired (terminationOverride s).1 ∧ outputTopicPubs (terminationOverride s).2 = [] := by
  unfold terminationOverride; split
  · refine (publishActuators_unwired ?_).imp_right fun hp => ?_
    · exact ⟨h.1, h.2, h.3, h.4⟩
    · rw [hp]; rfl
  · exact ⟨h, rfl⟩

theorem endIteration_unwired (now taskStart : UInt64) (acc : α) (n : Nat) :
    Unwired (endIteration C s now taskStart dt acc n).1.1 ∧
      outputTopicPubs (endIteration C s now taskStart dt acc n).2 = [] := by
  obtain ⟨ht, ht'⟩ := terminationOverride_unwired (⟨h.1, h.2, h.3, h.4⟩ : Unwired (publishUde s dt).1)
  obtain ⟨rate, filters, hl⟩ := loopRateEstimate_fst C (terminationOverride (publishUde s dt).1).1
    dt now taskStart acc n
  refine ⟨?_, ?_⟩
  · show Unwired (loopRateEstimate C _ now taskStart dt acc n).1
    rw [hl]; exact ⟨ht.1, ht.2, ht.3, ht.4⟩
  · show outputTopicPubs ((publishUde s dt).2 ++ (terminationOverride (publishUde s dt).1).2) = []
    rw [outputTopicPubs_append, publishUde_outputTopicPubs, ht']; rfl

end Unwired

/-- With no vehicle status pending, the polls choose no topic and advertise nothing. -/
theorem beginIteration_unwired (r : Runner α σ) (sample : SensorGyro α) (h : Unwired r.ctrl)
    (hb : r.bus.vehicleStatus = none) : Unwired (beginIteration lib C r sample) := by
  have hp := beginIteration_polled lib C r sample
  refine ⟨?_, ?_, hp.actuators0Pub.trans h.3, hp.vRatesSpPub.trans h.4⟩ <;>
    simp only [hp.ratesSpId, hp.actuatorsId, hb, Option.isSome_none, Bool.false_and,
      Bool.false_eq_true, if_false, h.1, h.2]

theorem iterate_unwired (r : Runner α σ) (now : UInt64) (sample : SensorGyro α) (h : Unwired r.ctrl)
    (hb : r.bus.vehicleStatus = none) :
    Unwired (iterate lib C r now sample).1.ctrl ∧ outputTopicPubs (iterate lib C r now sample).2 = [] := by
  set dt : α := clampDt (elapsedSeconds now r.lastRun)
  set br := controlBranch lib C (beginIteration lib C r sample) r.bus.afterPolls dt
  obtain ⟨hbr, hbr'⟩ := controlBranch_unwired lib C (beginIteration_unwired lib C r sample h hb)
    r.bus.afterPolls dt
  obtain ⟨he, he'⟩ := endIteration_unwired C hbr dt now r.taskStart r.dtAccumulator r.loopCounter
  refine ⟨he, ?_⟩
  change outputTopicPubs (br.2 ++
    (endIteration C br.1.1 now r.taskStart dt r.dtAccumulator r.loopCounter).2) = []
  rw [outputTopicPubs_append, hbr', he']; rfl

/-- A step that delivers no vehicle status keeps the controller unwired and the status slot
empty, and sends nothing to an output topic. -/
theorem unwired_step (r : Runner α σ) (h : Unwired r.ctrl) (hb : r.bus.vehicleStatus = none)
    (e : Event α) (he : e.carriesVehicleStatus = false) :
    Unwired (r.step lib C e).1.ctrl ∧ (r.step lib C e).1.bus.vehicleStatus = none ∧
      outputTopicPubs (r.step lib C e).2 = [] := by
  cases e with
  | publish msgs =>
    refine ⟨h, ?_, rfl⟩
    cases hv : msgs.vehicleStatus with
    | none => show (msgs.vehicleStatus <|> r.bus.vehicleStatus) = none; rw [hv, hb]; rfl
    | some v => simp only [Event.carriesVehicleStatus, hv, Option.isSome_some] at he; cases he
  | gyro now sample =>
    obtain ⟨hi, hi'⟩ := iterate_unwired lib C r now sample h hb
    obtain ⟨att, rates, hbus⟩ := controlBranch_bus lib C (beginIteration lib C r sample)
      r.bus.afterPolls (clampDt (elapsedSeconds now r.lastRun))
    refine ⟨hi, ?_, hi'⟩
    show (controlBranch lib C _ r.bus.afterPolls _).1.2.vehicleStatus = none
    rw [hbus]; rfl
  | _ => exact ⟨h, hb, rfl⟩

/-- Until a vehicle status arrives, nothing goes to an output topic: from a controller with
neither topic chosen nor handle advertised and no status pending, a run whose events carry no
vehicle status publishes no `actuator_controls` and no rates setpoint, on either control path
or on flight termination, and ends in that state. -/
theorem no_output_before_vehicle_status (r : Runner α σ) (h : Unwired r.ctrl)
    (hb : r.bus.vehicleStatus = none) (es : List (Event α))
    (hes : ∀ e ∈ es, e.carriesVehicleStatus = false) :
    Unwired (Runner.run lib C r es).1.ctrl ∧ outputTopicPubs (Runner.run lib C r es).2 = [] := by
  induction es generalizing r with
  | nil => exact ⟨h, rfl⟩
  | cons e es ih =>
    obtain ⟨h', hb', he⟩ := unwired_step lib C r h hb e (hes e (List.mem_cons_self e es))
    obtain ⟨hr, hr'⟩ := ih _ h' hb' fun e' he' => hes e' (List.mem_cons_of_mem e he')
    refine ⟨hr, ?_⟩
    change outputTopicPubs ((r.step lib C e).2 ++ (Runner.run lib C (r.step lib C e).1 es).2) = []
    rw [outputTopicPubs_append, he, hr']; rfl

/-- A controller running rate control, with no vehicle status yet, ticks twice and sends nothing
on either output topic, whereas the same events from a controller whose actuator topic is chosen
send a command on each tick. -/
theorem no_output_before_vehicle_status_rate_control :
    let es : List (Event ℚ) := [.publish { Bus.empty with
        vehicleControlMode := some { (default : VehicleControlMode) with
          flagControlRatesEnabled := true } },
      .gyro 4000 default, .gyro 8000 default]
    (outputTopicPubs (Runner.run default (default : Collab ℚ Unit) { (default : Runner ℚ Unit) with
      ctrl := { (default : Ctrl ℚ Unit) with actuatorsId := some .actuatorControls0 } } es).2).length
        = 2 ∧
      (Unwired (default : Runner ℚ Unit).ctrl ∧ (default : Runner ℚ Unit).bus.vehicleStatus = none ∧
        ∀ e ∈ es, e.carriesVehicleStatus = false) ∧
      Unwired (Runner.run default default (default : Runner ℚ Unit) es).1.ctrl ∧
        outputTopicPubs (Runner.run default default (default : Runner ℚ Unit) es).2 = [] := by
  refine ⟨by with_unfolding_all decide, ⟨?h, rfl, ?hes⟩,
    no_output_before_vehicle_status default default default ?h rfl _ ?hes⟩
  case h => exact ⟨rfl, rfl, rfl, rfl⟩
  case hes => decide

end McAttControl
