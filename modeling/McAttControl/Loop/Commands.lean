import McAttControl.Loop.Termination
import McAttControl.Loop.Wiring

/-!
# The actuator commands of whole runs

What every `actuator_controls` message of a run carries, whatever the order of events.

* `_actuators_0_circuit_breaker_enabled`, set from `CBRK_RATE_CTRL` by `parameters_updated`
  (`src/unnamed/part_000:313`), guards all three `actuator_controls` publishes (`:1410`,
  `:1509`, `:1567`). While every parameter snapshot sets it, no run publishes a command.
* Otherwise an iteration whose actuator topic is known sends one command from its control path,
  when that path publishes, and one more on flight termination.
* The loop writes `control[0..3]` and `control[7]` of `_actuators` and nothing else (`:1369–1406`,
  `:1488–1505`, `:1560–1563`): the auxiliary channels `4..6` of every command keep the values
  the controller started with.
-/

namespace McAttControl

variable {α σ : Type} [LinearOrderedField α] (lib : Libm α) (C : Collab α σ)

/-- Over a run whose steps keep `P` and publish only commands satisfying `O`, `P` holds at the
end and every command of the run satisfies `O`. -/
theorem run_commands (P : Runner α σ → Prop) (Q : Event α → Prop) (O : ActuatorControls α → Prop)
    (hstep : ∀ r e, Q e → P r →
      P (r.step lib C e).1 ∧ ∀ a ∈ actuatorCommands (r.step lib C e).2, O a) :
    ∀ (es : List (Event α)) (r : Runner α σ), (∀ e ∈ es, Q e) → P r →
      P (Runner.run lib C r es).1 ∧ ∀ a ∈ actuatorCommands (Runner.run lib C r es).2, O a
  | [], _, _, h => ⟨h, fun a ha => absurd ha (List.not_mem_nil a)⟩
  | e :: es, r, hq, h => by
    obtain ⟨h', hc⟩ := hstep r e (hq e (List.mem_cons_self e es)) h
    obtain ⟨hr, hrc⟩ := run_commands P Q O hstep es _
      (fun e' he' => hq e' (List.mem_cons_of_mem e he')) h'
    refine ⟨hr, fun a ha => ?_⟩
    change a ∈ actuatorCommands ((r.step lib C e).2 ++ (Runner.run lib C (r.step lib C e).1 es).2)
      at ha
    rw [actuatorCommands_append, List.mem_append] at ha
    exact ha.elim (hc a) (hrc a)

/-! ### The rate-control circuit breaker -/

section Breaker

variable (s : Ctrl α σ)

omit [LinearOrderedField α] in
theorem publishActuators_snd_of_breaker (h : s.gains.actuators0CircuitBreakerEnabled = true) :
    (publishActuators s).2 = [] := by
  unfold publishActuators; rw [if_pos h]

theorem terminationOverride_no_command_of_breaker
    (h : s.gains.actuators0CircuitBreakerEnabled = true) :
    actuatorCommands (terminationOverride s).2 = [] := by
  unfold terminationOverride; split
  · exact congrArg actuatorCommands (publishActuators_snd_of_breaker _ (by exact h))
  · rfl

/-- An iteration whose gains, after the polls, have the breaker set publishes no command: the
control path's end state would not send, and flight termination does not send either. -/
theorem iterate_no_command_of_breaker (r : Runner α σ) (now : UInt64) (sample : SensorGyro α)
    (h : (beginIteration lib C r sample).gains.actuators0CircuitBreakerEnabled = true) :
    actuatorCommands (iterate lib C r now sample).2 = [] := by
  set dt : α := clampDt (elapsedSeconds now r.lastRun)
  set br := controlBranch lib C (beginIteration lib C r sample) r.bus.afterPolls dt
  have hg : br.1.1.gains = (beginIteration lib C r sample).gains :=
    (controlBranch_keepsConfig lib C _ r.bus.afterPolls dt).gains
  have hbr : actuatorCommands br.2 = [] := by
    by_contra hne
    have hoff : publishesActuators br.1.1 = false := by
      simp only [publishesActuators, hg, h, Bool.not_true, Bool.false_and]
    exact Bool.false_ne_true
      (hoff.symm.trans (controlBranch_commandsLast lib C _ r.bus.afterPolls dt hne))
  show actuatorCommands (br.2 ++ ((publishUde br.1.1 dt).2 ++
    (terminationOverride (publishUde br.1.1 dt).1).2)) = []
  rw [actuatorCommands_append, actuatorCommands_append, hbr, publishUde_no_command,
    terminationOverride_no_command_of_breaker (publishUde br.1.1 dt).1
      ((congrArg Gains.actuators0CircuitBreakerEnabled hg).trans h)]
  rfl

end Breaker

/-- Every parameter snapshot an event publishes satisfies `c`. -/
def Event.publishesParams (c : Params α → Prop) : Event α → Prop
  | .publish msgs => ∀ q, msgs.parameterUpdate = some q → c q
  | _ => True

/-- The breaker is set in the gains, and in any pending parameter snapshot. -/
def BreakerSet (r : Runner α σ) : Prop :=
  r.ctrl.gains.actuators0CircuitBreakerEnabled = true ∧
    ∀ q, r.bus.parameterUpdate = some q → q.cbrkRateCtrl = true

theorem breakerSet_step (r : Runner α σ) (h : BreakerSet r) (e : Event α)
    (he : e.publishesParams (fun q => q.cbrkRateCtrl = true)) :
    BreakerSet (r.step lib C e).1 ∧ actuatorCommands (r.step lib C e).2 = [] := by
  cases e with
  | publish msgs =>
    refine ⟨⟨h.1, fun q hq => ?_⟩, rfl⟩
    cases hm : msgs.parameterUpdate with
    | none =>
      simp only [Runner.step, Bus.merge, hm, Option.none_orElse] at hq
      exact h.2 q hq
    | some q' =>
      simp only [Runner.step, Bus.merge, hm, Option.some_orElse, Option.some.injEq] at hq
      exact hq ▸ he q' hm
  | timeout => exact ⟨h, rfl⟩
  | pollError => exact ⟨h, rfl⟩
  | noData => exact ⟨h, rfl⟩
  | gyro now sample =>
    have hb : (beginIteration lib C r sample).gains.actuators0CircuitBreakerEnabled = true := by
      rw [(beginIteration_polled lib C r sample).gains]
      cases hp : r.bus.parameterUpdate with
      | none => exact h.1
      | some q => exact h.2 q hp
    refine ⟨⟨(iterate_keepsConfig lib C r now sample).gains ▸ hb, fun q hq => ?_⟩,
      iterate_no_command_of_breaker lib C r now sample hb⟩
    obtain ⟨att, rates, hbus⟩ := controlBranch_bus lib C (beginIteration lib C r sample)
      r.bus.afterPolls (clampDt (elapsedSeconds now r.lastRun))
    rw [Runner.step, iterate] at hq
    simp only [hbus] at hq
    exact nomatch hq

/-- With `CBRK_RATE_CTRL` set in the constructor's parameter snapshot, in any snapshot pending
at the start and in every one published during the run, no run publishes an
`actuator_controls` message, on either control path or on flight termination. -/
theorem breaker_run_publishes_no_command (pre : Ctrl α σ) (initialUpdateRateHz : α)
    (p : Params α) (b : Bus α) (groupCount maxGyroCount : Nat) (taskStart : UInt64)
    (es : List (Event α)) (hp : p.cbrkRateCtrl = true)
    (hb : ∀ q, b.parameterUpdate = some q → q.cbrkRateCtrl = true)
    (hes : ∀ e ∈ es, e.publishesParams (fun q => q.cbrkRateCtrl = true)) :
    actuatorCommands (Runner.run lib C (Runner.start (construct lib C pre initialUpdateRateHz p) b
      groupCount maxGyroCount taskStart) es).2 = [] := by
  refine List.eq_nil_iff_forall_not_mem.mpr (run_commands lib C BreakerSet _ (fun _ => False)
    (fun r e he h => ?_) es _ hes ⟨hp, hb⟩).2
  obtain ⟨h', hc⟩ := breakerSet_step lib C r h e he
  exact ⟨h', fun a ha => absurd (hc ▸ ha) (List.not_mem_nil a)⟩

/-- A controller wired by a multicopter status and running rate control, with a snapshot that
sets the breaker published between two ticks: built without the breaker it sends one command, on
the first tick; built with it, none. -/
theorem breaker_run_publishes_no_command_wired :
    let p : Params ℚ := { (default : Params ℚ) with cbrkRateCtrl := true }
    let es : List (Event ℚ) := [.publish { Bus.empty with
        vehicleControlMode := some { (default : VehicleControlMode) with
          flagControlRatesEnabled := true }
        vehicleStatus := some ⟨true, false⟩ },
      .gyro 4000 default, .publish { Bus.empty with parameterUpdate := p }, .gyro 8000 default]
    (actuatorCommands (Runner.run default (default : Collab ℚ Unit)
        (Runner.start (construct default default default 250 default) Bus.empty 1 1 0) es).2).length
        = 1 ∧
      (p.cbrkRateCtrl = true ∧ (∀ q, (Bus.empty : Bus ℚ).parameterUpdate = some q →
        q.cbrkRateCtrl = true) ∧ ∀ e ∈ es, e.publishesParams (fun q => q.cbrkRateCtrl = true)) ∧
      actuatorCommands (Runner.run default (default : Collab ℚ Unit)
        (Runner.start (construct default default default 250 p) Bus.empty 1 1 0) es).2 = [] := by
  refine ⟨by with_unfolding_all decide, ⟨rfl, (fun _ h => nomatch h), ?hes⟩,
    breaker_run_publishes_no_command default default default 250 _ Bus.empty 1 1 0 _ rfl
      (fun _ h => nomatch h) ?hes⟩
  case hes =>
    simp only [List.mem_cons, List.mem_singleton, List.not_mem_nil, or_false]
    rintro e (rfl | rfl | rfl | rfl) <;> first | trivial | (rintro q ⟨⟩ <;> rfl)

/-! ### How many commands an iteration sends -/

section Count

omit [LinearOrderedField α] in
/-- Whether commands go out depends only on the breaker, the handle and the topic. -/
theorem publishesActuators_congr {s s' : Ctrl α σ} (hc : KeepsConfig s s')
    (hp : s'.actuators0Pub = s.actuators0Pub) : publishesActuators s' = publishesActuators s := by
  unfold publishesActuators; rw [hc.gains, hc.actuatorsId, hp]

omit [LinearOrderedField α] in
/-- `publishActuators` never changes whether a later call sends. -/
theorem publishesActuators_publishActuators_eq (s : Ctrl α σ) :
    publishesActuators (publishActuators s).1 = publishesActuators s := by
  cases h : publishesActuators s
  · have hp := publishActuators_actuators0Pub s
    rw [h, Bool.or_false] at hp
    rw [← h]
    exact publishesActuators_congr (publishActuators_keepsControl s).toKeepsIntegrators.toKeepsConfig hp
  · exact publishesActuators_publishActuators s h

omit [LinearOrderedField α] in
/-- A publish whose controller has the breaker, handle and topic of `s₀` sends one command
exactly when `s₀` would. -/
theorem publishActuators_count {s₀ s : Ctrl α σ} (hc : KeepsConfig s₀ s)
    (hp : s.actuators0Pub = s₀.actuators0Pub) :
    (actuatorCommands (publishActuators s).2).length = (publishesActuators s₀).toNat ∧
      publishesActuators (publishActuators s).1 = publishesActuators s₀ := by
  rw [actuatorCommands_publishActuators, publishesActuators_publishActuators_eq,
    publishesActuators_congr hc hp]
  exact ⟨by cases publishesActuators s₀ <;> rfl, rfl⟩

omit [LinearOrderedField α] in
@[simp] theorem actuatorCommands_rateCtrlStatus (m : RateCtrlStatus α) :
    actuatorCommands [Pub.rateCtrlStatus m] = [] := rfl

variable (s : Ctrl α σ) (b : Bus α) (dt : α)

/-- The rate setpoint stage sends no command. -/
theorem ratesSetpointStage_no_command : actuatorCommands (ratesSetpointStage lib C s b dt).2 = [] := by
  unfold ratesSetpointStage; dsimp only
  split
  · exact publishRatesSetpoint_no_command _
  · split
    · exact publishRatesSetpoint_no_command _
    · rfl

/-- The commands of the PID path are those of its rate stage. -/
theorem pidBranch_commands :
    actuatorCommands (pidBranch lib C s b dt).2 =
      actuatorCommands (rateStage lib C (ratesSetpointStage lib C s b dt).1.1 dt).2 := by
  change actuatorCommands ((ratesSetpointStage lib C s b dt).2 ++
    (rateStage lib C (ratesSetpointStage lib C s b dt).1.1 dt).2) = _
  rw [actuatorCommands_append, ratesSetpointStage_no_command lib C s b dt, List.nil_append]

theorem udeBranch_count :
    (actuatorCommands (udeBranch lib C s b dt).2).length = (publishesActuators s).toNat ∧
      publishesActuators (udeBranch lib C s b dt).1.1 = publishesActuators s := by
  have hc : KeepsConfig s (platformZeroTorque (udeStrategy lib C s b.vehicleAttitudeSetpoint dt)) :=
    (udeStrategy_keepsConfig lib C s dt _).trans
      (platformZeroTorque_keepsControl _).toKeepsIntegrators.toKeepsConfig
  have hp := ((udeStrategy_keepsWiring lib C s dt b.vehicleAttitudeSetpoint).trans
    (platformZeroTorque_keepsWiring _)).actuators0Pub
  unfold udeBranch; dsimp only
  split <;>
    simp only [actuatorCommands_append, actuatorCommands_nil, mixer_no_command, List.nil_append] <;>
    apply publishActuators_count
  all_goals first | exact hc.trans ⟨rfl, rfl, rfl, rfl, rfl, rfl⟩ | exact hp

theorem pidBranch_count :
    (actuatorCommands (pidBranch lib C s b dt).2).length =
        (publishesActuators s && s.vControlMode.flagControlRatesEnabled).toNat ∧
      publishesActuators (pidBranch lib C s b dt).1.1 = publishesActuators s := by
  set r := (ratesSetpointStage lib C s b dt).1.1
  have hc : KeepsConfig s r := ratesSetpointStage_keepsConfig lib C s b dt
  have hp : r.actuators0Pub = s.actuators0Pub := by
    show (ratesSetpointStage lib C s b dt).1.1.actuators0Pub = _
    unfold ratesSetpointStage; dsimp only
    split
    · exact (controlAttitude_keepsWiring lib C s dt b.vehicleAttitudeSetpoint).actuators0Pub
    · split <;> rfl
  rw [pidBranch_commands, ← hc.vControlMode]
  show (actuatorCommands (rateStage lib C r dt).2).length = _ ∧
    publishesActuators (rateStage lib C r dt).1 = _
  unfold rateStage; dsimp only
  split
  · rename_i hf
    have hc' := hc.trans (controlAttitudeRates_keepsConfig lib C r dt)
    rw [hf, Bool.and_true]
    split_ifs <;>
      simp only [actuatorCommands_append, actuatorCommands_rateCtrlStatus, List.append_nil] <;>
      apply publishActuators_count
    all_goals first | exact hc'.trans ⟨rfl, rfl, rfl, rfl, rfl, rfl⟩ | exact hp
  · rename_i hf
    rw [Bool.eq_false_iff.mpr hf, Bool.and_false]
    exact ⟨rfl, publishesActuators_congr hc hp⟩

theorem terminationOverride_count :
    (actuatorCommands (terminationOverride s).2).length =
      (terminationActive s && publishesActuators s).toNat := by
  unfold terminationOverride; split
  · rename_i ht
    rw [ht, Bool.true_and]
    exact (publishActuators_count ⟨rfl, rfl, rfl, rfl, rfl, rfl⟩ rfl).1
  · rename_i ht
    rw [Bool.eq_false_iff.mpr ht, Bool.false_and]; rfl

theorem controlBranch_count :
    (actuatorCommands (controlBranch lib C s b dt).2).length = (publishesActuators s &&
        (decide (s.gains.switchUde ≠ 0) || s.vControlMode.flagControlRatesEnabled)).toNat ∧
      publishesActuators (controlBranch lib C s b dt).1.1 = publishesActuators s := by
  unfold controlBranch; split
  · rename_i hu
    rw [decide_eq_true hu, Bool.true_or, Bool.and_true]
    exact udeBranch_count lib C s b dt
  · rename_i hu
    rw [decide_eq_false hu, Bool.false_or]
    exact pidBranch_count lib C s b dt

end Count

/-- How many `actuator_controls` messages an iteration publishes: none when, after the polls,
the breaker is set or neither the handle nor the actuator topic exists; otherwise one from the
control path when it publishes (a UDE strategy is selected, or rate control is enabled) and one
more on flight termination. -/
theorem iteration_command_count (r : Runner α σ) (now : UInt64) (sample : SensorGyro α) :
    let s₀ := beginIteration lib C r sample
    (actuatorCommands (iterate lib C r now sample).2).length =
      if publishesActuators s₀ then
        (if s₀.gains.switchUde ≠ 0 ∨ s₀.vControlMode.flagControlRatesEnabled = true then 1 else 0) +
          (if terminationActive s₀ then 1 else 0)
      else 0 := by
  intro s₀
  set dt : α := clampDt (elapsedSeconds now r.lastRun)
  set br := controlBranch lib C s₀ r.bus.afterPolls dt
  set u := (publishUde br.1.1 dt).1
  have hc : KeepsConfig s₀ u := (controlBranch_keepsConfig lib C s₀ _ dt).trans
    (publishUde_keepsControl _ dt).toKeepsIntegrators.toKeepsConfig
  have hbr := controlBranch_count lib C s₀ r.bus.afterPolls dt
  have hu : publishesActuators u = publishesActuators s₀ :=
    (publishesActuators_congr (publishUde_keepsControl _ dt).toKeepsIntegrators.toKeepsConfig
      rfl).trans hbr.2
  have ht : terminationActive u = terminationActive s₀ := by
    unfold terminationActive; rw [hc.vControlMode, hc.vehicleStatus]
  change (actuatorCommands (br.2 ++ ((publishUde br.1.1 dt).2 ++
    (terminationOverride u).2))).length = _
  rw [actuatorCommands_append, actuatorCommands_append, publishUde_no_command, List.nil_append,
    List.length_append, hbr.1, terminationOverride_count, hu, ht]
  cases publishesActuators s₀ <;> cases terminationActive s₀ <;> simp [Bool.toNat]

/-! ### The auxiliary channels -/

/-- `control[4..6]` are those of `v`. -/
def AuxAs (v : Fin 8 → α) (a : ActuatorControls α) : Prop :=
  ∀ i : Fin 8, 4 ≤ i.val → i.val < 7 → a.control i = v i

section Aux

variable {v : Fin 8 → α}

omit [LinearOrderedField α] in
theorem AuxAs.setMain {a : ActuatorControls α} (h : AuxAs v a) (c : Fin 4 → α) :
    AuxAs v (a.setMain c) := fun i h4 h7 => by
  show (if hi : i.val < 4 then c ⟨i.val, hi⟩ else a.control i) = v i
  rw [dif_neg (by omega)]
  exact h i h4 h7

theorem AuxAs.finishActuators {a : ActuatorControls α} (h : AuxAs v a) (s : Ctrl α σ) :
    AuxAs v (finishActuators s a) := fun i h4 h7 => by
  have h7' : i ≠ 7 := fun he => by subst he; exact absurd h7 (by decide)
  have h4' : ¬ i.val < 4 := by omega
  unfold McAttControl.finishActuators
  split_ifs <;>
    simp only [ActuatorControls.scaleMain, h4', if_false, Function.update_noteq h7', h i h4 h7]

omit [LinearOrderedField α] in
/-- `publishActuators` keeps the channels and sends the controls it holds. -/
theorem AuxAs.publishActuators {s : Ctrl α σ} (h : AuxAs v s.actuators) :
    AuxAs v (publishActuators s).1.actuators ∧
      ∀ a ∈ actuatorCommands (publishActuators s).2, AuxAs v a := by
  obtain ⟨pub, he⟩ := publishActuators_fst s
  refine ⟨by rw [he]; exact h, fun a ha => ?_⟩
  rw [actuatorCommands_publishActuators, List.mem_ite_nil_right, List.mem_singleton] at ha
  exact ha.2 ▸ h

variable (s : Ctrl α σ) (b : Bus α) (dt : α) (attSp : Option (VehicleAttitudeSetpoint α))

theorem udeBranch_auxAs (h : AuxAs v s.actuators) :
    AuxAs v (udeBranch lib C s b dt).1.1.actuators ∧
      ∀ a ∈ actuatorCommands (udeBranch lib C s b dt).2, AuxAs v a := by
  have h₁ : AuxAs v (platformZeroTorque (udeStrategy lib C s b.vehicleAttitudeSetpoint dt)).actuators := by
    unfold platformZeroTorque
    split_ifs <;> exact (udeStrategy_keepsOutputs lib C s dt _).actuators.symm ▸ h
  unfold udeBranch; dsimp only
  split
  · refine ⟨(AuxAs.publishActuators ((h₁.setMain _).finishActuators _)).1, ?_⟩
    rw [actuatorCommands_append, actuatorCommands_nil, List.nil_append]
    exact (AuxAs.publishActuators ((h₁.setMain _).finishActuators _)).2
  · refine ⟨(AuxAs.publishActuators ((h₁.setMain _).finishActuators _)).1, ?_⟩
    rw [actuatorCommands_append, mixer_no_command, List.nil_append]
    exact (AuxAs.publishActuators ((h₁.setMain _).finishActuators _)).2

theorem rateStage_auxAs (h : AuxAs v s.actuators) :
    AuxAs v (rateStage lib C s dt).1.actuators ∧
      ∀ a ∈ actuatorCommands (rateStage lib C s dt).2, AuxAs v a := by
  unfold rateStage; dsimp only
  split
  · split_ifs <;>
      refine ⟨(AuxAs.publishActuators ((h.setMain _).finishActuators _)).1, fun a ha => ?_⟩ <;>
      rw [actuatorCommands_append, List.mem_append] at ha <;>
      rcases ha with ha | ha
    all_goals first
      | exact (AuxAs.publishActuators ((h.setMain _).finishActuators _)).2 a ha
      | exact absurd ha (List.not_mem_nil a)
  · exact ⟨h, fun a ha => absurd ha (List.not_mem_nil a)⟩

theorem pidBranch_auxAs (h : AuxAs v s.actuators) :
    AuxAs v (pidBranch lib C s b dt).1.1.actuators ∧
      ∀ a ∈ actuatorCommands (pidBranch lib C s b dt).2, AuxAs v a := by
  have hq := rateStage_auxAs lib C (ratesSetpointStage lib C s b dt).1.1 dt
    ((ratesSetpointStage_keepsOutputs lib C s b dt).actuators ▸ h)
  rw [pidBranch_commands]
  exact hq

end Aux

/-- An iteration writes at most `control[0..3]` and `control[7]`, and sends the controls it
holds. -/
theorem iterate_auxAs {v : Fin 8 → α} (r : Runner α σ) (now : UInt64) (sample : SensorGyro α)
    (h : AuxAs v r.ctrl.actuators) :
    AuxAs v (iterate lib C r now sample).1.ctrl.actuators ∧
      ∀ a ∈ actuatorCommands (iterate lib C r now sample).2, AuxAs v a := by
  set s₀ := beginIteration lib C r sample
  set dt : α := clampDt (elapsedSeconds now r.lastRun)
  set br := controlBranch lib C s₀ r.bus.afterPolls dt
  have h₀ : AuxAs v s₀.actuators := by
    obtain ⟨m, hm⟩ := rattitudeOverride_eq (pollTopics lib C { r.ctrl with sensorGyro := sample } r.bus)
    have hpoll : (pollTopics lib C { r.ctrl with sensorGyro := sample } r.bus).actuators =
        r.ctrl.actuators := by
      unfold pollTopics
      cases r.bus.parameterUpdate <;>
        simp only [parameterUpdatePoll, parametersUpdated, vehicleControlModePoll, vehicleManualPoll,
          vehicleStatusPoll, vehicleMotorLimitsPoll, batteryStatusPoll, vehicleAttitudePoll,
          sensorCorrectionPoll, sensorBiasPoll]
    show AuxAs v (rattitudeOverride _).actuators
    rw [hm]
    exact hpoll ▸ h
  have hbr : AuxAs v br.1.1.actuators ∧ ∀ a ∈ actuatorCommands br.2, AuxAs v a := by
    show AuxAs v (controlBranch lib C s₀ r.bus.afterPolls dt).1.1.actuators ∧
      ∀ a ∈ actuatorCommands (controlBranch lib C s₀ r.bus.afterPolls dt).2, AuxAs v a
    unfold controlBranch; split
    · exact udeBranch_auxAs lib C s₀ r.bus.afterPolls dt h₀
    · exact pidBranch_auxAs lib C s₀ r.bus.afterPolls dt h₀
  have hterm : AuxAs v (terminationOverride (publishUde br.1.1 dt).1).1.actuators ∧
      ∀ a ∈ actuatorCommands (terminationOverride (publishUde br.1.1 dt).1).2, AuxAs v a := by
    unfold terminationOverride; split
    · exact AuxAs.publishActuators (hbr.1.setMain 0)
    · exact ⟨hbr.1, fun a ha => absurd ha (List.not_mem_nil a)⟩
  obtain ⟨rate, filters, hl⟩ := loopRateEstimate_fst C (terminationOverride (publishUde br.1.1 dt).1).1
    dt now r.taskStart r.dtAccumulator r.loopCounter
  refine ⟨?_, fun a ha => ?_⟩
  · show AuxAs v (loopRateEstimate C _ now r.taskStart dt r.dtAccumulator r.loopCounter).1.actuators
    rw [hl]
    exact hterm.1
  · change a ∈ actuatorCommands (br.2 ++ ((publishUde br.1.1 dt).2 ++
      (terminationOverride (publishUde br.1.1 dt).1).2)) at ha
    rw [actuatorCommands_append, actuatorCommands_append, publishUde_no_command, List.nil_append,
      List.mem_append] at ha
    exact ha.elim (hbr.2 a) (hterm.2 a)

/-- The loop never drives the auxiliary channels: over every run, `control[4..6]` of
`_actuators` keep the values the controller started with, and so does every `actuator_controls`
message the run publishes, on either path and on flight termination. -/
theorem aux_channels_never_driven (r : Runner α σ) (es : List (Event α)) :
    AuxAs r.ctrl.actuators.control (Runner.run lib C r es).1.ctrl.actuators ∧
      ∀ a ∈ actuatorCommands (Runner.run lib C r es).2, AuxAs r.ctrl.actuators.control a := by
  refine run_commands lib C (fun r' => AuxAs r.ctrl.actuators.control r'.ctrl.actuators)
    (fun _ => True) _ (fun r' e _ h => ?_) es r (fun _ _ => trivial) (fun _ _ _ => rfl)
  cases e with
  | gyro now sample => exact iterate_auxAs lib C r' now sample h
  | _ => exact ⟨h, fun a ha => absurd ha (List.not_mem_nil a)⟩

end McAttControl
