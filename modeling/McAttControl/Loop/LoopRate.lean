import McAttControl.Loop.Frame

/-!
# The loop-rate estimate of `run()`

While disarmed or in the first `3.3 s`, `run()` adds the clamped `dt` to `dt_accumulator` and counts
the iteration; past one second it averages `loop_counter / dt_accumulator` into
`_loop_update_rate_hz` and re-tunes the three D-term filters at the result
(`src/unnamed/part_000:1579–1593`). Every `dt` is clamped to `[0.0002, 0.02]` (`:1305–1315`), so
between iterations the accumulator lies within `0.0002` and `0.02` times the counter, every
measured rate lies in `[50, 5000]`, and so does every average of two such rates. No other stage
writes `_loop_update_rate_hz`: the frame lemmas below say so stage by stage, as `Loop.Frame` does
for the configuration.
-/

namespace McAttControl

variable {α σ : Type} [LinearOrderedField α]

/-! ### Only the estimate writes the rate -/

section Frame

variable (lib : Libm α) (C : Collab α σ) (s : Ctrl α σ) (b : Bus α) (dt : α)
  (attSp : Option (VehicleAttitudeSetpoint α))

@[simp] theorem controlAttitude_loopUpdateRateHz :
    (controlAttitude lib C s attSp dt).loopUpdateRateHz = s.loopUpdateRateHz := rfl

@[simp] theorem controlAttitudeRates_loopUpdateRateHz :
    (controlAttitudeRates lib C s dt).loopUpdateRateHz = s.loopUpdateRateHz := rfl

@[simp] theorem pdUdeLaw_loopUpdateRateHz :
    (pdUdeLaw lib s dt).loopUpdateRateHz = s.loopUpdateRateHz := rfl

@[simp] theorem cascadeUdeLaw_loopUpdateRateHz :
    (cascadeUdeLaw lib s dt).loopUpdateRateHz = s.loopUpdateRateHz := rfl

@[simp] theorem mUdeLaw_loopUpdateRateHz :
    (mUdeLaw lib C s dt).loopUpdateRateHz = s.loopUpdateRateHz := rfl

@[simp] theorem resetIntegralUde_loopUpdateRateHz :
    (resetIntegralUde s).loopUpdateRateHz = s.loopUpdateRateHz := rfl

@[simp] theorem resetMotorEstimate_loopUpdateRateHz :
    (resetMotorEstimate s).loopUpdateRateHz = s.loopUpdateRateHz := rfl

theorem udeStrategy_loopUpdateRateHz :
    (udeStrategy lib C s attSp dt).loopUpdateRateHz = s.loopUpdateRateHz := by
  unfold udeStrategy controlAttitudeUde controlAttitudeCascadeUde controlAttitudeMUde
  split_ifs <;> simp only [pdUdeLaw_loopUpdateRateHz, cascadeUdeLaw_loopUpdateRateHz,
    mUdeLaw_loopUpdateRateHz, controlAttitudeRates_loopUpdateRateHz,
    controlAttitude_loopUpdateRateHz, resetIntegralUde_loopUpdateRateHz,
    resetMotorEstimate_loopUpdateRateHz]

omit [LinearOrderedField α] in
@[simp] theorem publishActuators_loopUpdateRateHz :
    (publishActuators s).1.loopUpdateRateHz = s.loopUpdateRateHz := by
  unfold publishActuators; split <;> rfl

theorem udeBranch_loopUpdateRateHz :
    (udeBranch lib C s b dt).1.1.loopUpdateRateHz = s.loopUpdateRateHz := by
  refine (publishActuators_loopUpdateRateHz _).trans (Eq.trans ?_
    (udeStrategy_loopUpdateRateHz lib C s dt b.vehicleAttitudeSetpoint))
  unfold platformZeroTorque
  dsimp only [udeBranch]
  split_ifs <;> rfl

theorem ratesSetpointStage_loopUpdateRateHz :
    (ratesSetpointStage lib C s b dt).1.1.loopUpdateRateHz = s.loopUpdateRateHz := by
  unfold ratesSetpointStage
  dsimp only
  split_ifs <;> rfl

theorem rateStage_loopUpdateRateHz :
    (rateStage lib C s dt).1.loopUpdateRateHz = s.loopUpdateRateHz := by
  unfold rateStage
  dsimp only
  split_ifs
  · exact (publishActuators_loopUpdateRateHz _).trans rfl
  · exact (publishActuators_loopUpdateRateHz _).trans rfl
  · rfl

theorem controlBranch_loopUpdateRateHz :
    (controlBranch lib C s b dt).1.1.loopUpdateRateHz = s.loopUpdateRateHz := by
  unfold controlBranch
  split
  · exact udeBranch_loopUpdateRateHz lib C s b dt
  · exact (rateStage_loopUpdateRateHz lib C _ dt).trans (ratesSetpointStage_loopUpdateRateHz lib C s b dt)

theorem beginIteration_loopUpdateRateHz (r : Runner α σ) (sample : SensorGyro α) :
    (beginIteration lib C r sample).loopUpdateRateHz = r.ctrl.loopUpdateRateHz := by
  obtain ⟨m, h⟩ := rattitudeOverride_eq (pollTopics lib C { r.ctrl with sensorGyro := sample } r.bus)
  rw [beginIteration, h]
  show (pollTopics lib C { r.ctrl with sensorGyro := sample } r.bus).loopUpdateRateHz = _
  unfold pollTopics
  cases r.bus.parameterUpdate <;>
    simp only [parameterUpdatePoll, parametersUpdated, vehicleControlModePoll, vehicleManualPoll,
      vehicleStatusPoll, vehicleMotorLimitsPoll, batteryStatusPoll, vehicleAttitudePoll,
      sensorCorrectionPoll, sensorBiasPoll]

@[simp] theorem publishUde_loopUpdateRateHz :
    (publishUde s dt).1.loopUpdateRateHz = s.loopUpdateRateHz := rfl

theorem terminationOverride_loopUpdateRateHz :
    (terminationOverride s).1.loopUpdateRateHz = s.loopUpdateRateHz := by
  unfold terminationOverride; split
  · exact publishActuators_loopUpdateRateHz _
  · rfl

end Frame

/-! ### The estimate -/

/-- The clamp of `dt` lands in `[0.0002, 0.02]`. -/
theorem clampDt_mem (dt : α) : 1 / 5000 ≤ clampDt dt ∧ clampDt dt ≤ 1 / 50 := by
  unfold clampDt
  split_ifs with h1 h2
  · norm_num
  · norm_num
  · exact ⟨not_lt.mp h1, not_lt.mp h2⟩

/-- What the estimate may do to the controller `s`: leave it, or average a measured rate in
`[50, 5000]` into `_loop_update_rate_hz`, giving a rate in `[50, 5000]`, and re-tune the three
D-term filters at that rate. -/
def RetunedInBand (C : Collab α σ) (s s' : Ctrl α σ) : Prop :=
  s' = s ∨ ∃ measured : α, (50 ≤ measured ∧ measured ≤ 5000) ∧
    let rate := s.loopUpdateRateHz * (1 / 2) + measured * (1 / 2)
    (50 ≤ rate ∧ rate ≤ 5000) ∧
    s' = { s with
      loopUpdateRateHz := rate
      lpFiltersD := fun i => C.lp2pSetCutoffFrequency (s.lpFiltersD i) rate s.params.dTermCutoffFreq }

/-- A controller the estimate left or re-tuned has its rate in `[50, 5000]` if it had before. -/
theorem RetunedInBand.rate_mem {C : Collab α σ} {s s' : Ctrl α σ} (h : RetunedInBand C s s')
    (hs : 50 ≤ s.loopUpdateRateHz ∧ s.loopUpdateRateHz ≤ 5000) :
    50 ≤ s'.loopUpdateRateHz ∧ s'.loopUpdateRateHz ≤ 5000 := by
  rcases h with rfl | ⟨_, -, hrate, rfl⟩
  exacts [hs, hrate]

/-- One call of the estimate from a rate in `[50, 5000]`, with the accumulator within
`[0.0002, 0.02]` times the counter and a clamped `dt`: the measured rate
`loop_counter / dt_accumulator` lies in `[50, 5000]`, and so does its average with the old rate;
the accumulator and counter it returns keep the bound. -/
theorem loopRateEstimate_spec (C : Collab α σ) (s : Ctrl α σ) (now taskStart : UInt64) {dt acc : α}
    {n : Nat} (hs : 50 ≤ s.loopUpdateRateHz ∧ s.loopUpdateRateHz ≤ 5000)
    (hacc : 1 / 5000 * (n : α) ≤ acc ∧ acc ≤ 1 / 50 * (n : α)) (hdt : 1 / 5000 ≤ dt ∧ dt ≤ 1 / 50) :
    let e := loopRateEstimate C s now taskStart dt acc n
    RetunedInBand C s e.1 ∧ 1 / 5000 * (e.2.2 : α) ≤ e.2.1 ∧ e.2.1 ≤ 1 / 50 * (e.2.2 : α) := by
  unfold loopRateEstimate
  dsimp only
  split_ifs with hrun hsec
  · have hpos : 0 < acc + dt := one_pos.trans hsec
    have hlo : (50 : α) ≤ ((n + 1 : Nat) : α) / (acc + dt) := by
      rw [le_div_iff₀ hpos]; push_cast; linarith only [hacc.2, hdt.2]
    have hhi : ((n + 1 : Nat) : α) / (acc + dt) ≤ 5000 := by
      rw [div_le_iff₀ hpos]; push_cast; linarith only [hacc.1, hdt.1]
    refine ⟨.inr ⟨_, ⟨hlo, hhi⟩, ⟨?_, ?_⟩, rfl⟩, by simp, by simp⟩
    · linarith only [hs.1, hlo]
    · linarith only [hs.2, hhi]
  · push_cast
    exact ⟨.inl rfl, by linarith only [hacc.1, hdt.1], by linarith only [hacc.2, hdt.2]⟩
  · exact ⟨.inl rfl, hacc⟩

/-! ### Whole runs -/

/-- The controller an iteration hands to the estimate keeps the runner's rate: a gyro
iteration's controller, accumulator and counter are those the estimate returns on it. -/
theorem iterate_loopRateEstimate (lib : Libm α) (C : Collab α σ) (r : Runner α σ) (now : UInt64)
    (sample : SensorGyro α) :
    ∃ t : Ctrl α σ, t.loopUpdateRateHz = r.ctrl.loopUpdateRateHz ∧
      let e := loopRateEstimate C t now r.taskStart (clampDt (elapsedSeconds now r.lastRun))
        r.dtAccumulator r.loopCounter
      (iterate lib C r now sample).1.ctrl = e.1 ∧ (iterate lib C r now sample).1.dtAccumulator = e.2.1 ∧
        (iterate lib C r now sample).1.loopCounter = e.2.2 := by
  set dt : α := clampDt (elapsedSeconds now r.lastRun)
  set br := controlBranch lib C (beginIteration lib C r sample) r.bus.afterPolls dt
  refine ⟨(terminationOverride (publishUde br.1.1 dt).1).1, ?_, rfl, rfl, rfl⟩
  exact (terminationOverride_loopUpdateRateHz _).trans <| (publishUde_loopUpdateRateHz _ dt).trans <|
    (controlBranch_loopUpdateRateHz lib C _ _ dt).trans (beginIteration_loopUpdateRateHz lib C r sample)

/-- The invariant of the estimate between iterations: `_loop_update_rate_hz` in `[50, 5000]` and
`0.0002 * loop_counter <= dt_accumulator <= 0.02 * loop_counter`. -/
structure LoopRateInv (r : Runner α σ) : Prop where
  rateGe : 50 ≤ r.ctrl.loopUpdateRateHz
  rateLe : r.ctrl.loopUpdateRateHz ≤ 5000
  accGe : 1 / 5000 * (r.loopCounter : α) ≤ r.dtAccumulator
  accLe : r.dtAccumulator ≤ 1 / 50 * (r.loopCounter : α)

/-- A gyro iteration from a state of the invariant re-tunes in band and keeps the invariant. -/
theorem iterate_retunedInBand (lib : Libm α) (C : Collab α σ) {r : Runner α σ}
    (hr : LoopRateInv r) (now : UInt64) (sample : SensorGyro α) :
    ∃ t : Ctrl α σ, t.loopUpdateRateHz = r.ctrl.loopUpdateRateHz ∧
      RetunedInBand C t (iterate lib C r now sample).1.ctrl ∧
      LoopRateInv (iterate lib C r now sample).1 := by
  obtain ⟨t, ht, hc, ha, hn⟩ := iterate_loopRateEstimate lib C r now sample
  have hs : 50 ≤ t.loopUpdateRateHz ∧ t.loopUpdateRateHz ≤ 5000 := ht ▸ ⟨hr.rateGe, hr.rateLe⟩
  obtain ⟨hre, hlo, hhi⟩ := loopRateEstimate_spec C t now r.taskStart hs ⟨hr.accGe, hr.accLe⟩
    (clampDt_mem (elapsedSeconds now r.lastRun))
  rw [← hc, ← ha, ← hn] at *
  have hrate := hre.rate_mem hs
  exact ⟨t, ht, hre, hrate.1, hrate.2, hlo, hhi⟩

/-- Every event keeps the invariant: only a gyro wake-up changes the controller, the accumulator
or the counter. -/
theorem loopRateInv_step (lib : Libm α) (C : Collab α σ) {r : Runner α σ} (hr : LoopRateInv r)
    (e : Event α) : LoopRateInv (r.step lib C e).1 := by
  cases e with
  | gyro now sample =>
    obtain ⟨-, -, -, h⟩ := iterate_retunedInBand lib C hr now sample
    exact h
  | publish msgs => exact ⟨hr.rateGe, hr.rateLe, hr.accGe, hr.accLe⟩
  | timeout | pollError | noData => exact hr

/-- From a controller whose `_loop_update_rate_hz` lies in `[50, 5000]`, every run of the loop
(any events, any clock readings, any arming history) keeps the accumulator within
`[0.0002, 0.02]` times the counter and the rate in `[50, 5000]`; and the next gyro iteration hands
the estimate a controller at that rate and either leaves it or re-tunes the D-term filters at a
rate in `[50, 5000]` averaged from a measured `loop_counter / dt_accumulator` in `[50, 5000]`. -/
theorem loopUpdateRate_stays_in_band (lib : Libm α) (C : Collab α σ) (c : Ctrl α σ) (b : Bus α)
    (groupCount maxGyroCount : Nat) (taskStart : UInt64) (es : List (Event α))
    (hc : 50 ≤ c.loopUpdateRateHz ∧ c.loopUpdateRateHz ≤ 5000) :
    let r := (Runner.run lib C (Runner.start c b groupCount maxGyroCount taskStart) es).1
    LoopRateInv r ∧ ∀ (now : UInt64) (sample : SensorGyro α),
      ∃ t : Ctrl α σ, t.loopUpdateRateHz = r.ctrl.loopUpdateRateHz ∧
        RetunedInBand C t (iterate lib C r now sample).1.ctrl := by
  have h0 : LoopRateInv (Runner.start c b groupCount maxGyroCount taskStart) :=
    ⟨hc.1, hc.2, by simp [Runner.start], by simp [Runner.start]⟩
  have hrun : LoopRateInv (Runner.run lib C (Runner.start c b groupCount maxGyroCount taskStart) es).1 :=
    Runner.run_induction LoopRateInv (fun _ => True) (fun r e _ hr => loopRateInv_step lib C hr e) es _
      (fun _ _ => trivial) h0
  exact ⟨hrun, fun now sample =>
    let ⟨t, ht, hre, _⟩ := iterate_retunedInBand lib C hrun now sample
    ⟨t, ht, hre⟩⟩

/-- A controller at `250 Hz` meets the hypothesis, here for a run of one gyro wake-up. -/
theorem loopUpdateRate_stays_in_band_from_250 :
    let c : Ctrl ℚ Unit := { (default : Ctrl ℚ Unit) with loopUpdateRateHz := 250 }
    let r := (Runner.run default default (Runner.start c Bus.empty 1 1 0)
      [.gyro 4000 default]).1
    (50 ≤ c.loopUpdateRateHz ∧ c.loopUpdateRateHz ≤ 5000) ∧
      LoopRateInv r ∧ ∀ (now : UInt64) (sample : SensorGyro ℚ),
        ∃ t : Ctrl ℚ Unit, t.loopUpdateRateHz = r.ctrl.loopUpdateRateHz ∧
          RetunedInBand default t (iterate default default r now sample).1.ctrl :=
  ⟨⟨by norm_num, by norm_num⟩, loopUpdateRate_stays_in_band default default _ Bus.empty 1 1 0
    [.gyro 4000 default] ⟨by norm_num, by norm_num⟩⟩

end McAttControl
