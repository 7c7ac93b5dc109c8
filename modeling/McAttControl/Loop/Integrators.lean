import McAttControl.Loop.Frame

/-!
# The integrators stay inside their limits

Both integrators of the controller, over every run from construction. The UDE integral
`integral_ude` is written by the three strategies (`src/unnamed/part_000:490–827`) only through a
guarded Euler step on roll and pitch that commits strictly inside `±INT_LIMIT`, and otherwise
only reset or zeroed by flight termination; its yaw entry is never written. The rate integrator
`_rates_int` ends every call of `control_attitude_rates` (`:1121–1233`) clamped to
`_rate_int_lim`, and is otherwise only zeroed, so it stays within a nonnegative limit that no
parameter update changes.
-/

namespace McAttControl

variable {α σ : Type} [LinearOrderedField α]

/-! ### The UDE integral -/

/-- The range of the UDE integral: strictly inside `±INT_LIMIT` on roll and pitch, zero on yaw. -/
def UdeBand (v : Fin 3 → α) : Prop :=
  (∀ i : Fin 3, i ≠ 2 → -intLimit < v i ∧ v i < intLimit) ∧ v 2 = 0

/-- The UDE integral invariant: the limits the constructor set, and the range. -/
structure UdeIntegralInv (s : Ctrl α σ) : Prop where
  limit : s.integralLimitUde = fun _ => intLimit
  band : UdeBand s.integralUde

theorem udeBand_zero : UdeBand (0 : Fin 3 → α) :=
  ⟨fun _ _ => by simp [intLimit], rfl⟩

/-- A conditional reset keeps the range. -/
theorem UdeBand.reset {v : Fin 3 → α} (h : UdeBand v) (c : Prop) [Decidable c] :
    UdeBand (if c then 0 else v) := by
  split_ifs
  · exact udeBand_zero
  · exact h

/-- The guarded roll/pitch update of the strategies keeps the range. -/
theorem UdeBand.udeIntegral (lib : Libm α) {s : Ctrl α σ} (hl : s.integralLimitUde = fun _ => intLimit)
    (h : UdeBand s.integralUde) (candidate : Fin 3 → α) :
    UdeBand (McAttControl.udeIntegral lib s candidate) := by
  unfold McAttControl.udeIntegral
  split_ifs
  · refine ⟨fun i hi => ?_, h.2⟩
    have hband (j : Fin 3) (hj : j ≠ 2) :
        -intLimit < commitIfInRange lib (s.integralLimitUde j) (candidate j) (s.integralUde j) ∧
          commitIfInRange lib (s.integralLimitUde j) (candidate j) (s.integralUde j) < intLimit := by
      rw [hl]; exact commitIfInRange_mem (h.1 j hj)
    fin_cases i
    · exact hband 0 (by decide)
    · exact hband 1 (by decide)
    · exact absurd rfl hi
  · exact h

theorem UdeIntegralInv.of_keeps {s s' : Ctrl α σ} (h : UdeIntegralInv s)
    (hk : KeepsIntegrators s s') : UdeIntegralInv s' :=
  ⟨hk.integralLimitUde.trans h.limit, hk.integralUde ▸ h.band⟩

variable (lib : Libm α) (C : Collab α σ) (attSp : Option (VehicleAttitudeSetpoint α)) (dt : α)

/-- A strategy's own law keeps the invariant of the state it starts from. -/
theorem UdeIntegralInv.udeLaw {s s' : Ctrl α σ} (h : UdeIntegralInv s) (hs : UdeLawStep lib s s') :
    UdeIntegralInv s' := by
  obtain ⟨c, hc⟩ := hs.integralUde
  exact ⟨hs.integralLimitUde.trans h.limit, hc ▸ UdeBand.udeIntegral lib h.limit h.band c⟩

/-- The control laws and flight termination keep the UDE integral invariant. -/
theorem UdeIntegralInv.controlAttitude {s : Ctrl α σ} (h : UdeIntegralInv s) :
    UdeIntegralInv (McAttControl.controlAttitude lib C s attSp dt) :=
  ⟨h.limit, h.band⟩

theorem UdeIntegralInv.controlAttitudeRates {s : Ctrl α σ} (h : UdeIntegralInv s) :
    UdeIntegralInv (McAttControl.controlAttitudeRates lib C s dt) :=
  ⟨h.limit, h.band⟩

theorem UdeIntegralInv.terminationOverride {s : Ctrl α σ} (h : UdeIntegralInv s) :
    UdeIntegralInv (McAttControl.terminationOverride s).1 := by
  rcases terminationOverride_cases s with ⟨-, pub, he⟩ | ⟨-, he⟩ <;> rw [he]
  · exact ⟨h.limit, udeBand_zero⟩
  · exact h

theorem UdeIntegralInv.beginIteration {r : Runner α σ} (h : UdeIntegralInv r.ctrl)
    (sample : SensorGyro α) : UdeIntegralInv (McAttControl.beginIteration lib C r sample) := by
  obtain ⟨m, he⟩ := rattitudeOverride_eq
    (pollTopics lib C { r.ctrl with sensorGyro := sample } r.bus)
  obtain ⟨-, hu, hl⟩ := pollTopics_integrators lib C { r.ctrl with sensorGyro := sample } r.bus
  unfold McAttControl.beginIteration
  rw [he]
  exact ⟨hl.trans h.limit, hu ▸ h.band⟩

theorem UdeIntegralInv.udeStrategy {s : Ctrl α σ} (h : UdeIntegralInv s) :
    UdeIntegralInv (McAttControl.udeStrategy lib C s attSp dt) := by
  have hr : UdeIntegralInv (resetIntegralUde s) := ⟨h.limit, h.band.reset _⟩
  have hm : UdeIntegralInv (resetMotorEstimate s) := ⟨h.limit, h.band.reset _⟩
  refine udeStrategy_preserves lib C s dt attSp _ h ?_ ?_ ?_
  · exact ((hr.controlAttitude lib C attSp dt).controlAttitudeRates lib C dt).udeLaw lib
      (pdUdeLaw_step lib _ dt)
  · exact ((hr.controlAttitude lib C attSp dt).controlAttitudeRates lib C dt).udeLaw lib
      (cascadeUdeLaw_step lib _ dt)
  · exact ((hm.controlAttitude lib C attSp dt).controlAttitudeRates lib C dt).udeLaw lib
      (mUdeLaw_step lib C _ dt)

/-- One event keeps the UDE integral invariant. -/
theorem UdeIntegralInv.step {r : Runner α σ} (h : UdeIntegralInv r.ctrl) (e : Event α) :
    UdeIntegralInv (r.step lib C e).1.ctrl := by
  cases e with
  | publish msgs => exact h
  | timeout => exact h
  | pollError => exact h
  | noData => exact h
  | gyro now sample =>
    refine iterate_preserves lib C UdeIntegralInv (fun hk h => h.of_keeps hk)
      (fun _ _ _ h => h.controlAttitude lib C _ _) (fun _ _ h => h.controlAttitudeRates lib C _)
      (fun _ _ _ h => h.udeStrategy lib C _ _)
      (fun _ h => h.terminationOverride) r now sample (h.beginIteration lib C sample)

/-! ### The rate integrator -/

/-- The rate integrator invariant for the configured limits `lims`. -/
structure RatesIntInv (lims : Fin 3 → α) (s : Ctrl α σ) : Prop where
  limit : s.gains.rateIntLim = lims
  bound : ∀ i, |s.ratesInt i| ≤ lims i

/-- Parameter updates that keep the integrator limits `lims`. -/
def Event.keepsRateIntegLims (lims : Fin 3 → α) : Event α → Prop
  | .publish msgs => ∀ p, msgs.parameterUpdate = some p → rateIntegLims p = lims
  | _ => True

/-- The rate integrator invariant of a runner: the controller's, and any pending parameter
update keeps the limits. -/
structure RatesRunInv (lims : Fin 3 → α) (r : Runner α σ) : Prop where
  ctrl : RatesIntInv lims r.ctrl
  pending : ∀ p, r.bus.parameterUpdate = some p → rateIntegLims p = lims

section Rates

variable {lims : Fin 3 → α} (hlims : ∀ i, 0 ≤ lims i)
include hlims

omit hlims in
theorem RatesIntInv.of_keeps {s s' : Ctrl α σ} (h : RatesIntInv lims s)
    (hk : KeepsIntegrators s s') : RatesIntInv lims s' :=
  ⟨(congrArg Gains.rateIntLim hk.gains).trans h.limit, hk.ratesInt ▸ h.bound⟩

/-- Whatever came before, `control_attitude_rates` leaves the integrator within its limits. -/
theorem ratesIntInv_controlAttitudeRates {s : Ctrl α σ} (hl : s.gains.rateIntLim = lims) :
    RatesIntInv lims (McAttControl.controlAttitudeRates lib C s dt) :=
  ⟨hl, fun i => hl ▸ abs_ratesInt_controlAttitudeRates_le lib C s dt i (hl ▸ hlims i)⟩

/-- The weather-vane reset of the yaw integrator keeps the invariant. -/
theorem RatesIntInv.controlAttitude {s : Ctrl α σ} (h : RatesIntInv lims s) :
    RatesIntInv lims (McAttControl.controlAttitude lib C s attSp dt) := by
  refine ⟨h.limit, fun i => ?_⟩
  rw [controlAttitude_ratesInt]
  split_ifs
  · rcases eq_or_ne i 2 with rfl | hi
    · simpa using hlims 2
    · rw [Function.update_noteq hi]; exact h.bound i
  · exact h.bound i

omit hlims in
theorem RatesIntInv.udeLaw {s s' : Ctrl α σ} (h : RatesIntInv lims s) (hs : UdeLawStep lib s s') :
    RatesIntInv lims s' :=
  ⟨(congrArg Gains.rateIntLim hs.gains).trans h.limit, hs.ratesInt ▸ h.bound⟩

theorem RatesIntInv.udeStrategy {s : Ctrl α σ} (h : RatesIntInv lims s) :
    RatesIntInv lims (McAttControl.udeStrategy lib C s attSp dt) := by
  have hv : ∀ s₀ : Ctrl α σ, KeepsConfig s s₀ → RatesIntInv lims
      (McAttControl.controlAttitudeRates lib C (McAttControl.controlAttitude lib C s₀ attSp dt) dt) :=
    fun s₀ hs => ratesIntInv_controlAttitudeRates lib C dt hlims
      ((congrArg Gains.rateIntLim (udeLaws_keepsConfig lib C s dt attSp s₀ hs).gains).trans h.limit)
  refine udeStrategy_preserves lib C s dt attSp _ h ?_ ?_ ?_
  · exact (hv _ (resetIntegralUde_keepsConfig s)).udeLaw lib (pdUdeLaw_step lib _ dt)
  · exact (hv _ (resetIntegralUde_keepsConfig s)).udeLaw lib (cascadeUdeLaw_step lib _ dt)
  · exact (hv _ (resetMotorEstimate_keepsConfig s)).udeLaw lib (mUdeLaw_step lib C _ dt)

theorem RatesIntInv.terminationOverride {s : Ctrl α σ} (h : RatesIntInv lims s) :
    RatesIntInv lims (McAttControl.terminationOverride s).1 := by
  rcases terminationOverride_cases s with ⟨-, pub, he⟩ | ⟨-, he⟩ <;> rw [he]
  · exact ⟨h.limit, fun i => by simpa using hlims i⟩
  · exact h

omit hlims in
theorem RatesIntInv.beginIteration {r : Runner α σ} (h : RatesRunInv lims r)
    (sample : SensorGyro α) : RatesIntInv lims (McAttControl.beginIteration lib C r sample) := by
  obtain ⟨m, he⟩ := rattitudeOverride_eq
    (pollTopics lib C { r.ctrl with sensorGyro := sample } r.bus)
  obtain ⟨hr, -, -⟩ := pollTopics_integrators lib C { r.ctrl with sensorGyro := sample } r.bus
  have hl := pollTopics_rateIntLim lib C { r.ctrl with sensorGyro := sample } r.bus
  unfold McAttControl.beginIteration
  rw [he]
  refine ⟨?_, hr ▸ h.ctrl.bound⟩
  show (pollTopics lib C { r.ctrl with sensorGyro := sample } r.bus).gains.rateIntLim = lims
  rw [hl]
  cases hp : r.bus.parameterUpdate with
  | none => exact h.ctrl.limit
  | some p => exact h.pending p hp

/-- One event whose parameter updates keep the limits keeps the rate integrator invariant. -/
theorem RatesRunInv.step {r : Runner α σ} (h : RatesRunInv lims r) (e : Event α)
    (he : e.keepsRateIntegLims lims) : RatesRunInv lims (r.step lib C e).1 := by
  cases e with
  | publish msgs =>
    refine ⟨h.ctrl, fun p hp => ?_⟩
    cases hm : msgs.parameterUpdate with
    | none =>
      simp only [Runner.step, Bus.merge, hm, Option.none_orElse] at hp
      exact h.pending p hp
    | some q =>
      simp only [Runner.step, Bus.merge, hm, Option.some_orElse, Option.some.injEq] at hp
      exact hp ▸ he q hm
  | timeout => exact h
  | pollError => exact h
  | noData => exact h
  | gyro now sample =>
    refine ⟨iterate_preserves lib C (RatesIntInv lims) (fun hk h => h.of_keeps hk)
      (fun _ _ _ h => h.controlAttitude lib C _ _ hlims)
      (fun _ _ h => ratesIntInv_controlAttitudeRates lib C _ hlims h.limit)
      (fun _ _ _ h => h.udeStrategy lib C _ _ hlims)
      (fun _ h => h.terminationOverride hlims) r now sample (RatesIntInv.beginIteration lib C h sample),
      fun p hp => ?_⟩
    obtain ⟨att, rates, hb⟩ := controlBranch_bus lib C (McAttControl.beginIteration lib C r sample)
      r.bus.afterPolls (clampDt (elapsedSeconds now r.lastRun))
    rw [Runner.step, iterate] at hp
    simp only [hb] at hp
    exact nomatch hp

end Rates

theorem start_ratesInt (lib : Libm α) (C : Collab α σ) (pre : Ctrl α σ) (rate : α) (p : Params α)
    (b : Bus α) (n m : Nat) (t : UInt64) :
    (Runner.start (construct lib C pre rate p) b n m t).ctrl.ratesInt = 0 := by
  unfold Runner.start construct; rfl

/-- The integrators stay inside their limits over every run from construction: the UDE integral
strictly inside `±INT_LIMIT` on roll and pitch and zero on yaw, always; and the rate integrator
within `_rate_int_lim` as long as the configured limits are nonnegative and no parameter update
of the run changes them. -/
theorem run_integrators_bounded (lib : Libm α) (C : Collab α σ) (pre : Ctrl α σ)
    (initialUpdateRateHz : α) (p : Params α) (b : Bus α) (groupCount maxGyroCount : Nat)
    (taskStart : UInt64) (es : List (Event α)) :
    let s := (Runner.run lib C (Runner.start (construct lib C pre initialUpdateRateHz p) b
      groupCount maxGyroCount taskStart) es).1.ctrl
    (∀ i : Fin 3, i ≠ 2 → -intLimit < s.integralUde i ∧ s.integralUde i < intLimit) ∧
      s.integralUde 2 = 0 ∧
      ((∀ i, 0 ≤ rateIntegLims p i) →
        (∀ q, b.parameterUpdate = some q → rateIntegLims q = rateIntegLims p) →
        (∀ e ∈ es, e.keepsRateIntegLims (rateIntegLims p)) →
        ∀ i, |s.ratesInt i| ≤ s.gains.rateIntLim i) := by
  intro s
  have hude : UdeIntegralInv s :=
    Runner.run_induction (fun r => UdeIntegralInv r.ctrl) (fun _ => True)
      (fun _ e _ h => h.step lib C e) es _ (fun _ _ => trivial) ⟨rfl, udeBand_zero⟩
  refine ⟨hude.band.1, hude.band.2, fun hlims hb hes i => ?_⟩
  have hrates : RatesRunInv (rateIntegLims p) (Runner.run lib C (Runner.start
      (construct lib C pre initialUpdateRateHz p) b groupCount maxGyroCount taskStart) es).1 :=
    Runner.run_induction (RatesRunInv (rateIntegLims p)) (Event.keepsRateIntegLims (rateIntegLims p))
      (fun _ e he h => h.step lib C hlims e he) es _ hes
      ⟨⟨rfl, fun i => by simpa [start_ratesInt] using hlims i⟩, hb⟩
  exact hrates.ctrl.limit ▸ hrates.ctrl.bound i

/-- An armed multicopter on an external roll-rate setpoint of `1` at half thrust, with roll gain
and integrator limit `1`, ticking twice: the limits are nonnegative and never reconfigured, the
roll integrator has moved off zero, and it is within its limit. -/
theorem run_integrators_bounded_armed :
    let lib : Libm ℚ := { (default : Libm ℚ) with isFinite := fun _ => true }
    let p : Params ℚ := { (default : Params ℚ) with
      roll := { (default : AxisParams ℚ) with rateI := 1, rateIntegLim := 1 } }
    let es : List (Event ℚ) := [.publish { Bus.empty with
        vehicleControlMode := some { (default : VehicleControlMode) with
          flagArmed := true, flagControlRatesEnabled := true }
        vehicleStatus := some ⟨true, false⟩
        vehicleRatesSetpoint := some ⟨1, 0, 0, 1 / 2⟩ },
      .gyro 4000 default, .gyro 8000 default]
    let s := (Runner.run lib (default : Collab ℚ Unit) (Runner.start (construct lib default default
      250 p) Bus.empty 1 1 0) es).1.ctrl
    (∀ i, 0 ≤ rateIntegLims p i) ∧ (∀ e ∈ es, e.keepsRateIntegLims (rateIntegLims p)) ∧
      s.ratesInt 0 ≠ 0 ∧ |s.ratesInt 0| ≤ s.gains.rateIntLim 0 := by
  refine ⟨?hlims, ?hes, by with_unfolding_all decide, (run_integrators_bounded _ default default 250
    _ Bus.empty 1 1 0 _).2.2 ?hlims (fun _ h => nomatch h) ?hes 0⟩
  case hlims => with_unfolding_all decide
  case hes =>
    simp only [List.mem_cons, List.mem_singleton, List.not_mem_nil, or_false]
    rintro e (rfl | rfl | rfl) <;> first | trivial | rintro q ⟨⟩

end McAttControl
