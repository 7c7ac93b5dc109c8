import McAttControl.Controller.State

/-!
# The rate controller: `control_attitude_rates`

`pid_attenuations` (`src/unnamed/part_000:1101–1114`) and `control_attitude_rates`
(`:1121–1233`): gyro correction and rotation into the body frame, the attenuated PID law with
the D term on the filtered measured rate, and the integrator with per-axis conditional
anti-windup, a guarded commit and a final clamp.
-/

namespace McAttControl

variable {α σ : Type} [LinearOrderedField α]

/-- `pid_attenuations(tpa_breakpoint, tpa_rate)`: the thrust PID attenuation for roll and pitch,
clamped to `[TPA_RATE_LOWER_LIMIT, 1]`; yaw is never attenuated. At `tpa_breakpoint = 1` the
code divides by zero: a positive numerator makes `tpa` `-inf`, which `fmaxf` raises to the lower
limit; a negative one makes it `+inf` and a zero one NaN, both of which `fminf` takes to `1`. -/
def pidAttenuations (s : Ctrl α σ) (tpaBreakpoint tpaRate : α) : Fin 3 → α :=
  let excess := tpaRate * (|s.vRatesSp.thrust| - tpaBreakpoint)
  let tpa := if 1 - tpaBreakpoint = 0 then (if 0 < excess then tpaRateLowerLimit else 1)
    else max tpaRateLowerLimit (min 1 (1 - excess / (1 - tpaBreakpoint)))
  ![tpa, tpa, 1]

/-- Every attenuation factor is positive. -/
theorem pidAttenuations_pos (s : Ctrl α σ) (bp rate : α) (i : Fin 3) :
    0 < pidAttenuations s bp rate i := by
  have h : (0 : α) < tpaRateLowerLimit := by norm_num [tpaRateLowerLimit]
  have htpa : 0 < pidAttenuations s bp rate 0 := by
    simp only [pidAttenuations, Matrix.cons_val_zero]
    split_ifs
    exacts [h, one_pos, lt_max_of_lt_left h]
  fin_cases i
  exacts [htpa, htpa, one_pos]

/-- The thermal correction of one gyro instance, `(raw - offset) * scale` per axis. -/
def gyroCorrection (offset scale raw : Fin 3 → α) : Fin 3 → α :=
  fun i => (raw i - offset i) * scale i

/-- The measured body rates (`:1128–1163`): the selected gyro's corrected sample (raw for an
unknown instance), rotated into the body frame, minus the in-run bias. -/
def bodyRates (s : Ctrl α σ) : Fin 3 → α :=
  let raw := ![s.sensorGyro.x, s.sensorGyro.y, s.sensorGyro.z]
  let c := s.sensorCorrection
  let rates :=
    if s.selectedGyro = 0 then gyroCorrection c.gyroOffset0 c.gyroScale0 raw
    else if s.selectedGyro = 1 then gyroCorrection c.gyroOffset1 c.gyroScale1 raw
    else if s.selectedGyro = 2 then gyroCorrection c.gyroOffset2 c.gyroScale2 raw
    else raw
  let rates := Dcmf.mulVec s.gains.boardRotation rates
  ![rates 0 - s.sensorBias.gyroXBias, rates 1 - s.sensorBias.gyroYBias,
    rates 2 - s.sensorBias.gyroZBias]

/-- One axis of the integrator update (`:1186–1218`): clamp the error against further
saturation, then take the guarded Euler step. -/
def rateIntegral (lib : Libm α) (lim iScaled err dt prev : α) (posSat negSat : Bool) : α :=
  let err := if posSat then min err 0 else err
  let err := if negSat then max err 0 else err
  commitIfInRange lib lim (prev + iScaled * err * dt) prev

/-- Whether the integrator is reset: disarmed, or not a rotary wing (`:1124`). -/
def integratorReset (s : Ctrl α σ) : Bool :=
  !s.vControlMode.flagArmed || !s.vehicleStatus.isRotaryWing

/-- The integrator state after the reset and the gated update of `control_attitude_rates`,
before the final clamp. -/
def ratesIntUpdated (lib : Libm α) (s : Ctrl α σ) (dt : α) : Fin 3 → α :=
  let ratesInt := if integratorReset s then 0 else s.ratesInt
  let iScaled := Vec3.emult s.gains.rateI
    (pidAttenuations s s.params.tpaBreakpointI s.params.tpaRateI)
  if minTakeoffThrust < s.thrustSp then
    fun i => rateIntegral lib (s.gains.rateIntLim i) (iScaled i) (s.ratesSp i - bodyRates s i)
      dt (ratesInt i) (s.saturationStatus.pos i) (s.saturationStatus.neg i)
  else ratesInt

/-- `control_attitude_rates(dt)`. -/
def controlAttitudeRates (lib : Libm α) (C : Collab α σ) (s : Ctrl α σ) (dt : α) : Ctrl α σ :=
  let rates := bodyRates s
  let p := s.params
  let pScaled := Vec3.emult s.gains.rateP (pidAttenuations s p.tpaBreakpointP p.tpaRateP)
  let dScaled := Vec3.emult s.gains.rateD (pidAttenuations s p.tpaBreakpointD p.tpaRateD)
  let ratesErr := fun i => s.ratesSp i - rates i
  let filtered := fun i => C.lp2pApply (s.lpFiltersD i) (rates i)
  let ratesInt := if integratorReset s then 0 else s.ratesInt
  let attControl := fun i =>
    pScaled i * ratesErr i + ratesInt i -
      dScaled i * ((filtered i).2 - s.ratesPrevFiltered i) / dt + s.gains.rateFf i * s.ratesSp i
  let ratesInt := ratesIntUpdated lib s dt
  { s with
    ratesInt := fun i => constrain (ratesInt i) (-s.gains.rateIntLim i) (s.gains.rateIntLim i)
    attControl
    ratesPrev := rates
    ratesPrevFiltered := fun i => (filtered i).2
    lpFiltersD := fun i => (filtered i).1
    ude := { s.ude with
      attitudeRateNow := rates
      uTotal := Function.update s.ude.uTotal 2 (attControl 2) } }

/-- With no proportional, derivative or feed-forward gain on an axis, the rate loop's output on
that axis is the integrator it starts the call with, zero on reset. -/
theorem controlAttitudeRates_attControl_of_gains_zero (lib : Libm α) (C : Collab α σ)
    (s : Ctrl α σ) (dt : α) {i : Fin 3} (hP : s.gains.rateP i = 0) (hD : s.gains.rateD i = 0)
    (hF : s.gains.rateFf i = 0) :
    (controlAttitudeRates lib C s dt).attControl i =
      if integratorReset s then 0 else s.ratesInt i := by
  simp only [controlAttitudeRates, Vec3.emult_apply, hP, hD, hF, zero_mul, zero_div, add_zero,
    sub_zero, zero_add]
  split <;> rfl

/-! ### Integrator laws -/

/-- The final clamp bounds the integrator by its limit, whatever came before. -/
theorem abs_ratesInt_controlAttitudeRates_le (lib : Libm α) (C : Collab α σ) (s : Ctrl α σ)
    (dt : α) (i : Fin 3) (hlim : 0 ≤ s.gains.rateIntLim i) :
    |(controlAttitudeRates lib C s dt).ratesInt i| ≤ s.gains.rateIntLim i :=
  abs_constrain_le hlim

/-- A clamp keeps an upper bound that lies inside the clamp interval. -/
private theorem constrain_le_of_le {x b lo hi : α} (hx : x ≤ b) (hlo : lo ≤ b) (hhi : b ≤ hi) :
    constrain x lo hi ≤ b := by
  unfold constrain; split_ifs <;> linarith

/-- A clamp keeps a lower bound that lies inside the clamp interval. -/
private theorem le_constrain_of_le {x b lo hi : α} (hx : b ≤ x) (hlo : lo ≤ b) (hhi : b ≤ hi) :
    b ≤ constrain x lo hi := by
  unfold constrain; split_ifs <;> linarith

/-- Under positive saturation the integrator step never increases. -/
theorem rateIntegral_le_of_pos (lib : Libm α) {lim iScaled err dt prev : α} {negSat : Bool}
    (hi : 0 ≤ iScaled) (hdt : 0 ≤ dt) :
    rateIntegral lib lim iScaled err dt prev true negSat ≤ prev := by
  simp only [rateIntegral, ite_true]
  generalize he : (if negSat then max (min err 0) 0 else min err 0) = e
  have herr : e ≤ 0 := by subst he; split_ifs <;> simp
  have hstep : iScaled * e * dt ≤ 0 :=
    mul_nonpos_of_nonpos_of_nonneg (mul_nonpos_of_nonneg_of_nonpos hi herr) hdt
  rcases commitIfInRange_cases lib lim (prev + iScaled * e * dt) prev with ⟨hc, -⟩ | hc <;>
    rw [hc]
  linarith

/-- Under negative saturation the integrator step never decreases. -/
theorem le_rateIntegral_of_neg (lib : Libm α) {lim iScaled err dt prev : α} {posSat : Bool}
    (hi : 0 ≤ iScaled) (hdt : 0 ≤ dt) :
    prev ≤ rateIntegral lib lim iScaled err dt prev posSat true := by
  simp only [rateIntegral, ite_true]
  generalize he : max (if posSat then min err 0 else err) 0 = e
  have hstep : 0 ≤ iScaled * e * dt := mul_nonneg (mul_nonneg hi (he ▸ le_max_right _ _)) hdt
  rcases commitIfInRange_cases lib lim (prev + iScaled * e * dt) prev with ⟨hc, -⟩ | hc <;>
    rw [hc]
  linarith

/-- Conditional anti-windup: when axis `i` is saturated positively the integrator of that axis
does not grow, and when it is saturated negatively it does not shrink (both: it is unchanged),
for every sample, setpoint, thrust, TPA setting and step `dt > 0`, given a nonnegative I gain and
an armed rotary-wing vehicle whose integrator is within its limit. -/
theorem controlAttitudeRates_antiWindup (lib : Libm α) (C : Collab α σ) (s : Ctrl α σ) (dt : α)
    (i : Fin 3) (hint : |s.ratesInt i| ≤ s.gains.rateIntLim i)
    (harmed : s.vControlMode.flagArmed = true) (hrotary : s.vehicleStatus.isRotaryWing = true)
    (hdt : 0 < dt) (hI : 0 ≤ s.gains.rateI i) :
    (s.saturationStatus.pos i = true → (controlAttitudeRates lib C s dt).ratesInt i ≤ s.ratesInt i) ∧
      (s.saturationStatus.neg i = true →
        s.ratesInt i ≤ (controlAttitudeRates lib C s dt).ratesInt i) := by
  have hreset : integratorReset s = false := by simp [integratorReset, harmed, hrotary]
  have hband := abs_le.mp hint
  have hscaled : 0 ≤ s.gains.rateI i *
      pidAttenuations s s.params.tpaBreakpointI s.params.tpaRateI i :=
    mul_nonneg hI (pidAttenuations_pos s _ _ i).le
  simp only [controlAttitudeRates, ratesIntUpdated, hreset, Bool.false_eq_true, ite_false]
  constructor
  · intro hpos
    refine constrain_le_of_le ?_ hband.1 (by linarith)
    split_ifs
    · simp only [hpos, Vec3.emult_apply]; exact rateIntegral_le_of_pos lib hscaled hdt.le
    · exact le_rfl
  · intro hneg
    refine le_constrain_of_le ?_ hband.1 (by linarith)
    split_ifs
    · simp only [hneg, Vec3.emult_apply]; exact le_rateIntegral_of_neg lib hscaled hdt.le
    · exact le_rfl

/-- An armed multicopter above take-off thrust, saturated positively in roll while its roll rate
setpoint is `1 rad/s` above the measured rate, with I gain `1`, limit `1` and a prior roll
integrator of `1/2`: the flag is set, the integrator update runs, and roll does not grow. -/
theorem controlAttitudeRates_antiWindup_saturated :
    let lib : Libm ℚ := { (default : Libm ℚ) with isFinite := fun _ => true }
    let s : Ctrl ℚ Unit := { (default : Ctrl ℚ Unit) with
      gains := { (default : Gains ℚ) with rateI := ![1, 0, 0], rateIntLim := ![1, 1, 1] }
      vControlMode := { (default : VehicleControlMode) with flagArmed := true }
      vehicleStatus := ⟨true, false⟩
      saturationStatus := { (default : SaturationStatus) with rollPos := true }
      thrustSp := 1 / 2, ratesSp := ![1, 0, 0], ratesInt := ![1 / 2, 0, 0] }
    |s.ratesInt 0| ≤ s.gains.rateIntLim 0 ∧ s.vControlMode.flagArmed = true ∧
      s.vehicleStatus.isRotaryWing = true ∧ (0 : ℚ) < 1 / 250 ∧ 0 ≤ s.gains.rateI 0 ∧
      s.saturationStatus.pos 0 = true ∧ minTakeoffThrust < s.thrustSp ∧
      (s.saturationStatus.pos 0 = true →
        (controlAttitudeRates lib default s (1 / 250)).ratesInt 0 ≤ s.ratesInt 0) ∧
      (s.saturationStatus.neg 0 = true →
        s.ratesInt 0 ≤ (controlAttitudeRates lib default s (1 / 250)).ratesInt 0) := by
  intro lib s
  refine ⟨?hint, rfl, rfl, ?hdt, ?hI, rfl, ?hthrust,
    controlAttitudeRates_antiWindup lib default s (1 / 250) 0 ?hint rfl rfl ?hdt ?hI⟩
  case hdt => norm_num
  all_goals with_unfolding_all decide

end McAttControl
