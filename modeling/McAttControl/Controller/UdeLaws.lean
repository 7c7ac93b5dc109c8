import McAttControl.Controller.Ude

/-!
# What the UDE strategies write

Properties of `control_attitude_ude`, `control_attitude_cascade_ude` and `control_attitude_m_ude`
(`src/unnamed/part_000:490–827`) over every state and input.

* None of them writes the yaw torque: after the call `_ude.u_total[2]` is the `_att_control(2)`
  of the `control_attitude_rates` call it makes (`:1231`), and the laws leave `_att_control`.
* `control_attitude_m_ude` resets on the thrust setpoint stored before the call (`:637`) and
  integrates on the one `control_attitude` stores during it (`:713`). At or below the threshold
  the integral is what the reset left: zero only when the previous thrust setpoint was below
  the threshold or the vehicle is disarmed or not rotary-wing, and otherwise frozen.
* The high-pass pseudo-derivative of `control_attitude_ude` (`:766–781`) moves towards a
  constant reference rate `r` with `|r| ≤ 4` by the factor `T / (T + dt)` at every call.
-/

namespace McAttControl

variable {α σ : Type} [LinearOrderedField α]

variable (lib : Libm α) (C : Collab α σ) (s : Ctrl α σ)
  (attSp : Option (VehicleAttitudeSetpoint α)) (dt : α)

/-! ### The yaw channel -/

/-- `control_attitude_rates` ends with `_ude.u_total[2] = _att_control(2)` (`:1231`). -/
theorem controlAttitudeRates_uTotal_two :
    (controlAttitudeRates lib C s dt).ude.uTotal 2 = (controlAttitudeRates lib C s dt).attControl 2 := by
  simp only [controlAttitudeRates, Function.update_same]

/-- A stage that leaves the rate controller's outputs and the yaw torque. -/
structure KeepsYaw (s s' : Ctrl α σ) : Prop where
  attControl : s'.attControl = s.attControl
  uTotalYaw : s'.ude.uTotal 2 = s.ude.uTotal 2

theorem cascadeUdeLaw_keepsYaw : KeepsYaw s (cascadeUdeLaw lib s dt) := ⟨rfl, rfl⟩

theorem mUdeLaw_keepsYaw : KeepsYaw s (mUdeLaw lib C s dt) := ⟨rfl, rfl⟩

theorem pdUdeLaw_keepsYaw : KeepsYaw s (pdUdeLaw lib s dt) := ⟨rfl, rfl⟩

/-- A law that keeps the yaw channel after `control_attitude_rates` leaves that call's yaw
output both as the yaw torque and as `_att_control(2)`. -/
theorem uTotal_two_of_keepsYaw {s₀ s' : Ctrl α σ} (h : KeepsYaw (controlAttitudeRates lib C s₀ dt) s') :
    s'.ude.uTotal 2 = (controlAttitudeRates lib C s₀ dt).attControl 2 ∧
      s'.attControl 2 = (controlAttitudeRates lib C s₀ dt).attControl 2 :=
  ⟨h.uTotalYaw.trans (controlAttitudeRates_uTotal_two lib C s₀ dt), congrFun h.attControl 2⟩

/-- No UDE strategy writes the yaw torque: after each of the three calls `_ude.u_total[2]`
equals the yaw output `_att_control(2)` of the `control_attitude_rates` call made inside it,
which is also the `_att_control(2)` the call leaves. -/
theorem udeVariants_uTotal_two_eq_rate_yaw :
    ((controlAttitudeUde lib C s attSp dt).ude.uTotal 2 =
        (controlAttitudeRates lib C (controlAttitude lib C (resetIntegralUde s) attSp dt) dt).attControl 2 ∧
      (controlAttitudeUde lib C s attSp dt).attControl 2 =
        (controlAttitudeRates lib C (controlAttitude lib C (resetIntegralUde s) attSp dt) dt).attControl 2) ∧
    ((controlAttitudeCascadeUde lib C s attSp dt).ude.uTotal 2 =
        (controlAttitudeRates lib C (controlAttitude lib C (resetIntegralUde s) attSp dt) dt).attControl 2 ∧
      (controlAttitudeCascadeUde lib C s attSp dt).attControl 2 =
        (controlAttitudeRates lib C (controlAttitude lib C (resetIntegralUde s) attSp dt) dt).attControl 2) ∧
    ((controlAttitudeMUde lib C s attSp dt).ude.uTotal 2 =
        (controlAttitudeRates lib C (controlAttitude lib C (resetMotorEstimate s) attSp dt) dt).attControl 2 ∧
      (controlAttitudeMUde lib C s attSp dt).attControl 2 =
        (controlAttitudeRates lib C (controlAttitude lib C (resetMotorEstimate s) attSp dt) dt).attControl 2) :=
  ⟨uTotal_two_of_keepsYaw lib C dt (pdUdeLaw_keepsYaw lib _ dt),
    uTotal_two_of_keepsYaw lib C dt (cascadeUdeLaw_keepsYaw lib _ dt),
    uTotal_two_of_keepsYaw lib C dt (mUdeLaw_keepsYaw lib C _ dt)⟩

/-! ### The reset and the gate of `control_attitude_m_ude` -/

/-- At or below `MIN_TAKEOFF_THRUST` the guarded UDE integrator update changes nothing. -/
theorem udeIntegral_of_le (c : Fin 3 → α) (h : s.ude.thrustSp ≤ minTakeoffThrust) :
    udeIntegral lib s c = s.integralUde :=
  if_neg (not_lt.mpr h)

/-- When the thrust setpoint `control_attitude_m_ude` adopts is at most `MIN_TAKEOFF_THRUST`,
the UDE integral after the call is what the reset at its top left: zero when the thrust
setpoint stored before the call was below `MIN_TAKEOFF_THRUST` or the vehicle is disarmed or not
rotary-wing, and the integral from before the call otherwise. -/
theorem controlAttitudeMUde_integralUde_of_le
    (h : (controlAttitudeMUde lib C s attSp dt).ude.thrustSp ≤ minTakeoffThrust) :
    (controlAttitudeMUde lib C s attSp dt).integralUde =
      if s.ude.thrustSp < minTakeoffThrust ∨ integratorReset s = true then 0 else s.integralUde :=
  udeIntegral_of_le lib _ _ h

/-- An armed rotary-wing vehicle whose thrust setpoint drops from `0.5` to `0` in one call: the
reset reads the stored `0.5` and does not fire, the gate reads the new `0` and does not
integrate, and `integral_ude(0)` stays at `0.5`. -/
theorem controlAttitudeMUde_integral_frozen_below_threshold :
    let s : Ctrl ℚ Unit := { (default : Ctrl ℚ Unit) with
      vControlMode := { (default : VehicleControlMode) with flagArmed := true }
      vehicleStatus := ⟨true, false⟩
      integralUde := ![1 / 2, 1 / 2, 0]
      ude := { (default : UdeStatus ℚ) with thrustSp := 1 / 2 } }
    (controlAttitudeMUde default default s none (1 / 250)).ude.thrustSp ≤ minTakeoffThrust ∧
      (controlAttitudeMUde default default s none (1 / 250)).integralUde 0 = 1 / 2 := by
  intro s
  exact ⟨by with_unfolding_all decide, by with_unfolding_all decide⟩

/-- The same call through the general law: the integral after it is the one before. -/
theorem controlAttitudeMUde_integralUde_of_le_frozen :
    let s : Ctrl ℚ Unit := { (default : Ctrl ℚ Unit) with
      vControlMode := { (default : VehicleControlMode) with flagArmed := true }
      vehicleStatus := ⟨true, false⟩
      integralUde := ![1 / 2, 1 / 2, 0]
      ude := { (default : UdeStatus ℚ) with thrustSp := 1 / 2 } }
    (controlAttitudeMUde default default s none (1 / 250)).ude.thrustSp ≤ minTakeoffThrust ∧
      (controlAttitudeMUde default default s none (1 / 250)).integralUde =
        if s.ude.thrustSp < minTakeoffThrust ∨ integratorReset s = true then 0 else s.integralUde := by
  intro s
  have h : (controlAttitudeMUde default default s none (1 / 250)).ude.thrustSp ≤ minTakeoffThrust := by
    with_unfolding_all decide
  exact ⟨h, controlAttitudeMUde_integralUde_of_le default default s none (1 / 250) h⟩

/-! ### The reference-rate filter of `control_attitude_ude` -/

/-- One step `y ← constrain((T y + ref - last) / (T + dt), -4, 4)` of the filter, with the
reference advanced by `r dt` and `|r| ≤ 4`, moves `y` towards `r` by the factor `T / (T + dt)`:
the step is affine with that slope and fixes `r`, and the clamp fixes `r` too. -/
theorem abs_filterStep_sub_le {T dt r y ref last : α} (hT : 0 ≤ T) (hdt : 0 < dt) (hr : |r| ≤ 4)
    (hadv : ref - last = r * dt) :
    |constrain (1 / (T + dt) * (T * y + ref - last)) (-4) 4 - r| ≤ T / (T + dt) * |y - r| := by
  have hpos : 0 < T + dt := by linarith
  have hfix : constrain r (-4) 4 = r := constrain_of_mem (abs_le.mp hr).1 (abs_le.mp hr).2
  have hlin : 1 / (T + dt) * (T * y + ref - last) - r = T / (T + dt) * (y - r) := by
    obtain rfl : ref = last + r * dt := by linarith
    field_simp
    ring
  calc |constrain (1 / (T + dt) * (T * y + ref - last)) (-4) 4 - r|
      = |constrain (1 / (T + dt) * (T * y + ref - last)) (-4) 4 - constrain r (-4) 4| := by
        rw [hfix]
    _ ≤ |1 / (T + dt) * (T * y + ref - last) - r| := abs_constrain_sub_le (by norm_num)
    _ = T / (T + dt) * |y - r| := by rw [hlin, abs_mul, abs_of_nonneg (div_nonneg hT hpos.le)]

/-- The law of `control_attitude_ude` on roll or pitch: the filter reads the stored previous
rate and reference and the current reference, and the law stores its result and that reference
for the next call; the gains are unchanged. -/
theorem pdUdeLaw_referenceRate {i : Fin 3} (hi : i ≠ 2) :
    (pdUdeLaw lib s dt).ude.attitudeDotRefHpf i =
        constrain (1 / (s.gains.tFilterUde + dt) * (s.gains.tFilterUde * s.attitudeDotSpLast i +
          s.ude.attitudeRef i - s.attitudeSpLast i)) (-4) 4 ∧
      (pdUdeLaw lib s dt).attitudeDotSpLast i = (pdUdeLaw lib s dt).ude.attitudeDotRefHpf i ∧
      (pdUdeLaw lib s dt).attitudeSpLast i = (pdUdeLaw lib s dt).ude.attitudeRef i ∧
      (pdUdeLaw lib s dt).ude.attitudeRef = s.ude.attitudeRef ∧ (pdUdeLaw lib s dt).gains = s.gains := by
  fin_cases i
  · exact ⟨rfl, rfl, rfl, rfl, rfl⟩
  · exact ⟨rfl, rfl, rfl, rfl, rfl⟩
  · exact absurd rfl hi

/-- One call of `control_attitude_ude` on roll or pitch: the filter reads the stored previous
rate and reference and the reference `control_attitude` has just written, and the call stores
its result and that reference for the next call; the gains are unchanged. -/
theorem controlAttitudeUde_referenceRate {i : Fin 3} (hi : i ≠ 2) :
    (controlAttitudeUde lib C s attSp dt).ude.attitudeDotRefHpf i =
        constrain (1 / (s.gains.tFilterUde + dt) * (s.gains.tFilterUde * s.attitudeDotSpLast i +
          (controlAttitudeUde lib C s attSp dt).ude.attitudeRef i - s.attitudeSpLast i)) (-4) 4 ∧
      (controlAttitudeUde lib C s attSp dt).attitudeDotSpLast i =
        (controlAttitudeUde lib C s attSp dt).ude.attitudeDotRefHpf i ∧
      (controlAttitudeUde lib C s attSp dt).attitudeSpLast i =
        (controlAttitudeUde lib C s attSp dt).ude.attitudeRef i ∧
      (controlAttitudeUde lib C s attSp dt).gains = s.gains := by
  obtain ⟨hy, hlast, hsp, href, hg⟩ := pdUdeLaw_referenceRate lib
    (controlAttitudeRates lib C (controlAttitude lib C (resetIntegralUde s) attSp dt) dt) dt hi
  exact ⟨hy.trans (by rw [← href]; rfl), hlast, hsp, hg⟩

theorem controlAttitudeRates_attitudeRef :
    (controlAttitudeRates lib C s dt).ude.attitudeRef = s.ude.attitudeRef := rfl

/-- Outside platform mode `control_attitude` takes the setpoint's Euler angles as the
reference. -/
theorem controlAttitude_attitudeRef (h : s.gains.usePlatform ≠ 1) :
    (controlAttitude lib C s attSp dt).ude.attitudeRef =
      eulerOfQuat lib (Quatf.ofArray (pollCopy attSp s.vAttSp).qD) := by
  simp only [controlAttitude, referenceInput, vehicleAttitudeSetpointPoll, if_neg h]

/-- Outside platform mode the reference of a `control_attitude_ude` call is the Euler angles of
the setpoint it polls. -/
theorem controlAttitudeUde_attitudeRef (h : s.gains.usePlatform ≠ 1) :
    (controlAttitudeUde lib C s attSp dt).ude.attitudeRef =
      eulerOfQuat lib (Quatf.ofArray (pollCopy attSp s.vAttSp).qD) :=
  ((pdUdeLaw_referenceRate lib _ dt (i := 0) (by decide)).2.2.2.1.trans
    (controlAttitudeRates_attitudeRef lib C _ dt)).trans
    (controlAttitude_attitudeRef lib C (resetIntegralUde s) attSp dt h)

/-- Over consecutive calls of `control_attitude_ude` with `dt > 0` and a nonnegative
`T_filter_ude`, on roll or pitch, where the reference advances by `r dt` between calls for a
fixed `|r| ≤ 4`: every call after the first brings the pseudo-derivative towards `r` by the
factor `T / (T + dt)`, so its distance to `r` is at most the product of those factors times the
first call's distance, and once it equals `r` it stays there. -/
theorem controlAttitudeUde_referenceRate_contracts (s : ℕ → Ctrl α σ)
    (attSp : ℕ → Option (VehicleAttitudeSetpoint α)) (dt : ℕ → α)
    (hs : ∀ k, s (k + 1) = controlAttitudeUde lib C (s k) (attSp k) (dt k))
    (hT : 0 ≤ (s 0).gains.tFilterUde) (hdt : ∀ k, 0 < dt k) {i : Fin 3} (hi : i ≠ 2) {r : α}
    (hr : |r| ≤ 4)
    (hadv : ∀ k, (s (k + 2)).ude.attitudeRef i - (s (k + 1)).ude.attitudeRef i = r * dt (k + 1)) :
    (∀ k, |(s (k + 2)).ude.attitudeDotRefHpf i - r| ≤
        (s 0).gains.tFilterUde / ((s 0).gains.tFilterUde + dt (k + 1)) *
          |(s (k + 1)).ude.attitudeDotRefHpf i - r|) ∧
      (∀ k, |(s (k + 1)).ude.attitudeDotRefHpf i - r| ≤
        (∏ j in Finset.range k, (s 0).gains.tFilterUde / ((s 0).gains.tFilterUde + dt (j + 1))) *
          |(s 1).ude.attitudeDotRefHpf i - r|) ∧
      (∀ k, (s (k + 1)).ude.attitudeDotRefHpf i = r → (s (k + 2)).ude.attitudeDotRefHpf i = r) := by
  have hcall := fun k => controlAttitudeUde_referenceRate lib C (s k) (attSp k) (dt k) hi
  have hgains : ∀ k, (s k).gains = (s 0).gains := by
    intro k
    induction k with
    | zero => rfl
    | succ k ih => rw [hs k, (hcall k).2.2.2, ih]
  have hstep : ∀ k, |(s (k + 2)).ude.attitudeDotRefHpf i - r| ≤
      (s 0).gains.tFilterUde / ((s 0).gains.tFilterUde + dt (k + 1)) *
        |(s (k + 1)).ude.attitudeDotRefHpf i - r| := by
    intro k
    obtain ⟨hy, -, -, -⟩ := hcall (k + 1)
    obtain ⟨-, hlast, hsp, -⟩ := hcall k
    rw [← hs (k + 1)] at hy
    rw [← hs k] at hlast hsp
    rw [hy, ← hlast, hgains (k + 1)]
    refine abs_filterStep_sub_le hT (hdt (k + 1)) hr ?_
    rw [hsp]; exact hadv k
  refine ⟨hstep, fun k => ?_, fun k hk => ?_⟩
  · induction k with
    | zero => simp
    | succ k ih =>
      have hf : 0 ≤ (s 0).gains.tFilterUde / ((s 0).gains.tFilterUde + dt (k + 1)) :=
        div_nonneg hT (by linarith [hdt (k + 1)])
      calc |(s (k + 2)).ude.attitudeDotRefHpf i - r|
          ≤ (s 0).gains.tFilterUde / ((s 0).gains.tFilterUde + dt (k + 1)) *
              |(s (k + 1)).ude.attitudeDotRefHpf i - r| := hstep k
        _ ≤ (s 0).gains.tFilterUde / ((s 0).gains.tFilterUde + dt (k + 1)) *
              ((∏ j in Finset.range k,
                (s 0).gains.tFilterUde / ((s 0).gains.tFilterUde + dt (j + 1))) *
                |(s 1).ude.attitudeDotRefHpf i - r|) := mul_le_mul_of_nonneg_left ih hf
        _ = _ := by rw [Finset.prod_range_succ]; ring
  · have h := hstep k
    rw [hk, sub_self, abs_zero, mul_zero] at h
    exact sub_eq_zero.mp (abs_nonpos_iff.mp h)

/-- A run with `T_filter_ude = 1/50` at 250 Hz, outside platform mode, from a state whose stored
pseudo-derivative is `1 rad/s`, with the same level setpoint at every call: the reference is
constant, so `r = 0`, and every call shrinks the distance to it by the factor `5/6`. -/
theorem controlAttitudeUde_referenceRate_contracts_level :
    let sp : VehicleAttitudeSetpoint ℚ := { (default : VehicleAttitudeSetpoint ℚ) with
      qD := ![1, 0, 0, 0] }
    let s₀ : Ctrl ℚ Unit := { (default : Ctrl ℚ Unit) with
      gains := { (default : Gains ℚ) with tFilterUde := 1 / 50 }, attitudeDotSpLast := ![1, 0, 0] }
    let s : ℕ → Ctrl ℚ Unit := fun k =>
      (fun t => controlAttitudeUde default default t (some sp) (1 / 250))^[k] s₀
    (∀ k, s (k + 1) = controlAttitudeUde default default (s k) (some sp) (1 / 250)) ∧
      0 ≤ (s 0).gains.tFilterUde ∧ (∀ _k : ℕ, (0 : ℚ) < 1 / 250) ∧ (0 : Fin 3) ≠ 2 ∧
      |(0 : ℚ)| ≤ 4 ∧
      (∀ k, (s (k + 2)).ude.attitudeRef 0 - (s (k + 1)).ude.attitudeRef 0 = 0 * (1 / 250)) ∧
      (s 0).gains.tFilterUde / ((s 0).gains.tFilterUde + 1 / 250) = 5 / 6 ∧
      (s 0).attitudeDotSpLast 0 = 1 ∧
      ((∀ k, |(s (k + 2)).ude.attitudeDotRefHpf 0 - 0| ≤
          (s 0).gains.tFilterUde / ((s 0).gains.tFilterUde + 1 / 250) *
            |(s (k + 1)).ude.attitudeDotRefHpf 0 - 0|) ∧
        (∀ k, |(s (k + 1)).ude.attitudeDotRefHpf 0 - 0| ≤
          (∏ _j in Finset.range k, (s 0).gains.tFilterUde / ((s 0).gains.tFilterUde + 1 / 250)) *
            |(s 1).ude.attitudeDotRefHpf 0 - 0|) ∧
        (∀ k, (s (k + 1)).ude.attitudeDotRefHpf 0 = 0 → (s (k + 2)).ude.attitudeDotRefHpf 0 = 0)) := by
  intro sp s₀ s
  have hs : ∀ k, s (k + 1) = controlAttitudeUde default default (s k) (some sp) (1 / 250) :=
    fun k => Function.iterate_succ_apply' _ k _
  have hgains : ∀ k, (s k).gains = s₀.gains := by
    intro k
    induction k with
    | zero => rfl
    | succ k ih =>
      rw [hs k, (controlAttitudeUde_referenceRate default default (s k) (some sp) (1 / 250)
        (i := 0) (by decide)).2.2.2, ih]
  have href : ∀ k, (s (k + 1)).ude.attitudeRef = eulerOfQuat default (Quatf.ofArray sp.qD) :=
    fun k => by
      rw [hs k, controlAttitudeUde_attitudeRef default default (s k) (some sp) (1 / 250)
        (by rw [hgains k]; decide), pollCopy_some]
  have hadv : ∀ k, (s (k + 2)).ude.attitudeRef 0 - (s (k + 1)).ude.attitudeRef 0 = 0 * (1 / 250) :=
    fun k => by rw [href (k + 1), href k]; ring
  have hT : 0 ≤ (s 0).gains.tFilterUde := by norm_num [s, s₀]
  exact ⟨hs, hT, fun _ => by norm_num, by decide, by norm_num, hadv, by norm_num [s, s₀], rfl,
    controlAttitudeUde_referenceRate_contracts default default s (fun _ => some sp)
      (fun _ => 1 / 250) hs hT (fun _ => by norm_num) (by decide) (by norm_num) hadv⟩

end McAttControl
