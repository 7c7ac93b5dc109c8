import McAttControl.Loop.Termination
import McAttControl.Controller.UdeLaws

/-!
# The yaw channel of the UDE dispatch

With `switch_ude` in `{1, 2, 3}` the loop runs one strategy and, with `switch_mixer == 0`,
copies `_ude.u_total` into `control[0..2]`, each behind `PX4_ISFINITE(x) ? x : 0.0f`, then scales
`control[0..3]` by the battery when enabled and publishes (`src/unnamed/part_000:1344–1419`).
Outside platform mode nothing touches `u_total[2]` on the way, so the published `control[2]`
is the yaw output of the iteration's `control_attitude_rates`, when finite, times the scale.
-/

namespace McAttControl

variable {α σ : Type} [LinearOrderedField α]

/-- The battery factor `finishActuators` applies to `control[0..3]`. -/
def batteryFactor (s : Ctrl α σ) : α :=
  if s.params.batScaleEn ≠ 0 ∧ 0 < s.batteryStatus.scale then s.batteryStatus.scale else 1

/-- The landing gear write leaves `control[0..3]`, which the battery factor scales. -/
theorem finishActuators_control (s : Ctrl α σ) (a : ActuatorControls α) {i : Fin 8}
    (hi : i.val < 4) : (finishActuators s a).control i = a.control i * batteryFactor s := by
  have h7 : i ≠ 7 := fun h => by subst h; exact absurd hi (by decide)
  unfold finishActuators batteryFactor
  split_ifs <;> simp [ActuatorControls.scaleMain, hi, Function.update_noteq h7]

variable (lib : Libm α) (C : Collab α σ) (s : Ctrl α σ) (b : Bus α) (dt : α)

/-- A strategy that runs leaves as yaw torque the `_att_control(2)` it leaves. -/
theorem udeStrategy_uTotal_two (attSp : Option (VehicleAttitudeSetpoint α))
    (hrun : udeStrategyRuns s = true) :
    (udeStrategy lib C s attSp dt).ude.uTotal 2 = (udeStrategy lib C s attSp dt).attControl 2 := by
  obtain ⟨h1, h2, h3⟩ := udeVariants_uTotal_two_eq_rate_yaw lib C s attSp dt
  unfold udeStrategy
  split_ifs with hs1 hs2 hs3
  · exact h1.1.trans h1.2.symm
  · exact h2.1.trans h2.2.symm
  · exact h3.1.trans h3.2.symm
  · simp [udeStrategyRuns, hs1, hs2, hs3] at hrun

/-- In a UDE iteration with `switch_mixer == 0` outside platform mode, every actuator command the
dispatch publishes carries as `control[2]` the strategy's yaw output when finite, times the
battery factor. -/
theorem controlBranch_command_yaw (hrun : udeStrategyRuns s = true) (hmix : s.gains.switchMixer = 0)
    (hplat : s.gains.usePlatform ≠ 1) :
    ∀ a ∈ actuatorCommands (controlBranch lib C s b dt).2,
      a.control 2 = finiteOrZero lib ((udeStrategy lib C s b.vehicleAttitudeSetpoint dt).attControl 2) *
        batteryFactor (udeStrategy lib C s b.vehicleAttitudeSetpoint dt) := by
  intro a ha
  have hude : s.gains.switchUde ≠ 0 := fun h => by simp [udeStrategyRuns, h] at hrun
  set s₁ := udeStrategy lib C s b.vehicleAttitudeSetpoint dt with hs₁
  have hg : s₁.gains = s.gains := (udeStrategy_keepsConfig lib C s dt b.vehicleAttitudeSetpoint).gains
  have hpz : platformZeroTorque s₁ = s₁ := if_neg (by rw [hg]; exact hplat)
  have hmix₁ : s₁.gains.switchMixer = 0 := by rw [hg]; exact hmix
  have hyaw : s₁.ude.uTotal 2 = s₁.attControl 2 :=
    udeStrategy_uTotal_two lib C s dt b.vehicleAttitudeSetpoint hrun
  simp only [controlBranch, if_pos hude, udeBranch, hpz, ← hs₁, hmix₁, if_true,
    actuatorCommands_append, actuatorCommands_nil, List.nil_append,
    actuatorCommands_publishActuators] at ha
  split_ifs at ha
  · rw [List.mem_singleton] at ha
    subst ha
    rw [finishActuators_control _ _ (by decide), ← hyaw]
    rfl
  · simp at ha

/-- No UDE strategy writes the yaw torque: after each of the three calls `_ude.u_total[2]` is the
`_att_control(2)` of the `control_attitude_rates` call made inside it, which the call also
leaves. So in a UDE iteration (`switch_ude` in `{1, 2, 3}`) with `switch_mixer == 0` outside
platform mode, every actuator command the dispatch publishes has as `control[2]` that yaw output
when it is finite and `0` otherwise, times the battery scale when enabled. -/
theorem udeVariants_yaw_and_dispatch_command (attSp : Option (VehicleAttitudeSetpoint α)) :
    (((controlAttitudeUde lib C s attSp dt).ude.uTotal 2 =
        (controlAttitudeRates lib C (controlAttitude lib C (resetIntegralUde s) attSp dt) dt).attControl 2 ∧
      (controlAttitudeUde lib C s attSp dt).attControl 2 =
        (controlAttitudeRates lib C (controlAttitude lib C (resetIntegralUde s) attSp dt) dt).attControl 2) ∧
    ((controlAttitudeCascadeUde lib C s attSp dt).ude.uTotal 2 =
        (controlAttitudeRates lib C (controlAttitude lib C (resetIntegralUde s) attSp dt) dt).attControl 2 ∧
      (controlAttitudeCascadeUde lib C s attSp dt).attControl 2 =
        (controlAttitudeRates lib C (controlAttitude lib C (resetIntegralUde s) attSp dt) dt).attControl 2) ∧
    ((controlAttitudeMUde lib C s attSp dt).ude.uTotal 2 =
        (controlAttitudeRates lib C (controlAttitude lib C (resetMotorEstimate s) attSp dt) dt).attControl 2 ∧
      (controlAttitudeMUde lib C s attSp dt).attControl 2 =
        (controlAttitudeRates lib C (controlAttitude lib C (resetMotorEstimate s) attSp dt) dt).attControl 2)) ∧
    (udeStrategyRuns s = true → s.gains.switchMixer = 0 → s.gains.usePlatform ≠ 1 →
      ∀ a ∈ actuatorCommands (controlBranch lib C s b dt).2,
        a.control 2 = finiteOrZero lib ((udeStrategy lib C s b.vehicleAttitudeSetpoint dt).attControl 2) *
          batteryFactor (udeStrategy lib C s b.vehicleAttitudeSetpoint dt)) :=
  ⟨udeVariants_uTotal_two_eq_rate_yaw lib C s attSp dt, controlBranch_command_yaw lib C s b dt⟩

/-- With `PX4_ISFINITE` read as `|x| ≤ FLT_MAX`, a UDE iteration whose rate-loop yaw output
lies beyond the float range publishes `control[2] = 0`, not that output: an armed rotary-wing
vehicle with `switch_ude = 1`, `switch_mixer = 0`, battery scaling off, no rate gains but the
integrator, and a stored yaw rate integral of `10^39`. -/
theorem ude_iteration_publishes_zero_for_nonfinite_yaw :
    let lib : Libm ℚ := { (default : Libm ℚ) with
      isFinite := fun x => decide (|x| ≤ 340282346638528859811704183484516925440) }
    let s : Ctrl ℚ Unit := { (default : Ctrl ℚ Unit) with
      gains := { (default : Gains ℚ) with switchUde := 1 }
      vControlMode := { (default : VehicleControlMode) with flagArmed := true }
      vehicleStatus := ⟨true, false⟩
      ratesInt := ![0, 0, 10 ^ 39]
      actuators0Pub := true }
    udeStrategyRuns s = true ∧ s.gains.switchMixer = 0 ∧ s.gains.usePlatform ≠ 1 ∧
      s.params.batScaleEn = 0 ∧
      (udeStrategy lib default s none (1 / 250)).attControl 2 = 10 ^ 39 ∧
      (actuatorCommands (controlBranch lib default s Bus.empty (1 / 250)).2).map
        (fun a => a.control 2) = [0] := by
  intro lib s
  set s₁ := controlAttitude lib default (resetIntegralUde s) none (1 / 250)
  have hcfg : KeepsConfig s s₁ :=
    (resetIntegralUde_keepsConfig s).trans (controlAttitude_keepsConfig lib default _ _ none)
  have hreset : integratorReset s₁ = false := by
    unfold integratorReset; rw [hcfg.vControlMode, hcfg.vehicleStatus]; rfl
  have hint : s₁.ratesInt 2 = 10 ^ 39 := by
    rw [controlAttitude_ratesInt]; rfl
  have hyaw : (udeStrategy lib default s none (1 / 250)).attControl 2 = 10 ^ 39 := by
    rw [udeStrategy, if_pos rfl, (udeVariants_uTotal_two_eq_rate_yaw lib default s none _).1.2,
      controlAttitudeRates_attControl_of_gains_zero _ _ _ _ (by rw [hcfg.gains]; rfl)
        (by rw [hcfg.gains]; rfl) (by rw [hcfg.gains]; rfl), hreset, if_neg Bool.false_ne_true, hint]
  have hlen : (actuatorCommands (controlBranch lib default s Bus.empty (1 / 250)).2).length = 1 := by
    with_unfolding_all decide
  obtain ⟨a, ha⟩ := List.length_eq_one.mp hlen
  have hcmd := controlBranch_command_yaw lib default s Bus.empty (1 / 250) rfl rfl (by decide) a
    (ha ▸ List.mem_singleton_self a)
  have hover : finiteOrZero lib (10 ^ 39) = 0 := by with_unfolding_all decide
  refine ⟨rfl, rfl, by decide, rfl, hyaw, ?_⟩
  rw [ha, List.map_singleton, hcmd, show (Bus.empty : Bus ℚ).vehicleAttitudeSetpoint = none from rfl,
    hyaw, hover, zero_mul]

/-- The same controller through the general theorem: the command it publishes carries the
guarded yaw output. -/
theorem udeVariants_yaw_and_dispatch_command_overflow :
    let lib : Libm ℚ := { (default : Libm ℚ) with
      isFinite := fun x => decide (|x| ≤ 340282346638528859811704183484516925440) }
    let s : Ctrl ℚ Unit := { (default : Ctrl ℚ Unit) with
      gains := { (default : Gains ℚ) with switchUde := 1 }
      vControlMode := { (default : VehicleControlMode) with flagArmed := true }
      vehicleStatus := ⟨true, false⟩
      ratesInt := ![0, 0, 10 ^ 39]
      actuators0Pub := true }
    udeStrategyRuns s = true ∧ s.gains.switchMixer = 0 ∧ s.gains.usePlatform ≠ 1 ∧
      ∀ a ∈ actuatorCommands (controlBranch lib default s Bus.empty (1 / 250)).2,
        a.control 2 = finiteOrZero lib
          ((udeStrategy lib default s Bus.empty.vehicleAttitudeSetpoint (1 / 250)).attControl 2) *
          batteryFactor (udeStrategy lib default s Bus.empty.vehicleAttitudeSetpoint (1 / 250)) := by
  intro lib s
  have hrun : udeStrategyRuns s = true := rfl
  have hmix : s.gains.switchMixer = 0 := rfl
  have hplat : s.gains.usePlatform ≠ 1 := by decide
  exact ⟨hrun, hmix, hplat,
    (udeVariants_yaw_and_dispatch_command lib default s Bus.empty (1 / 250) none).2 hrun hmix hplat⟩

end McAttControl
