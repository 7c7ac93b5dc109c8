import McAttControl.Controller.AttitudeLaw
import McAttControl.Controller.RateControl

/-!
# The UDE controllers

The three uncertainty-and-disturbance-estimation strategies that replace the roll and pitch
torque of the PID path: `control_attitude_cascade_ude` (`src/unnamed/part_000:490–544`),
`control_attitude_m_ude` (`:634–743`) and `control_attitude_ude` (`:752–827`). Each first resets
its integrator when disarmed, runs `control_attitude` and `control_attitude_rates` (which keeps
the yaw channel), then writes roll and pitch only.
-/

namespace McAttControl

variable {α σ : Type} [LinearOrderedField α]

/-- The roll/pitch integrator update shared by the three strategies: above
`MIN_TAKEOFF_THRUST`, the guarded Euler step to `candidate i` on axes 0 and 1. -/
def udeIntegral (lib : Libm α) (s : Ctrl α σ) (candidate : Fin 3 → α) : Fin 3 → α :=
  if minTakeoffThrust < s.ude.thrustSp then
    rollPitch (fun i => commitIfInRange lib (s.integralLimitUde i) (candidate i) (s.integralUde i))
      s.integralUde
  else s.integralUde

/-- `if (!_v_control_mode.flag_armed || !_vehicle_status.is_rotary_wing) integral_ude.zero();`,
the reset at the top of the cascade and PD+UDE strategies. -/
def resetIntegralUde (s : Ctrl α σ) : Ctrl α σ :=
  { s with integralUde := if integratorReset s then 0 else s.integralUde }

/-- The law of `control_attitude_cascade_ude` after its calls of `control_attitude` and
`control_attitude_rates` (`:503–543`): torque = inertia times reference acceleration plus `Kp`
times the rate error minus the clamped uncertainty estimate. At `T_ude(i) = 0` the code's
estimate is a signed infinity, which the clamp takes to a limit, or NaN; the model divides as
`x / 0 = 0`. The theorems read `u_d` and `u_total[0..1]` only through the `PX4_ISFINITE` guards and
the mixer's clamps, which bound what is published in the code as well. -/
def cascadeUdeLaw (lib : Libm α) (s : Ctrl α σ) (dt : α) : Ctrl α σ :=
  let u := s.ude
  let g := s.gains
  let err := fun i => u.attitudeDotRef i - u.attitudeRateNow i
  let ff := fun i => s.iQuadrotor i * u.attitudeDdotRef i
  let uLKp := fun i => g.kpUde i * err i
  let uD := fun i => constrain (s.iQuadrotor i / g.tUde i * err i + 1 / g.tUde i * s.integralUde i)
    (-s.integralLimitUde i) (s.integralLimitUde i)
  { s with
    integralUde := udeIntegral lib s (fun i => s.integralUde i - g.kpUde i * err i * dt)
    ude := { u with
      errorAttitudeRate := err
      feedforward := rollPitch ff u.feedforward
      uLKp := rollPitch uLKp u.uLKp
      uD := rollPitch uD u.uD
      uTotal := rollPitch (fun i => ff i + uLKp i - uD i) u.uTotal } }

/-- `control_attitude_cascade_ude(dt)`. -/
def controlAttitudeCascadeUde (lib : Libm α) (C : Collab α σ) (s : Ctrl α σ)
    (attSp : Option (VehicleAttitudeSetpoint α)) (dt : α) : Ctrl α σ :=
  cascadeUdeLaw lib (controlAttitudeRates lib C (controlAttitude lib C (resetIntegralUde s) attSp dt) dt) dt

/-- The per-axis filter states and estimates of `control_attitude_m_ude` (`:673–693`). -/
structure MotorEstimate (α σ : Type) where
  lpfDelay : LPFwithDelay α
  torqueEst : α
  hpf : σ
  lpf : σ
  hpf2 : σ
  bpf : σ
  f1Est : α
  f1DotEst : α
  f2Est : α
  fEst : α
  f2 : α

/-- One roll/pitch axis `k` of the motor-dynamics estimation: the delayed low-pass of the last
command as realised torque, high-pass and band-pass disturbance parts, and the integral term.
`f2_est` divides by `T_torque`; at `T_torque = 0` the code's value is infinite or NaN and the model
divides as `x / 0 = 0`, as for `u_d` in `cascadeUdeLaw`. -/
def motorEstimate (C : Collab α σ) (s : Ctrl α σ) (dt : α) (k : Fin 2) : MotorEstimate α σ :=
  let i := Fin.castSucc k
  let u := s.ude
  let d := C.delayUpdate (s.lpfDelay k) (u.uTotal i) dt
  let torqueEst := d.2
  let h := C.hpfUpdate (s.hpf k) (u.attitudeRateNow i) dt
  let l := C.lpfUpdate (s.lpf k) torqueEst dt
  let h2 := C.hpf2Update (s.hpf2 k) (u.attitudeRateNow i) dt
  let b := C.bpfUpdate (s.bpf k) torqueEst dt
  let f1Est := s.iQuadrotor i * h.2 - l.2
  let f1DotEst := s.iQuadrotor i * h2.2 - b.2
  let f2Est := 1 / s.gains.tTorque * torqueEst +
    1 / (s.gains.tTorque * motorAlpha) * s.integralUde i
  ⟨d.1, torqueEst, h.1, l.1, h2.1, b.1, f1Est, f1DotEst, f2Est,
    motorAlpha * f2Est + f1Est + motorAlpha * f1DotEst,
    1 / motorAlpha * (u.uTotal i - C.delayGetDelayOutput d.1)⟩

/-- The roll/pitch entries of a per-axis estimate field, keeping the yaw entry `old 2`. -/
def MotorEstimate.axes (e : Fin 2 → MotorEstimate α σ) (field : MotorEstimate α σ → α)
    (old : Fin 3 → α) : Fin 3 → α :=
  ![field (e 0), field (e 1), old 2]

/-- The reset at the top of `control_attitude_m_ude` (`:637–661`): below `MIN_TAKEOFF_THRUST` (the
thrust logged by the previous call) or disarmed, zero the integral and the estimates. -/
def resetMotorEstimate (s : Ctrl α σ) : Ctrl α σ :=
  let reset := s.ude.thrustSp < minTakeoffThrust ∨ integratorReset s
  { s with
    integralUde := if reset then 0 else s.integralUde
    ude := if reset then
      { s.ude with torqueEst := 0, f1Est := 0, f1DotEst := 0, f2Est := 0, fEst := 0 }
      else s.ude }

/-- The law of `control_attitude_m_ude` after its calls of `control_attitude` and
`control_attitude_rates` (`:668–742`): UDE with first-order motor dynamics. -/
def mUdeLaw (lib : Libm α) (C : Collab α σ) (s : Ctrl α σ) (dt : α) : Ctrl α σ :=
  let u := s.ude
  let g := s.gains
  let e := motorEstimate C s dt
  let err := fun i => u.attitudeDotRef i - u.attitudeRateNow i
  let torqueRef := fun i => s.iQuadrotor i * u.attitudeDdotRef i
  let torqueEst := MotorEstimate.axes e MotorEstimate.torqueEst u.torqueEst
  let f1Est := MotorEstimate.axes e MotorEstimate.f1Est u.f1Est
  let f1DotEst := MotorEstimate.axes e MotorEstimate.f1DotEst u.f1DotEst
  let fEst := MotorEstimate.axes e MotorEstimate.fEst u.fEst
  let ff := fun i => s.iQuadrotor i * (u.attitudeDdotRef i + motorAlpha * u.attitudeDddotRef i)
  let uLKp := fun i => g.kpUde i * u.errorAttitude i
  let uLKd := fun i => g.kdUde i * err i
  let uLKm := fun i => g.kmUde i * (torqueRef i - torqueEst i)
  let uD := fun i => g.kmUde i * f1Est i + fEst i
  let printTime := s.printTime + dt
  { s with
    integralUde := udeIntegral lib s (fun i => s.integralUde i + dt * (torqueEst i - ff i -
      uLKp i - uLKd i - uLKm i + (g.kmUde i + 1) * f1Est i + motorAlpha * f1DotEst i))
    lpfDelay := fun k => (e k).lpfDelay
    hpf := fun k => (e k).hpf
    lpf := fun k => (e k).lpf
    hpf2 := fun k => (e k).hpf2
    bpf := fun k => (e k).bpf
    printTime
    lastPrintTime := if 5 < printTime - s.lastPrintTime then printTime else s.lastPrintTime
    ude := { u with
      errorAttitudeRate := err
      torqueRef := rollPitch torqueRef u.torqueRef
      torqueEst, f1Est, f1DotEst, fEst
      f2Est := MotorEstimate.axes e MotorEstimate.f2Est u.f2Est
      f2 := MotorEstimate.axes e MotorEstimate.f2 u.f2
      feedforward := rollPitch ff u.feedforward
      uLKp := rollPitch uLKp u.uLKp
      uLKd := rollPitch uLKd u.uLKd
      uLKm := rollPitch uLKm u.uLKm
      uD := rollPitch uD u.uD
      uTotal := rollPitch (fun i => ff i + uLKp i + uLKd i + uLKm i - uD i) u.uTotal } }

/-- `control_attitude_m_ude(dt)`. -/
def controlAttitudeMUde (lib : Libm α) (C : Collab α σ) (s : Ctrl α σ)
    (attSp : Option (VehicleAttitudeSetpoint α)) (dt : α) : Ctrl α σ :=
  mUdeLaw lib C (controlAttitudeRates lib C (controlAttitude lib C (resetMotorEstimate s) attSp dt) dt) dt

/-- The high-pass pseudo-derivative of the reference attitude (`:766–779`): a first-order
filter of the reference increment, limited to `±4 rad/s`, on roll and pitch. -/
def referenceRateFilter (s : Ctrl α σ) (dt : α) : Fin 3 → α :=
  rollPitch (fun i => constrain (1 / (s.gains.tFilterUde + dt) * (s.gains.tFilterUde *
    s.attitudeDotSpLast i + s.ude.attitudeRef i - s.attitudeSpLast i)) (-4) 4)
    s.ude.attitudeDotRefHpf

/-- The law of `control_attitude_ude` after its calls of `control_attitude` and
`control_attitude_rates` (`:766–826`): PD plus UDE, with the rate reference either as supplied
(`switch_td == 0`) or from the high-pass filter (`switch_td == 1`). `u_d` divides by `T_ude` as in
`cascadeUdeLaw`, with the same reading at `T_ude(i) = 0`. -/
def pdUdeLaw (lib : Libm α) (s : Ctrl α σ) (dt : α) : Ctrl α σ :=
  let u := s.ude
  let g := s.gains
  let hpf := referenceRateFilter s dt
  let err := fun i =>
    if g.switchTd = 0 then u.attitudeDotRef i - u.attitudeRateNow i
    else if g.switchTd = 1 then hpf i - u.attitudeRateNow i
    else u.errorAttitudeRate i
  let ff := fun i => s.iQuadrotor i * u.attitudeDdotRef i
  let uLKp := fun i => g.kpUde i * u.errorAttitude i
  let uLKd := fun i => g.kdUde i * err i
  let uD := fun i => constrain (s.iQuadrotor i / g.tUde i * err i + 1 / g.tUde i * s.integralUde i)
    (-s.integralLimitUde i) (s.integralLimitUde i)
  { s with
    integralUde := udeIntegral lib s
      (fun i => s.integralUde i - dt * (ff i + g.kpUde i * u.errorAttitude i + g.kdUde i * err i))
    attitudeSpLast := rollPitch u.attitudeRef s.attitudeSpLast
    attitudeDotSpLast := hpf
    ude := { u with
      attitudeDotRefHpf := hpf
      errorAttitudeRate := err
      feedforward := rollPitch ff u.feedforward
      uLKp := rollPitch uLKp u.uLKp
      uLKd := rollPitch uLKd u.uLKd
      uD := rollPitch uD u.uD
      uTotal := rollPitch (fun i => ff i + uLKp i + uLKd i - uD i) u.uTotal } }

/-- `control_attitude_ude(dt)`. -/
def controlAttitudeUde (lib : Libm α) (C : Collab α σ) (s : Ctrl α σ)
    (attSp : Option (VehicleAttitudeSetpoint α)) (dt : α) : Ctrl α σ :=
  pdUdeLaw lib (controlAttitudeRates lib C (controlAttitude lib C (resetIntegralUde s) attSp dt) dt) dt

end McAttControl
