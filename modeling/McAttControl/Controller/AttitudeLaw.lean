import McAttControl.Controller.State

/-!
# The attitude law: `control_attitude`

`MulticopterAttitudeControl::control_attitude(dt)` (`src/unnamed/part_000:835–1088`), cut into
the pieces it computes in sequence: the yaw weight (`:840–844`), the platform-mode reference
generator (`:868–984`), the reduced and yaw-blended desired attitude (`:986–1012`), the
quaternion error law (`:1014–1021`), the yaw feed-forward (`:1032–1034`), the rate limits
(`:1037–1046`), the VTOL weather-vane clamp (`:1049–1059`), the platform override
(`:1063–1069`) and the `_ude` log (`:1071–1083`).
-/

namespace McAttControl

variable {α σ : Type} [LinearOrderedField α]

/-- `yaw_w`: the yaw gain over the mean roll/pitch gain, clamped to `[0, 1]`. At a zero mean
roll/pitch gain the code's quotient is `+inf` or `-inf` by the sign of the yaw gain, which the
clamp takes to `1` or `0`; `0.f / 0.f` is NaN, which the clamp passes on and which the model does
not carry (it gives `0` there). -/
def yawWeight (attitudeP : Fin 3 → α) : α :=
  let rollPitchGain := (attitudeP 0 + attitudeP 1) / 2
  if rollPitchGain = 0 then (if 0 < attitudeP 2 then 1 else 0)
  else constrain (attitudeP 2 / rollPitchGain) 0 1

theorem yawWeight_of_ne {attitudeP : Fin 3 → α} (h : (attitudeP 0 + attitudeP 1) / 2 ≠ 0) :
    yawWeight attitudeP = constrain (attitudeP 2 / ((attitudeP 0 + attitudeP 1) / 2)) 0 1 :=
  if_neg h

/-- `attitude_gain`: the attitude gains with the yaw gain replaced by the roll/pitch mean. -/
def attitudeGain (attitudeP : Fin 3 → α) : Fin 3 → α :=
  ![attitudeP 0, attitudeP 1, (attitudeP 0 + attitudeP 1) / 2]

/-- The yaw weight always lies in `[0, 1]`. -/
theorem yawWeight_mem (attitudeP : Fin 3 → α) :
    0 ≤ yawWeight attitudeP ∧ yawWeight attitudeP ≤ 1 := by
  dsimp only [yawWeight]; split_ifs
  exacts [⟨zero_le_one, le_rfl⟩, ⟨le_rfl, zero_le_one⟩, constrain_mem zero_le_one]

/-! ### Reduced and blended desired attitude -/

/-- The fallback test of `:995`: a reduced attitude with an `x` or `y` component within `1e-5`
of a unit is replaced by the full desired attitude. -/
def IsAntipodal (qdRed : Quatf α) : Prop :=
  1 - 1 / 100000 < |qdRed.x| ∨ 1 - 1 / 100000 < |qdRed.y|

instance (qdRed : Quatf α) : Decidable (IsAntipodal qdRed) :=
  inferInstanceAs (Decidable (_ ∨ _))

/-- `qd_red` (`:989–1000`): the shortest rotation from the current to the desired thrust axis,
composed with the current attitude, unless the antipodal fallback takes `qd` itself. -/
def reducedAttitude (lib : Libm α) (q qd : Quatf α) : Quatf α :=
  let qdRed := Quatf.ofVectors lib q.dcmZ qd.dcmZ
  if IsAntipodal qdRed then qd else qdRed * q

/-- `q_mix` (`:1003–1007`): the rotation from the reduced to the full desired attitude, with a
nonnegative scalar part, its `acosf`/`asinf` arguments clamped to `[-1, 1]`. -/
def mixQuaternion (qdRed qd : Quatf α) : Quatf α :=
  let qMix := qdRed.inversed * qd
  let qMix := qMix.smul (signNoZero qMix.w)
  { qMix with w := constrain qMix.w (-1) 1, z := constrain qMix.z (-1) 1 }

/-- The yaw-weighted partial rotation `Quatf(cosf(yaw_w * acosf(q_mix(0))), 0, 0,
sinf(yaw_w * asinf(q_mix(3))))` of `:1008`. -/
def yawRotation (lib : Libm α) (yawW : α) (qMix : Quatf α) : Quatf α :=
  ⟨lib.cos (yawW * lib.acos qMix.w), 0, 0, lib.sin (yawW * lib.asin qMix.z)⟩

/-- The blended desired attitude `qd` after `:1008`: the reduced attitude followed by the
yaw-weighted part of the remaining yaw rotation. -/
def attitudeSetpoint (lib : Libm α) (q qd : Quatf α) (yawW : α) : Quatf α :=
  let qdRed := reducedAttitude lib q qd
  qdRed * yawRotation lib yawW (mixQuaternion qdRed qd)

/-- `eq` (`:1010–1015`): twice the imaginary part of the error `qe = q⁻¹ qd`, sign-corrected
for the double cover. -/
def attitudeError (lib : Libm α) (q qd : Quatf α) (yawW : α) : Fin 3 → α :=
  let qe := q.inversed * attitudeSetpoint lib q qd yawW
  fun i => 2 * signNoZero qe.w * qe.imag i

/-! ### Rate limits -/

/-- Whether the auto-mode rate limits apply (`:1039–1040`). -/
def autoRateLimits (m : VehicleControlMode) : Bool :=
  (m.flagControlVelocityEnabled || m.flagControlAutoEnabled) && !m.flagControlManualEnabled

/-- `/* limit rates */` (`:1037–1046`). -/
def limitRates (m : VehicleControlMode) (g : Gains α) (ratesSp : Fin 3 → α) : Fin 3 → α :=
  fun i => if autoRateLimits m then constrain (ratesSp i) (-g.autoRateMax i) (g.autoRateMax i)
    else constrain (ratesSp i) (-g.mcRateMax i) (g.mcRateMax i)

/-- The rate limit `limitRates` applies to axis `i`. -/
def rateLimit (m : VehicleControlMode) (g : Gains α) (i : Fin 3) : α :=
  if autoRateLimits m then g.autoRateMax i else g.mcRateMax i

theorem limitRates_apply (m : VehicleControlMode) (g : Gains α) (r : Fin 3 → α) (i : Fin 3) :
    limitRates m g r i = constrain (r i) (-rateLimit m g i) (rateLimit m g i) := by
  unfold limitRates rateLimit; split <;> rfl

/-- The VTOL weather-vane condition of `:1049–1050`. -/
def weatherVane (st : VehicleStatus) (sp : VehicleAttitudeSetpoint α)
    (m : VehicleControlMode) : Bool :=
  st.isVtol && sp.disableMcYawControl &&
    (m.flagControlVelocityEnabled || m.flagControlAutoEnabled)

/-! ### Platform-mode reference generator -/

/-- The reference `control_attitude` uses: thrust, Euler reference with its first three
derivatives, the (possibly replaced) desired quaternion and the generator's clocks. -/
structure Reference (α σ : Type) where
  thrustSp : α
  attRef : Fin 3 → α
  qd : Quatf α
  attDotRef : Fin 3 → α
  attDdotRef : Fin 3 → α
  attDddotRef : Fin 3 → α
  inputTime : α
  inputSourceTime : α
  hpfTd : Fin 2 → σ

/-- `omega`, the angular frequency of the sine references. -/
def omega : α := 4

/-- The sine amplitude `30.0f / 57.3f`. -/
def sineAmplitude : α := 30 / (573 / 10)

/-- The sine reference at time `τ`: pitch angle, rate, acceleration and jerk. -/
def sineReference (lib : Libm α) (τ : α) : Fin 4 → α :=
  let cosAngle := sineAmplitude * lib.cos (omega * τ)
  let sinAngle := sineAmplitude * lib.sin (omega * τ)
  ![sinAngle, omega * cosAngle, -(omega * omega * sinAngle),
    -(omega * omega * omega * cosAngle)]

/-- The pitch steps of `input_source == 1` (`:896–911`). -/
def stepReference (t : α) : α :=
  if t < 5 then 0 else if t < 15 then 20 / (573 / 10) else if t < 25 then -(20 / (573 / 10))
  else 0

/-- `input_source == 3` (`:945–981`): steps, then a sine phase, then level; after `40 s` the
pitch reference is left as the setpoint's. Returns the pitch reference and its derivatives. -/
def multiPhaseReference (lib : Libm α) (t pitch : α) : Fin 4 → α :=
  if t < 5 then ![0, 0, 0, 0]
  else if t < 10 then ![30 / (573 / 10), 0, 0, 0]
  else if t < 15 then ![-(30 / (573 / 10)), 0, 0, 0]
  else if t < 20 then ![0, 0, 0, 0]
  else if t < 30 then sineReference lib (t - 20)
  else if t < 40 then ![0, 0, 0, 0]
  else ![pitch, 0, 0, 0]

/-- The platform block of `control_attitude` (`:868–984`). Outside platform mode the setpoint
is used as it is, with zero reference derivatives. -/
def referenceInput (lib : Libm α) (C : Collab α σ) (s : Ctrl α σ) (dt thrustSp : α)
    (attRef attitudeNow : Fin 3 → α) (qd : Quatf α) : Reference α σ :=
  let base : Reference α σ :=
    ⟨thrustSp, attRef, qd, 0, 0, 0, s.ude.inputTime, s.inputSourceTime, s.hpfTd⟩
  let t := s.inputSourceTime
  if s.gains.usePlatform = 1 then
    let base := { base with thrustSp := 2 / 5 }
    let advance (r : Reference α σ) : Reference α σ :=
      { r with qd := Quatf.ofEuler lib r.attRef, inputTime := s.ude.inputTime + dt,
               inputSourceTime := t + dt }
    if s.gains.inputSource = 0 then
      let attRef := ![0, 0, attRef 2]
      { base with attRef, qd := Quatf.ofEuler lib attRef, inputTime := 0, inputSourceTime := 0 }
    else if s.gains.inputSource = 1 then
      let attRef := ![attRef 0, stepReference t, attRef 2]
      let dot := constrain (4 * (attRef 1 - attitudeNow 1)) (-4) 4
      let hd := C.hpfTdUpdate (s.hpfTd 0) dot dt
      let ddot := constrain hd.2 (-50) 50
      let hdd := C.hpfTdUpdate (s.hpfTd 1) ddot dt
      advance { base with
        attRef, attDotRef := ![0, dot, 0], attDdotRef := ![0, ddot, 0],
        attDddotRef := ![0, constrain hdd.2 (-100) 100, 0], hpfTd := ![hd.1, hdd.1] }
    else if s.gains.inputSource = 2 then
      let r := sineReference lib t
      advance { base with
        attRef := ![attRef 0, r 0, attRef 2], attDotRef := ![0, r 1, 0],
        attDdotRef := ![0, r 2, 0], attDddotRef := ![0, r 3, 0] }
    else if s.gains.inputSource = 3 then
      let r := multiPhaseReference lib t (attRef 1)
      advance { base with
        attRef := ![attRef 0, r 0, attRef 2], attDotRef := ![0, r 1, 0],
        attDdotRef := ![0, r 2, 0], attDddotRef := ![0, r 3, 0] }
    else base
  else base

/-! ### `control_attitude` -/

/-- The rate setpoint before limiting (`:1018–1035`): the error law times the gains, plus the
yaw feed-forward along the world z axis seen in the body frame. -/
def rateSetpoint (lib : Libm α) (q qd : Quatf α) (attitudeP : Fin 3 → α)
    (yawFeedforward : α) : Fin 3 → α :=
  fun i => attitudeError lib q qd (yawWeight attitudeP) i * attitudeGain attitudeP i +
    q.inversed.dcmZ i * yawFeedforward

/-- `control_attitude(dt)`, with `attSp` the attitude setpoint pending on the bus. -/
def controlAttitude (lib : Libm α) (C : Collab α σ) (s : Ctrl α σ)
    (attSp : Option (VehicleAttitudeSetpoint α)) (dt : α) : Ctrl α σ :=
  let s := vehicleAttitudeSetpointPoll s attSp
  let q := Quatf.ofArray s.vAtt.q
  let attitudeNow := eulerOfQuat lib q
  let qd := Quatf.ofArray s.vAttSp.qD
  let ref := referenceInput lib C s dt s.vAttSp.thrust (eulerOfQuat lib qd) attitudeNow qd
  let ratesSp := limitRates s.vControlMode s.gains
    (rateSetpoint lib (q.normalize lib) (ref.qd.normalize lib) s.gains.attitudeP
      (s.vAttSp.yawSpMoveRate * s.params.yawFf))
  let wv := s.gains.autoRateMax 2 * s.params.vtolWvYawRateScale
  let vane := weatherVane s.vehicleStatus s.vAttSp s.vControlMode
  let ratesSp := if vane then Function.update ratesSp 2 (constrain (ratesSp 2) (-wv) wv)
    else ratesSp
  let ratesSp := if s.gains.usePlatform = 1 ∧ s.gains.switchUde ≠ 0 then ref.attDotRef
    else ratesSp
  { s with
    thrustSp := ref.thrustSp
    ratesSp
    ratesInt := if vane then Function.update s.ratesInt 2 0 else s.ratesInt
    inputSourceTime := ref.inputSourceTime
    hpfTd := ref.hpfTd
    ude := { s.ude with
      inputTime := ref.inputTime
      thrustSp := ref.thrustSp
      attitudeRef := ref.attRef
      attitudeDotRef := ratesSp
      attitudeDdotRef := ref.attDdotRef
      attitudeDddotRef := ref.attDddotRef
      attitudeNow := attitudeNow
      errorAttitude := fun i => ref.attRef i - attitudeNow i } }

end McAttControl
