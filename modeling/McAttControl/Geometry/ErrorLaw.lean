import McAttControl.Geometry.YawBlend

/-!
# The attitude error law

`control_attitude` turns the error `qe = q⁻¹ qd` into `eq = 2 signNoZero(qe(0)) imag(qe)`, the
rate setpoint `eq ∘ attitude_gain` (`src/unnamed/part_000:1010–1021`), adds the yaw
feed-forward and limits each axis (`:1032–1046`). Outside platform mode and weather-vane yaw,
with no feed-forward, positive roll and pitch gains and positive limits, for unit attitudes:

* the rate setpoint vanishes exactly when the setpoint is the attitude up to sign;
* a tilt by `θ` about a horizontal body axis `u` gives the roll and pitch rates
  `2 sin(θ/2) u` times the gains, limited, and no yaw rate;
* a yaw offset `ψ` gives no roll or pitch rate and a yaw rate with the sign of `ψ` when the yaw
  weight is positive, and none when it is zero.
-/

namespace McAttControl

open Quatf

/-! ### The law on any scalar -/

section Law

variable {α σ : Type} [LinearOrderedField α]

/-- Outside platform mode and weather-vane yaw, the rate setpoint of `control_attitude` is the
limited error law on the normalized attitudes. -/
theorem controlAttitude_ratesSp_eq (lib : Libm α) (C : Collab α σ) (s : Ctrl α σ)
    (attSp : Option (VehicleAttitudeSetpoint α)) (dt : α) (hplat : s.gains.usePlatform ≠ 1)
    (hvane : weatherVane s.vehicleStatus (pollCopy attSp s.vAttSp) s.vControlMode = false) :
    (controlAttitude lib C s attSp dt).ratesSp = limitRates s.vControlMode s.gains
      (rateSetpoint lib ((Quatf.ofArray s.vAtt.q).normalize lib)
        ((Quatf.ofArray (pollCopy attSp s.vAttSp).qD).normalize lib) s.gains.attitudeP
        ((pollCopy attSp s.vAttSp).yawSpMoveRate * s.params.yawFf)) := by
  simp [controlAttitude, vehicleAttitudeSetpointPoll, referenceInput, hplat, hvane]

theorem rateSetpoint_of_no_feedforward (lib : Libm α) (q qd : Quatf α) (P : Fin 3 → α) :
    rateSetpoint lib q qd P 0 = fun i => attitudeError lib q qd (yawWeight P) i * attitudeGain P i := by
  funext i; simp [rateSetpoint]

theorem limitRates_eq_zero_iff {m : VehicleControlMode} {g : Gains α}
    (hlim : ∀ i, 0 < rateLimit m g i) (r : Fin 3 → α) : limitRates m g r = 0 ↔ r = 0 := by
  simp only [funext_iff, Pi.zero_apply, limitRates_apply, constrain_eq_zero_iff (hlim _)]

theorem attitudeGain_pos {P : Fin 3 → α} (h0 : 0 < P 0) (h1 : 0 < P 1) (i : Fin 3) :
    0 < attitudeGain P i := by
  fin_cases i <;> simp [attitudeGain, h0, h1] ; positivity

theorem yawWeight_pos {P : Fin 3 → α} (h0 : 0 < P 0) (h1 : 0 < P 1) (h2 : 0 < P 2) :
    0 < yawWeight P := by
  have hr : 0 < P 2 / ((P 0 + P 1) / 2) := by positivity
  rw [yawWeight_of_ne (by positivity)]
  unfold constrain; split_ifs <;> linarith

/-- Scaling the error by positive gains keeps its zeros. -/
theorem mul_gain_eq_zero_iff {g : Fin 3 → α} (hg : ∀ i, 0 < g i) (e : Fin 3 → α) :
    (fun i => e i * g i) = 0 ↔ e = 0 := by
  simp only [funext_iff, Pi.zero_apply, mul_eq_zero, (hg _).ne', or_false]

/-- The attitude error vanishes exactly when the blended setpoint is a multiple of the
attitude. -/
theorem attitudeError_eq_zero_iff (lib : Libm α) {q : Quatf α} (hq : q.dot q = 1) (qd : Quatf α)
    (w : α) : attitudeError lib q qd w = 0 ↔ ∃ t, attitudeSetpoint lib q qd w = smul t q := by
  show (fun i => 2 * signNoZero (q.inversed * attitudeSetpoint lib q qd w).w *
    (q.inversed * attitudeSetpoint lib q qd w).imag i) = 0 ↔ _
  rw [inversed_of_unit hq]
  constructor
  · intro h
    generalize he : q.conj * attitudeSetpoint lib q qd w = e at h
    have h2 : (2 : α) * signNoZero e.w ≠ 0 := mul_ne_zero two_ne_zero (signNoZero_ne_zero _)
    have hi := fun i => (mul_eq_zero.mp (congrFun h i)).resolve_left h2
    have he1 : e = smul e.w 1 := by
      ext
      · simp
      · simpa [imag] using hi 0
      · simpa [imag] using hi 1
      · simpa [imag] using hi 2
    refine ⟨e.w, ?_⟩
    calc attitudeSetpoint lib q qd w = q * (q.conj * attitudeSetpoint lib q qd w) :=
          (mul_conj_mul_of_unit hq _).symm
      _ = q * smul e.w 1 := by rw [he, ← he1]
      _ = smul e.w q := by rw [mul_smul_right, mul_one]
  · rintro ⟨t, ht⟩
    have he : q.conj * attitudeSetpoint lib q qd w = smul t 1 := by
      rw [ht, mul_smul_right, conj_mul_self_of_unit hq]
    funext i; fin_cases i <;> simp [he, imag]

end Law

/-! ### The blended setpoint against the attitude, over the reals -/

variable {lib : Libm ℝ}

theorem mixQuaternion_self_of_unit {q : Quatf ℝ} (hq : q.dot q = 1) : mixQuaternion q q = 1 := by
  rw [mixQuaternion_of_unit hq hq, conj_mul_self_of_unit hq]; ext <;> simp

theorem mixQuaternion_neg_of_unit {q : Quatf ℝ} (hq : q.dot q = 1) : mixQuaternion q (-q) = 1 := by
  rw [mixQuaternion_of_unit hq (by rwa [dot_neg]), neg_eq_smul, mul_smul_right,
    conj_mul_self_of_unit hq]
  ext <;> norm_num

theorem yawRotation_of_one (hlib : lib.Exact) (w : ℝ) : yawRotation lib w 1 = 1 := by
  ext <;> simp [yawRotation, hlib.cos_eq, hlib.sin_eq, hlib.acos_eq, hlib.asin_eq]

/-- When the reduced attitude is already the setpoint, the blend leaves it. -/
theorem attitudeSetpoint_of_reduced_eq (hlib : lib.Exact) {q qd : Quatf ℝ} (hqd : qd.dot qd = 1)
    (h : reducedAttitude lib q qd = qd) (w : ℝ) : attitudeSetpoint lib q qd w = qd := by
  simp only [attitudeSetpoint, h, mixQuaternion_self_of_unit hqd, yawRotation_of_one hlib, mul_one]

/-- A setpoint equal to the attitude up to sign blends to the attitude. -/
theorem attitudeSetpoint_of_eq_or_neg (hlib : lib.Exact) {q qd : Quatf ℝ} (hq : q.dot q = 1)
    (h : qd = q ∨ qd = -q) (w : ℝ) : attitudeSetpoint lib q qd w = q := by
  have hz : qd.dcmZ = q.dcmZ := by rcases h with rfl | rfl <;> simp
  have hmix : mixQuaternion q qd = 1 := by
    rcases h with rfl | rfl
    exacts [mixQuaternion_self_of_unit hq, mixQuaternion_neg_of_unit hq]
  simp only [attitudeSetpoint, reducedAttitude_of_dcmZ_eq hlib hq hz, hmix, yawRotation_of_one hlib,
    mul_one]

/-- A unit multiple of a unit quaternion is the quaternion up to sign. -/
theorem eq_or_neg_of_smul {q qd : Quatf ℝ} (hq : q.dot q = 1) (hqd : qd.dot qd = 1) (t : ℝ)
    (h : qd = smul t q) : qd = q ∨ qd = -q := by
  rw [h, dot_smul, hq, mul_one] at hqd
  rcases sq_eq_one_iff.mp hqd with rfl | rfl
  · exact .inl (by rw [h, smul_one_left])
  · exact .inr (by rw [h, neg_eq_smul])

/-- In the regular branch a blend that is a multiple of the attitude comes from a setpoint that
is the attitude up to sign: the thrust axes then agree, and a yaw fraction `w ∈ (0, 1]` of a
nonzero yaw offset is no multiple of the identity. -/
theorem eq_or_neg_of_regular (hlib : lib.Exact) {q qd : Quatf ℝ} (hq : q.dot q = 1)
    (hqd : qd.dot qd = 1) {w : ℝ} (hw0 : 0 < w) (hw1 : w ≤ 1)
    (hno : ¬IsOpposite lib q.dcmZ qd.dcmZ) {t : ℝ} (ht : attitudeSetpoint lib q qd w = smul t q) :
    qd = q ∨ qd = -q := by
  obtain ⟨hr, hzr⟩ := reducedAttitude_aligned hlib hq hqd (.inl hno)
  obtain ⟨hunit, hzax, -⟩ := blend_of_aligned hlib hr hqd hzr hw0.le
  change (attitudeSetpoint lib q qd w).dot (attitudeSetpoint lib q qd w) = 1 at hunit
  change (attitudeSetpoint lib q qd w).dcmZ = qd.dcmZ at hzax
  rw [ht, dot_smul, hq, mul_one] at hunit
  have hz : qd.dcmZ = q.dcmZ := by
    funext i; rw [← hzax, ht, dcmZ_smul, hunit, one_mul]
  obtain ⟨hx, hy, hmw, hm1⟩ := mixQuaternion_aligned hq hqd hz.symm
  set ψ := w * Real.arcsin (mixQuaternion q qd).z with hψ
  have hset : q * ⟨Real.cos ψ, 0, 0, Real.sin ψ⟩ = smul t q := by
    rw [← ht]
    simp only [attitudeSetpoint, reducedAttitude_of_dcmZ_eq hlib hq hz,
      yawRotation_of_zrot hlib hmw hm1 hw0.le]
  have hY : (⟨Real.cos ψ, 0, 0, Real.sin ψ⟩ : Quatf ℝ) = smul t 1 :=
    calc _ = q.conj * (q * ⟨Real.cos ψ, 0, 0, Real.sin ψ⟩) := (conj_mul_mul_of_unit hq _).symm
      _ = smul t 1 := by rw [hset, mul_smul_right, conj_mul_self_of_unit hq]
  have hmz1 : |(mixQuaternion q qd).z| ≤ 1 :=
    (sq_le_one_iff_abs_le_one _).mp (by linarith [sq_nonneg (mixQuaternion q qd).w])
  have hmz : (mixQuaternion q qd).z = 0 :=
    eq_zero_of_sin_mul_arcsin (abs_le.mp hmz1).1 (abs_le.mp hmz1).2 hw0 hw1
      (by simpa using congrArg Quatf.z hY)
  have hmw1 : (mixQuaternion q qd).w = 1 :=
    (pow_eq_one_iff_of_nonneg hmw two_ne_zero).mp (by rw [hmz] at hm1; linarith)
  have hm : smul (signNoZero (q.conj * qd).w) (q.conj * qd) = 1 := by
    rw [← mixQuaternion_of_unit hq hqd]; ext <;> simp [hx, hy, hmz, hmw1]
  refine eq_or_neg_of_smul hq hqd (signNoZero (q.conj * qd).w) ?_
  calc qd = q * (q.conj * qd) := (mul_conj_mul_of_unit hq qd).symm
    _ = q * smul (signNoZero (q.conj * qd).w) 1 := by
        rw [← hm, smul_smul_eq, signNoZero_mul_self, smul_one_left]
    _ = smul (signNoZero (q.conj * qd).w) q := by rw [mul_smul_right, mul_one]

/-- In the opposite-vector band without the antipodal fallback, the blend is never a multiple
of the attitude: it would have to leave a half turn about a horizontal axis in `q_mix`, which
puts the setpoint's thrust axis on the attitude's, outside the band. -/
theorem not_eq_smul_of_opposite (hlib : lib.Exact) {q qd : Quatf ℝ} (hq : q.dot q = 1)
    (hqd : qd.dot qd = 1) {w : ℝ} (hw0 : 0 < w) (hw1 : w ≤ 1)
    (hop : IsOpposite lib q.dcmZ qd.dcmZ) (hanti : ¬IsAntipodal (ofVectors lib q.dcmZ qd.dcmZ))
    (t : ℝ) : attitudeSetpoint lib q qd w ≠ smul t q := by
  intro ht
  have ha := normSquared_dcmZ_of_unit hq
  obtain ⟨hw, hh, hperp⟩ := ofVectors_opposite hlib ha hop
  set h := ofVectors lib q.dcmZ qd.dcmZ
  have hred : reducedAttitude lib q qd = h * q := by simp only [reducedAttitude, if_neg hanti]
  have hr : (h * q).dot (h * q) = 1 := by rw [dot_mul, hh, hq, one_mul]
  set Y := yawRotation lib w (mixQuaternion (h * q) qd)
  have hset : h * (q * Y) = smul t q := by
    rw [← mul_assoc, ← ht]; simp only [attitudeSetpoint, hred, Y]
  -- conjugating the yaw rotation by `q` gives `t h⁻¹`
  have hconj : q * ⟨Y.w, (![0, 0, Y.z] : Fin 3 → ℝ) 0, (![0, 0, Y.z] : Fin 3 → ℝ) 1,
      (![0, 0, Y.z] : Fin 3 → ℝ) 2⟩ * q.conj = smul t h.conj := by
    calc _ = q * Y * q.conj := rfl
      _ = h.conj * (h * (q * Y)) * q.conj := by rw [conj_mul_mul_of_unit hh]
      _ = smul t h.conj := by
          rw [hset, mul_smul_right, smul_mul_left, mul_assoc, mul_conj_self_of_unit hq, mul_one]
  rw [mul_mul_conj, hq, mul_one] at hconj
  have hv : ∀ i, Dcmf.mulVec q.toDcm ![0, 0, Y.z] i = Y.z * q.dcmZ i := fun i => by
    rw [dcmZ_eq_mulVec, ← Dcmf.mulVec_smul]; congr 1; funext j; fin_cases j <;> simp
  have hYw : Y.w = 0 := by simpa [hw] using congrArg Quatf.w hconj
  have hYz : Y.z = 0 := by
    have e0 := congrArg Quatf.x hconj
    have e1 := congrArg Quatf.y hconj
    have e2 := congrArg Quatf.z hconj
    simp only [hv, smul_x, smul_y, smul_z, conj_x, conj_y, conj_z] at e0 e1 e2
    simp only [Vec3.dot, imag, Matrix.cons_val_zero, Matrix.cons_val_one, Matrix.head_cons,
      Matrix.cons_val_two, Matrix.tail_cons] at hperp
    unfold Vec3.normSquared Vec3.dot at ha
    linear_combination (-Y.z) * ha + q.dcmZ 0 * e0 + q.dcmZ 1 * e1 + q.dcmZ 2 * e2 - t * hperp
  -- the yaw rotation vanishes only on a `q_mix` with zero scalar and z parts
  have hm := mixQuaternion_of_unit hr hqd
  have hmu : (mixQuaternion (h * q) qd).dot (mixQuaternion (h * q) qd) = 1 := by
    rw [hm, dot_smul, dot_conj_mul hr hqd, mul_one, sq, signNoZero_mul_self]
  obtain ⟨hmw1, hmz1⟩ := abs_le_one_of_unit hmu
  have hmw0 : 0 ≤ (mixQuaternion (h * q) qd).w := by rw [hm]; exact signNoZero_mul_self_nonneg _
  have hmw : (mixQuaternion (h * q) qd).w = 0 :=
    eq_zero_of_cos_mul_arccos hmw0 hw0 hw1 (by simpa [Y, yawRotation, hlib.cos_eq, hlib.acos_eq] using hYw)
  have hmz : (mixQuaternion (h * q) qd).z = 0 :=
    eq_zero_of_sin_mul_arcsin (abs_le.mp hmz1).1 (abs_le.mp hmz1).2 hw0 hw1
      (by simpa [Y, yawRotation, hlib.sin_eq, hlib.asin_eq] using hYz)
  rw [hm] at hmw hmz
  have hk := signNoZero_ne_zero ((h * q).conj * qd).w
  simp only [smul_w, smul_z, mul_eq_zero, hk, false_or] at hmw hmz
  -- so `qd = (h q) m0` with `m0` a horizontal half turn: the thrust axes agree
  have hb : qd.dcmZ = q.dcmZ := by
    funext i
    rw [← mul_conj_mul_of_unit hr qd, dcmZ_mul_half_turn hmw hmz (dot_conj_mul hr hqd),
      dcmZ_mul, toDcm_mulVec_of_half_turn hw hh hperp, neg_neg]
  have := hop.2
  rw [hb, ← Vec3.normSquared, ha] at this
  norm_num at this

/-- The blend is a multiple of the attitude exactly when the setpoint is the attitude up to
sign, for a yaw weight in `(0, 1]`, in every branch of the reduced attitude. -/
theorem attitudeSetpoint_eq_smul_iff (hlib : lib.Exact) {q qd : Quatf ℝ} (hq : q.dot q = 1)
    (hqd : qd.dot qd = 1) {w : ℝ} (hw0 : 0 < w) (hw1 : w ≤ 1) :
    (∃ t, attitudeSetpoint lib q qd w = smul t q) ↔ qd = q ∨ qd = -q := by
  constructor
  · rintro ⟨t, ht⟩
    by_cases hanti : IsAntipodal (ofVectors lib q.dcmZ qd.dcmZ)
    · rw [attitudeSetpoint_of_reduced_eq hlib hqd (by simp only [reducedAttitude, if_pos hanti])]
        at ht
      exact eq_or_neg_of_smul hq hqd t ht
    · by_cases hop : IsOpposite lib q.dcmZ qd.dcmZ
      · exact absurd ht (not_eq_smul_of_opposite hlib hq hqd hw0 hw1 hop hanti t)
      · exact eq_or_neg_of_regular hlib hq hqd hw0 hw1 hop ht
  · intro h
    exact ⟨1, by rw [attitudeSetpoint_of_eq_or_neg hlib hq h, smul_one_left]⟩


/-! ### Tilts about a horizontal body axis and yaw offsets -/

/-- `dcm_z(q) · dcm_z(q r) = dcm_z(r)(2)` for a unit attitude `q`. -/
theorem dot_dcmZ_mul {q : Quatf ℝ} (hq : q.dot q = 1) (r : Quatf ℝ) :
    Vec3.dot q.dcmZ (q * r).dcmZ = r.dcmZ 2 := by
  rw [dcmZ_eq_mulVec q, dcmZ_mul q r, dot_toDcm_mulVec, hq]; simp [Vec3.dot]

/-- For a tilt `r` about a horizontal body axis (unit, `z = 0`, `w > 0`) outside the band, the
shortest arc from the current to the tilted thrust axis is `q r q⁻¹`. -/
theorem ofVectors_tilt (hlib : lib.Exact) {q r : Quatf ℝ} (hq : q.dot q = 1) (hr : r.dot r = 1)
    (hrz : r.z = 0) (hrw : 0 < r.w) (hno : ¬IsOpposite lib q.dcmZ (q * r).dcmZ) :
    ofVectors lib q.dcmZ (q * r).dcmZ = q * r * q.conj := by
  have hqr : (q * r).dot (q * r) = 1 := by rw [dot_mul, hq, hr, one_mul]
  rw [ofVectors_of_not_opposite hlib (normSquared_dcmZ_of_unit hq) (normSquared_dcmZ_of_unit hqr)
    hno]
  have hcross : ∀ i, Vec3.cross q.dcmZ (q * r).dcmZ i = 2 * r.w * Dcmf.mulVec q.toDcm r.imag i := by
    intro i
    have hez : Vec3.cross ![0, 0, 1] r.dcmZ = fun j => 2 * r.w * r.imag j := by
      funext j; fin_cases j <;> simp [Vec3.cross, dcmZ, imag, hrz] <;> ring
    rw [dcmZ_eq_mulVec q, dcmZ_mul q r, cross_toDcm_mulVec, hq, one_mul, hez, Dcmf.mulVec_smul]
  have hrot : q * r * q.conj =
      ⟨r.w, Dcmf.mulVec q.toDcm r.imag 0, Dcmf.mulVec q.toDcm r.imag 1,
        Dcmf.mulVec q.toDcm r.imag 2⟩ :=
    calc q * r * q.conj = q * ⟨r.w, r.imag 0, r.imag 1, r.imag 2⟩ * q.conj := rfl
      _ = _ := by rw [mul_mul_conj, hq, mul_one]
  have hH : (⟨Vec3.dot q.dcmZ (q * r).dcmZ + 1, Vec3.cross q.dcmZ (q * r).dcmZ 0,
      Vec3.cross q.dcmZ (q * r).dcmZ 1, Vec3.cross q.dcmZ (q * r).dcmZ 2⟩ : Quatf ℝ) =
      smul (2 * r.w) (q * r * q.conj) := by
    unfold dot at hr
    rw [hrot, dot_dcmZ_mul hq]
    ext <;> simp only [smul_w, smul_x, smul_y, smul_z, hcross]
    simp only [dcmZ, Matrix.cons_val_two, Matrix.tail_cons, Matrix.head_cons]
    linear_combination -hr + 2 * r.z * hrz
  have hu : (q * r * q.conj).dot (q * r * q.conj) = 1 := by rw [dot_mul, hqr, dot_conj, hq, one_mul]
  rw [hH, normalize_smul hlib (by positivity) hu]

/-- For such a tilt the reduced attitude is the tilted setpoint `q r`, in the regular branch
and in the antipodal fallback. -/
theorem reducedAttitude_of_tilt (hlib : lib.Exact) {q r : Quatf ℝ} (hq : q.dot q = 1)
    (hr : r.dot r = 1) (hrz : r.z = 0) (hrw : 0 < r.w)
    (hno : ¬IsOpposite lib q.dcmZ (q * r).dcmZ) : reducedAttitude lib q (q * r) = q * r := by
  unfold reducedAttitude; dsimp only
  rw [ofVectors_tilt hlib hq hr hrz hrw hno]
  split_ifs
  · rfl
  · rw [mul_assoc, conj_mul_self_of_unit hq, mul_one]

/-- For such a tilt the attitude error is twice the tilt's vector part. -/
theorem attitudeError_of_tilt (hlib : lib.Exact) {q r : Quatf ℝ} (hq : q.dot q = 1)
    (hr : r.dot r = 1) (hrz : r.z = 0) (hrw : 0 < r.w)
    (hno : ¬IsOpposite lib q.dcmZ (q * r).dcmZ) (w : ℝ) :
    attitudeError lib q (q * r) w = fun i => 2 * r.imag i := by
  have hqr : (q * r).dot (q * r) = 1 := by rw [dot_mul, hq, hr, one_mul]
  show (fun i => 2 * signNoZero (q.inversed * attitudeSetpoint lib q (q * r) w).w *
    (q.inversed * attitudeSetpoint lib q (q * r) w).imag i) = _
  rw [attitudeSetpoint_of_reduced_eq hlib hqr (reducedAttitude_of_tilt hlib hq hr hrz hrw hno),
    inversed_of_unit hq, conj_mul_mul_of_unit hq, signNoZero_of_nonneg hrw.le, mul_one]

/-- A tilt by `θ` about a horizontal unit axis `(ux, uy, 0)` is a unit quaternion. -/
theorem tilt_dot_self (θ : ℝ) {ux uy : ℝ} (hu : ux ^ 2 + uy ^ 2 = 1) :
    (⟨Real.cos (θ / 2), Real.sin (θ / 2) * ux, Real.sin (θ / 2) * uy, 0⟩ : Quatf ℝ).dot
      ⟨Real.cos (θ / 2), Real.sin (θ / 2) * ux, Real.sin (θ / 2) * uy, 0⟩ = 1 := by
  simp only [dot]; linear_combination Real.sin (θ / 2) ^ 2 * hu + Real.sin_sq_add_cos_sq (θ / 2)

/-- Such a tilt turns the thrust axis by `θ`. -/
theorem dot_dcmZ_tilt {q : Quatf ℝ} (hq : q.dot q = 1) (θ : ℝ) {ux uy : ℝ}
    (hu : ux ^ 2 + uy ^ 2 = 1) :
    Vec3.dot q.dcmZ (q * ⟨Real.cos (θ / 2), Real.sin (θ / 2) * ux, Real.sin (θ / 2) * uy, 0⟩).dcmZ =
      Real.cos θ := by
  have h2 : Real.cos θ = 2 * Real.cos (θ / 2) ^ 2 - 1 := by rw [← Real.cos_two_mul]; ring_nf
  rw [dot_dcmZ_mul hq]
  simp only [dcmZ, Matrix.cons_val_two, Matrix.tail_cons, Matrix.head_cons]
  linear_combination -h2 - Real.sin (θ / 2) ^ 2 * hu - Real.sin_sq_add_cos_sq (θ / 2)

/-- Outside the band `|sin θ| < 1e-5`, `cos θ < 0`, the tilted thrust axis is not opposite to
the current one in the sense of `Quaternion(src, dst)`. -/
theorem not_isOpposite_tilt (hlib : lib.Exact) {q : Quatf ℝ} (hq : q.dot q = 1) {θ ux uy : ℝ}
    (hu : ux ^ 2 + uy ^ 2 = 1) (hband : ¬(|Real.sin θ| < 1 / 100000 ∧ Real.cos θ < 0)) :
    ¬IsOpposite lib q.dcmZ
      (q * ⟨Real.cos (θ / 2), Real.sin (θ / 2) * ux, Real.sin (θ / 2) * uy, 0⟩).dcmZ := by
  have hqr := dot_mul q ⟨Real.cos (θ / 2), Real.sin (θ / 2) * ux, Real.sin (θ / 2) * uy, 0⟩
  rw [hq, tilt_dot_self θ hu, one_mul] at hqr
  rintro ⟨hn, hd⟩
  rw [Vec3.norm, hlib.sqrt_eq, Vec3.normSquared_cross, normSquared_dcmZ_of_unit hq,
    normSquared_dcmZ_of_unit hqr, dot_dcmZ_tilt hq θ hu, one_mul, ← Real.sin_sq,
    Real.sqrt_sq_eq_abs] at hn
  exact hband ⟨hn, dot_dcmZ_tilt hq θ hu ▸ hd⟩

/-- For a yaw offset `ψ ∈ (-π, π]` the attitude error is the yaw fraction `w` of it, about z. -/
theorem attitudeError_of_yaw (hlib : lib.Exact) {q : Quatf ℝ} (hq : q.dot q = 1) {ψ w : ℝ}
    (hψ0 : -Real.pi < ψ) (hψ1 : ψ ≤ Real.pi) (hw0 : 0 ≤ w) (hw1 : w ≤ 1) :
    attitudeError lib q (q * ⟨Real.cos (ψ / 2), 0, 0, Real.sin (ψ / 2)⟩) w =
      ![0, 0, 2 * Real.sin (w * (ψ / 2))] := by
  obtain ⟨hrz, hzaxis⟩ := zRotation_unit_dcmZ (ψ / 2)
  have hqr : (q * ⟨Real.cos (ψ / 2), 0, 0, Real.sin (ψ / 2)⟩).dot
      (q * ⟨Real.cos (ψ / 2), 0, 0, Real.sin (ψ / 2)⟩) = 1 := by rw [dot_mul, hq, hrz, one_mul]
  have hz : (q * ⟨Real.cos (ψ / 2), 0, 0, Real.sin (ψ / 2)⟩).dcmZ = q.dcmZ := by
    rw [dcmZ_mul, hzaxis, ← dcmZ_eq_mulVec]
  have hpi := Real.pi_pos
  have hc : 0 ≤ Real.cos (ψ / 2) := Real.cos_nonneg_of_mem_Icc ⟨by linarith, by linarith⟩
  have hmix : mixQuaternion q (q * ⟨Real.cos (ψ / 2), 0, 0, Real.sin (ψ / 2)⟩) =
      ⟨Real.cos (ψ / 2), 0, 0, Real.sin (ψ / 2)⟩ := by
    rw [mixQuaternion_of_unit hq hqr, conj_mul_mul_of_unit hq, signNoZero_of_nonneg hc,
      smul_one_left]
  have hY : yawRotation lib w ⟨Real.cos (ψ / 2), 0, 0, Real.sin (ψ / 2)⟩ =
      ⟨Real.cos (w * (ψ / 2)), 0, 0, Real.sin (w * (ψ / 2))⟩ := by
    rw [@yawRotation_of_zrot lib hlib ⟨Real.cos (ψ / 2), 0, 0, Real.sin (ψ / 2)⟩ hc
      (Real.cos_sq_add_sin_sq _) w hw0]
    simp only [Real.arcsin_sin (by linarith : -(Real.pi / 2) ≤ ψ / 2) (by linarith)]
  have hlo := mul_nonneg hw0 (by linarith : 0 ≤ ψ + Real.pi)
  have hhi := mul_nonneg hw0 (by linarith : 0 ≤ Real.pi - ψ)
  have hwpi := mul_le_mul_of_nonneg_right hw1 hpi.le
  have hcw : 0 ≤ Real.cos (w * (ψ / 2)) := Real.cos_nonneg_of_mem_Icc ⟨by linarith, by linarith⟩
  show (fun i => 2 * signNoZero (q.inversed * attitudeSetpoint lib q _ w).w *
    (q.inversed * attitudeSetpoint lib q _ w).imag i) = _
  simp only [attitudeSetpoint, reducedAttitude_of_dcmZ_eq hlib hq hz, hmix, hY,
    inversed_of_unit hq, conj_mul_mul_of_unit hq, signNoZero_of_nonneg hcw]
  funext i; fin_cases i <;> simp [imag]

/-! ### The rate setpoint of `control_attitude` -/

variable {σ : Type}

/-- A clamp to a positive limit keeps the sign. -/
theorem sign_constrain {L : ℝ} (hL : 0 < L) (x : ℝ) :
    SignType.sign (constrain x (-L) L) = SignType.sign x := by
  rcases lt_trichotomy x 0 with h | rfl | h
  · rw [sign_neg h, sign_neg ((constrain_neg_iff hL).mpr h)]
  · rw [constrain_zero hL.le]
  · rw [sign_pos h, sign_pos ((constrain_pos_iff hL).mpr h)]

/-- A fraction `w ∈ (0, 1]` of a half-angle in `(-π/2, π/2]` has the sine of the angle's sign. -/
theorem sign_sin_mul_half {w ψ : ℝ} (hw0 : 0 < w) (hw1 : w ≤ 1) (hψ0 : -Real.pi < ψ)
    (hψ1 : ψ ≤ Real.pi) : SignType.sign (Real.sin (w * (ψ / 2))) = SignType.sign ψ := by
  have hpi := Real.pi_pos
  have hlo := mul_nonneg hw0.le (by linarith : 0 ≤ ψ + Real.pi)
  have hhi := mul_nonneg hw0.le (by linarith : 0 ≤ Real.pi - ψ)
  have hwpi := mul_le_mul_of_nonneg_right hw1 hpi.le
  rcases lt_trichotomy ψ 0 with h | rfl | h
  · rw [sign_neg h, sign_neg (Real.sin_neg_of_neg_of_neg_pi_lt
      (mul_neg_of_pos_of_neg hw0 (by linarith)) (by linarith))]
  · simp
  · rw [sign_pos h, sign_pos (Real.sin_pos_of_pos_of_lt_pi (by positivity) (by linarith))]

/-- The rate setpoint of `control_attitude` vanishes exactly when the setpoint is the attitude
up to sign: for unit attitudes, positive attitude gains, positive rate limits, no yaw
feed-forward, outside platform mode and weather-vane yaw, in every branch of the reduced
attitude. -/
theorem controlAttitude_ratesSp_eq_zero_iff (hlib : lib.Exact) (C : Collab ℝ σ) (s : Ctrl ℝ σ)
    (attSp : Option (VehicleAttitudeSetpoint ℝ)) (dt : ℝ) (q qd : Quatf ℝ)
    (hqa : Quatf.ofArray s.vAtt.q = q) (hqda : Quatf.ofArray (pollCopy attSp s.vAttSp).qD = qd)
    (hq : q.dot q = 1) (hqd : qd.dot qd = 1) (hP : ∀ i, 0 < s.gains.attitudeP i)
    (hlim : ∀ i, 0 < rateLimit s.vControlMode s.gains i)
    (hff : (pollCopy attSp s.vAttSp).yawSpMoveRate * s.params.yawFf = 0)
    (hplat : s.gains.usePlatform ≠ 1)
    (hvane : weatherVane s.vehicleStatus (pollCopy attSp s.vAttSp) s.vControlMode = false) :
    (controlAttitude lib C s attSp dt).ratesSp = 0 ↔ qd = q ∨ qd = -q := by
  rw [controlAttitude_ratesSp_eq lib C s attSp dt hplat hvane, hqa, hqda, hff,
    normalize_of_unit hlib hq, normalize_of_unit hlib hqd, limitRates_eq_zero_iff hlim,
    rateSetpoint_of_no_feedforward, mul_gain_eq_zero_iff (attitudeGain_pos (hP 0) (hP 1)),
    attitudeError_eq_zero_iff lib hq, attitudeSetpoint_eq_smul_iff hlib hq hqd
      (yawWeight_pos (hP 0) (hP 1) (hP 2)) (yawWeight_mem _).2]

/-- Level attitude, a yaw half turn as setpoint, unit gains and limits. -/
theorem controlAttitude_ratesSp_eq_zero_iff_level :
    let lib : Libm ℝ := ⟨fun _ => true, Real.sqrt, Real.cos, Real.sin, Real.arccos, Real.arcsin,
      fun y x => Complex.arg ⟨x, y⟩, Real.pi⟩
    let s : Ctrl ℝ Unit := { (default : Ctrl ℝ Unit) with
      gains := { (default : Gains ℝ) with
        usePlatform := 0, attitudeP := fun _ => 1, mcRateMax := fun _ => 1, autoRateMax := fun _ => 1 }
      vAtt := ⟨![1, 0, 0, 0]⟩
      vAttSp := { (default : VehicleAttitudeSetpoint ℝ) with qD := ![0, 0, 0, 1], yawSpMoveRate := 0 } }
    lib.Exact ∧ Quatf.ofArray s.vAtt.q = 1 ∧ Quatf.ofArray (pollCopy none s.vAttSp).qD = ⟨0, 0, 0, 1⟩ ∧
      (1 : Quatf ℝ).dot 1 = 1 ∧ (⟨0, 0, 0, 1⟩ : Quatf ℝ).dot ⟨0, 0, 0, 1⟩ = 1 ∧
      (∀ i, 0 < s.gains.attitudeP i) ∧ (∀ i, 0 < rateLimit s.vControlMode s.gains i) ∧
      (pollCopy none s.vAttSp).yawSpMoveRate * s.params.yawFf = 0 ∧ s.gains.usePlatform ≠ 1 ∧
      weatherVane s.vehicleStatus (pollCopy none s.vAttSp) s.vControlMode = false ∧
      ((controlAttitude lib (default : Collab ℝ Unit) s none (1 / 250)).ratesSp = 0 ↔
        (⟨0, 0, 0, 1⟩ : Quatf ℝ) = 1 ∨ (⟨0, 0, 0, 1⟩ : Quatf ℝ) = -1) := by
  intro lib s
  have hlib : lib.Exact := ⟨fun _ => rfl, fun _ => rfl, fun _ => rfl, fun _ => rfl, fun _ => rfl⟩
  have hqd : (⟨0, 0, 0, 1⟩ : Quatf ℝ).dot ⟨0, 0, 0, 1⟩ = 1 := by simp [dot]
  have hP : ∀ i, 0 < s.gains.attitudeP i := fun _ => one_pos
  have hlim : ∀ i, 0 < rateLimit s.vControlMode s.gains i := fun _ => by simp [rateLimit, s]
  have hff : (pollCopy none s.vAttSp).yawSpMoveRate * s.params.yawFf = 0 := zero_mul _
  have hplat : s.gains.usePlatform ≠ 1 := by decide
  exact ⟨hlib, rfl, rfl, dot_one, hqd, hP, hlim, hff, hplat, rfl,
    controlAttitude_ratesSp_eq_zero_iff hlib default s none (1 / 250) 1 ⟨0, 0, 0, 1⟩ rfl rfl dot_one
      hqd hP hlim hff hplat rfl⟩

/-- The rate setpoint decouples the axes. (a) A tilt by `θ ∈ (-π, π)` about a horizontal body
axis `(ux, uy, 0)`, outside the shortest arc's opposite-vector band, gives no yaw rate and the
roll and pitch rates `2 sin(θ/2) ux roll_p`, `2 sin(θ/2) uy pitch_p`, each limited. (b) A yaw
offset `ψ ∈ (-π, π]` gives no roll or pitch rate, and a yaw rate with the sign of `ψ` when the
yaw weight is positive, none when it is zero. For a unit attitude, positive roll and pitch
gains, positive rate limits, no yaw feed-forward, outside platform mode and weather-vane yaw;
any yaw gain. -/
theorem controlAttitude_ratesSp_decoupled (hlib : lib.Exact) (C : Collab ℝ σ) (s : Ctrl ℝ σ)
    (attSp : Option (VehicleAttitudeSetpoint ℝ)) (dt : ℝ) (q : Quatf ℝ)
    (hqa : Quatf.ofArray s.vAtt.q = q) (hq : q.dot q = 1) (hP0 : 0 < s.gains.attitudeP 0)
    (hP1 : 0 < s.gains.attitudeP 1) (hlim : ∀ i, 0 < rateLimit s.vControlMode s.gains i)
    (hff : (pollCopy attSp s.vAttSp).yawSpMoveRate * s.params.yawFf = 0)
    (hplat : s.gains.usePlatform ≠ 1)
    (hvane : weatherVane s.vehicleStatus (pollCopy attSp s.vAttSp) s.vControlMode = false) :
    (∀ θ ux uy : ℝ, ux ^ 2 + uy ^ 2 = 1 → -Real.pi < θ → θ < Real.pi →
      ¬(|Real.sin θ| < 1 / 100000 ∧ Real.cos θ < 0) →
      Quatf.ofArray (pollCopy attSp s.vAttSp).qD =
        q * ⟨Real.cos (θ / 2), Real.sin (θ / 2) * ux, Real.sin (θ / 2) * uy, 0⟩ →
      (controlAttitude lib C s attSp dt).ratesSp 2 = 0 ∧
      (controlAttitude lib C s attSp dt).ratesSp 0 =
        constrain (2 * Real.sin (θ / 2) * ux * s.gains.attitudeP 0)
          (-rateLimit s.vControlMode s.gains 0) (rateLimit s.vControlMode s.gains 0) ∧
      (controlAttitude lib C s attSp dt).ratesSp 1 =
        constrain (2 * Real.sin (θ / 2) * uy * s.gains.attitudeP 1)
          (-rateLimit s.vControlMode s.gains 1) (rateLimit s.vControlMode s.gains 1)) ∧
    (∀ ψ : ℝ, -Real.pi < ψ → ψ ≤ Real.pi →
      Quatf.ofArray (pollCopy attSp s.vAttSp).qD = q * ⟨Real.cos (ψ / 2), 0, 0, Real.sin (ψ / 2)⟩ →
      (controlAttitude lib C s attSp dt).ratesSp 0 = 0 ∧
      (controlAttitude lib C s attSp dt).ratesSp 1 = 0 ∧
      (0 < yawWeight s.gains.attitudeP →
        SignType.sign ((controlAttitude lib C s attSp dt).ratesSp 2) = SignType.sign ψ) ∧
      (yawWeight s.gains.attitudeP = 0 → (controlAttitude lib C s attSp dt).ratesSp 2 = 0)) := by
  have hrates := controlAttitude_ratesSp_eq lib C s attSp dt hplat hvane
  rw [hqa, hff, normalize_of_unit hlib hq, rateSetpoint_of_no_feedforward] at hrates
  obtain ⟨hw0, hw1⟩ := yawWeight_mem s.gains.attitudeP
  have hpi := Real.pi_pos
  constructor
  · intro θ ux uy hu hθ0 hθ1 hband hqd
    have hr := tilt_dot_self θ hu
    have hrw : 0 < Real.cos (θ / 2) := Real.cos_pos_of_mem_Ioo ⟨by linarith, by linarith⟩
    have hqr := dot_mul q ⟨Real.cos (θ / 2), Real.sin (θ / 2) * ux, Real.sin (θ / 2) * uy, 0⟩
    rw [hq, hr, one_mul] at hqr
    have hno := not_isOpposite_tilt hlib hq hu hband
    rw [hqd, normalize_of_unit hlib hqr, attitudeError_of_tilt hlib hq hr rfl hrw hno] at hrates
    refine ⟨?_, ?_, ?_⟩ <;> rw [hrates, limitRates_apply]
    · simp [imag, constrain_zero (hlim 2).le]
    · simp [imag, attitudeGain, mul_assoc]
    · simp [imag, attitudeGain, mul_assoc]
  · intro ψ hψ0 hψ1 hqd
    have hqr := dot_mul q ⟨Real.cos (ψ / 2), 0, 0, Real.sin (ψ / 2)⟩
    rw [hq, (zRotation_unit_dcmZ (ψ / 2)).1, one_mul] at hqr
    rw [hqd, normalize_of_unit hlib hqr, attitudeError_of_yaw hlib hq hψ0 hψ1 hw0 hw1] at hrates
    have h2 : (controlAttitude lib C s attSp dt).ratesSp 2 =
        constrain (2 * Real.sin (yawWeight s.gains.attitudeP * (ψ / 2)) *
          ((s.gains.attitudeP 0 + s.gains.attitudeP 1) / 2))
          (-rateLimit s.vControlMode s.gains 2) (rateLimit s.vControlMode s.gains 2) := by
      rw [hrates, limitRates_apply]; simp [attitudeGain]
    refine ⟨?_, ?_, fun hw => ?_, fun hw => ?_⟩
    · rw [hrates, limitRates_apply]; simp [constrain_zero (hlim 0).le]
    · rw [hrates, limitRates_apply]; simp [constrain_zero (hlim 1).le]
    · rw [h2, sign_constrain (hlim 2), sign_mul, sign_mul, sign_sin_mul_half hw hw1 hψ0 hψ1,
        sign_pos two_pos, sign_pos (by positivity : 0 < (s.gains.attitudeP 0 + s.gains.attitudeP 1) / 2),
        one_mul, mul_one]
    · rw [h2, hw]; simp [constrain_zero (hlim 2).le]

/-- A level vehicle with unit gains and limits, asked for a quarter turn in roll (`θ = π/2`
about `x`) and, in a second state, for a quarter turn in yaw (`ψ = π/2`): the roll request
saturates the roll rate at its limit with no pitch or yaw rate, and the yaw request gives a
positive yaw rate with no roll or pitch rate. -/
theorem controlAttitude_ratesSp_decoupled_quarter_turns :
    let lib : Libm ℝ := ⟨fun _ => true, Real.sqrt, Real.cos, Real.sin, Real.arccos, Real.arcsin,
      fun y x => Complex.arg ⟨x, y⟩, Real.pi⟩
    let g : Gains ℝ := { (default : Gains ℝ) with
      usePlatform := 0, attitudeP := fun _ => 1, mcRateMax := fun _ => 1, autoRateMax := fun _ => 1 }
    let sRoll : Ctrl ℝ Unit := { (default : Ctrl ℝ Unit) with
      gains := g, vAtt := ⟨![1, 0, 0, 0]⟩
      vAttSp := { (default : VehicleAttitudeSetpoint ℝ) with
        qD := ![Real.cos (Real.pi / 4), Real.sin (Real.pi / 4), 0, 0] } }
    let sYaw : Ctrl ℝ Unit := { sRoll with
      vAttSp := { (default : VehicleAttitudeSetpoint ℝ) with
        qD := ![Real.cos (Real.pi / 4), 0, 0, Real.sin (Real.pi / 4)] } }
    let roll := (controlAttitude lib (default : Collab ℝ Unit) sRoll none (1 / 250)).ratesSp
    let yaw := (controlAttitude lib (default : Collab ℝ Unit) sYaw none (1 / 250)).ratesSp
    roll 0 = 1 ∧ roll 1 = 0 ∧ roll 2 = 0 ∧ yaw 0 = 0 ∧ yaw 1 = 0 ∧ 0 < yaw 2 := by
  intro lib g sRoll sYaw roll yaw
  have hlib : lib.Exact := ⟨fun _ => rfl, fun _ => rfl, fun _ => rfl, fun _ => rfl, fun _ => rfl⟩
  have hone : ∀ i, rateLimit sRoll.vControlMode sRoll.gains i = 1 := fun _ => by simp [rateLimit, g]
  have hlim : ∀ i, 0 < rateLimit sRoll.vControlMode sRoll.gains i := fun i => (hone i).symm ▸ one_pos
  have hP : ∀ i, sRoll.gains.attitudeP i = 1 := fun _ => rfl
  have hpi := Real.pi_pos
  have hhalf : Real.pi / 2 / 2 = Real.pi / 4 := by ring
  obtain ⟨hr2, hr0, hr1⟩ := (controlAttitude_ratesSp_decoupled hlib default sRoll none (1 / 250) 1 rfl
    dot_one one_pos one_pos hlim (zero_mul _) (by decide) rfl).1 (Real.pi / 2) 1 0 (by norm_num)
    (by linarith) (by linarith) (by simp [Real.sin_pi_div_two])
    (by rw [one_mul, hhalf, mul_one, mul_zero]; rfl)
  obtain ⟨hy0, hy1, hy2, -⟩ := (controlAttitude_ratesSp_decoupled hlib default sYaw none (1 / 250) 1
    rfl dot_one one_pos one_pos hlim (zero_mul _) (by decide) rfl).2 (Real.pi / 2) (by linarith)
    (by linarith) (by rw [one_mul, hhalf]; rfl)
  have hsqrt : 1 < Real.sqrt 2 := (Real.lt_sqrt zero_le_one).2 (by norm_num)
  refine ⟨hr0.trans ?_, hr1.trans ?_, hr2, hy0, hy1, ?_⟩
  · rw [hone, hP, hhalf, Real.sin_pi_div_four, mul_one, mul_one, mul_div_cancel₀ _ two_ne_zero]
    simp only [constrain]; split_ifs <;> first | rfl | linarith
  · rw [hone, mul_zero, zero_mul]; exact constrain_zero zero_le_one
  · exact sign_eq_one_iff.mp ((hy2 (yawWeight_pos one_pos one_pos one_pos)).trans
      (sign_pos (by linarith)))

end McAttControl
