import McAttControl.Geometry.ShortestArc

/-!
# The yaw-weighted blend

`control_attitude` mixes the reduced and the full desired attitude (`src/unnamed/part_000:
1002–1008`): `q_mix = qd_red⁻¹ qd` is flipped to a nonnegative scalar part, its scalar and
z parts are clamped to `[-1, 1]` for `acosf`/`asinf`, and the setpoint becomes
`qd_red * (cos(w acos q_mix(0)), 0, 0, sin(w asin q_mix(3)))`. On unit quaternions the clamps
change nothing. When `qd_red` has the thrust axis of `qd`, `q_mix` turns about z only, so the
partial rotation is the unit rotation by the fraction `w` of its angle: the blended setpoint
is a unit quaternion with the setpoint's thrust axis, and at `w = 1` it is the setpoint up to
sign.
-/

namespace McAttControl

open Quatf

variable {lib : Libm ℝ}

/-! ### `acosf` and `asinf` on a rotation about z -/

/-- The `acos` of the scalar part of a unit rotation about z with `w ≥ 0` is the magnitude of
the `asin` of its z part. -/
theorem arccos_eq_abs_arcsin {c s : ℝ} (hc : 0 ≤ c) (h : c ^ 2 + s ^ 2 = 1) :
    Real.arccos c = |Real.arcsin s| := by
  rw [Real.arccos_eq_arcsin hc, show 1 - c ^ 2 = s ^ 2 by linarith, Real.sqrt_sq_eq_abs]
  rcases le_or_lt 0 s with hs | hs
  · rw [abs_of_nonneg hs, abs_of_nonneg (Real.arcsin_nonneg.mpr hs)]
  · rw [abs_of_neg hs, Real.arcsin_neg, abs_of_neg (Real.arcsin_lt_zero.mpr hs)]

/-- A fraction `w ∈ (0, 1]` of an `arccos` in `[0, π/2]` has zero cosine only at `c = 0`. -/
theorem eq_zero_of_cos_mul_arccos {c w : ℝ} (hc : 0 ≤ c) (hw0 : 0 < w) (hw1 : w ≤ 1)
    (h : Real.cos (w * Real.arccos c) = 0) : c = 0 := by
  have hA := Real.arccos_le_pi_div_two.mpr hc
  have hA0 := Real.arccos_nonneg c
  have hwA := mul_le_mul_of_nonneg_right hw1 hA0
  have hx : w * Real.arccos c ≤ Real.pi / 2 := by linarith
  have hx' : w * Real.arccos c = Real.pi / 2 := by
    by_contra hne
    have := Real.cos_pos_of_mem_Ioo
      ⟨by linarith [mul_nonneg hw0.le hA0, Real.pi_pos], lt_of_le_of_ne hx hne⟩
    linarith
  refine Real.arccos_eq_pi_div_two.mp (le_antisymm hA ?_)
  linarith

/-- A fraction `w ∈ (0, 1]` of an `arcsin` has zero sine only at `s = 0`. -/
theorem eq_zero_of_sin_mul_arcsin {s w : ℝ} (hs0 : -1 ≤ s) (hs1 : s ≤ 1) (hw0 : 0 < w)
    (hw1 : w ≤ 1) (h : Real.sin (w * Real.arcsin s) = 0) : s = 0 := by
  have h1 := Real.arcsin_le_pi_div_two s
  have h2 := Real.neg_pi_div_two_le_arcsin s
  have hlo := mul_nonneg hw0.le (by linarith : 0 ≤ Real.arcsin s + Real.pi / 2)
  have hhi := mul_nonneg hw0.le (by linarith : 0 ≤ Real.pi / 2 - Real.arcsin s)
  have hwpi := mul_le_mul_of_nonneg_right hw1 Real.pi_pos.le
  have hx : w * Real.arcsin s = 0 :=
    (Real.sin_eq_zero_iff_of_lt_of_lt (by linarith [Real.pi_pos]) (by linarith [Real.pi_pos])).mp h
  rw [← Real.sin_arcsin hs0 hs1, (mul_eq_zero.mp hx).resolve_left hw0.ne', Real.sin_zero]

/-! ### `q_mix` -/

theorem abs_le_one_of_unit {q : Quatf ℝ} (h : q.dot q = 1) : |q.w| ≤ 1 ∧ |q.z| ≤ 1 := by
  unfold dot at h
  have hw : q.w ^ 2 ≤ 1 := by linarith [mul_self_nonneg q.x, mul_self_nonneg q.y, mul_self_nonneg q.z]
  have hz : q.z ^ 2 ≤ 1 := by linarith [mul_self_nonneg q.x, mul_self_nonneg q.y, mul_self_nonneg q.w]
  exact ⟨(sq_le_one_iff_abs_le_one _).mp hw, (sq_le_one_iff_abs_le_one _).mp hz⟩

theorem dot_conj_mul {r d : Quatf ℝ} (hr : r.dot r = 1) (hd : d.dot d = 1) :
    (r.conj * d).dot (r.conj * d) = 1 := by
  rw [dot_mul, dot_conj, hr, hd, one_mul]

/-- On unit quaternions the clamps of `:1006–1007` change nothing: `q_mix` is `qd_red⁻¹ qd`
flipped to a nonnegative scalar part. -/
theorem mixQuaternion_of_unit {r d : Quatf ℝ} (hr : r.dot r = 1) (hd : d.dot d = 1) :
    mixQuaternion r d = smul (signNoZero (r.conj * d).w) (r.conj * d) := by
  have hk : (smul (signNoZero (r.conj * d).w) (r.conj * d)).dot
      (smul (signNoZero (r.conj * d).w) (r.conj * d)) = 1 := by
    rw [dot_smul, dot_conj_mul hr hd, mul_one, sq, signNoZero_mul_self]
  obtain ⟨hw, hz⟩ := abs_le_one_of_unit hk
  simp only [mixQuaternion, inversed_of_unit hr]
  ext
  · exact constrain_of_mem (abs_le.mp hw).1 (abs_le.mp hw).2
  · rfl
  · rfl
  · exact constrain_of_mem (abs_le.mp hz).1 (abs_le.mp hz).2

/-- Between unit attitudes sharing a thrust axis, `q_mix` is a unit rotation about z with a
nonnegative scalar part. -/
theorem mixQuaternion_aligned {r d : Quatf ℝ} (hr : r.dot r = 1) (hd : d.dot d = 1)
    (hz : r.dcmZ = d.dcmZ) :
    (mixQuaternion r d).x = 0 ∧ (mixQuaternion r d).y = 0 ∧ 0 ≤ (mixQuaternion r d).w ∧
      (mixQuaternion r d).w ^ 2 + (mixQuaternion r d).z ^ 2 = 1 := by
  obtain ⟨hx, hy⟩ := conj_mul_xy_of_dcmZ_eq hr hd hz
  have hm := dot_conj_mul hr hd
  unfold dot at hm
  rw [hx, hy] at hm
  rw [mixQuaternion_of_unit hr hd]
  simp only [smul_x, smul_y, smul_w, smul_z, hx, hy, mul_zero, true_and]
  refine ⟨signNoZero_mul_self_nonneg _, ?_⟩
  calc _ = signNoZero (r.conj * d).w * signNoZero (r.conj * d).w *
          ((r.conj * d).w * (r.conj * d).w + (r.conj * d).z * (r.conj * d).z) := by ring
    _ = 1 := by rw [signNoZero_mul_self, one_mul]; linear_combination hm

/-! ### The partial yaw rotation -/

/-- On a unit rotation about z with a nonnegative scalar part, the partial rotation of `:1008`
turns about z by the fraction `w` of the half-angle `asin q_mix(3)`. -/
theorem yawRotation_of_zrot (hlib : lib.Exact) {m : Quatf ℝ} (hw : 0 ≤ m.w)
    (hm : m.w ^ 2 + m.z ^ 2 = 1) {w : ℝ} (hw0 : 0 ≤ w) :
    yawRotation lib w m =
      ⟨Real.cos (w * Real.arcsin m.z), 0, 0, Real.sin (w * Real.arcsin m.z)⟩ := by
  simp only [yawRotation, hlib.cos_eq, hlib.sin_eq, hlib.acos_eq, hlib.asin_eq,
    arccos_eq_abs_arcsin hw hm]
  rw [← Real.cos_abs (w * Real.arcsin m.z), abs_mul, abs_of_nonneg hw0]

/-- A rotation about z by any angle is a unit quaternion keeping the z axis. -/
theorem zRotation_unit_dcmZ (ψ : ℝ) :
    (⟨Real.cos ψ, 0, 0, Real.sin ψ⟩ : Quatf ℝ).dot ⟨Real.cos ψ, 0, 0, Real.sin ψ⟩ = 1 ∧
      (⟨Real.cos ψ, 0, 0, Real.sin ψ⟩ : Quatf ℝ).dcmZ = ![0, 0, 1] := by
  have h := Real.cos_sq_add_sin_sq ψ
  refine ⟨by simp only [dot]; linear_combination h, ?_⟩
  funext i; fin_cases i <;> simp [dcmZ] ; linear_combination h

/-- At full weight the partial rotation is `q_mix` itself. -/
theorem yawRotation_one (hlib : lib.Exact) {m : Quatf ℝ} (hx : m.x = 0) (hy : m.y = 0)
    (hw : 0 ≤ m.w) (hm : m.w ^ 2 + m.z ^ 2 = 1) : yawRotation lib 1 m = m := by
  have hz : |m.z| ≤ 1 := (sq_le_one_iff_abs_le_one _).mp (by linarith [sq_nonneg m.w])
  rw [yawRotation_of_zrot hlib hw hm zero_le_one, one_mul, Real.cos_arcsin,
    Real.sin_arcsin (abs_le.mp hz).1 (abs_le.mp hz).2, show 1 - m.z ^ 2 = m.w ^ 2 by linarith,
    Real.sqrt_sq hw]
  ext <;> simp [hx, hy]

/-! ### The blended setpoint -/

/-- The blend on a reduced attitude aligned with the setpoint: a unit quaternion with the
setpoint's thrust axis, and the setpoint up to sign at full weight. -/
theorem blend_of_aligned (hlib : lib.Exact) {r d : Quatf ℝ} (hr : r.dot r = 1)
    (hd : d.dot d = 1) (hz : r.dcmZ = d.dcmZ) {w : ℝ} (hw0 : 0 ≤ w) :
    (r * yawRotation lib w (mixQuaternion r d)).dot (r * yawRotation lib w (mixQuaternion r d)) = 1 ∧
      (r * yawRotation lib w (mixQuaternion r d)).dcmZ = d.dcmZ ∧
      (w = 1 → r * yawRotation lib w (mixQuaternion r d) = d ∨
        r * yawRotation lib w (mixQuaternion r d) = -d) := by
  obtain ⟨hx, hy, hmw, hm1⟩ := mixQuaternion_aligned hr hd hz
  obtain ⟨hunit, hzaxis⟩ := zRotation_unit_dcmZ (w * Real.arcsin (mixQuaternion r d).z)
  rw [yawRotation_of_zrot hlib hmw hm1 hw0]
  refine ⟨by rw [dot_mul, hr, hunit, one_mul], by rw [dcmZ_mul, hzaxis, ← dcmZ_eq_mulVec, hz], ?_⟩
  rintro rfl
  rw [← yawRotation_of_zrot hlib hmw hm1 zero_le_one, yawRotation_one hlib hx hy hmw hm1,
    mixQuaternion_of_unit hr hd, mul_smul_right, mul_conj_mul_of_unit hr]
  rcases signNoZero_eq_one_or (r.conj * d).w with hk | hk <;> rw [hk]
  · exact .inl (smul_one_left d)
  · exact .inr (neg_eq_smul d).symm

/-- The blended desired attitude of `:1008` is a unit quaternion with the thrust axis of the
setpoint, and at yaw weight `1` it is the setpoint up to sign: in the regular branch, where the
shortest arc is outside its opposite-vector band, and in the antipodal fallback, for unit
attitudes and every nonnegative yaw weight. -/
theorem attitudeSetpoint_keeps_thrust_axis (hlib : lib.Exact) (q qd : Quatf ℝ) (w : ℝ)
    (hq : q.dot q = 1) (hqd : qd.dot qd = 1) (hw : 0 ≤ w)
    (hbranch : ¬IsOpposite lib q.dcmZ qd.dcmZ ∨ IsAntipodal (ofVectors lib q.dcmZ qd.dcmZ)) :
    (attitudeSetpoint lib q qd w).dot (attitudeSetpoint lib q qd w) = 1 ∧
      (attitudeSetpoint lib q qd w).dcmZ = qd.dcmZ ∧
      (w = 1 → attitudeSetpoint lib q qd w = qd ∨ attitudeSetpoint lib q qd w = -qd) := by
  obtain ⟨hr, hz⟩ := reducedAttitude_aligned hlib hq hqd hbranch
  exact blend_of_aligned hlib hr hqd hz hw

/-- A half turn in yaw from level, blended at half weight. -/
theorem attitudeSetpoint_keeps_thrust_axis_yaw_half_turn :
    let lib : Libm ℝ := ⟨fun _ => true, Real.sqrt, Real.cos, Real.sin, Real.arccos, Real.arcsin,
      fun y x => Complex.arg ⟨x, y⟩, Real.pi⟩
    let qd : Quatf ℝ := ⟨0, 0, 0, 1⟩
    lib.Exact ∧ (1 : Quatf ℝ).dot 1 = 1 ∧ qd.dot qd = 1 ∧ (0 : ℝ) ≤ 1 / 2 ∧
      (¬IsOpposite lib (1 : Quatf ℝ).dcmZ qd.dcmZ ∨
        IsAntipodal (ofVectors lib (1 : Quatf ℝ).dcmZ qd.dcmZ)) ∧
      (attitudeSetpoint lib 1 qd (1 / 2)).dot (attitudeSetpoint lib 1 qd (1 / 2)) = 1 ∧
      (attitudeSetpoint lib 1 qd (1 / 2)).dcmZ = qd.dcmZ ∧
      ((1 : ℝ) / 2 = 1 →
        attitudeSetpoint lib 1 qd (1 / 2) = qd ∨ attitudeSetpoint lib 1 qd (1 / 2) = -qd) := by
  intro lib qd
  have hlib : lib.Exact := ⟨fun _ => rfl, fun _ => rfl, fun _ => rfl, fun _ => rfl, fun _ => rfl⟩
  have hqd : qd.dot qd = 1 := by simp [qd, dot]
  have hbranch : ¬IsOpposite lib (1 : Quatf ℝ).dcmZ qd.dcmZ ∨
      IsAntipodal (ofVectors lib (1 : Quatf ℝ).dcmZ qd.dcmZ) :=
    .inl fun h => by have := h.2; norm_num [qd, dcmZ, Vec3.dot] at this
  exact ⟨hlib, dot_one, hqd, by norm_num, hbranch,
    attitudeSetpoint_keeps_thrust_axis hlib 1 qd (1 / 2) dot_one hqd (by norm_num) hbranch⟩

end McAttControl
