import McAttControl.Geometry.Quaternion
import McAttControl.Controller.AttitudeLaw

/-!
# The shortest-arc quaternion and the reduced attitude

`Quaternion(src, dst)` of the matrix library (`Quatf.ofVectors`), over the reals with an exact
C library. For unit vectors outside its opposite-vector band it returns the unit quaternion of
the shortest rotation from `src` onto `dst`; inside the band it returns a unit half turn about
an axis normal to `src`, which sends `src` to `-src`. `control_attitude` composes it with the
current attitude into the reduced attitude `qd_red` (`src/unnamed/part_000:989–1000`), which
then has the thrust axis of the setpoint, unless the antipodal fallback takes the setpoint
itself.
-/

namespace McAttControl

/-- The C library's square root and trigonometry are the exact real functions. -/
structure Libm.Exact (lib : Libm ℝ) : Prop where
  sqrt_eq : ∀ x, lib.sqrt x = Real.sqrt x
  cos_eq : ∀ x, lib.cos x = Real.cos x
  sin_eq : ∀ x, lib.sin x = Real.sin x
  acos_eq : ∀ x, lib.acos x = Real.arccos x
  asin_eq : ∀ x, lib.asin x = Real.arcsin x

namespace Quatf

variable {lib : Libm ℝ}

/-! ### `normalize()` -/

theorem normalize_of_unit (hlib : lib.Exact) {q : Quatf ℝ} (h : q.dot q = 1) :
    q.normalize lib = q := by
  rw [normalize_eq_smul, h, hlib.sqrt_eq, Real.sqrt_one, inv_one, smul_one_left]

theorem dot_normalize (hlib : lib.Exact) {q : Quatf ℝ} (h : 0 < q.dot q) :
    (q.normalize lib).dot (q.normalize lib) = 1 := by
  rw [normalize_eq_smul, dot_smul, hlib.sqrt_eq, inv_pow, Real.sq_sqrt h.le, inv_mul_cancel₀ h.ne']

/-- Normalizing a positive multiple of a unit quaternion gives it back. -/
theorem normalize_smul (hlib : lib.Exact) {k : ℝ} (hk : 0 < k) {u : Quatf ℝ} (hu : u.dot u = 1) :
    (smul k u).normalize lib = u := by
  rw [normalize_eq_smul, dot_smul, hu, mul_one, hlib.sqrt_eq, Real.sqrt_sq hk.le, smul_smul_eq,
    inv_mul_cancel₀ hk.ne', smul_one_left]

/-! ### `Quaternion(src, dst)` on unit vectors -/

variable {a b : Fin 3 → ℝ}

/-- Outside the opposite-vector band, `src · dst > -1`: at `-1` the cross product vanishes. -/
theorem one_add_dot_pos (hlib : lib.Exact) (ha : Vec3.normSquared a = 1)
    (hb : Vec3.normSquared b = 1) (h : ¬IsOpposite lib a b) : 0 < 1 + Vec3.dot a b := by
  have hl := Vec3.normSquared_cross a b
  rw [ha, hb, one_mul] at hl
  have hn := Vec3.normSquared_nonneg (Vec3.cross a b)
  by_contra hle
  have hd : Vec3.dot a b = -1 := by nlinarith
  refine h ⟨?_, by rw [hd]; norm_num⟩
  rw [Vec3.norm, hlib.sqrt_eq, hl, hd]; norm_num

/-- The regular case is the normalized half-way quaternion `(a · b + 1, a × b)`. -/
theorem ofVectors_of_not_opposite (hlib : lib.Exact) (ha : Vec3.normSquared a = 1)
    (hb : Vec3.normSquared b = 1) (h : ¬IsOpposite lib a b) :
    ofVectors lib a b = normalize lib
      ⟨Vec3.dot a b + 1, Vec3.cross a b 0, Vec3.cross a b 1, Vec3.cross a b 2⟩ := by
  simp only [ofVectors, if_neg h, ha, hb, mul_one, hlib.sqrt_eq, Real.sqrt_one]

theorem dot_halfway (ha : Vec3.normSquared a = 1) (hb : Vec3.normSquared b = 1) :
    (⟨Vec3.dot a b + 1, Vec3.cross a b 0, Vec3.cross a b 1, Vec3.cross a b 2⟩ : Quatf ℝ).dot
      ⟨Vec3.dot a b + 1, Vec3.cross a b 0, Vec3.cross a b 1, Vec3.cross a b 2⟩ =
      2 * (1 + Vec3.dot a b) := by
  rw [dot_mk, Vec3.normSquared_cross, ha, hb]; ring

/-- The half-way quaternion turns `a` onto `2 (1 + a · b) b`. -/
theorem toDcm_halfway (ha : Vec3.normSquared a = 1) (hb : Vec3.normSquared b = 1) (i : Fin 3) :
    Dcmf.mulVec (⟨Vec3.dot a b + 1, Vec3.cross a b 0, Vec3.cross a b 1, Vec3.cross a b 2⟩ :
      Quatf ℝ).toDcm a i = 2 * (1 + Vec3.dot a b) * b i := by
  simp only [toDcm_mulVec, imag_mk]
  rw [Vec3.normSquared_cross, Vec3.dot_cross_left, Vec3.cross_cross_left, ha, hb]; ring

/-- The regular case: a unit quaternion turning `src` onto `dst`. -/
theorem ofVectors_regular (hlib : lib.Exact) (ha : Vec3.normSquared a = 1)
    (hb : Vec3.normSquared b = 1) (h : ¬IsOpposite lib a b) :
    (ofVectors lib a b).dot (ofVectors lib a b) = 1 ∧
      Dcmf.mulVec (ofVectors lib a b).toDcm a = b := by
  have hpos : 0 < 2 * (1 + Vec3.dot a b) := mul_pos two_pos (one_add_dot_pos hlib ha hb h)
  rw [ofVectors_of_not_opposite hlib ha hb h]
  refine ⟨dot_normalize hlib (by rwa [dot_halfway ha hb]), funext fun i => ?_⟩
  rw [normalize_eq_smul, toDcm_smul, toDcm_halfway ha hb, dot_halfway ha hb, hlib.sqrt_eq, inv_pow,
    Real.sq_sqrt hpos.le, ← mul_assoc, inv_mul_cancel₀ hpos.ne', one_mul]

/-- The corner axis is never parallel to a unit `src`: it picks a smallest component. -/
theorem normSquared_cross_cornerAxis_pos (ha : Vec3.normSquared a = 1) :
    0 < Vec3.normSquared (Vec3.cross a (cornerAxis a)) := by
  rw [Vec3.normSquared_cross, ha, one_mul]
  unfold Vec3.normSquared Vec3.dot at ha
  unfold cornerAxis Vec3.abs; dsimp only
  split_ifs with h01 h02 h12 <;>
    simp only [Vec3.normSquared, Vec3.dot, Matrix.cons_val_zero, Matrix.cons_val_one,
      Matrix.head_cons, Matrix.cons_val_two, Matrix.tail_cons]
  · linarith [sq_lt_sq.mpr h01, sq_nonneg (a 2)]
  · linarith [sq_lt_sq.mpr h01, sq_nonneg (a 0)]
  · linarith [sq_lt_sq.mpr h12, sq_nonneg (a 0)]
  · linarith [sq_le_sq.mpr (not_lt.mp h01), sq_le_sq.mpr (not_lt.mp h12)]

/-- In the band, `Quaternion(src, dst)` is a unit half turn about an axis normal to `src`. -/
theorem ofVectors_opposite (hlib : lib.Exact) (ha : Vec3.normSquared a = 1)
    (h : IsOpposite lib a b) :
    (ofVectors lib a b).w = 0 ∧ (ofVectors lib a b).dot (ofVectors lib a b) = 1 ∧
      Vec3.dot (ofVectors lib a b).imag a = 0 := by
  have hpos := normSquared_cross_cornerAxis_pos ha
  simp only [ofVectors, if_pos h]
  refine ⟨by simp [normalize], dot_normalize hlib (by rw [dot_mk]; simpa using hpos), ?_⟩
  simp [normalize, imag, Vec3.dot, Vec3.cross]; ring

/-- A unit `src` goes to itself by the identity. -/
theorem ofVectors_self (hlib : lib.Exact) (ha : Vec3.normSquared a = 1) : ofVectors lib a a = 1 := by
  have hno : ¬IsOpposite lib a a := fun h => by
    have := h.2; rw [← Vec3.normSquared, ha] at this; norm_num at this
  rw [ofVectors_of_not_opposite hlib ha ha hno, ← Vec3.normSquared, ha]
  have h2 : (⟨1 + 1, Vec3.cross a a 0, Vec3.cross a a 1, Vec3.cross a a 2⟩ : Quatf ℝ) = smul 2 1 := by
    ext <;> simp [Vec3.cross] <;> ring
  rw [h2, normalize_smul hlib two_pos dot_one]

end Quatf

open Quatf

/-! ### The reduced attitude `qd_red` -/

variable {lib : Libm ℝ}

theorem normSquared_dcmZ_of_unit {q : Quatf ℝ} (hq : q.dot q = 1) :
    Vec3.normSquared q.dcmZ = 1 := by
  rw [normSquared_dcmZ, hq, one_pow]

/-- Outside the opposite-vector band, or in the antipodal fallback, the reduced attitude is a
unit quaternion with the thrust axis of the setpoint. -/
theorem reducedAttitude_aligned (hlib : lib.Exact) {q qd : Quatf ℝ} (hq : q.dot q = 1)
    (hqd : qd.dot qd = 1)
    (hbranch : ¬IsOpposite lib q.dcmZ qd.dcmZ ∨ IsAntipodal (ofVectors lib q.dcmZ qd.dcmZ)) :
    (reducedAttitude lib q qd).dot (reducedAttitude lib q qd) = 1 ∧
      (reducedAttitude lib q qd).dcmZ = qd.dcmZ := by
  unfold reducedAttitude; dsimp only
  split_ifs with hanti
  · exact ⟨hqd, rfl⟩
  · obtain ⟨hunit, hturn⟩ := ofVectors_regular hlib (normSquared_dcmZ_of_unit hq)
      (normSquared_dcmZ_of_unit hqd) (hbranch.resolve_right hanti)
    exact ⟨by rw [dot_mul, hunit, hq, one_mul], by rw [dcmZ_mul, hturn]⟩

/-- With the thrust axis already on target, the reduced attitude is the current attitude. -/
theorem reducedAttitude_of_dcmZ_eq (hlib : lib.Exact) {q qd : Quatf ℝ} (hq : q.dot q = 1)
    (hz : qd.dcmZ = q.dcmZ) : reducedAttitude lib q qd = q := by
  have hanti : ¬IsAntipodal (1 : Quatf ℝ) := by norm_num [IsAntipodal]
  simp only [reducedAttitude, hz, ofVectors_self hlib (normSquared_dcmZ_of_unit hq), if_neg hanti,
    one_mul]

end McAttControl
