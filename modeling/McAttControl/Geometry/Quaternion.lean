import McAttControl.Base.Matrix

/-!
# Quaternion algebra of the matrix library

The identities of `Quatf` and `Vector3f` that the attitude law relies on, proved from the
component formulas of `Base/Matrix`: the Hamilton product is associative and multiplies
squared norms, the conjugate of a unit quaternion is its `inversed()`, and `dcm_z` of a product
is the first factor's `Dcm` applied to `dcm_z` of the second. `Dcm(q)` of a quaternion of
squared norm `n` is `n` times a rotation: it scales dot products by `n²` and cross products by
`n`, and conjugation by `q` acts on a pure quaternion through it. On unit quaternions these are
the rotation laws.
-/

namespace McAttControl

variable {α : Type} [LinearOrderedField α]

namespace Vec3

theorem normSquared_nonneg (a : Fin 3 → α) : 0 ≤ normSquared a :=
  add_nonneg (add_nonneg (mul_self_nonneg _) (mul_self_nonneg _)) (mul_self_nonneg _)

/-- Lagrange's identity. -/
theorem normSquared_cross (a b : Fin 3 → α) :
    normSquared (cross a b) = normSquared a * normSquared b - dot a b ^ 2 := by
  simp [normSquared, dot, cross]; ring

theorem dot_cross_left (a b : Fin 3 → α) : dot (cross a b) a = 0 := by
  simp [dot, cross]; ring

/-- `(a × b) × a = |a|² b - (a · b) a`. -/
theorem cross_cross_left (a b : Fin 3 → α) (i : Fin 3) :
    cross (cross a b) a i = normSquared a * b i - dot a b * a i := by
  fin_cases i <;> simp only [normSquared, dot, cross, Fin.zero_eta, Fin.mk_one, Fin.reduceFinMk, Matrix.cons_val_zero, Matrix.cons_val_one,
    Matrix.head_cons, Matrix.cons_val_two, Matrix.tail_cons] <;> ring

end Vec3

/-- `Dcm * Vector3` is linear in the vector. -/
theorem Dcmf.mulVec_smul (m : Dcmf α) (k : α) (v : Fin 3 → α) (i : Fin 3) :
    Dcmf.mulVec m (fun j => k * v j) i = k * Dcmf.mulVec m v i := by
  simp only [Dcmf.mulVec]; ring

namespace Quatf

instance : One (Quatf α) := ⟨⟨1, 0, 0, 0⟩⟩

@[simp] theorem one_w : (1 : Quatf α).w = 1 := rfl
@[simp] theorem one_x : (1 : Quatf α).x = 0 := rfl
@[simp] theorem one_y : (1 : Quatf α).y = 0 := rfl
@[simp] theorem one_z : (1 : Quatf α).z = 0 := rfl

@[simp] theorem smul_w (k : α) (q : Quatf α) : (smul k q).w = k * q.w := rfl
@[simp] theorem smul_x (k : α) (q : Quatf α) : (smul k q).x = k * q.x := rfl
@[simp] theorem smul_y (k : α) (q : Quatf α) : (smul k q).y = k * q.y := rfl
@[simp] theorem smul_z (k : α) (q : Quatf α) : (smul k q).z = k * q.z := rfl

/-- The conjugate `(w, -x, -y, -z)`. -/
def conj (q : Quatf α) : Quatf α := ⟨q.w, -q.x, -q.y, -q.z⟩

@[simp] theorem conj_w (q : Quatf α) : q.conj.w = q.w := rfl
@[simp] theorem conj_x (q : Quatf α) : q.conj.x = -q.x := rfl
@[simp] theorem conj_y (q : Quatf α) : q.conj.y = -q.y := rfl
@[simp] theorem conj_z (q : Quatf α) : q.conj.z = -q.z := rfl

omit [LinearOrderedField α] in
theorem imag_mk (t : α) (v : Fin 3 → α) : (⟨t, v 0, v 1, v 2⟩ : Quatf α).imag = v := by
  funext i; fin_cases i <;> rfl

/-! ### The Hamilton product -/

/-- The Hamilton product is associative with unit `(1, 0, 0, 0)`. -/
instance : Monoid (Quatf α) where
  mul := (· * ·)
  one := 1
  mul_assoc p q r := by ext <;> simp only [mul_w, mul_x, mul_y, mul_z] <;> ring
  one_mul q := by ext <;> simp only [mul_w, mul_x, mul_y, mul_z, one_w, one_x, one_y, one_z] <;> ring
  mul_one q := by ext <;> simp only [mul_w, mul_x, mul_y, mul_z, one_w, one_x, one_y, one_z] <;> ring

theorem mul_smul_right (p : Quatf α) (k : α) (q : Quatf α) : p * smul k q = smul k (p * q) := by
  ext <;> simp only [mul_w, mul_x, mul_y, mul_z, smul_w, smul_x, smul_y, smul_z] <;> ring

theorem smul_mul_left (k : α) (p q : Quatf α) : smul k p * q = smul k (p * q) := by
  ext <;> simp only [mul_w, mul_x, mul_y, mul_z, smul_w, smul_x, smul_y, smul_z] <;> ring

theorem smul_smul_eq (k l : α) (q : Quatf α) : smul k (smul l q) = smul (k * l) q := by
  ext <;> simp [mul_assoc]

@[simp] theorem smul_one_left (q : Quatf α) : smul 1 q = q := by
  ext <;> simp

theorem neg_eq_smul (q : Quatf α) : -q = smul (-1) q := by
  ext <;> simp

/-! ### Squared norm, conjugate and inverse -/

/-- The squared norm is multiplicative. -/
theorem dot_mul (p q : Quatf α) : (p * q).dot (p * q) = p.dot p * q.dot q := by
  simp only [dot, mul_w, mul_x, mul_y, mul_z]; ring

theorem dot_smul (k : α) (q : Quatf α) : (smul k q).dot (smul k q) = k ^ 2 * q.dot q := by
  simp [dot]; ring

@[simp] theorem dot_conj (q : Quatf α) : q.conj.dot q.conj = q.dot q := by
  simp [dot]

theorem dot_neg (q : Quatf α) : (-q).dot (-q) = q.dot q := by
  simp [dot]

theorem dot_one : (1 : Quatf α).dot 1 = 1 := by
  simp [dot]

/-- The squared norm splits into the scalar and the vector part. -/
theorem dot_self_eq (q : Quatf α) : q.dot q = q.w ^ 2 + Vec3.normSquared q.imag := by
  simp [dot, imag, Vec3.normSquared, Vec3.dot]; ring

theorem dot_mk (t : α) (v : Fin 3 → α) :
    (⟨t, v 0, v 1, v 2⟩ : Quatf α).dot ⟨t, v 0, v 1, v 2⟩ = t ^ 2 + Vec3.normSquared v := by
  rw [dot_self_eq, imag_mk]

/-- `normalize()` scales by the inverse of the library's square root of the squared norm. -/
theorem normalize_eq_smul (lib : Libm α) (q : Quatf α) :
    q.normalize lib = smul (lib.sqrt (q.dot q))⁻¹ q := by
  ext <;> simp [normalize, div_eq_inv_mul]

theorem conj_mul_self (q : Quatf α) : q.conj * q = smul (q.dot q) 1 := by
  ext <;> simp [dot] <;> ring

theorem mul_conj_self (q : Quatf α) : q * q.conj = smul (q.dot q) 1 := by
  ext <;> simp [dot] <;> ring

theorem conj_mul_self_of_unit {q : Quatf α} (h : q.dot q = 1) : q.conj * q = 1 := by
  rw [conj_mul_self, h, smul_one_left]

theorem mul_conj_self_of_unit {q : Quatf α} (h : q.dot q = 1) : q * q.conj = 1 := by
  rw [mul_conj_self, h, smul_one_left]

/-- `inversed()` of a unit quaternion is its conjugate. -/
theorem inversed_of_unit {q : Quatf α} (h : q.dot q = 1) : q.inversed = q.conj := by
  ext <;> simp [inversed, h, conj]

/-- Left division by a unit quaternion. -/
theorem mul_conj_mul_of_unit {p : Quatf α} (h : p.dot p = 1) (q : Quatf α) :
    p * (p.conj * q) = q := by
  rw [← mul_assoc, mul_conj_self_of_unit h, one_mul]

theorem conj_mul_mul_of_unit {p : Quatf α} (h : p.dot p = 1) (q : Quatf α) :
    p.conj * (p * q) = q := by
  rw [← mul_assoc, conj_mul_self_of_unit h, one_mul]

/-! ### `Dcm(q)` and `dcm_z` -/

theorem toDcm_smul (k : α) (q : Quatf α) (v : Fin 3 → α) (i : Fin 3) :
    Dcmf.mulVec (smul k q).toDcm v i = k ^ 2 * Dcmf.mulVec q.toDcm v i := by
  fin_cases i <;> simp only [toDcm, Dcmf.mulVec, smul_w, smul_x, smul_y, smul_z, Fin.zero_eta, Fin.mk_one, Fin.reduceFinMk, Matrix.cons_val_zero, Matrix.cons_val_one,
    Matrix.head_cons, Matrix.cons_val_two, Matrix.tail_cons] <;> ring

/-- `Dcm(q) v = (w² - |u|²) v + 2 (u · v) u + 2 w (u × v)` for `q = (w, u)`. -/
theorem toDcm_mulVec (p : Quatf α) (v : Fin 3 → α) (i : Fin 3) :
    Dcmf.mulVec p.toDcm v i = (p.w ^ 2 - Vec3.normSquared p.imag) * v i +
      2 * Vec3.dot p.imag v * p.imag i + 2 * p.w * Vec3.cross p.imag v i := by
  fin_cases i <;> simp only [toDcm, Dcmf.mulVec, imag, Vec3.normSquared, Vec3.dot, Vec3.cross,
    Fin.zero_eta, Fin.mk_one, Fin.reduceFinMk, Matrix.cons_val_zero, Matrix.cons_val_one,
    Matrix.head_cons, Matrix.cons_val_two, Matrix.tail_cons] <;> ring

/-- `dcm_z` of a product is the first factor's `Dcm` applied to `dcm_z` of the second. -/
theorem dcmZ_mul (p q : Quatf α) : (p * q).dcmZ = Dcmf.mulVec p.toDcm q.dcmZ := by
  funext i; fin_cases i <;> simp only [dcmZ, toDcm, Dcmf.mulVec, mul_w, mul_x, mul_y, mul_z,
    Fin.zero_eta, Fin.mk_one, Fin.reduceFinMk, Matrix.cons_val_zero, Matrix.cons_val_one,
    Matrix.head_cons, Matrix.cons_val_two, Matrix.tail_cons] <;> ring

theorem dcmZ_one : (1 : Quatf α).dcmZ = ![0, 0, 1] := by
  funext i; fin_cases i <;> simp [dcmZ]

theorem dcmZ_eq_mulVec (q : Quatf α) : q.dcmZ = Dcmf.mulVec q.toDcm ![0, 0, 1] := by
  rw [← dcmZ_one, ← dcmZ_mul, mul_one]

theorem dcmZ_smul (k : α) (q : Quatf α) (i : Fin 3) : (smul k q).dcmZ i = k ^ 2 * q.dcmZ i := by
  fin_cases i <;> simp [dcmZ] <;> ring

@[simp] theorem dcmZ_neg (q : Quatf α) : (-q).dcmZ = q.dcmZ := by
  funext i; fin_cases i <;> simp [dcmZ]

theorem normSquared_dcmZ (q : Quatf α) : Vec3.normSquared q.dcmZ = q.dot q ^ 2 := by
  simp [Vec3.normSquared, Vec3.dot, dcmZ, dot]; ring

/-- `Dcm(p)` scales dot products by the square of `|p|²`. -/
theorem dot_toDcm_mulVec (p : Quatf α) (u v : Fin 3 → α) :
    Vec3.dot (Dcmf.mulVec p.toDcm u) (Dcmf.mulVec p.toDcm v) = p.dot p ^ 2 * Vec3.dot u v := by
  simp only [Vec3.dot, Dcmf.mulVec, toDcm, dot, Fin.zero_eta, Fin.mk_one, Fin.reduceFinMk, Matrix.cons_val_zero, Matrix.cons_val_one,
    Matrix.head_cons, Matrix.cons_val_two, Matrix.tail_cons]; ring

/-- `Dcm(p)` scales cross products by `|p|²`. -/
theorem cross_toDcm_mulVec (p : Quatf α) (u v : Fin 3 → α) (i : Fin 3) :
    Vec3.cross (Dcmf.mulVec p.toDcm u) (Dcmf.mulVec p.toDcm v) i =
      p.dot p * Dcmf.mulVec p.toDcm (Vec3.cross u v) i := by
  fin_cases i <;> simp only [Vec3.cross, Dcmf.mulVec, toDcm, dot, Fin.zero_eta, Fin.mk_one, Fin.reduceFinMk, Matrix.cons_val_zero, Matrix.cons_val_one,
    Matrix.head_cons, Matrix.cons_val_two, Matrix.tail_cons] <;> ring

/-- Conjugation by `p` keeps the scalar part, scaled by `|p|²`, and turns the vector part
through `Dcm(p)`. -/
theorem mul_mul_conj (p : Quatf α) (t : α) (v : Fin 3 → α) :
    p * ⟨t, v 0, v 1, v 2⟩ * p.conj =
      ⟨t * p.dot p, Dcmf.mulVec p.toDcm v 0, Dcmf.mulVec p.toDcm v 1,
        Dcmf.mulVec p.toDcm v 2⟩ := by
  ext <;> simp only [mul_w, mul_x, mul_y, mul_z, conj_w, conj_x, conj_y, conj_z, Dcmf.mulVec, toDcm,
    dot, Fin.zero_eta, Fin.mk_one, Fin.reduceFinMk, Matrix.cons_val_zero, Matrix.cons_val_one,
    Matrix.head_cons, Matrix.cons_val_two, Matrix.tail_cons] <;> ring

/-- A unit half turn about an axis normal to `v` sends `v` to `-v`. -/
theorem toDcm_mulVec_of_half_turn {p : Quatf α} {v : Fin 3 → α} (hw : p.w = 0)
    (hp : p.dot p = 1) (hv : Vec3.dot p.imag v = 0) (i : Fin 3) :
    Dcmf.mulVec p.toDcm v i = -v i := by
  rw [dot_self_eq, hw] at hp
  rw [toDcm_mulVec, hw, hv]; linear_combination -(v i) * hp

/-- A unit half turn about a horizontal axis, applied after `r`, flips the thrust axis. -/
theorem dcmZ_mul_half_turn {m : Quatf α} (hw : m.w = 0) (hz : m.z = 0) (hm : m.dot m = 1)
    (r : Quatf α) (i : Fin 3) : (r * m).dcmZ i = -r.dcmZ i := by
  unfold dot at hm
  rw [hw, hz] at hm
  have hdm : m.dcmZ = fun j => -(![0, 0, 1] : Fin 3 → α) j := by
    funext j; fin_cases j <;> simp [dcmZ, hw, hz]; linear_combination -hm
  rw [dcmZ_mul, dcmZ_eq_mulVec r, hdm]
  simp only [Dcmf.mulVec]; ring

/-- A unit quaternion whose `dcm_z` is the z axis turns about z only. -/
theorem xy_eq_zero_of_dcmZ {m : Quatf α} (h : m.dot m = 1) (hz : m.dcmZ = ![0, 0, 1]) :
    m.x = 0 ∧ m.y = 0 := by
  have h2 := congrFun hz 2
  simp only [dcmZ, Matrix.cons_val_two, Matrix.tail_cons, Matrix.head_cons] at h2
  unfold dot at h
  have hxy : m.x ^ 2 + m.y ^ 2 = 0 := by linear_combination (h - h2) / 2
  exact ⟨pow_eq_zero_iff two_ne_zero |>.mp (by linarith [sq_nonneg m.x, sq_nonneg m.y]),
    pow_eq_zero_iff two_ne_zero |>.mp (by linarith [sq_nonneg m.x, sq_nonneg m.y])⟩

/-- Between two unit attitudes with the same thrust axis, the relative rotation `r⁻¹ d` turns
about z only. -/
theorem conj_mul_xy_of_dcmZ_eq {r d : Quatf α} (hr : r.dot r = 1) (hd : d.dot d = 1)
    (hz : r.dcmZ = d.dcmZ) : (r.conj * d).x = 0 ∧ (r.conj * d).y = 0 := by
  apply xy_eq_zero_of_dcmZ
  · rw [dot_mul, dot_conj, hr, hd, one_mul]
  · rw [dcmZ_mul, ← hz, ← dcmZ_mul, conj_mul_self_of_unit hr, dcmZ_one]

end Quatf

end McAttControl
