import McAttControl.Base.Scalar

/-!
# The matrix library subset the controller uses

`Vector3f`, `Dcmf`, `Eulerf` and `Quatf` of the PX4 matrix library, which is not under
`src/`. A `Vector3f` (and a `float[3]` array) is a function `Fin 3 → α`, so the source's
`for (int i = 0; i < 3; i++)` loops become pointwise definitions. A quaternion keeps the
library's component order `q(0) .. q(3)` as the fields `w, x, y, z`. Every operation below is
the library's component formula; square roots and trigonometry go through `Libm`.
-/

namespace McAttControl

variable {α : Type} [LinearOrderedField α]

namespace Vec3

/-- `Vector3::dot`. -/
def dot (a b : Fin 3 → α) : α := a 0 * b 0 + a 1 * b 1 + a 2 * b 2

/-- `Vector3::cross`. -/
def cross (a b : Fin 3 → α) : Fin 3 → α :=
  ![a 1 * b 2 - a 2 * b 1, -a 0 * b 2 + a 2 * b 0, a 0 * b 1 - a 1 * b 0]

/-- `Vector::norm_squared`. -/
def normSquared (a : Fin 3 → α) : α := dot a a

/-- `Vector::norm`. -/
def norm (lib : Libm α) (a : Fin 3 → α) : α := lib.sqrt (normSquared a)

/-- `Matrix::abs`, componentwise. -/
def abs (a : Fin 3 → α) : Fin 3 → α := fun i => |a i|

/-- `Matrix::emult`, the componentwise product. -/
def emult (a b : Fin 3 → α) : Fin 3 → α := fun i => a i * b i

@[simp] theorem emult_apply (a b : Fin 3 → α) (i : Fin 3) : emult a b i = a i * b i := rfl

end Vec3

/-- `Dcmf`, a direction cosine matrix indexed `dcm(row, column)`. -/
abbrev Dcmf (α : Type) := Fin 3 → Fin 3 → α

namespace Dcmf

/-- `Dcm * Vector3`. -/
def mulVec (m : Dcmf α) (v : Fin 3 → α) : Fin 3 → α :=
  fun i => m i 0 * v 0 + m i 1 * v 1 + m i 2 * v 2

/-- `Dcm * Dcm`. -/
def mul (m n : Dcmf α) : Dcmf α :=
  fun i j => m i 0 * n 0 j + m i 1 * n 1 j + m i 2 * n 2 j

/-- `Dcm(const Euler &)`: the rotation with roll `phi`, pitch `theta` and yaw `psi`. -/
def ofEuler (lib : Libm α) (e : Fin 3 → α) : Dcmf α :=
  let cosPhi := lib.cos (e 0)
  let sinPhi := lib.sin (e 0)
  let cosThe := lib.cos (e 1)
  let sinThe := lib.sin (e 1)
  let cosPsi := lib.cos (e 2)
  let sinPsi := lib.sin (e 2)
  ![![cosThe * cosPsi, -cosPhi * sinPsi + sinPhi * sinThe * cosPsi,
      sinPhi * sinPsi + cosPhi * sinThe * cosPsi],
    ![cosThe * sinPsi, cosPhi * cosPsi + sinPhi * sinThe * sinPsi,
      -sinPhi * cosPsi + cosPhi * sinThe * sinPsi],
    ![-sinThe, sinPhi * cosThe, cosPhi * cosThe]]

end Dcmf

/-- `matrix::Quatf`, with `q(0) = w` the scalar part and `q(1..3) = x, y, z`. -/
@[ext] structure Quatf (α : Type) where
  w : α
  x : α
  y : α
  z : α
  deriving DecidableEq, Repr

namespace Quatf

/-- `Quatf(const float *)`, as the controller builds attitudes from `q[4]` message fields. -/
def ofArray (q : Fin 4 → α) : Quatf α := ⟨q 0, q 1, q 2, q 3⟩

/-- `Quaternion::operator*`, the Hamilton product. -/
instance : Mul (Quatf α) where
  mul p q :=
    ⟨p.w * q.w - p.x * q.x - p.y * q.y - p.z * q.z,
     p.w * q.x + p.x * q.w + p.y * q.z - p.z * q.y,
     p.w * q.y - p.x * q.z + p.y * q.w + p.z * q.x,
     p.w * q.z + p.x * q.y - p.y * q.x + p.z * q.w⟩

/-- `Quaternion * scalar`, as in `q_mix *= math::signNoZero(q_mix(0))`. -/
def smul (k : α) (q : Quatf α) : Quatf α := ⟨k * q.w, k * q.x, k * q.y, k * q.z⟩

instance : Neg (Quatf α) where
  neg q := ⟨-q.w, -q.x, -q.y, -q.z⟩

/-- `Vector::dot` on quaternion components. -/
def dot (p q : Quatf α) : α := p.w * q.w + p.x * q.x + p.y * q.y + p.z * q.z

/-- `Quaternion::inversed`: the conjugate divided by the squared norm. -/
def inversed (q : Quatf α) : Quatf α :=
  let normSq := dot q q
  ⟨q.w / normSq, -q.x / normSq, -q.y / normSq, -q.z / normSq⟩

/-- `Quaternion::normalize`: divide by `sqrt(q . q)`. -/
def normalize (lib : Libm α) (q : Quatf α) : Quatf α :=
  let n := lib.sqrt (dot q q)
  ⟨q.w / n, q.x / n, q.y / n, q.z / n⟩

/-- `Quaternion::dcm_z`: the body z axis expressed in the world frame. -/
def dcmZ (q : Quatf α) : Fin 3 → α :=
  ![2 * (q.w * q.y + q.x * q.z), 2 * (q.y * q.z - q.w * q.x),
    q.w * q.w - q.x * q.x - q.y * q.y + q.z * q.z]

/-- `Quaternion::imag`. -/
def imag (q : Quatf α) : Fin 3 → α := ![q.x, q.y, q.z]

/-- The corner-case rotation axis of `Quaternion(src, dst)`: the unit axis along which
`src` has its smallest absolute component. -/
def cornerAxis (src : Fin 3 → α) : Fin 3 → α :=
  let cr := Vec3.abs src
  if cr 0 < cr 1 then
    if cr 0 < cr 2 then ![1, 0, 0] else ![0, 0, 1]
  else
    if cr 1 < cr 2 then ![0, 1, 0] else ![0, 0, 1]

/-- The corner case of `Quaternion(src, dst, eps = 1e-5)`: the vectors are within `eps` of
parallel (by the norm of their cross product) and point in opposite directions. -/
def IsOpposite (lib : Libm α) (src dst : Fin 3 → α) : Prop :=
  Vec3.norm lib (Vec3.cross src dst) < 1 / 100000 ∧ Vec3.dot src dst < 0

instance (lib : Libm α) (src dst : Fin 3 → α) : Decidable (IsOpposite lib src dst) :=
  inferInstanceAs (Decidable (_ ∧ _))

/-- `Quaternion(src, dst)`: the shortest rotation from `src` to `dst` (half-way quaternion),
or in the opposite corner case a half turn about an axis normal to `src`; then normalized. -/
def ofVectors (lib : Libm α) (src dst : Fin 3 → α) : Quatf α :=
  let q : Quatf α :=
    if IsOpposite lib src dst then
      let cr := Vec3.cross src (cornerAxis src)
      ⟨0, cr 0, cr 1, cr 2⟩
    else
      let cr := Vec3.cross src dst
      ⟨Vec3.dot src dst + lib.sqrt (Vec3.normSquared src * Vec3.normSquared dst),
        cr 0, cr 1, cr 2⟩
  normalize lib q

/-- `Dcm(const Quaternion &)`. -/
def toDcm (q : Quatf α) : Dcmf α :=
  let a := q.w
  let b := q.x
  let c := q.y
  let d := q.z
  ![![a * a + b * b - c * c - d * d, 2 * (b * c - a * d), 2 * (a * c + b * d)],
    ![2 * (b * c + a * d), a * a - b * b + c * c - d * d, 2 * (c * d - a * b)],
    ![2 * (b * d - a * c), 2 * (a * b + c * d), a * a - b * b - c * c + d * d]]

/-- `Quaternion(const Euler &)`, roll-pitch-yaw. -/
def ofEuler (lib : Libm α) (e : Fin 3 → α) : Quatf α :=
  let cosPhi2 := lib.cos (e 0 / 2)
  let cosTheta2 := lib.cos (e 1 / 2)
  let cosPsi2 := lib.cos (e 2 / 2)
  let sinPhi2 := lib.sin (e 0 / 2)
  let sinTheta2 := lib.sin (e 1 / 2)
  let sinPsi2 := lib.sin (e 2 / 2)
  ⟨cosPhi2 * cosTheta2 * cosPsi2 + sinPhi2 * sinTheta2 * sinPsi2,
   sinPhi2 * cosTheta2 * cosPsi2 - cosPhi2 * sinTheta2 * sinPsi2,
   cosPhi2 * sinTheta2 * cosPsi2 + sinPhi2 * cosTheta2 * sinPsi2,
   cosPhi2 * cosTheta2 * sinPsi2 - sinPhi2 * sinTheta2 * cosPsi2⟩

@[simp] theorem mul_w (p q : Quatf α) : (p * q).w = p.w * q.w - p.x * q.x - p.y * q.y - p.z * q.z :=
  rfl
@[simp] theorem mul_x (p q : Quatf α) : (p * q).x = p.w * q.x + p.x * q.w + p.y * q.z - p.z * q.y :=
  rfl
@[simp] theorem mul_y (p q : Quatf α) : (p * q).y = p.w * q.y - p.x * q.z + p.y * q.w + p.z * q.x :=
  rfl
@[simp] theorem mul_z (p q : Quatf α) : (p * q).z = p.w * q.z + p.x * q.y - p.y * q.x + p.z * q.w :=
  rfl
@[simp] theorem neg_w (q : Quatf α) : (-q).w = -q.w := rfl
@[simp] theorem neg_x (q : Quatf α) : (-q).x = -q.x := rfl
@[simp] theorem neg_y (q : Quatf α) : (-q).y = -q.y := rfl
@[simp] theorem neg_z (q : Quatf α) : (-q).z = -q.z := rfl

end Quatf

/-- `Euler(const Dcm &)`: roll, pitch, yaw, with the library's gimbal-lock branches when the
pitch is within `1e-3` of a quarter turn. -/
def eulerOfDcm (lib : Libm α) (dcm : Dcmf α) : Fin 3 → α :=
  let phi := lib.atan2 (dcm 2 1) (dcm 2 2)
  let theta := lib.asin (-dcm 2 0)
  let psi := lib.atan2 (dcm 1 0) (dcm 0 0)
  if |theta - lib.pi / 2| < 1 / 1000 then ![0, theta, lib.atan2 (dcm 1 2) (dcm 0 2)]
  else if |theta + lib.pi / 2| < 1 / 1000 then ![0, theta, lib.atan2 (-dcm 1 2) (-dcm 0 2)]
  else ![phi, theta, psi]

/-- `Eulerf(const Quatf &)`, through the rotation matrix. -/
def eulerOfQuat (lib : Libm α) (q : Quatf α) : Fin 3 → α := eulerOfDcm lib q.toDcm

end McAttControl
