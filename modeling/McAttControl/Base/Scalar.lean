import Mathlib

/-!
# Scalars, the C math library and the PX4 limit helpers

The controller computes in `float`. The model reads every `float` as an element of a linear
ordered field `α` and every literal as the decimal it is written as (`0.1f` is `1/10`), so
rounding is outside the model. The C math library and `PX4_ISFINITE` are not part of the
repository: they are the explicit parameter `Libm`, as in the source's calls
`sqrtf`, `cosf`, `acosf`, ... . `math::constrain`, `math::signNoZero` and `math::radians`
live in `mathlib/math/Limits.hpp`, which is not under `src/`.
-/

namespace McAttControl

/-- The C math functions and the finiteness test the controller calls. -/
structure Libm (α : Type) where
  /-- `PX4_ISFINITE`. -/
  isFinite : α → Bool
  sqrt : α → α
  cos : α → α
  sin : α → α
  acos : α → α
  asin : α → α
  atan2 : α → α → α
  /-- `M_PI`, as `math::radians` and the matrix library's `Euler` use it. -/
  pi : α
  deriving Inhabited

variable {α : Type} [LinearOrderedField α]

/-- Modelled from the spec: `math::constrain(val, min_val, max_val)` clamps `val` to
`[min_val, max_val]`, as `val < min_val ? min_val : (val > max_val ? max_val : val)`. -/
def constrain (val minVal maxVal : α) : α :=
  if val < minVal then minVal else if maxVal < val then maxVal else val

/-- Modelled from the spec: `math::signNoZero(val)` is `(0 <= val) - (val < 0)`, the sign used
to flip a quaternion whose scalar part is negative. -/
def signNoZero (val : α) : α :=
  if 0 ≤ val then 1 else -1

/-- Modelled from the spec: `math::radians(degrees)` is `degrees * (M_PI / 180)`. -/
def radians (pi degrees : α) : α := degrees * (pi / 180)

/-- A clamp to an ordered interval lands in it. -/
theorem constrain_mem {val lo hi : α} (h : lo ≤ hi) :
    lo ≤ constrain val lo hi ∧ constrain val lo hi ≤ hi := by
  unfold constrain
  split_ifs with h1 h2 <;> constructor <;> linarith

/-- A value already inside the interval is left as it is. -/
theorem constrain_of_mem {val lo hi : α} (h1 : lo ≤ val) (h2 : val ≤ hi) :
    constrain val lo hi = val := by
  unfold constrain
  split_ifs <;> linarith

/-- A clamp is monotone in the clamped value. -/
theorem constrain_mono {a b lo hi : α} (h : lo ≤ hi) (hab : a ≤ b) :
    constrain a lo hi ≤ constrain b lo hi := by
  unfold constrain
  split_ifs <;> linarith

/-- A clamp moves two values no further apart. -/
theorem abs_constrain_sub_le {a b lo hi : α} (h : lo ≤ hi) :
    |constrain a lo hi - constrain b lo hi| ≤ |a - b| := by
  have h1 := le_abs_self (a - b)
  have h2 := neg_abs_le (a - b)
  rw [abs_sub_le_iff]
  unfold constrain
  split_ifs <;> constructor <;> linarith

/-- A symmetric clamp with a nonnegative bound stays inside the bound. -/
theorem abs_constrain_le {val m : α} (hm : 0 ≤ m) : |constrain val (-m) m| ≤ m :=
  abs_le.mpr (constrain_mem (by linarith))

/-- A symmetric clamp with a positive bound keeps the sign of its argument. -/
theorem constrain_pos_iff {val m : α} (hm : 0 < m) : 0 < constrain val (-m) m ↔ 0 < val := by
  unfold constrain
  split_ifs with h1 h2 <;> constructor <;> intro h <;> linarith

/-- A symmetric clamp with a positive bound keeps the sign of its argument. -/
theorem constrain_neg_iff {val m : α} (hm : 0 < m) : constrain val (-m) m < 0 ↔ val < 0 := by
  unfold constrain
  split_ifs with h1 h2 <;> constructor <;> intro h <;> linarith

/-- A symmetric clamp with a positive bound is zero exactly at zero. -/
theorem constrain_eq_zero_iff {val m : α} (hm : 0 < m) : constrain val (-m) m = 0 ↔ val = 0 := by
  unfold constrain
  split_ifs with h1 h2 <;> constructor <;> intro h <;> linarith

@[simp] theorem constrain_zero {m : α} (hm : 0 ≤ m) : constrain 0 (-m) m = 0 :=
  constrain_of_mem (by linarith) hm

@[simp] theorem signNoZero_of_nonneg {val : α} (h : 0 ≤ val) : signNoZero val = 1 := if_pos h

@[simp] theorem signNoZero_of_neg {val : α} (h : val < 0) : signNoZero val = -1 :=
  if_neg (not_le.mpr h)

/-- The sign is a unit: its square is one. -/
theorem signNoZero_mul_self (val : α) : signNoZero val * signNoZero val = 1 := by
  unfold signNoZero; split_ifs <;> norm_num

/-- Multiplying by the sign makes a value nonnegative. -/
theorem signNoZero_mul_self_nonneg (val : α) : 0 ≤ signNoZero val * val := by
  unfold signNoZero; split_ifs with h <;> linarith

theorem signNoZero_eq_one_or (val : α) : signNoZero val = 1 ∨ signNoZero val = -1 := by
  unfold signNoZero; split_ifs
  exacts [.inl rfl, .inr rfl]

theorem signNoZero_ne_zero (val : α) : signNoZero val ≠ 0 := by
  unfold signNoZero; split_ifs <;> norm_num

end McAttControl
