import McAttControl.Controller.State

/-!
# The actuator mixer

`mixer` (`src/unnamed/part_000:547–593`), `thrust_to_throttle` (`:595–610`) and
`throttle_to_thrust` (`:612–627`): mix torques and total thrust into four motor thrusts, turn
each into a throttle through a fitted quartic, and re-mix the throttles. The two quartics are
separate empirical fits of one motor curve; they are not exact inverses.
-/

namespace McAttControl

variable {α σ : Type} [LinearOrderedField α]

/-- `thrust_to_throttle(thrust)`: the thrust clamped to `[0, 7]`, then the fitted quartic. -/
def thrustToThrottle (thrust : α) : α :=
  let thrust := constrain thrust 0 7
  (-(6892 / 10000000)) * thrust ^ 4 + 1271 / 100000 * thrust ^ 3 - 7948 / 100000 * thrust ^ 2 +
    3052 / 10000 * thrust + 8775 / 1000000

/-- `throttle_to_thrust(throttle)`: the throttle clamped to `[0, 1]`, then the fitted quartic. -/
def throttleToThrust (throttle : α) : α :=
  let throttle := constrain throttle 0 1
  2052 / 1000 * throttle ^ 4 - 1111 / 100 * throttle ^ 3 + 1565 / 100 * throttle ^ 2 +
    7379 / 10000 * throttle + 2543 / 100000

/-- The `_mixer` record `mixer(roll, pitch, yaw, throttle)` computes: plus-configuration motor
thrusts with arm coefficient `2.143`, yaw coefficient `14.27` and thrust share `0.25`, their
throttles, and the re-mix with coefficient `0.354`. -/
def mixerStatus (roll pitch yaw throttle : α) : MixerStatus α :=
  let thrust := 4 * throttleToThrust throttle
  let a : α := 2143 / 1000
  let b : α := 1427 / 100
  let c : α := 1 / 4
  let f1 := -a * roll + a * pitch + b * yaw + c * thrust
  let f2 := a * roll - a * pitch + b * yaw + c * thrust
  let f3 := a * roll + a * pitch - b * yaw + c * thrust
  let f4 := -a * roll - a * pitch - b * yaw + c * thrust
  let t1 := thrustToThrottle f1
  let t2 := thrustToThrottle f2
  let t3 := thrustToThrottle f3
  let t4 := thrustToThrottle f4
  let d : α := 354 / 1000
  ⟨roll, pitch, yaw, throttle, f1, f2, f3, f4, t1, t2, t3, t4,
   -d * t1 + d * t2 + d * t3 - d * t4, d * t1 - d * t2 + d * t3 - d * t4,
   c * (t1 + t2 - t3 - t4), c * (t1 + t2 + t3 + t4)⟩

/-- `mixer(roll, pitch, yaw, throttle)`: store the mixer record and publish it. -/
def mixer (s : Ctrl α σ) (roll pitch yaw throttle : α) : Ctrl α σ × List (Pub α) :=
  let m := mixerStatus roll pitch yaw throttle
  let out := publishOrAdvertise s.mixerPub true (.mixer m)
  ({ s with mixer := m, mixerPub := out.1 }, out.2)

/-- With no moment command every motor gets the same throttle, the round trip of the commanded
throttle through both fits, and the re-mix returns exactly that round trip as thrust and no
roll, pitch or yaw. -/
theorem mixerStatus_zero_moments (t : α) :
    (mixerStatus 0 0 0 t).outputThrust = thrustToThrottle (throttleToThrust t) ∧
      (mixerStatus 0 0 0 t).outputRoll = 0 ∧ (mixerStatus 0 0 0 t).outputPitch = 0 ∧
      (mixerStatus 0 0 0 t).outputYaw = 0 := by
  have h : (1 / 4 : α) * (4 * throttleToThrust t) = throttleToThrust t := by ring
  simp only [mixerStatus, mul_zero, neg_mul, neg_zero, add_zero, sub_zero, zero_add, h]
  refine ⟨by ring, by ring, by ring, by ring⟩

/-! ### The two fits are increasing, and their round trip -/

/-- The thrust-to-throttle quartic rises on `[0, 7]`: its difference quotient is positive, by a
certificate over the products of the triangle's sides `a`, `b - a`, `7 - b`. -/
private theorem throttleFit_le {a b : α} (ha : 0 ≤ a) (hab : a ≤ b) (hb : b ≤ 7) :
    (-(6892 / 10000000)) * a ^ 4 + 1271 / 100000 * a ^ 3 - 7948 / 100000 * a ^ 2 +
        3052 / 10000 * a ≤
      (-(6892 / 10000000)) * b ^ 4 + 1271 / 100000 * b ^ 3 - 7948 / 100000 * b ^ 2 +
        3052 / 10000 * b := by
  have h2 := sub_nonneg.2 hab
  have h3 := sub_nonneg.2 hb
  have hs := sq_nonneg (a + b - 636 / 100)
  have hq : 0 ≤ (-(6892 / 10000000)) * (a ^ 3 + a ^ 2 * b + a * b ^ 2 + b ^ 3) +
      1271 / 100000 * (a ^ 2 + a * b + b ^ 2) - 7948 / 100000 * (a + b) + 3052 / 10000 := by
    linarith [mul_nonneg hs h3, mul_nonneg (mul_nonneg ha ha) h2, mul_nonneg (mul_nonneg ha h3) h3,
      mul_nonneg (mul_nonneg h2 h2) h2, mul_nonneg (mul_nonneg h2 h2) h3,
      mul_nonneg (mul_nonneg h2 h3) h3]
  linarith [mul_nonneg h2 hq]

/-- The throttle-to-thrust quartic rises on `[0, 1]`: its difference quotient is positive, by a
certificate over the products of the triangle's sides `a`, `b - a`, `1 - b`. -/
private theorem thrustFit_le {a b : α} (ha : 0 ≤ a) (hab : a ≤ b) (hb : b ≤ 1) :
    2052 / 1000 * a ^ 4 - 1111 / 100 * a ^ 3 + 1565 / 100 * a ^ 2 + 7379 / 10000 * a ≤
      2052 / 1000 * b ^ 4 - 1111 / 100 * b ^ 3 + 1565 / 100 * b ^ 2 + 7379 / 10000 * b := by
  have h2 := sub_nonneg.2 hab
  have h3 := sub_nonneg.2 hb
  have hq : 0 ≤ 2052 / 1000 * (a ^ 3 + a ^ 2 * b + a * b ^ 2 + b ^ 3) -
      1111 / 100 * (a ^ 2 + a * b + b ^ 2) + 1565 / 100 * (a + b) + 7379 / 10000 := by
    linarith [mul_nonneg (mul_nonneg ha ha) h2, mul_nonneg (mul_nonneg ha ha) h3,
      mul_nonneg (mul_nonneg ha h2) h2, mul_nonneg (mul_nonneg ha h2) h3,
      mul_nonneg (mul_nonneg ha h3) h3, mul_nonneg (mul_nonneg h2 h2) h3,
      mul_nonneg (mul_nonneg h2 h3) h3]
  linarith [mul_nonneg h2 hq]

/-- `thrust_to_throttle` is increasing: the clamp and the fit on `[0, 7]` both are. -/
theorem monotone_thrustToThrottle : Monotone (thrustToThrottle : α → α) := by
  intro a b hab
  have h : constrain a 0 7 ≤ constrain b (0 : α) 7 := constrain_mono (by norm_num) hab
  have hb : (0 : α) ≤ constrain b 0 7 ∧ constrain b 0 7 ≤ (7 : α) := constrain_mem (by norm_num)
  have ha : (0 : α) ≤ constrain a 0 7 ∧ constrain a 0 7 ≤ (7 : α) := constrain_mem (by norm_num)
  simpa [thrustToThrottle] using throttleFit_le ha.1 h hb.2

/-- `throttle_to_thrust` is increasing: the clamp and the fit on `[0, 1]` both are. -/
theorem monotone_throttleToThrust : Monotone (throttleToThrust : α → α) := by
  intro a b hab
  have h : constrain a 0 1 ≤ constrain b (0 : α) 1 := constrain_mono zero_le_one hab
  have hb : (0 : α) ≤ constrain b 0 1 ∧ constrain b 0 1 ≤ (1 : α) := constrain_mem zero_le_one
  have ha : (0 : α) ≤ constrain a 0 1 ∧ constrain a 0 1 ≤ (1 : α) := constrain_mem zero_le_one
  simpa [throttleToThrust] using thrustFit_le ha.1 h hb.2

/-! ### The motor throttles and the re-mix -/

/-- `thrust_to_throttle` maps every thrust into `[0, 1]`: on the clamp interval the fit rises
from `0.008775` at `0` to `0.9556158` at `7`. -/
theorem thrustToThrottle_mem (x : α) : 0 ≤ thrustToThrottle x ∧ thrustToThrottle x ≤ 1 := by
  have hc : (0 : α) ≤ constrain x 0 7 ∧ constrain x 0 7 ≤ 7 := constrain_mem (by norm_num)
  have h0 := throttleFit_le le_rfl hc.1 hc.2
  have h7 := throttleFit_le hc.1 hc.2 le_rfl
  norm_num at h0 h7
  unfold thrustToThrottle
  constructor <;> linarith

/-- The increasing fits as `gcongr` rules, for the monotonicity of the re-mix below. -/
@[gcongr] private theorem thrustToThrottle_le_thrustToThrottle {x y : α} (h : x ≤ y) :
    thrustToThrottle x ≤ thrustToThrottle y := monotone_thrustToThrottle h

@[gcongr] private theorem throttleToThrust_le_throttleToThrust {x y : α} (h : x ≤ y) :
    throttleToThrust x ≤ throttleToThrust y := monotone_throttleToThrust h

/-- Every motor throttle of the mixer lies in `[0, 1]`, and each re-mixed output moves with its
own command while the other three are held: the roll output with roll, the pitch output with
pitch, the yaw output with yaw and the thrust output with the throttle. Each motor's thrust
moves with a command exactly where that motor's throttle enters the output with the same sign,
and both fits are increasing. -/
theorem mixer_throttles_mem_and_outputs_monotone (s : Ctrl α σ) (roll pitch yaw throttle : α) :
    ((0 ≤ (mixer s roll pitch yaw throttle).1.mixer.throttle1 ∧
        (mixer s roll pitch yaw throttle).1.mixer.throttle1 ≤ 1) ∧
      (0 ≤ (mixer s roll pitch yaw throttle).1.mixer.throttle2 ∧
        (mixer s roll pitch yaw throttle).1.mixer.throttle2 ≤ 1) ∧
      (0 ≤ (mixer s roll pitch yaw throttle).1.mixer.throttle3 ∧
        (mixer s roll pitch yaw throttle).1.mixer.throttle3 ≤ 1) ∧
      (0 ≤ (mixer s roll pitch yaw throttle).1.mixer.throttle4 ∧
        (mixer s roll pitch yaw throttle).1.mixer.throttle4 ≤ 1)) ∧
    Monotone (fun r => (mixer s r pitch yaw throttle).1.mixer.outputRoll) ∧
    Monotone (fun p => (mixer s roll p yaw throttle).1.mixer.outputPitch) ∧
    Monotone (fun y => (mixer s roll pitch y throttle).1.mixer.outputYaw) ∧
    Monotone (fun t => (mixer s roll pitch yaw t).1.mixer.outputThrust) := by
  refine ⟨⟨thrustToThrottle_mem _, thrustToThrottle_mem _, thrustToThrottle_mem _,
    thrustToThrottle_mem _⟩, fun r r' h => ?_, fun p p' h => ?_, fun y y' h => ?_,
    fun t t' h => ?_⟩ <;> simp only [mixer, mixerStatus, neg_mul] <;> gcongr

/-- Between breakpoints `a ≤ t ≤ b` an increasing `f` stays within `ε` of the identity when
`f b - a ≤ ε` and `-ε ≤ f a - b`. -/
private theorem abs_sub_le_of_bracket {f : α → α} (hf : Monotone f) {a b t ε : α} (ha : a ≤ t)
    (hb : t ≤ b) (h : f b - a ≤ ε ∧ -ε ≤ f a - b) : |f t - t| ≤ ε :=
  abs_le.mpr ⟨by linarith [hf ha], by linarith [hf hb]⟩

/-- A chain of brackets covers everything from its first to its last breakpoint. -/
private theorem abs_sub_le_of_chain {f : α → α} (hf : Monotone f) {ε : α} :
    ∀ (x : α) (xs : List α) (z : α),
      List.Chain (fun a b => f b - a ≤ ε ∧ -ε ≤ f a - b) x (xs ++ [z]) →
      ∀ t, x ≤ t → t ≤ z → |f t - t| ≤ ε
  | x, [], z, h, t, hx, hz => by
    rw [List.nil_append, List.chain_singleton] at h
    exact abs_sub_le_of_bracket hf hx hz h
  | x, y :: rest, z, h, t, hx, hz => by
    obtain ⟨hxy, hrest⟩ := List.chain_cons.mp h
    rcases le_or_lt t y with hty | hty
    · exact abs_sub_le_of_bracket hf hx hty hxy
    · exact abs_sub_le_of_chain hf y rest z hrest t hty.le hz

/-- The round trip `thrust_to_throttle (throttle_to_thrust t)`. -/
private def roundTrip (t : α) : α := thrustToThrottle (throttleToThrust t)

private theorem monotone_roundTrip : Monotone (roundTrip : α → α) :=
  fun _ _ h => monotone_thrustToThrottle (monotone_throttleToThrust h)

/-- The round trip is within `ε` of the identity on `[a, b]`. -/
private def Covered (ε a b : α) : Prop := ∀ t, a ≤ t → t ≤ b → |roundTrip t - t| ≤ ε

private theorem covered_of_chain {ε : α} (x : α) (xs : List α) (z : α)
    (h : List.Chain (fun a b => roundTrip b - a ≤ ε ∧ -ε ≤ roundTrip a - b) x (xs ++ [z])) :
    Covered ε x z := abs_sub_le_of_chain monotone_roundTrip x xs z h

/-- `constrain` commutes with the cast out of `ℚ`, so a bracket checked in `ℚ` holds in `α`. -/
private theorem ratCast_constrain (x lo hi : ℚ) :
    ((constrain x lo hi : ℚ) : α) = constrain (x : α) lo hi := by
  simp only [constrain, apply_ite (Rat.cast : ℚ → α), Rat.cast_lt]

private theorem roundTrip_ratCast (t : ℚ) : roundTrip (t : α) = ((roundTrip t : ℚ) : α) := by
  unfold roundTrip thrustToThrottle throttleToThrust; push_cast [ratCast_constrain]; rfl

private theorem covered_of_rat_chain {ε x z : ℚ} (xs : List ℚ)
    (h : List.Chain (fun a b => roundTrip b - a ≤ ε ∧ -ε ≤ roundTrip a - b) x (xs ++ [z])) :
    Covered (ε : α) x z := by
  have hmap : (xs ++ [z]).map (Rat.cast : ℚ → α) = xs.map (↑) ++ [(z : α)] := by simp
  refine covered_of_chain _ (xs.map (↑)) _ ?_
  rw [← hmap, List.chain_map]
  exact h.imp fun a b hab => by simp only [roundTrip_ratCast]; exact_mod_cast hab

/-- The round trip stays within `0.045` of the identity on `[0, 1]`, checked at breakpoints. -/
private theorem covered_unit : Covered (45 / 1000 : α) 0 1 := by
  have h : Covered ((45 / 1000 : ℚ) : α) ((0 : ℚ) : α) ((1 : ℚ) : α) :=
    covered_of_rat_chain [11 / 200, 17 / 200, 11 / 100, 13 / 100, 3 / 20, 7 / 40, 41 / 200, 6 / 25,
      11 / 40, 31 / 100, 17 / 50, 37 / 100, 2 / 5, 87 / 200, 19 / 40, 13 / 25, 14 / 25, 119 / 200,
      63 / 100, 133 / 200, 7 / 10, 147 / 200, 31 / 40, 163 / 200, 17 / 20, 177 / 200, 23 / 25,
      97 / 100] (by
        simp only [List.cons_append, List.nil_append, List.chain_cons, List.Chain.nil, and_true]
        with_unfolding_all decide)
  push_cast at h; exact h

/-- At full throttle `throttle_to_thrust` gives `7.35533`, beyond the `[0, 7]` clamp of
`thrust_to_throttle`, and the round trip lands at `0.9554158`, `0.0446` below the command. -/
theorem thrustToThrottle_throttleToThrust_one :
    1 / 100 < |thrustToThrottle (throttleToThrust (1 : ℝ)) - 1| := by
  norm_num [thrustToThrottle, throttleToThrust, constrain, abs_of_neg]

/-- Over the whole throttle range the round trip through both fits stays within `0.045` of the
command, and so does the thrust the mixer re-mixes from a pure thrust command, with no roll,
pitch or yaw. -/
theorem mixer_roundTrip_within (s : Ctrl α σ) (t : α) (h0 : 0 ≤ t) (h1 : t ≤ 1) :
    |thrustToThrottle (throttleToThrust t) - t| ≤ 45 / 1000 ∧
      |(mixer s 0 0 0 t).1.mixer.outputThrust - t| ≤ 45 / 1000 ∧
      (mixer s 0 0 0 t).1.mixer.outputRoll = 0 ∧ (mixer s 0 0 0 t).1.mixer.outputPitch = 0 ∧
      (mixer s 0 0 0 t).1.mixer.outputYaw = 0 := by
  have hround : |thrustToThrottle (throttleToThrust t) - t| ≤ 45 / 1000 :=
    covered_unit t h0 h1
  obtain ⟨hT, hR, hP, hY⟩ := mixerStatus_zero_moments t
  exact ⟨hround, hT ▸ hround, hR, hP, hY⟩

/-- The bound at half throttle. -/
theorem mixer_roundTrip_within_half :
    (0 : ℝ) ≤ 1 / 2 ∧ (1 / 2 : ℝ) ≤ 1 ∧
      (|thrustToThrottle (throttleToThrust (1 / 2 : ℝ)) - 1 / 2| ≤ 45 / 1000 ∧
      |(mixer (default : Ctrl ℝ Unit) 0 0 0 (1 / 2)).1.mixer.outputThrust - 1 / 2| ≤ 45 / 1000 ∧
      (mixer (default : Ctrl ℝ Unit) 0 0 0 (1 / 2)).1.mixer.outputRoll = 0 ∧
      (mixer (default : Ctrl ℝ Unit) 0 0 0 (1 / 2)).1.mixer.outputPitch = 0 ∧
      (mixer (default : Ctrl ℝ Unit) 0 0 0 (1 / 2)).1.mixer.outputYaw = 0) :=
  ⟨by norm_num, by norm_num, mixer_roundTrip_within default (1 / 2) (by norm_num) (by norm_num)⟩

end McAttControl
