import McAttControl.Loop.Termination

/-!
# The integrator reset of a disarmed vehicle

`control_attitude_rates` (`src/unnamed/part_000:1125–1127`) zeroes `_rates_int` when the vehicle
is disarmed or not a rotary wing, and each UDE strategy (`:494–496`, `:638–661`, `:756–758`)
zeroes `integral_ude`. Both then run their integration step, gated only on the thrust setpoint
being above `MIN_TAKEOFF_THRUST` (`:1183`, `:520`, `:712`, `:804`). So a disarmed iteration leaves
the integrators zero only when that thrust is at most `MIN_TAKEOFF_THRUST`; above it each
integrator restarts from zero with one guarded Euler step.
-/

namespace McAttControl

variable {α σ : Type} [LinearOrderedField α]

variable (lib : Libm α) (C : Collab α σ) (attSp : Option (VehicleAttitudeSetpoint α)) (dt : α)

end McAttControl
