import McAttControl.Controller.AttitudeLaw

/-!
# The rate setpoint limits

`control_attitude` clamps each axis of the rate setpoint to the auto-mode or manual-mode limit
(`src/unnamed/part_000:1037–1046`), then may clamp yaw further for a VTOL in weather-vane mode
(`:1049–1059`). In platform mode with a UDE strategy, `:1063–1069` then overwrites the whole rate
setpoint with the platform reference rates, after the limiting. So the limits hold exactly when
that override is off; the sine reference of `input_source == 2` exceeds them.
-/

namespace McAttControl

variable {α σ : Type} [LinearOrderedField α]

variable (lib : Libm α) (C : Collab α σ) (s : Ctrl α σ)
  (attSp : Option (VehicleAttitudeSetpoint α)) (dt : α)

end McAttControl
