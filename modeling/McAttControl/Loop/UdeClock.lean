import McAttControl.Loop.LoopRate

/-!
# The UDE status clock

Every iteration advances `_ude.start_time` by its clamped `dt` and publishes `_ude` once
(`src/unnamed/part_000:1537–1547`), and nothing else writes that member: the frame lemmas below
say so stage by stage. So the stamps of the published UDE statuses advance by `0.0002` to `0.02`
each, even when the system clock goes back.
-/

namespace McAttControl

variable {α σ : Type} [LinearOrderedField α] (lib : Libm α) (C : Collab α σ)

section Clock

variable (s : Ctrl α σ) (b : Bus α) (dt : α)

theorem udeBranch_udeStartTime :
    (udeBranch lib C s b dt).1.1.ude.startTime = s.ude.startTime := by
  refine (publishActuators_keepsOutputs _).udeStartTime.trans (Eq.trans ?_
    ((udeStrategy_keepsOutputs lib C s dt b.vehicleAttitudeSetpoint).trans
      (platformZeroTorque_keepsOutputs _)).udeStartTime)
  dsimp only [udeBranch]
  split_ifs <;> rfl

theorem rateStage_udeStartTime : (rateStage lib C s dt).1.ude.startTime = s.ude.startTime := by
  unfold rateStage; dsimp only
  split_ifs
  · exact (publishActuators_keepsOutputs _).udeStartTime.trans rfl
  · exact (publishActuators_keepsOutputs _).udeStartTime.trans rfl
  · rfl

theorem controlBranch_udeStartTime :
    (controlBranch lib C s b dt).1.1.ude.startTime = s.ude.startTime := by
  unfold controlBranch; split
  · exact udeBranch_udeStartTime lib C s b dt
  · exact (rateStage_udeStartTime lib C _ dt).trans
      (ratesSetpointStage_keepsOutputs lib C s b dt).udeStartTime

theorem terminationOverride_udeStartTime :
    (terminationOverride s).1.ude.startTime = s.ude.startTime := by
  unfold terminationOverride; split
  · exact (publishActuators_keepsOutputs _).udeStartTime
  · rfl

theorem beginIteration_udeStartTime (r : Runner α σ) (sample : SensorGyro α) :
    (beginIteration lib C r sample).ude.startTime = r.ctrl.ude.startTime := by
  obtain ⟨m, h⟩ := rattitudeOverride_eq (pollTopics lib C { r.ctrl with sensorGyro := sample } r.bus)
  rw [beginIteration, h]
  show (pollTopics lib C { r.ctrl with sensorGyro := sample } r.bus).ude.startTime = _
  unfold pollTopics
  cases r.bus.parameterUpdate <;>
    simp only [parameterUpdatePoll, parametersUpdated, vehicleControlModePoll, vehicleManualPoll,
      vehicleStatusPoll, vehicleMotorLimitsPoll, batteryStatusPoll, vehicleAttitudePoll,
      sensorCorrectionPoll, sensorBiasPoll]

end Clock

/-- The stamp of a UDE status publication, if it is one. -/
def Pub.udeStamp : Pub α → Option α
  | .ude m => some m.startTime
  | _ => none

/-- The stamps of the UDE statuses among a list of publications, in order. -/
def udeStamps (pubs : List (Pub α)) : List α := pubs.filterMap Pub.udeStamp

omit [LinearOrderedField α] in
@[simp] theorem udeStamps_append (ps qs : List (Pub α)) :
    udeStamps (ps ++ qs) = udeStamps ps ++ udeStamps qs :=
  List.filterMap_append _ _ _

omit [LinearOrderedField α] in
theorem udeStamps_publishActuators (s : Ctrl α σ) : udeStamps (publishActuators s).2 = [] := by
  rw [publishActuators_snd]; split <;> rfl

section Stamps

variable (s : Ctrl α σ) (b : Bus α) (dt : α)

omit [LinearOrderedField α] in
theorem publishRatesSetpoint_udeStamps : udeStamps (publishRatesSetpoint s).2 = [] := by
  unfold publishRatesSetpoint publishOrAdvertise; dsimp only; split <;> rfl

theorem ratesSetpointStage_udeStamps : udeStamps (ratesSetpointStage lib C s b dt).2 = [] := by
  unfold ratesSetpointStage; dsimp only
  split
  · exact publishRatesSetpoint_udeStamps _
  · split
    · exact publishRatesSetpoint_udeStamps _
    · rfl

theorem rateStage_udeStamps : udeStamps (rateStage lib C s dt).2 = [] := by
  unfold rateStage; dsimp only
  split
  · rw [udeStamps_append, udeStamps_publishActuators]; rfl
  · rfl

theorem controlBranch_udeStamps : udeStamps (controlBranch lib C s b dt).2 = [] := by
  unfold controlBranch; split
  · unfold udeBranch; dsimp only
    rw [udeStamps_append, udeStamps_publishActuators, List.append_nil]
    split
    · rfl
    · unfold mixer publishOrAdvertise; dsimp only; split <;> rfl
  · show udeStamps ((ratesSetpointStage lib C s b dt).2 ++
      (rateStage lib C (ratesSetpointStage lib C s b dt).1.1 dt).2) = []
    rw [udeStamps_append, ratesSetpointStage_udeStamps, rateStage_udeStamps]; rfl

end Stamps

/-- An iteration publishes one UDE status, stamped with the clock advanced by its `dt`, and
leaves that stamp as the clock. -/
theorem iterate_udeStamps (r : Runner α σ) (now : UInt64) (sample : SensorGyro α) :
    udeStamps (iterate lib C r now sample).2 = [(iterate lib C r now sample).1.ctrl.ude.startTime] ∧
      (iterate lib C r now sample).1.ctrl.ude.startTime =
        r.ctrl.ude.startTime + clampDt (elapsedSeconds now r.lastRun) := by
  set dt : α := clampDt (elapsedSeconds now r.lastRun)
  set br := controlBranch lib C (beginIteration lib C r sample) r.bus.afterPolls dt
  have hclock : (publishUde br.1.1 dt).1.ude.startTime = r.ctrl.ude.startTime + dt := by
    show br.1.1.ude.startTime + dt = _
    rw [controlBranch_udeStartTime, beginIteration_udeStartTime]
  have hend : (iterate lib C r now sample).1.ctrl.ude.startTime =
      (publishUde br.1.1 dt).1.ude.startTime := by
    obtain ⟨rate, filters, h⟩ := loopRateEstimate_fst C (terminationOverride (publishUde br.1.1 dt).1).1
      dt now r.taskStart r.dtAccumulator r.loopCounter
    show (loopRateEstimate C _ now r.taskStart dt r.dtAccumulator r.loopCounter).1.ude.startTime = _
    rw [h]
    exact terminationOverride_udeStartTime _
  refine ⟨?_, hend.trans hclock⟩
  show udeStamps (br.2 ++ ((publishUde br.1.1 dt).2 ++
    (terminationOverride (publishUde br.1.1 dt).1).2)) = _
  have hterm : udeStamps (terminationOverride (publishUde br.1.1 dt).1).2 = [] := by
    unfold terminationOverride; split
    · exact udeStamps_publishActuators _
    · rfl
  rw [udeStamps_append, udeStamps_append, controlBranch_udeStamps, hterm, hend]
  unfold publishUde publishOrAdvertise
  dsimp only
  cases br.1.1.udePub <;> rfl

/-- Stamps that each advance by `lo` to `hi` over the one before, the first over `a`; `b` is the
last one (`a` when there is none). -/
def Advancing (lo hi : α) : α → List α → α → Prop
  | a, [], b => b = a
  | a, x :: xs, b => a + lo ≤ x ∧ x ≤ a + hi ∧ Advancing lo hi x xs b

theorem Advancing.append {lo hi : α} :
    ∀ {a b c : α} {l l' : List α}, Advancing lo hi a l b → Advancing lo hi b l' c →
      Advancing lo hi a (l ++ l') c
  | _, _, _, [], _, h, h' => h ▸ h'
  | _, _, _, _ :: _, _, ⟨hlo, hhi, h⟩, h' => ⟨hlo, hhi, h.append h'⟩

/-- Whether an event is a gyro wake-up, which runs an iteration. -/
def Event.isGyro : Event α → Bool
  | .gyro _ _ => true
  | _ => false

theorem step_udeStamps (r : Runner α σ) (e : Event α) :
    Advancing (1 / 5000) (1 / 50) r.ctrl.ude.startTime (udeStamps (r.step lib C e).2)
        (r.step lib C e).1.ctrl.ude.startTime ∧
      (udeStamps (r.step lib C e).2).length = if e.isGyro then 1 else 0 := by
  cases e with
  | gyro now sample =>
    obtain ⟨hs, ht⟩ := iterate_udeStamps lib C r now sample
    have hdt := clampDt_mem (elapsedSeconds now r.lastRun : α)
    rw [Runner.step, hs, ht]
    exact ⟨⟨add_le_add_left hdt.1 _, add_le_add_left hdt.2 _, rfl⟩, rfl⟩
  | _ => exact ⟨rfl, rfl⟩

/-- Over every run, whatever the clock readings (a system clock that goes back included), each
gyro iteration publishes exactly one UDE status, and the stamps `_ude.start_time` of the
published statuses advance by `0.0002` to `0.02` each, from the controller's clock at the
start of the run to its clock at the end. -/
theorem ude_status_clock_advances (r : Runner α σ) (es : List (Event α)) :
    Advancing (1 / 5000) (1 / 50) r.ctrl.ude.startTime (udeStamps (Runner.run lib C r es).2)
        (Runner.run lib C r es).1.ctrl.ude.startTime ∧
      (udeStamps (Runner.run lib C r es).2).length = es.countP Event.isGyro := by
  induction es generalizing r with
  | nil => exact ⟨rfl, rfl⟩
  | cons e es ih =>
    obtain ⟨h1, h2⟩ := ih (r.step lib C e).1
    obtain ⟨hs1, hs2⟩ := step_udeStamps lib C r e
    show Advancing _ _ _ (udeStamps ((r.step lib C e).2 ++
        (Runner.run lib C (r.step lib C e).1 es).2)) _ ∧
      (udeStamps ((r.step lib C e).2 ++ (Runner.run lib C (r.step lib C e).1 es).2)).length = _
    rw [udeStamps_append, List.length_append, hs2, h2, List.countP_cons]
    exact ⟨hs1.append h1, Nat.add_comm _ _⟩

end McAttControl
