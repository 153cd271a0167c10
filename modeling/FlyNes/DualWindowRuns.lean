import FlyNes.DualWindowSafety

namespace FlyNes.Dual

open ByteString

/-!
# Runs of the dual input window

A run delivers samples, plans frames and marks the latest plan as executed, in
any order.  The trace remembers every sample that was accepted and every frame
that was executed.
-/

/-- One call on the window. -/
inductive WindowCall where
  | deliverInput (bundle : DualInputBundle)
  | deliverLocalInput (samples : DualPortInputArray) (logicalSeat : UInt8)
  | planNext
  | markPlanned

/-- A window with the history of its calls. -/
structure WindowTrace where
  window : DualInputWindow
  plan : Option DualWindowPlan := none
  accepted : List Acceptance := []
  planned : List UInt64 := []

namespace WindowTrace

/-- Make one call; a plan is marked only after it was handed out. -/
def step (trace : WindowTrace) : WindowCall → WindowTrace
  | .deliverInput bundle =>
      { trace with
        window := (trace.window.deliverInput bundle).2
        accepted := trace.accepted ++ trace.window.acceptedFrom bundle }
  | .deliverLocalInput samples logicalSeat =>
      { trace with
        window := (trace.window.deliverLocalInput samples logicalSeat).2
        accepted :=
          trace.accepted ++
            trace.window.acceptedFromLocal samples logicalSeat }
  | .planNext =>
      let (plan, window) := trace.window.planNext
      { trace with
        window := window
        plan := if plan.status = .ok then some plan else trace.plan }
  | .markPlanned =>
      match trace.plan with
      | none => trace
      | some plan =>
          let (status, window) :=
            trace.window.markPlanned plan.frameIndex plan.predictedPortMask
          { trace with
            window := window
            planned :=
              if status = .ok then
                trace.planned ++ [plan.frameIndex]
              else
                trace.planned }

/-- Make a list of calls. -/
def run (trace : WindowTrace) (calls : List WindowCall) : WindowTrace :=
  calls.foldl step trace

/-- The latest plan can still be marked. -/
structure Sound (trace : WindowTrace) : Prop where
  window : trace.window.Sound trace.accepted trace.planned
  fits : ∀ plan, trace.plan = some plan → trace.window.Fits plan.frameIndex

end WindowTrace

namespace DualInputWindow

variable {window : DualInputWindow}
variable {accepted : List Acceptance}
variable {planned : List UInt64}

/-- The frontiers of a later window are not behind those of an earlier one. -/
structure Ahead (earlier later : DualInputWindow) : Prop where
  commit : earlier.commitFrontier ≤ later.commitFrontier
  step : earlier.stepFrontier ≤ later.stepFrontier

theorem Ahead.refl (window : DualInputWindow) : Ahead window window :=
  ⟨UInt64.le_refl _, UInt64.le_refl _⟩

/-- A window whose ring is unused is sound. -/
theorem Sound.unused
    (ring : ∀ slot, window.ring slot = {})
    (step : window.stepFrontier = 0)
    (commit : window.commitFrontier = 0) :
    window.Sound [] [] := by
  refine
    { behind := by rw [step, commit]
      depth := by simp [step, commit]
      home := by simp [ring]
      reach := by simp [ring]
      executed := by simp [ring]
      real := by simp [ring]
      sampled := by simp [ring]
      kept := by simp
      unique := by simp
      history := ?_ }
  intro frame passed
  simp [commit] at passed

variable {context : DualInputKey} {owners : Port → DualOwnerKey}

/-- A refused window is left as it was. -/
theorem begin_refused
    (refused : (window.begin_ context owners).1 ≠ .ok) :
    (window.begin_ context owners).2 = window := by
  unfold begin_ at refused ⊢
  split
  · rfl
  split
  · rfl
  next valid distinct =>
    simp [valid, distinct] at refused

/-- A window that was just begun is sound. -/
theorem Sound.begin
    {before : DualInputWindow}
    (began : begin_ context owners before = (.ok, window)) :
    window.Sound [] [] := by
  unfold begin_ at began
  split at began
  · simp at began
  split at began
  · simp at began
  simp only [Prod.mk.injEq, true_and] at began
  subst began
  exact Sound.unused (fun _ => rfl) rfl rfl

/-- The commit loop only moves the commit frontier, and only forward. -/
theorem Sound.advance_frontiers
    (sound : window.Sound accepted planned) :
    window.commitFrontier ≤ window.advanceCommitFrontier.commitFrontier ∧
      window.advanceCommitFrontier.stepFrontier = window.stepFrontier := by
  suffices moved :
      window.advanceCommitFrontier.Sound accepted planned ∧
        window.commitFrontier ≤ window.advanceCommitFrontier.commitFrontier ∧
          window.advanceCommitFrontier.stepFrontier = window.stepFrontier from
    moved.2
  refine advanceLoop_induction
    (fun later =>
      later.Sound accepted planned ∧
        window.commitFrontier ≤ later.commitFrontier ∧
          later.stepFrontier = window.stepFrontier) ?_ kRingSlots window
      ⟨sound, UInt64.le_refl _, rfl⟩
  rintro later record ⟨laterSound, ahead, sameStep⟩ found committable
  have committed := laterSound.commit found committable
  refine ⟨committed, ?_, sameStep⟩
  obtain ⟨inSlot, used, sameFrame⟩ := findRecord_eq_some.mp found
  subst inSlot
  have below := (laterSound.executed _ used committable.1).1
  have wide := later.stepFrontier.toNat_lt
  rw [sameFrame] at below
  rw [UInt64.le_iff_toNat_le] at ahead ⊢
  simp only [commitRecord, UInt64.toNat_add, UInt64.toNat_one]
  omega

/-- A delivery never moves a frontier back. -/
theorem Sound.deliver_ahead
    (sound : window.Sound accepted planned)
    (bundle : DualInputBundle) :
    Ahead window (window.deliverInput bundle).2 ∧
      (window.deliverInput bundle).2.stepFrontier = window.stepFrontier := by
  obtain ⟨_, unchanged⟩ | ⟨port, _, room, accepts⟩ :=
    deliverInput_cases bundle window
  · rw [unchanged]
    exact ⟨Ahead.refl window, rfl⟩
  · rw [accepts]
    obtain ⟨commit, step⟩ := (sound.take room).advance_frontiers
    exact ⟨⟨commit, UInt64.le_of_eq step.symm⟩, step⟩

theorem Sound.deliverLocal_ahead
    (sound : window.Sound accepted planned)
    (samples : DualPortInputArray)
    (logicalSeat : UInt8) :
    Ahead window (window.deliverLocalInput samples logicalSeat).2 ∧
      (window.deliverLocalInput samples logicalSeat).2.stepFrontier =
        window.stepFrontier := by
  unfold deliverLocalInput
  cases window.localBundle samples logicalSeat with
  | error status => exact ⟨Ahead.refl window, rfl⟩
  | ok bundle => exact sound.deliver_ahead bundle

variable {frame : UInt64}

/-- A frame that fits keeps fitting while the step frontier stays. -/
theorem Fits.later
    {later : DualInputWindow}
    (fits : window.Fits frame)
    (ahead : Ahead window later)
    (sameStep : later.stepFrontier = window.stepFrontier) :
    later.Fits frame := by
  have commit := UInt64.le_iff_toNat_le.mp ahead.commit
  have depth := fits.depth
  refine ⟨?_, ?_, by omega⟩
  · rw [sameStep]
    exact fits.current
  · rw [sameStep]
    exact fits.recent

/-- A record that `markPlanned` accepts belongs to a frame with a successor. -/
theorem narrow_of_materialized
    (materialized : frame < window.materializedThrough) :
    frame.toNat + 1 < 2 ^ 64 := by
  have wide := window.materializedThrough.toNat_lt
  rw [UInt64.lt_iff_toNat_lt] at materialized
  omega

/-- Executing a frame that fits moves no frontier back, and it still fits. -/
theorem Sound.execute_ahead
    (sound : window.Sound accepted planned)
    {record : FrameRecord}
    (fits : window.Fits frame)
    (found : window.findRecord frame = some record)
    (narrow : frame.toNat + 1 < 2 ^ 64)
    (predicted : PortSet) :
    Ahead window (window.execute record predicted).advanceCommitFrontier ∧
      (window.execute record predicted).advanceCommitFrontier.Fits frame := by
  obtain ⟨commit, step⟩ :=
    (sound.execute fits found narrow predicted).advance_frontiers
  have sameFrame := findRecord_frameIndex found
  have current := fits.current
  have recent := fits.recent
  have depth := fits.depth
  have stepped :
      (window.execute record predicted).advanceCommitFrontier.stepFrontier.toNat =
        frame.toNat + 1 := by
    rw [step, execute_stepFrontier, sameFrame]
    simp only [UInt64.toNat_add, UInt64.toNat_one]
    omega
  have commit : window.commitFrontier ≤
      (window.execute record predicted).advanceCommitFrontier.commitFrontier :=
    commit
  have commitNat := UInt64.le_iff_toNat_le.mp commit
  refine ⟨⟨commit, ?_⟩, ⟨?_, ?_, ?_⟩⟩
  · rw [UInt64.le_iff_toNat_le, stepped]
    omega
  · rw [stepped]
    omega
  · rw [stepped]
  · omega

end DualInputWindow

/-- A key with the first octet set. -/
def keyOf (octet : UInt8) : KeyId :=
  Block.copy 32 [octet]

/-- Two players on the first two ports. -/
def twoPlayers (port : Port) : DualOwnerKey :=
  { seat := UInt8.ofNat port
    signingKeyId := if port.val < 2 then keyOf (UInt8.ofNat port + 1) else default }

/-- A session that can be begun. -/
def plainContext : DualInputKey :=
  { sessionId := Block.copy 16 [1], timelineEpoch := 1, seatRevision := 1 }

namespace WindowTrace

variable {trace : WindowTrace}

/-- One call keeps the invariant and moves no frontier back. -/
theorem Sound.step
    (sound : trace.Sound)
    (call : WindowCall) :
    (trace.step call).Sound ∧
      DualInputWindow.Ahead trace.window (trace.step call).window := by
  cases call with
  | deliverInput bundle =>
      obtain ⟨ahead, sameStep⟩ := sound.window.deliver_ahead bundle
      refine ⟨⟨sound.window.deliver bundle, ?_⟩, ahead⟩
      intro plan latest
      exact (sound.fits plan latest).later ahead sameStep
  | deliverLocalInput samples logicalSeat =>
      obtain ⟨ahead, sameStep⟩ :=
        sound.window.deliverLocal_ahead samples logicalSeat
      refine ⟨⟨sound.window.deliverLocal samples logicalSeat, ?_⟩, ahead⟩
      intro plan latest
      exact (sound.fits plan latest).later ahead sameStep
  | planNext =>
      simp only [WindowTrace.step]
      obtain ⟨refused, unchanged, _⟩ | ⟨fits, planned⟩ :=
        sound.window.planNext_cases
      · rw [unchanged, if_neg refused]
        exact ⟨⟨sound.window, sound.fits⟩, DualInputWindow.Ahead.refl _⟩
      · rw [planned]
        refine ⟨⟨sound.window.materialize, ?_⟩, ?_⟩
        swap
        · exact ⟨UInt64.le_refl _, UInt64.le_refl _⟩
        intro plan latest
        simp only [DualInputWindow.planRecord, if_true, Option.some.injEq]
          at latest
        subst latest
        exact ⟨fits.current, fits.recent, fits.depth⟩
  | markPlanned =>
      simp only [WindowTrace.step]
      cases latest : trace.plan with
      | none => exact ⟨sound, DualInputWindow.Ahead.refl _⟩
      | some plan =>
          have fits := sound.fits plan latest
          obtain ⟨refused, unchanged⟩ |
              ⟨record, _, found, materialized, marked⟩ :=
            DualInputWindow.markPlanned_cases plan.frameIndex
              plan.predictedPortMask trace.window
          · simp only [unchanged, refused, if_false]
            refine ⟨⟨sound.window, ?_⟩, DualInputWindow.Ahead.refl _⟩
            rintro _ ⟨⟩
            exact fits
          · have narrow := DualInputWindow.narrow_of_materialized materialized
            simp only [marked, if_true]
            obtain ⟨ahead, stillFits⟩ :=
              sound.window.execute_ahead fits found narrow
                plan.predictedPortMask
            refine ⟨⟨?_, ?_⟩, ahead⟩
            · exact (sound.window.execute fits found narrow _).advance
            · rintro _ ⟨⟩
              exact stillFits

theorem Sound.run
    (sound : trace.Sound)
    (calls : List WindowCall) :
    (trace.run calls).Sound := by
  induction calls generalizing trace with
  | nil => exact sound
  | cons call calls inductionHypothesis =>
      exact inductionHypothesis (sound.step call).1

/-- What a user of the window relies on. -/
structure RingSafe (trace : WindowTrace) : Prop where
  behind : trace.window.commitFrontier.toNat ≤ trace.window.stepFrontier.toNat
  depth : trace.window.stepFrontier.toNat ≤
    trace.window.commitFrontier.toNat + 10
  kept : ∀ acceptance ∈ trace.accepted,
    trace.window.commitFrontier ≤ acceptance.frame →
      ∃ record,
        trace.window.findRecord acceptance.frame = some record ∧
          record.Keeps acceptance
  history : ∀ frame < trace.window.commitFrontier,
    frame ∈ trace.planned ∧
      ∀ port, trace.window.ownedPortMask port = true →
        ∃ acceptance ∈ trace.accepted,
          acceptance.frame = frame ∧ acceptance.port = port
  forward : ∀ call,
    DualInputWindow.Ahead trace.window (trace.step call).window
  refused : ∀ bundle,
    (trace.window.deliverInput bundle).1 ≠ .accepted →
      (trace.window.deliverInput bundle).2 = trace.window
  refusedLocal : ∀ samples logicalSeat,
    (trace.window.deliverLocalInput samples logicalSeat).1 ≠ .accepted →
      (trace.window.deliverLocalInput samples logicalSeat).2 = trace.window

theorem deliverInput_refused
    {window : DualInputWindow}
    {bundle : DualInputBundle}
    (refused : (window.deliverInput bundle).1 ≠ .accepted) :
    (window.deliverInput bundle).2 = window := by
  obtain ⟨_, unchanged⟩ | ⟨_, _, _, accepts⟩ :=
    DualInputWindow.deliverInput_cases bundle window
  · exact unchanged
  · rw [accepts] at refused
    exact absurd rfl refused

theorem Sound.ringSafe
    (sound : trace.Sound) :
    trace.RingSafe := by
  refine
    { behind := sound.window.behind
      depth := sound.window.depth
      kept := sound.window.kept
      history := sound.window.history
      forward := fun call => (sound.step call).2
      refused := fun _ => deliverInput_refused
      refusedLocal := ?_ }
  intro samples logicalSeat refused
  unfold DualInputWindow.deliverLocalInput at refused ⊢
  cases built : trace.window.localBundle samples logicalSeat with
  | error status => rfl
  | ok bundle =>
      rw [built] at refused
      exact deliverInput_refused refused

/-- A window that was begun is safe after any calls. -/
theorem ring_safety
    {context : DualInputKey}
    {owners : Port → DualOwnerKey}
    {before window : DualInputWindow}
    (began : DualInputWindow.begin_ context owners before = (.ok, window))
    (calls : List WindowCall) :
    (run { window := window } calls).RingSafe := by
  have started : Sound { window := window } :=
    { window := DualInputWindow.Sound.begin began
      fits := fun _ latest => by cases latest }
  exact (started.run calls).ringSafe

theorem ring_safety_of_two_players :
    (run
      { window := (DualInputWindow.begin_ plainContext twoPlayers {}).2 }
      [.planNext, .markPlanned,
        .deliverLocalInput (fun port => ⟨1, UInt64.ofNat port + 1⟩) 0,
        .planNext]).RingSafe := by
  have began :
      DualInputWindow.begin_ plainContext twoPlayers {} =
        (.ok, (DualInputWindow.begin_ plainContext twoPlayers {}).2) := by
    decide
  exact ring_safety began _

end WindowTrace

end FlyNes.Dual
