import FlyNes.ContentOffer

namespace FlyNes.Content

open ByteString

/-!
# When a transfer has stalled

A transfer times out when the clock has moved on too far since the last progress.  The
time of the last progress is only taken from the first reading of the clock, so a
transfer that keeps receiving bytes times out as well.
-/

namespace ContentOfferScheduler

variable {scheduler : ContentOfferScheduler}

/-- Failed, cancelled or imported. -/
def Over (scheduler : ContentOfferScheduler) : Prop :=
  scheduler.Ended ∨ scheduler.state = .imported

/-- The time that a call reads from the clock. -/
def reading : OfferCall → Option Nat
  | .onClock continuousNs => some continuousNs
  | _ => none

theorem maybeEnterTransfer_clock :
    scheduler.maybeEnterTransfer.clockSeen = scheduler.clockSeen ∧
      scheduler.maybeEnterTransfer.lastProgressNs = scheduler.lastProgressNs := by
  unfold maybeEnterTransfer
  split
  · exact ⟨rfl, rfl⟩
  · split <;> exact ⟨rfl, rfl⟩

theorem bindDecl_clock
    (decl : ContentOfferDecl) :
    (scheduler.bindDecl decl).2.clockSeen = scheduler.clockSeen ∧
      (scheduler.bindDecl decl).2.lastProgressNs = scheduler.lastProgressNs := by
  unfold bindDecl
  split
  · exact ⟨rfl, rfl⟩
  · split
    · exact ⟨rfl, rfl⟩
    · split <;> exact ⟨rfl, rfl⟩

/-- Only readings of the clock change what is remembered of it. -/
theorem step_clock
    {call : OfferCall}
    (other : reading call = none) :
    (scheduler.step call).2.clockSeen = scheduler.clockSeen ∧
      (scheduler.step call).2.lastProgressNs = scheduler.lastProgressNs := by
  cases call with
  | offer decl =>
      simp only [step, offer]
      split
      · exact ⟨rfl, rfl⟩
      · exact bindDecl_clock decl
  | acceptOffer decl =>
      simp only [step, acceptOffer]
      obtain ⟨seen, progress⟩ := @bindDecl_clock scheduler decl
      obtain ⟨enterSeen, enterProgress⟩ :=
        @maybeEnterTransfer_clock (scheduler.bindDecl decl).2
      split
      · exact ⟨rfl, rfl⟩
      · split
        · exact ⟨seen, progress⟩
        · exact ⟨enterSeen.trans seen, enterProgress.trans progress⟩
  | approveSend =>
      simp only [step, approveSend, approve]
      split
      · exact ⟨rfl, rfl⟩
      · split
        · split <;> exact ⟨rfl, rfl⟩
        · exact @maybeEnterTransfer_clock { scheduler with sendOk := true }
  | approveReceive =>
      simp only [step, approveReceive, approve]
      split
      · exact ⟨rfl, rfl⟩
      · split
        · split <;> exact ⟨rfl, rfl⟩
        · exact @maybeEnterTransfer_clock { scheduler with receiveOk := true }
  | approveImport =>
      simp only [step, approveImport]
      split
      · exact ⟨rfl, rfl⟩
      · split <;> exact ⟨rfl, rfl⟩
  | cancel =>
      simp only [step, cancel]
      split <;> exact ⟨rfl, rfl⟩
  | noteFriendSaved => exact ⟨rfl, rfl⟩
  | onClock continuousNs => cases other
  | appendBytes offset data =>
      simp only [step, appendBytes, maybeFinishCheck]
      grind [fail, discardStaging]
  | noteDiskFull | noteMultiPayload | noteFormatInvalid =>
      simp only [step, noteDiskFull, noteMultiPayload, noteFormatInvalid, note]
      split <;> exact ⟨rfl, rfl⟩

/-- The first reading stays, until the offer is over. -/
theorem onClock_clock
    (active : ¬ scheduler.Over)
    (now : Nat) :
    (scheduler.step (.onClock now)).2.clockSeen = true ∧
      (scheduler.step (.onClock now)).2.lastProgressNs =
        if scheduler.clockSeen then scheduler.lastProgressNs else now := by
  have working :
      ¬ (scheduler.state = .failed ∨ scheduler.state = .cancelled ∨
        scheduler.state = .imported) :=
    fun ended => active (or_assoc.mpr ended)
  simp only [step, onClock]
  grind [fail, discardStaging]

/-- An offer that is over stays so. -/
theorem step_over
    (ended : scheduler.Over)
    (call : OfferCall) :
    (scheduler.step call).2.Over := by
  have named :
      scheduler.state = .failed ∨ scheduler.state = .cancelled ∨
        scheduler.state = .imported := or_assoc.mp ended
  cases call with
  | appendBytes offset data =>
      simp only [step, appendBytes, maybeFinishCheck]
      grind [fail, discardStaging, Over, Ended]
  | _ =>
      simp only [step, offer, acceptOffer, bindDecl, approveSend, approveReceive, approve,
        approveImport, cancel, noteFriendSaved, onClock, noteDiskFull, noteMultiPayload,
        noteFormatInvalid, note, maybeEnterTransfer]
      grind [fail, discardStaging, Over, Ended]

/-! ### The times of a log -/

/-- The times that were read from the clock. -/
def readings (log : List OfferEntry) : List Nat :=
  log.filterMap fun entry => reading entry.call

/-- The entry is an append that was accepted. -/
def Appends (entry : OfferEntry) : Prop :=
  entry.answer = .ok ∧ ∃ offset data, entry.call = .appendBytes offset data

/-- The clock was read, and a timeout has passed since. -/
def ReadLongAgo (now : Nat) (entry : OfferEntry) : Prop :=
  ∃ time, reading entry.call = some time ∧ time + kContentStallTimeoutNs ≤ now

/-- No append was accepted behind the last reading that is a timeout old. -/
def StalledAt (now : Nat) (earlier : List OfferEntry) : Prop :=
  ∃ before read after,
    earlier = before ++ read :: after ∧ ReadLongAgo now read ∧
      (∀ entry ∈ after, ¬ ReadLongAgo now entry) ∧
      ∀ entry ∈ after, ¬ Appends entry

/-- Whoever times out has stalled. -/
def TimesOutStalled (log : List OfferEntry) : Prop :=
  ∀ earlier entry later now,
    log = earlier ++ entry :: later →
      entry.call = .onClock now →
        entry.answer = .timeout →
          StalledAt now earlier

/-- The clock is read in a live transfer, a timeout or more after its first reading. -/
def OldTransfer (now : Nat) (earlier : List OfferEntry) (entry : OfferEntry) : Prop :=
  entry.call = .onClock now ∧
    entry.before.state = .transferring ∧ entry.before.stagingLive = true ∧
    ∃ first, (readings earlier).head? = some first ∧
      first + kContentStallTimeoutNs ≤ now

/-- In an old transfer every append is followed by a reading that is a timeout old. -/
def ReadSinceAppends (log : List OfferEntry) : Prop :=
  ∀ earlier entry later now,
    log = earlier ++ entry :: later →
      OldTransfer now earlier entry →
        ∀ front append back,
          earlier = front ++ append :: back →
            Appends append →
              ∃ read ∈ back, ReadLongAgo now read

/-- What is remembered of the clock, as long as the offer is not over. -/
def Clocked (log : List OfferEntry) (scheduler : ContentOfferScheduler) : Prop :=
  ¬ scheduler.Over →
    (readings log).head? =
      if scheduler.clockSeen then some scheduler.lastProgressNs else none

variable {log : List OfferEntry}

theorem clocked_step
    (clocked : Clocked log scheduler)
    (call : OfferCall) :
    Clocked (log ++ [Logbook.entry step scheduler call]) (scheduler.step call).2 := by
  intro active
  have before : ¬ scheduler.Over := fun ended => active (step_over ended call)
  have current := clocked before
  have read :
      readings (log ++ [Logbook.entry step scheduler call]) =
        readings log ++ (reading call).toList := by
    rw [readings, List.filterMap_append]
    cases time : reading call <;> simp [readings, Logbook.entry, time]
  rw [read, List.head?_append, current]
  cases time : reading call with
  | none =>
      obtain ⟨seen, progress⟩ := @step_clock scheduler call time
      rw [seen, progress]
      simp
  | some now =>
      cases call with
      | onClock continuousNs =>
          obtain rfl : continuousNs = now := Option.some.inj time
          obtain ⟨seen, progress⟩ := onClock_clock before continuousNs
          rw [seen, progress]
          cases scheduler.clockSeen <;> simp
      | _ => cases time

theorem clocked_run
    (role : ContentOfferRole)
    (calls : List OfferCall) :
    Clocked (Logbook.log step (reset role) calls)
      (Logbook.after step (reset role) calls) :=
  Logbook.run_keeps step Clocked (fun _ => rfl)
    (fun _ _ call clocked => clocked_step clocked call) calls

/-- The clock times out in an old transfer and nowhere else. -/
theorem onClock_times_out
    (clocked : Clocked log scheduler)
    (now : Nat) :
    (scheduler.step (.onClock now)).1 = .timeout ↔
      OldTransfer now log (Logbook.entry step scheduler (.onClock now)) := by
  unfold OldTransfer
  simp only [Logbook.entry, true_and]
  by_cases transferring : scheduler.state = .transferring
  swap
  · simp only [transferring, false_and, iff_false, ContentOfferScheduler.step, onClock]
    split
    · simp
    · split
      · simp
      · simp
  have active : ¬ scheduler.Over := by
    simp [Over, Ended, transferring]
  rw [clocked active]
  simp only [ContentOfferScheduler.step, onClock, transferring]
  cases seen : scheduler.clockSeen with
  | false => simp
  | true =>
      cases live : scheduler.stagingLive with
      | false => simp
      | true =>
          by_cases old : scheduler.lastProgressNs + kContentStallTimeoutNs ≤ now
          · have later : scheduler.lastProgressNs ≤ now := by omega
            have far : kContentStallTimeoutNs ≤ now - scheduler.lastProgressNs := by
              omega
            simp [old, later, far]
          · have near :
                ¬ (scheduler.lastProgressNs ≤ now ∧
                  kContentStallTimeoutNs ≤ now - scheduler.lastProgressNs) := by
              omega
            simp [old, near]

variable {now : Nat}

/-- A reading that is long ago is the last one, or is followed by the last one. -/
theorem last_long_ago
    (some_ : ∃ entry ∈ log, ReadLongAgo now entry) :
    ∃ before read after,
      log = before ++ read :: after ∧ ReadLongAgo now read ∧
        ∀ entry ∈ after, ¬ ReadLongAgo now entry := by
  induction log using List.reverseRecOn with
  | nil => simp at some_
  | append_singleton log last inductionHypothesis =>
      by_cases late : ReadLongAgo now last
      · exact ⟨log, last, [], rfl, late, by simp⟩
      · obtain ⟨entry, member, long⟩ := some_
        have old : entry ∈ log := by
          rcases List.mem_append.mp member with old | new
          · exact old
          · obtain rfl := List.mem_singleton.mp new
            exact absurd long late
        obtain ⟨before, read, after, rfl, readLong, none⟩ :=
          inductionHypothesis ⟨entry, old, long⟩
        refine ⟨before, read, after ++ [last], by simp, readLong, ?_⟩
        intro other among
        rcases List.mem_append.mp among with old | new
        · exact none other old
        · obtain rfl := List.mem_singleton.mp new
          exact late

theorem Appends.not_long_ago
    {entry : OfferEntry}
    (appends : Appends entry) :
    ¬ ReadLongAgo now entry := by
  obtain ⟨-, offset, data, call⟩ := appends
  rintro ⟨time, read, -⟩
  rw [call] at read
  cases read

/-- What has stalled, in terms of every append. -/
theorem stalledAt_iff
    {earlier : List OfferEntry}
    (some_ : ∃ entry ∈ earlier, ReadLongAgo now entry) :
    StalledAt now earlier ↔
      ∀ front append back,
        earlier = front ++ append :: back →
          Appends append →
            ∃ read ∈ back, ReadLongAgo now read := by
  constructor
  · rintro ⟨before, read, after, rfl, long, -, quiet⟩ front append back split appends
    rcases List.append_eq_append_iff.mp split with
      ⟨middle, rfl, shape⟩ | ⟨middle, rfl, shape⟩
    · cases middle with
      | nil =>
          obtain ⟨rfl, -⟩ := List.cons.inj shape
          exact absurd long appends.not_long_ago
      | cons head tail =>
          obtain ⟨-, rfl⟩ := List.cons.inj shape
          exact absurd appends (quiet append (by simp))
    · cases middle with
      | nil =>
          obtain ⟨rfl, -⟩ := List.cons.inj shape
          exact absurd long appends.not_long_ago
      | cons head tail =>
          obtain ⟨-, rfl⟩ := List.cons.inj shape
          exact ⟨read, by simp, long⟩
  · intro followed
    obtain ⟨before, read, after, rfl, long, none⟩ := last_long_ago some_
    refine ⟨before, read, after, rfl, long, none, ?_⟩
    intro append member appends
    obtain ⟨front, back, rfl⟩ := List.append_of_mem member
    obtain ⟨other, behind, otherLong⟩ :=
      followed (before ++ read :: front) append back (by simp) appends
    exact none other (by simp [behind]) otherLong

/-- Timeouts find a stalled transfer if and only if in every old transfer the clock was
read, long enough ago, since the last append. -/
theorem timeouts_stalled_iff
    (role : ContentOfferRole)
    (calls : List OfferCall) :
    TimesOutStalled (Logbook.log step (reset role) calls) ↔
      ReadSinceAppends (Logbook.log step (reset role) calls) := by
  have old (earlier : List OfferEntry) (entry : OfferEntry) (later : List OfferEntry)
      (now : Nat)
      (split : Logbook.log step (reset role) calls = earlier ++ entry :: later) :
      (entry.call = .onClock now ∧ entry.answer = .timeout) ↔
        OldTransfer now earlier entry := by
    obtain ⟨front, call, back, rfl, rfl, rfl⟩ := Logbook.log_split step split
    by_cases clock : call = .onClock now
    · subst clock
      rw [← onClock_times_out (clocked_run role front) now]
      exact ⟨fun timeout => timeout.2, fun timeout => ⟨rfl, timeout⟩⟩
    · exact ⟨fun timeout => absurd timeout.1 clock, fun old => absurd old.1 clock⟩
  have read (earlier : List OfferEntry) (entry : OfferEntry) (now : Nat)
      (transfer : OldTransfer now earlier entry) :
      ∃ entry ∈ earlier, ReadLongAgo now entry := by
    obtain ⟨-, -, -, first, head, long⟩ := transfer
    obtain ⟨entry, member, time⟩ := List.mem_filterMap.mp (List.mem_of_mem_head? head)
    exact ⟨entry, member, first, time, long⟩
  constructor
  · intro stalled earlier entry later now split transfer
    obtain ⟨call, timeout⟩ := (old earlier entry later now split).mpr transfer
    exact (stalledAt_iff (read earlier entry now transfer)).mp
      (stalled earlier entry later now split call timeout)
  · intro followed earlier entry later now split call timeout
    have transfer := (old earlier entry later now split).mp ⟨call, timeout⟩
    exact (stalledAt_iff (read earlier entry now transfer)).mpr
      (followed earlier entry later now split transfer)

end ContentOfferScheduler

/-- An offer of three bytes. -/
def threeBytes : ContentOfferDecl where
  offerId := Block.copy 16 [1]
  contentId := Block.copy 32 [1]
  declaredLength := 3

/-- A byte arrives five seconds before the transfer times out. -/
def steadyCalls : List OfferCall :=
  [.acceptOffer threeBytes, .approveSend, .approveReceive, .onClock 0, .appendBytes 0 [7],
    .onClock 5000000000, .appendBytes 1 [7], .onClock 10000000000]

/-- A transfer that keeps receiving bytes times out. -/
theorem steady_transfer_times_out :
    ¬ ∀ role calls,
      ContentOfferScheduler.TimesOutStalled
        (Logbook.log ContentOfferScheduler.step (ContentOfferScheduler.reset role)
          calls) := by
  intro always
  have stalled :=
    always .receiver steadyCalls
      (Logbook.log ContentOfferScheduler.step (ContentOfferScheduler.reset .receiver)
        (steadyCalls.take 7)) _ [] 10000000000 rfl rfl rfl
  have readOnce := stalled
  obtain ⟨before, read, after, split, long, -⟩ := readOnce
  obtain ⟨other, behind, -⟩ :=
    (ContentOfferScheduler.stalledAt_iff ⟨read, by simp [split], long⟩).mp stalled
      (Logbook.log ContentOfferScheduler.step (ContentOfferScheduler.reset .receiver)
        (steadyCalls.take 6)) _ [] rfl ⟨rfl, 1, [7], rfl⟩
  simp at behind

end FlyNes.Content
