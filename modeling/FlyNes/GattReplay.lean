import FlyNes.GattDelivery

namespace FlyNes.Gatt

open ByteString
open Reassembly (recent)

/-!
# Replay over GATT

Arbitrary values reach a reassembler, and expiry runs in between.  The
reassembler knows the last two messages that it completed: a fragment of one of
them is never assembled again.  A message that was completed before those two is
unknown to it, and its fragments complete it once more.
-/

/-- A call of the reassembler. -/
inductive GattEvent where
  | accept (connectionGeneration now : Nat) (value : Bytes)
  | expire (now : Nat)
deriving DecidableEq

/-- A reassembler and the messages that it reported complete, oldest first. -/
structure GattTrace where
  reassembler : GattReassembler
  reports : List (Nat × Bytes) := []

namespace GattTrace

/-- The report that an output makes. -/
def reportOf (output : GattOutput) : List (Nat × Bytes) :=
  if output.result = .complete then
    [(output.metadata.messageId, output.completed)]
  else
    []

/-- The trace after a call. -/
def step (trace : GattTrace) : GattEvent → GattTrace
  | .accept connectionGeneration now value =>
      let put := trace.reassembler.accept connectionGeneration now value
      { reassembler := put.1
        reports := trace.reports ++ reportOf put.2 }
  | .expire now =>
      { trace with reassembler := (trace.reassembler.expire now).1 }

/-- The trace after a list of calls. -/
def run (trace : GattTrace) (events : List GattEvent) : GattTrace :=
  events.foldl step trace

/-- The identifiers of the reported messages. -/
def reportedIds (trace : GattTrace) : List Nat :=
  trace.reports.map Prod.fst

/--
A call is in time: a fragment of a message that was reported before comes while
the message is one of the last two that were reported.
-/
def InTime (trace : GattTrace) : GattEvent → Prop
  | .accept _ _ value =>
      ∀ fragment, readPhysicalValue value = some fragment →
        fragment.messageId ∈ trace.reportedIds →
          fragment.messageId ∈
            recent kGattMaxIncompleteMessages trace.reportedIds
  | .expire _ => True

/-- Every call of a list is in time. -/
def AllInTime : GattTrace → List GattEvent → Prop
  | _, [] => True
  | trace, event :: later =>
      trace.InTime event ∧ AllInTime (trace.step event) later

end GattTrace

namespace GattReassembler

variable {self : GattReassembler} {fragment : GattFragment} {assembly : Assembly}
variable {slot now messageId : Nat} {ids : List Nat}

/-- The identifiers that a reassembler remembers. -/
def completedIds (self : GattReassembler) : List Nat :=
  self.completed.map (·.messageId)

/-- The remembered identifiers after one more was completed. -/
def pushId (ids : List Nat) (messageId : Nat) : List Nat :=
  (if ids.length = kGattMaxIncompleteMessages then ids.drop 1 else ids) ++
    [messageId]

/-- What a call says about a message, and what it remembers of it. -/
structure Notes
    (before : List Nat)
    (messageId : Nat)
    (after : GattReassembler × GattOutput) : Prop where
  complete :
    after.2.result = .complete →
      after.2.metadata.messageId = messageId ∧
        after.1.completedIds = pushId before messageId
  incomplete :
    after.2.result ≠ .complete → after.1.completedIds = before

/-- A call that completes nothing and remembers what it did. -/
theorem Notes.of_quiet
    {after : GattReassembler × GattOutput}
    (quiet : after.2.result ≠ .complete)
    (same : after.1.completedIds = self.completedIds) :
    Notes self.completedIds messageId after :=
  ⟨fun complete => (quiet complete).elim, fun _ => same⟩

theorem notes_finish
    (same : self.completedIds = ids)
    (named : assembly.messageId = messageId) :
    Notes ids messageId (self.finish slot assembly) := by
  subst same named
  unfold finish
  split
  · exact Notes.of_quiet (by simp) rfl
  · refine ⟨fun _ => ⟨rfl, ?_⟩, fun quiet => (quiet rfl).elim⟩
    simp only [erase, remember, completedIds, pushId, List.map_append,
      List.map_singleton, List.length_map]
    split
    · rw [List.map_drop]
    · rfl

theorem notes_extend
    (same : self.completedIds = ids)
    (named : assembly.messageId = messageId) :
    Notes ids messageId (self.extend slot assembly now fragment) := by
  subst same named
  unfold extend
  split
  · exact Notes.of_quiet (by simp) rfl
  · split
    · exact Notes.of_quiet (by simp) rfl
    · exact Notes.of_quiet (by simp) rfl
    · dsimp only
      split
      · exact Notes.of_quiet (by simp) rfl
      · exact notes_finish rfl rfl

theorem notes_assemble :
    Notes self.completedIds fragment.messageId
      (self.assemble now fragment) := by
  unfold assemble
  dsimp only
  split
  · rename_i assembly located
    have passed := Reassembly.getElem?_findIdx_some located
    have own : assembly.messageId = fragment.messageId :=
      of_decide_eq_true passed
    split
    · exact Notes.of_quiet (by simp) rfl
    · exact notes_extend rfl own
  · split
    · exact Notes.of_quiet (by simp) rfl
    · exact notes_extend rfl rfl

/-- A value is noted for the message that it names, and only when it is new. -/
theorem accept_cases
    (self : GattReassembler)
    (connectionGeneration now : Nat)
    (value : Bytes) :
    ((self.accept connectionGeneration now value).2.result ≠ .complete ∧
        (self.accept connectionGeneration now value).1.completedIds =
          self.completedIds) ∨
      ∃ fragment,
        readPhysicalValue value = some fragment ∧
          fragment.messageId ∉ self.completedIds ∧
          (self.accept connectionGeneration now value).2.result = .complete ∧
          (self.accept connectionGeneration now value).2.metadata.messageId =
            fragment.messageId ∧
          (self.accept connectionGeneration now value).1.completedIds =
            pushId self.completedIds fragment.messageId := by
  unfold accept
  split
  · exact Or.inl ⟨by simp, rfl⟩
  · split
    · exact Or.inl ⟨by simp, rfl⟩
    · rename_i fragment read
      split
      · refine Or.inl ⟨?_, rfl⟩
        unfold Completed.answer
        split <;> simp
      · rename_i unknown
        have notes :
            Notes self.completedIds fragment.messageId
              (self.assemble now fragment) :=
          notes_assemble
        by_cases complete :
            (self.assemble now fragment).2.result = .complete
        · refine Or.inr ⟨fragment, read, ?_, complete, notes.complete complete⟩
          intro member
          obtain ⟨prior, known, named⟩ := List.mem_map.mp member
          have missed := List.find?_eq_none.mp unknown prior known
          simp [named] at missed
        · exact Or.inl ⟨complete, notes.incomplete complete⟩

theorem completedIds_expireFrom
    (slots : Nat) :
    (expireFrom now slots self).1.completedIds = self.completedIds := by
  induction slots generalizing self with
  | zero =>
      rfl
  | succ slot inductionHypothesis =>
      rw [expireFrom]
      split
      · exact inductionHypothesis
      · split
        · exact inductionHypothesis
        · exact inductionHypothesis

end GattReassembler

namespace GattTrace

variable {trace : GattTrace} {event : GattEvent}

/-- The reassembler remembers the last two messages that were reported. -/
def Remembers (trace : GattTrace) : Prop :=
  trace.reassembler.completedIds =
    recent kGattMaxIncompleteMessages trace.reportedIds

/-- Whatever is called, the last two reports are remembered. -/
theorem Remembers.step
    (remembers : trace.Remembers)
    (event : GattEvent) :
    (trace.step event).Remembers := by
  cases event with
  | accept connectionGeneration now value =>
      unfold Remembers GattTrace.step reportedIds reportOf
      dsimp only
      rcases trace.reassembler.accept_cases connectionGeneration now value with
        ⟨quiet, same⟩ | ⟨fragment, _, _, complete, named, pushed⟩
      · rw [if_neg quiet, List.append_nil, same]
        exact remembers
      · rw [if_pos complete, List.map_append, List.map_singleton, pushed, named,
          Reassembly.recent_append (by decide)]
        have known : trace.reassembler.completedIds = _ := remembers
        rw [known]
        rfl
  | expire now =>
      have same :
          (trace.reassembler.expire now).1.completedIds =
            trace.reassembler.completedIds :=
        GattReassembler.completedIds_expireFrom _
      exact same.trans remembers

/-- A call in time reports no message again. -/
theorem reportedIds_nodup_step
    (remembers : trace.Remembers)
    (distinct : trace.reportedIds.Nodup)
    (inTime : trace.InTime event) :
    (trace.step event).reportedIds.Nodup := by
  cases event with
  | accept connectionGeneration now value =>
      unfold GattTrace.step reportedIds reportOf
      dsimp only
      rcases trace.reassembler.accept_cases connectionGeneration now value with
        ⟨quiet, _⟩ | ⟨fragment, read, unknown, complete, named, _⟩
      · rw [if_neg quiet, List.append_nil]
        exact distinct
      · rw [if_pos complete, List.map_append, List.map_singleton, named]
        refine List.Nodup.append distinct (List.nodup_singleton _) ?_
        rw [List.disjoint_singleton]
        intro reported
        apply unknown
        rw [remembers]
        exact inTime fragment read reported
  | expire now =>
      exact distinct

/--
Delivery is at most once: whatever values arrive, in any order and repeated, if
every fragment of a message that was reported comes while the message is one of
the last two, then no message is reported twice.
-/
theorem reports_nodup
    (generation : Nat)
    (direction : GattPhysicalDirection)
    (events : List GattEvent)
    (inTime :
      AllInTime { reassembler := freshReassembler generation direction }
        events) :
    (run { reassembler := freshReassembler generation direction }
      events).reports.Nodup := by
  have following :
      ∀ (events : List GattEvent) (trace : GattTrace),
        trace.Remembers → trace.reportedIds.Nodup → trace.AllInTime events →
          (trace.run events).reportedIds.Nodup := by
    intro events
    induction events with
    | nil =>
        intro trace _ distinct _
        exact distinct
    | cons event later inductionHypothesis =>
        intro trace remembers distinct inTime
        exact inductionHypothesis (trace.step event) (remembers.step event)
          (reportedIds_nodup_step remembers distinct inTime.1) inTime.2
  exact List.Nodup.of_map _ (following events _ rfl List.nodup_nil inTime)

/-- The whole of an abort under an identifier, as a call. -/
def abortCall
    (messageId : Nat)
    (named : 0 < messageId ∧ messageId < 65536) : GattEvent :=
  .accept 1 0 ((wholeAbort messageId named).fragments.getD 0 [])

/-- A repeated abort is reported once. -/
theorem repeated_abort_reported_once :
    let events := [abortCall 1 (by decide), abortCall 1 (by decide)]
    let start : GattTrace :=
      { reassembler := freshReassembler 1 .centralToPeripheral }
    (start.run events).reports.Nodup := by
  refine reports_nodup 1 .centralToPeripheral _ ⟨?_, ?_, trivial⟩
  · intro fragment _ reported
    simp [reportedIds] at reported
  · intro fragment _ reported
    have reports :
        ((({ reassembler := freshReassembler 1 .centralToPeripheral } :
          GattTrace).step (abortCall 1 (by decide))).reportedIds) = [1] := by
      decide +kernel
    rw [reports] at reported ⊢
    exact reported

/-- After two other messages an abort is forgotten, and reported once more. -/
theorem forgotten_abort_reported_twice :
    ¬ ∀ (generation : Nat) (direction : GattPhysicalDirection)
        (events : List GattEvent),
      (run { reassembler := freshReassembler generation direction }
        events).reports.Nodup := by
  intro claimed
  have run :=
    claimed 1 .centralToPeripheral
      [abortCall 1 (by decide), abortCall 2 (by decide), abortCall 3 (by decide),
        abortCall 1 (by decide)]
  revert run
  decide +kernel

end GattTrace

end FlyNes.Gatt
