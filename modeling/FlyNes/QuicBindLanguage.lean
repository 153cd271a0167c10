import FlyNes.QuicBindRuns
import Mathlib.Logic.Relation

namespace FlyNes.Wire

open ByteString

/-!
# The language of the gate

A gate is bound exactly by the calls of its language, and stays bound as long as it is
only told of what it ignores.  A gate that has failed never does anything again.
-/

namespace QuicStreamGate

section Steps

variable {gate : QuicStreamGate}
variable {streamId : UInt64}
variable {calls : List GateCall}

theorem Streaming.perform
    (streaming : gate.Streaming streamId calls)
    (call : GateCall) :
    gate.Streams streamId calls call (gate.perform call).2 := by
  cases call with
  | data stream sender bytes => exact streaming.data stream sender bytes
  | finish stream sender => exact streaming.finish stream sender
  | openBidi stream opener =>
      have failed : (gate.perform (.openBidi stream opener)).2.phase = .failed := by
        simp only [QuicStreamGate.perform, openBidi]
        split
        · rfl
        · rcases streaming.phase with phase | phase <;> simp [phase, fail]
      refine .stray failed ?_
      rintro ⟨⟩

theorem perform_failed
    (failed : gate.phase = .failed)
    (call : GateCall) :
    (gate.perform call).2.phase = .failed := by
  cases call with
  | openBidi stream opener =>
      simp only [perform, openBidi]
      split
      · rfl
      · simp [failed, fail]
  | data stream sender bytes =>
      simp only [perform, data]
      split
      · rfl
      · simp [failed]
  | finish stream sender =>
      simp only [perform, finish]
      split
      · rfl
      · simp [failed]

/-- A failed gate stays so. -/
theorem after_failed
    (failed : gate.phase = .failed)
    (calls : List GateCall) :
    (Logbook.after perform gate calls).phase = .failed := by
  induction calls using List.reverseRecOn with
  | nil => exact failed
  | append_singleton calls call inductionHypothesis =>
      rw [Logbook.after_concat]
      exact perform_failed inductionHypothesis call

theorem perform_bound
    (bound : gate.phase = .bound)
    (call : GateCall) :
    (gate.perform call).2.phase = .failed ∨
      (Ignored call ∧ (gate.perform call).2 = gate) := by
  cases call with
  | openBidi stream opener =>
      left
      simp only [perform, openBidi]
      split
      · rfl
      · simp [bound, fail]
  | data stream sender bytes =>
      simp only [perform, data]
      split
      · exact Or.inl rfl
      next known => exact Or.inr ⟨by simpa [Ignored] using known, by simp [bound]⟩
  | finish stream sender =>
      simp only [perform, finish]
      split
      · exact Or.inl rfl
      next known => exact Or.inr ⟨by simpa [Ignored] using known, by simp [bound]⟩

theorem perform_ignored
    (bound : gate.phase = .bound)
    {call : GateCall}
    (ignored : Ignored call) :
    (gate.perform call).2 = gate := by
  cases call with
  | openBidi stream opener => cases ignored
  | data stream sender bytes =>
      have valid : validSide sender = true := ignored
      simp [perform, data, valid, bound]
  | finish stream sender =>
      have valid : validSide sender = true := ignored
      simp [perform, finish, valid, bound]

/-- A gate that waits for a stream fails or has just opened one. -/
theorem perform_expecting
    (expecting : gate.phase = .expectPrebind ∨ gate.phase = .expectBind)
    (call : GateCall) :
    (gate.perform call).2.phase = .failed ∨
      ∃ streamId,
        call = .openBidi streamId .connector ∧ streamId ≠ 0 ∧
          streamId ≠ gate.priorStreamId ∧
          (gate.perform call).2 =
            { gate with
              streamId := streamId
              connector := {}
              listener := {}
              preambleComplete := false
              phase := if gate.phase = .expectPrebind then .prebind else .bind } := by
  cases call with
  | openBidi streamId opener =>
      simp only [perform, openBidi]
      split
      · exact Or.inl rfl
      next known =>
        split
        · exact Or.inl rfl
        next right =>
          simp only [not_or, not_not] at right
          obtain ⟨-, rfl, other⟩ := right
          have named : streamId ≠ 0 := by
            rintro rfl
            simp at known
          exact Or.inr ⟨streamId, rfl, named, other, rfl⟩
  | data stream sender bytes =>
      left
      simp only [perform, data]
      split
      · rfl
      · rcases expecting with phase | phase <;> simp [phase, fail]
  | finish stream sender =>
      left
      simp only [perform, finish]
      split
      · rfl
      · rcases expecting with phase | phase <;> simp [phase, fail]

theorem perform_opening
    (expecting : gate.phase = .expectPrebind ∨ gate.phase = .expectBind)
    (named : streamId ≠ 0)
    (other : streamId ≠ gate.priorStreamId) :
    (gate.perform (.openBidi streamId .connector)).2 =
      { gate with
        streamId := streamId
        connector := {}
        listener := {}
        preambleComplete := false
        phase := if gate.phase = .expectPrebind then .prebind else .bind } := by
  rcases expecting with phase | phase <;>
    simp [perform, openBidi, validSide, phase, named, other]

theorem Streaming.opened
    (named : gate.streamId = streamId)
    (phase : gate.phase = .prebind ∨ gate.phase = .bind)
    (incomplete : gate.preambleComplete = false)
    (connector : gate.connector = {})
    (listener : gate.listener = {}) :
    gate.Streaming streamId [] := by
  have empty (side : TlsSide) : gate.direction side = {} := by
    unfold direction
    split
    · exact connector
    · exact listener
  constructor
  · exact named
  · exact phase
  · exact .nil
  · intro side _
    simp [empty]
  · exact Or.inl (congrArg GateDirection.fin connector)
  · intro side _ finished
    rw [empty] at finished
    cases finished
  · intro _
    rw [connector, listener]
    exact ⟨rfl, rfl, rfl, rfl, by decide⟩
  · intro side _ ready
    have quiet : side ≠ .connector := fun same => by
      rw [ready same] at incomplete
      cases incomplete
    rw [empty]
    refine ⟨[], gate.records side, [], ⟨rfl, ?_, rfl, rfl⟩, ?_⟩
    · simp [lead, quiet]
    · cases gate.records side with
      | nil => exact Nat.zero_lt_succ 3
      | cons expected rest => exact Or.inl (Nat.zero_lt_succ 3)

/-- A whole stream, call after call. -/
theorem Streaming.run
    (opened : gate.Streaming streamId [])
    (complete : Complete gate.phase gate.initiatorIsConnector streamId calls) :
    let after := Logbook.after QuicStreamGate.perform gate calls
    after.phase = (if gate.phase = .prebind then .expectBind else .bound) ∧
      after.initiatorIsConnector = gate.initiatorIsConnector ∧
      after.priorStreamId = streamId := by
  have course (front back : List GateCall) (split : calls = front ++ back) (more : back ≠ []) :
      (Logbook.after QuicStreamGate.perform gate front).Streaming streamId front ∧
        (Logbook.after QuicStreamGate.perform gate front).phase = gate.phase ∧
        (Logbook.after QuicStreamGate.perform gate front).initiatorIsConnector =
          gate.initiatorIsConnector := by
    induction front using List.reverseRecOn generalizing back with
    | nil => exact ⟨opened, rfl, rfl⟩
    | append_singleton front call inductionHypothesis =>
        have rest : calls = front ++ call :: back := by simpa using split
        obtain ⟨streaming, phase, role⟩ :=
          inductionHypothesis (call :: back) rest (List.cons_ne_nil _ _)
        rw [Logbook.after_concat]
        cases streaming.perform call with
        | failed failed dead =>
            rw [phase, role] at dead
            exact absurd (rest ▸ complete).orderly (dead back)
        | streaming next phase' role' =>
            exact ⟨next, phase'.trans phase, role'.trans role⟩
        | completed early =>
            obtain ⟨later, others, rfl⟩ := List.exists_cons_of_ne_nil more
            have last := complete.ordered (front ++ [call]) later others split
            rcases last with ⟨speaks⟩ | ⟨speaks, -⟩ <;>
              exact absurd (early.finished _ speaks.valid) speaks.unfinished
  rcases List.eq_nil_or_concat' calls with rfl | ⟨front, last, rfl⟩
  · exact absurd (complete.finished .connector rfl) List.not_mem_nil
  · obtain ⟨streaming, phase, role⟩ := course front [last] rfl (List.cons_ne_nil _ _)
    intro after
    have step : after = ((Logbook.after QuicStreamGate.perform gate front).perform last).2 :=
      Logbook.after_concat _ _ _ _
    rw [step]
    cases streaming.perform last with
    | failed failed dead =>
        rw [phase, role] at dead
        exact absurd complete.orderly (dead [])
    | streaming next phase' role' =>
        have connector := (next.fin .connector rfl).mpr (complete.finished _ rfl)
        have listener := (next.fin .listener rfl).mpr (complete.finished _ rfl)
        rcases next.running with running | running
        · exact absurd (connector.symm.trans running) (by decide)
        · exact absurd (listener.symm.trans running) (by decide)
    | completed _ phase' role' prior =>
        rw [phase] at phase'
        exact ⟨phase', role'.trans role, prior⟩

/-! ### Cutting the bytes of a side -/

theorem Streaming.orderly
    (streaming : gate.Streaming streamId calls) :
    Orderly gate.phase gate.initiatorIsConnector streamId calls where
  ordered := streaming.ordered
  begins side valid := by
    by_cases ready : side = .connector → gate.preambleComplete = true
    · exact Or.inr (streaming.reading side valid ready).settled
    · rw [Classical.not_imp, Bool.not_eq_true] at ready
      obtain ⟨rfl, incomplete⟩ := ready
      obtain ⟨-, -, -, held, short⟩ := streaming.waiting incomplete
      exact Or.inl ⟨rfl, held ▸ short⟩
  finished side valid member :=
    streaming.ended side valid ((streaming.fin side valid).mpr member)

/-- What the gate has of a stream is determined by what each side has sent on it. -/
theorem Streaming.unique
    {other : QuicStreamGate}
    {calls' : List GateCall}
    (streaming : gate.Streaming streamId calls)
    (streaming' : other.Streaming streamId calls')
    (phase : gate.phase = other.phase)
    (role : gate.initiatorIsConnector = other.initiatorIsConnector)
    (prior : gate.priorStreamId = other.priorStreamId)
    (bytes : ∀ side, sent side calls = sent side calls')
    (ends :
      ∀ side, GateCall.finish streamId side ∈ calls ↔ .finish streamId side ∈ calls') :
    gate = other := by
  have fin (side : TlsSide) (valid : validSide side = true) :
      (gate.direction side).fin = (other.direction side).fin := by
    rw [Bool.eq_iff_iff, streaming.fin side valid, streaming'.fin side valid]
    exact ends side
  have preamble : gate.preambleComplete = other.preambleComplete := by
    have apart
        {one two : QuicStreamGate}
        {first second : List GateCall}
        (ready : one.Streaming streamId first)
        (waiting : two.Streaming streamId second)
        (same : sent .connector first = sent .connector second)
        (complete : one.preambleComplete = true)
        (incomplete : two.preambleComplete = false) : False := by
      have heard := ready.heard complete
      obtain ⟨-, -, -, held, short⟩ := waiting.waiting incomplete
      rw [same, held] at heard
      omega
    cases complete : gate.preambleComplete <;> cases complete' : other.preambleComplete
    · rfl
    · exact (apart streaming' streaming (bytes _).symm complete' complete).elim
    · exact (apart streaming streaming' (bytes _) complete complete').elim
    · rfl
  have direction (side : TlsSide) (valid : validSide side = true) :
      gate.direction side = other.direction side := by
    by_cases ready : side = .connector → gate.preambleComplete = true
    · have reading := streaming.reading side valid ready
      have reading' := streaming'.reading side valid (preamble ▸ ready)
      rw [← bytes side, ← phase, records, ← phase, ← role] at reading'
      exact reading.unique reading' (fin side valid)
    · rw [Classical.not_imp, Bool.not_eq_true] at ready
      obtain ⟨rfl, incomplete⟩ := ready
      obtain ⟨going, -, index, held, -⟩ := streaming.waiting incomplete
      obtain ⟨going', -, index', held', -⟩ := streaming'.waiting (preamble ▸ incomplete)
      have same : gate.connector.bytes = other.connector.bytes := by
        rw [← held, ← held', bytes]
      change gate.connector = other.connector
      rw [show gate.connector = ⟨gate.connector.bytes, 0, false⟩ from
        by rw [← index, ← going], same, ← index', ← going']
  have connector : gate.connector = other.connector := direction .connector rfl
  have listener : gate.listener = other.listener := direction .listener rfl
  have named := streaming.named.trans streaming'.named.symm
  cases gate
  cases other
  simp_all only

/-- Calls stay orderly when the bytes of one of them are cut. -/
theorem orderly_cut
    {phase : GatePhase}
    {initiatorIsConnector : Bool}
    {stream : UInt64}
    {sender : TlsSide}
    {first second : Bytes}
    (before : Chronology.Every (Continues phase streamId) calls) :
    Orderly phase initiatorIsConnector streamId
        (calls ++ [GateCall.data stream sender (first ++ second)]) ↔
      Orderly phase initiatorIsConnector streamId
        (calls ++ [GateCall.data stream sender first] ++
          [GateCall.data stream sender second]) := by
  have bytes (side : TlsSide) :
      sent side (calls ++ [GateCall.data stream sender (first ++ second)]) =
        sent side (calls ++ [GateCall.data stream sender first] ++
          [GateCall.data stream sender second]) := by
    simp only [sent_append, sent_cons, sent_nil, bytesFrom_data, List.append_nil,
      List.append_assoc]
    split
    · rfl
    · rfl
  have ends (side : TlsSide) :
      GateCall.finish streamId side ∈
          calls ++ [GateCall.data stream sender (first ++ second)] ↔
        GateCall.finish streamId side ∈
          calls ++ [GateCall.data stream sender first] ++
            [GateCall.data stream sender second] := by
    simp
  constructor
  · rintro ⟨ordered, begins, finished⟩
    refine ⟨?_, fun side valid => bytes side ▸ begins side valid,
      fun side valid member => bytes side ▸ finished side valid ((ends side).mpr member)⟩
    rcases ordered calls _ [] rfl with ⟨speaks⟩ | -
    refine (before.concat (.data speaks)).concat (.data ⟨speaks.valid, ?_, fun listener => ?_⟩)
    · simpa using speaks.unfinished
    · rw [sent_append, List.length_append]
      exact Nat.le_add_right_of_le (speaks.heard listener)
  · rintro ⟨ordered, begins, finished⟩
    refine ⟨?_, fun side valid => bytes side ▸ begins side valid,
      fun side valid member => bytes side ▸ finished side valid ((ends side).mp member)⟩
    have continues : Continues phase streamId calls (.data stream sender first) :=
      ordered calls _ [GateCall.data stream sender second] (by simp)
    rcases continues with ⟨speaks⟩ | -
    exact before.concat (.data speaks)

/-- Whether the bytes come in one call or in two makes no difference to the gate. -/
theorem Streaming.cut
    (streaming : gate.Streaming streamId calls)
    (stream : UInt64)
    (sender : TlsSide)
    (first second : Bytes) :
    let once := (gate.perform (.data stream sender (first ++ second))).2
    let twice :=
      ((gate.perform (.data stream sender first)).2.perform (.data stream sender second)).2
    once = twice ∨ (once.phase = .failed ∧ twice.phase = .failed) := by
  intro once twice
  have goesOn
      {gate after : QuicStreamGate}
      {calls : List GateCall}
      {bytes : Bytes}
      (streams : gate.Streams streamId calls (.data stream sender bytes) after) :
      (after.phase = .failed ∧
          ∀ back,
            ¬ Orderly gate.phase gate.initiatorIsConnector streamId
              (calls ++ .data stream sender bytes :: back)) ∨
        (after.Streaming streamId (calls ++ [.data stream sender bytes]) ∧
          after.phase = gate.phase ∧
          after.initiatorIsConnector = gate.initiatorIsConnector ∧
          after.priorStreamId = gate.priorStreamId) := by
    cases streams with
    | failed failed dead => exact Or.inl ⟨failed, dead⟩
    | streaming next phase role prior => exact Or.inr ⟨next, phase, role, prior⟩
    | completed complete =>
        rcases complete.ordered calls _ [] rfl with ⟨speaks⟩ | -
        exact absurd (by simpa using complete.finished sender speaks.valid) speaks.unfinished
  have cutting := @orderly_cut streamId calls gate.phase gate.initiatorIsConnector stream
    sender first second streaming.ordered
  have one := goesOn (streaming.perform (.data stream sender (first ++ second)))
  rcases goesOn (streaming.perform (.data stream sender first)) with
    ⟨failed, dead⟩ | ⟨next, phase, role, prior⟩
  · refine Or.inr ⟨?_, perform_failed failed _⟩
    rcases one with ⟨failedOnce, -⟩ | ⟨whole, phase, role, -⟩
    · exact failedOnce
    · have orderly := whole.orderly
      rw [phase, role] at orderly
      have parts := cutting.mp orderly
      rw [List.append_assoc] at parts
      exact absurd parts (dead _)
  · have two := goesOn (next.perform (.data stream sender second))
    rw [phase, role] at two
    rcases one with ⟨failed, dead⟩ | ⟨whole, phaseOnce, roleOnce, priorOnce⟩
    · rcases two with ⟨failedTwice, -⟩ | ⟨parts, phase', role', -⟩
      · exact Or.inr ⟨failed, failedTwice⟩
      · have orderly := parts.orderly
        rw [phase', role'] at orderly
        exact absurd (cutting.mpr orderly) (dead [])
    · rcases two with ⟨-, dead⟩ | ⟨parts, phase', role', prior'⟩
      · have orderly := whole.orderly
        rw [phaseOnce, roleOnce] at orderly
        exact absurd (cutting.mp orderly) (dead [])
      · refine Or.inl (whole.unique parts (phaseOnce.trans phase'.symm)
          (roleOnce.trans role'.symm) (priorOnce.trans (prior'.trans prior).symm)
          (fun side => ?_) fun side => by simp)
        simp only [sent_append, sent_cons, sent_nil, bytesFrom_data, List.append_nil,
          List.append_assoc]
        split
        · rfl
        · rfl

end Steps

/-! ### Whole runs -/

section Runs

variable {kind : BindingKind}
variable {initiatorIsConnector : Bool}

/-- How far the calls have come on the way to a bound channel. -/
inductive Course
    (kind : BindingKind)
    (initiatorIsConnector : Bool) : List GateCall → QuicStreamGate → Prop where
  | reconnects
      {gate : QuicStreamGate}
      (same : kind = .samePathReconnect)
      (role : gate.initiatorIsConnector = initiatorIsConnector)
      (phase : gate.phase = .expectPrebind) :
      Course kind initiatorIsConnector [] gate
  | prebind
      {gate : QuicStreamGate}
      {streamId : UInt64}
      {calls : List GateCall}
      (same : kind = .samePathReconnect)
      (named : streamId ≠ 0)
      (role : gate.initiatorIsConnector = initiatorIsConnector)
      (phase : gate.phase = .prebind)
      (streaming : gate.Streaming streamId calls) :
      Course kind initiatorIsConnector (.openBidi streamId .connector :: calls) gate
  | introduced
      {gate : QuicStreamGate}
      {front : List GateCall}
      (introduced : Introduced kind initiatorIsConnector gate.priorStreamId front)
      (role : gate.initiatorIsConnector = initiatorIsConnector)
      (phase : gate.phase = .expectBind) :
      Course kind initiatorIsConnector front gate
  | bind
      {gate : QuicStreamGate}
      {streamId : UInt64}
      {front calls : List GateCall}
      (introduced : Introduced kind initiatorIsConnector gate.priorStreamId front)
      (named : streamId ≠ 0)
      (other : streamId ≠ gate.priorStreamId)
      (role : gate.initiatorIsConnector = initiatorIsConnector)
      (phase : gate.phase = .bind)
      (streaming : gate.Streaming streamId calls) :
      Course kind initiatorIsConnector (front ++ .openBidi streamId .connector :: calls) gate
  | bound
      {gate : QuicStreamGate}
      {binding later : List GateCall}
      (binds : Binds kind initiatorIsConnector binding)
      (ignored : ∀ call ∈ later, Ignored call)
      (phase : gate.phase = .bound) :
      Course kind initiatorIsConnector (binding ++ later) gate
  | failed
      {gate : QuicStreamGate}
      {calls : List GateCall}
      (failed : gate.phase = .failed) :
      Course kind initiatorIsConnector calls gate

variable {calls : List GateCall} {gate : QuicStreamGate}

theorem Course.perform
    (course : Course kind initiatorIsConnector calls gate)
    (call : GateCall) :
    Course kind initiatorIsConnector (calls ++ [call]) (gate.perform call).2 := by
  cases course with
  | reconnects same role phase =>
      rcases perform_expecting (Or.inl phase) call with failed | ⟨streamId, rfl, named, -, is⟩
      · exact .failed failed
      · rw [is]
        refine .prebind same named role (if_pos phase) (.opened rfl ?_ rfl rfl rfl)
        exact Or.inl (if_pos phase)
  | prebind same named role phase streaming =>
      rw [List.cons_append]
      cases streaming.perform call with
      | failed failed => exact .failed failed
      | streaming next phase' role' =>
          exact .prebind same named (role'.trans role) (phase'.trans phase) next
      | completed complete phase' role' prior =>
          rw [if_pos phase] at phase'
          rw [phase, role] at complete
          have introduced := Introduced.reconnect same named complete
          rw [← prior] at introduced
          exact prior ▸ .introduced introduced (role'.trans role) phase'
  | introduced introduced role phase =>
      rcases perform_expecting (Or.inr phase) call with
        failed | ⟨streamId, rfl, named, other, is⟩
      · exact .failed failed
      · rw [is]
        have binding :
            (if gate.phase = .expectPrebind then GatePhase.prebind else .bind) = .bind := by
          simp [phase]
        exact .bind introduced named other role binding
          (.opened rfl (Or.inr binding) rfl rfl rfl)
  | @bind _ streamId front calls introduced named other role phase streaming =>
      rw [List.append_assoc, List.cons_append]
      cases streaming.perform call with
      | failed failed => exact .failed failed
      | streaming next phase' role' prior =>
          rw [← prior] at introduced other
          exact .bind introduced named other (role'.trans role) (phase'.trans phase) next
      | completed complete phase' role' prior =>
          rw [phase, if_neg (by decide)] at phase'
          rw [phase, role] at complete
          have bound :=
            @Course.bound kind initiatorIsConnector _ _ []
              (.bind introduced named other complete) (by simp) phase'
          rwa [List.append_nil] at bound
  | bound binds ignored phase =>
      rcases perform_bound phase call with failed | ⟨quiet, same⟩
      · exact .failed failed
      · rw [List.append_assoc, same]
        refine .bound binds (fun other member => ?_) phase
        rcases List.mem_append.mp member with old | new
        · exact ignored other old
        · exact List.mem_singleton.mp new ▸ quiet
  | failed failed => exact .failed (perform_failed failed call)

theorem course
    (kind : BindingKind)
    (initiatorIsConnector : Bool)
    (calls : List GateCall) :
    Course kind initiatorIsConnector calls
      (Logbook.after perform (start kind initiatorIsConnector) calls) := by
  induction calls using List.reverseRecOn with
  | nil =>
      by_cases same : kind = .samePathReconnect
      · exact .reconnects same rfl (if_pos same)
      · exact .introduced (.fresh same) rfl (if_neg same)
  | append_singleton calls call inductionHypothesis =>
      rw [Logbook.after_concat]
      exact inductionHypothesis.perform call

/-- The calls of the language bind the gate. -/
theorem after_binds
    (binds : Binds kind initiatorIsConnector calls) :
    (Logbook.after perform (start kind initiatorIsConnector) calls).phase = .bound := by
  cases binds with
  | @bind prior streamId front calls introduced named other complete =>
      have waits :
          let gate := Logbook.after perform (start kind initiatorIsConnector) front
          gate.phase = .expectBind ∧ gate.initiatorIsConnector = initiatorIsConnector ∧
            gate.priorStreamId = prior := by
        cases introduced with
        | fresh fresh => exact ⟨if_neg fresh, rfl, rfl⟩
        | @reconnect first firstCalls same firstNamed firstComplete =>
            have phase : (start kind initiatorIsConnector).phase = .expectPrebind :=
              if_pos same
            have opened := perform_opening (Or.inl phase) firstNamed firstNamed
            rw [if_pos phase] at opened
            have streaming :
                ((start kind initiatorIsConnector).perform
                  (.openBidi prior .connector)).2.Streaming prior [] := by
              rw [opened]
              exact .opened rfl (Or.inl rfl) rfl rfl rfl
            have ran := @Streaming.run _ _ firstCalls streaming (by rw [opened]; exact firstComplete)
            rw [opened] at ran
            intro gate
            have is := congrArg (Logbook.after perform · firstCalls) opened
            change gate = _ at is
            rw [is]
            exact ran
      obtain ⟨phase, role, priorIs⟩ := waits
      rw [Logbook.after_append]
      generalize Logbook.after perform (start kind initiatorIsConnector) front = gate at *
      have opened := perform_opening (Or.inr phase) named (priorIs ▸ other)
      rw [if_neg (by simp [phase])] at opened
      change (Logbook.after perform (gate.perform (.openBidi streamId .connector)).2 calls).phase =
        .bound
      rw [opened]
      exact (Streaming.run (.opened rfl (Or.inr rfl) rfl rfl rfl)
        (by rw [role]; exact complete)).1

theorem after_ignored
    (bound : gate.phase = .bound)
    (ignored : ∀ call ∈ calls, Ignored call) :
    Logbook.after perform gate calls = gate := by
  induction calls using List.reverseRecOn with
  | nil => rfl
  | append_singleton calls call inductionHypothesis =>
      rw [Logbook.after_concat,
        inductionHypothesis fun other member => ignored other (List.mem_append_left _ member)]
      exact perform_ignored bound (ignored call (by simp))

/-- Two rows of calls that differ in how the bytes of one call are cut. -/
inductive Cut : List GateCall → List GateCall → Prop where
  | cut
      (front back : List GateCall)
      (streamId : UInt64)
      (sender : TlsSide)
      (first second : Bytes) :
      Cut (front ++ .data streamId sender (first ++ second) :: back)
        (front ++ .data streamId sender first :: .data streamId sender second :: back)

theorem after_cut
    {calls calls' : List GateCall}
    (cut : Cut calls calls') :
    (Logbook.after perform (start kind initiatorIsConnector) calls).phase =
      (Logbook.after perform (start kind initiatorIsConnector) calls').phase := by
  obtain ⟨front, back, streamId, sender, first, second⟩ := cut
  have same :
      let gate := Logbook.after perform (start kind initiatorIsConnector) front
      let once := (gate.perform (.data streamId sender (first ++ second))).2
      let twice :=
        ((gate.perform (.data streamId sender first)).2.perform
          (.data streamId sender second)).2
      once = twice ∨ (once.phase = .failed ∧ twice.phase = .failed) := by
    have expecting
        {gate : QuicStreamGate}
        (expecting : gate.phase = .expectPrebind ∨ gate.phase = .expectBind)
        (bytes : Bytes) :
        (gate.perform (.data streamId sender bytes)).2.phase = .failed := by
      rcases perform_expecting expecting (.data streamId sender bytes) with
        failed | ⟨_, other, -⟩
      · exact failed
      · cases other
    have run := course kind initiatorIsConnector front
    cases run with
    | reconnects _ _ phase =>
        exact Or.inr ⟨expecting (Or.inl phase) _,
          perform_failed (expecting (Or.inl phase) _) _⟩
    | introduced _ _ phase =>
        exact Or.inr ⟨expecting (Or.inr phase) _,
          perform_failed (expecting (Or.inr phase) _) _⟩
    | prebind _ _ _ _ streaming => exact streaming.cut streamId sender first second
    | bind _ _ _ _ _ streaming => exact streaming.cut streamId sender first second
    | failed failed => exact Or.inr ⟨perform_failed failed _,
        perform_failed (perform_failed failed _) _⟩
    | bound _ _ phase =>
        by_cases valid : validSide sender = true
        · have quiet (bytes : Bytes) := perform_ignored phase
            (show Ignored (.data streamId sender bytes) from valid)
          left
          rw [quiet, quiet, quiet]
        · have failed (bytes : Bytes) :=
            (perform_bound phase (.data streamId sender bytes)).resolve_right
              fun ⟨ignored, _⟩ => valid ignored
          exact Or.inr ⟨failed _, perform_failed (failed _) _⟩
  rw [Logbook.after_append, Logbook.after_append]
  generalize Logbook.after perform (start kind initiatorIsConnector) front = gate at *
  change (Logbook.after perform (gate.perform _).2 back).phase =
    (Logbook.after perform ((gate.perform _).2.perform _).2 back).phase
  rcases same with same | ⟨once, twice⟩
  · rw [same]
  · rw [after_failed once, after_failed twice]

/-- The gate is bound exactly by the calls of its language.  It fails for good, and how
the bytes are cut makes no difference. -/
theorem bound_iff
    (kind : BindingKind)
    (initiatorIsConnector : Bool)
    (calls : List GateCall) :
    let after (calls : List GateCall) :=
      Logbook.after perform (start kind initiatorIsConnector) calls
    ((after calls).phase = .bound ↔
        ∃ binding later,
          calls = binding ++ later ∧ Binds kind initiatorIsConnector binding ∧
            ∀ call ∈ later, Ignored call) ∧
      ((after calls).phase = .failed →
        ∀ later, (after (calls ++ later)).phase = .failed) ∧
      ∀ calls', Relation.EqvGen Cut calls calls' →
        (after calls').phase = (after calls).phase := by
  intro after
  refine ⟨⟨fun bound => ?_, ?_⟩, fun failed later => ?_, fun calls' cuts => ?_⟩
  · have run := course kind initiatorIsConnector calls
    change Course kind initiatorIsConnector calls (after calls) at run
    generalize after calls = gate at bound run
    cases run with
    | bound binds ignored => exact ⟨_, _, rfl, binds, ignored⟩
    | reconnects _ _ phase => exact absurd (bound.symm.trans phase) (by decide)
    | prebind _ _ _ phase => exact absurd (bound.symm.trans phase) (by decide)
    | introduced _ _ phase => exact absurd (bound.symm.trans phase) (by decide)
    | bind _ _ _ _ phase => exact absurd (bound.symm.trans phase) (by decide)
    | failed phase => exact absurd (bound.symm.trans phase) (by decide)
  · rintro ⟨binding, later, rfl, binds, ignored⟩
    have bound := after_binds binds
    change (Logbook.after perform _ (binding ++ later)).phase = .bound
    rw [Logbook.after_append, after_ignored bound ignored, bound]
  · change (Logbook.after perform _ (calls ++ later)).phase = .failed
    rw [Logbook.after_append]
    exact after_failed failed later
  · induction cuts with
    | rel _ _ cut => exact (after_cut cut).symm
    | refl => rfl
    | symm _ _ _ inductionHypothesis => exact inductionHypothesis.symm
    | trans _ _ _ _ _ first second => exact second.trans first

/-- A whole bind stream behind its opening, with zeros for the bodies of the records. -/
def zeroStream : List GateCall :=
  let record (size : Nat) : Bytes := bigEndian 4 size ++ List.replicate size 0
  [.data 1 .connector (preamble .bind ++ (record 248 ++ record 128)),
    .data 1 .listener (record 248),
    .finish 1 .connector,
    .finish 1 .listener]

/-- An empty piece of the listener's bytes in front of the preamble fails the gate. -/
theorem empty_piece_fails :
    let start := start .initial true
    let opening := GateCall.openBidi 1 .connector
    let piece := GateCall.data 1 .listener []
    (∀ side,
        sent side (opening :: zeroStream) = sent side (opening :: piece :: zeroStream)) ∧
      (Logbook.after perform start (opening :: zeroStream)).phase = .bound ∧
      (Logbook.after perform start (opening :: piece :: zeroStream)).phase = .failed := by
  intro start opening piece
  have early : (Logbook.after perform start [opening, piece]).phase = .failed := by decide
  have failed := after_failed early zeroStream
  rw [← Logbook.after_append] at failed
  refine ⟨fun side => ?_, by decide +kernel, failed⟩
  rw [sent_cons, sent_cons, sent_cons, bytesFrom_data, ite_self, List.nil_append]

end Runs

end QuicStreamGate

end FlyNes.Wire
