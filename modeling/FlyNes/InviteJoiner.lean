import FlyNes.ByteString
import FlyNes.Logbook
import Mathlib.Data.List.DropRight

namespace FlyNes.InviteCode

open ByteString

/-!
# Joining by an invite code

Six digits locate the anonymous invitation of a host.  The joiner has one lookup
attempt at a time, fenced by an attempt id that only grows: the response, the
approval of the host and the confirmations of both sides belong to the attempt
that is live, and an attempt that has ended stays so.
-/

def kInviteCodeLength : Nat := 6

def kInviteValidityNs : Nat := 60000000000

def kInviteLookupAttemptsPerInvitation : Nat := 5

abbrev InviteCodeDigits := Block kInviteCodeLength

/-- The deadline of an invitation, in a 64-bit clock. -/
def deadlineAfter (nowNs : Nat) : Nat :=
  (nowNs + kInviteValidityNs) % 2 ^ 64

def asciiSpace (byte : UInt8) : Bool :=
  byte == 0x20 || byte == 0x09 || byte == 0x0A || byte == 0x0D || byte == 0x0C ||
    byte == 0x0B

def asciiDigit (byte : UInt8) : Bool :=
  0x30 ≤ byte && byte ≤ 0x39

/-- A text without the blanks at its ends. -/
def trimmed (blank : UInt8 → Bool) (input : Bytes) : Bytes :=
  (input.dropWhile blank).rdropWhile blank

/-- Six digits, with blanks before and behind them. -/
def parseInviteCode (input : Bytes) : Option InviteCodeDigits :=
  let input := trimmed asciiSpace input
  if sized : input.length = kInviteCodeLength then
    if input.all asciiDigit then
      some ⟨input, sized⟩
    else
      none
  else
    none

inductive InviteLookupStatus where
  | matchPendingHostApproval
  | noMatch
  | expired
  | rateLimited
  | unknown (code : UInt8)
deriving DecidableEq

inductive InviteJoinPhase where
  | idle
  | lookingUp
  | waitingHostApproval
  | waitingSasConfirm
  | authenticated
  | cancelled
  | expired
  | ambiguous
deriving DecidableEq

def joinPhaseLive (phase : InviteJoinPhase) : Bool :=
  phase == .lookingUp || phase == .waitingHostApproval || phase == .waitingSasConfirm

structure InviteCodeJoiner where
  phase : InviteJoinPhase := .idle
  liveAttemptId : Nat := 0
  highestAttemptId : Nat := 0
  deadlineNs : Nat := 0
  matchedGeneration : Nat := 0
  localSasConfirmed : Bool := false
  peerSasConfirmed : Bool := false
  hasLastTick : Bool := false
  lastTickNs : Nat := 0
deriving DecidableEq

namespace InviteCodeJoiner

def live (joiner : InviteCodeJoiner) (attemptId : Nat) : Bool :=
  attemptId != 0 && attemptId == joiner.liveAttemptId && joinPhaseLive joiner.phase

/-- The clock runs backwards. -/
def isBackwards (joiner : InviteCodeJoiner) (nowNs : Nat) : Bool :=
  joiner.hasLastTick && nowNs < joiner.lastTickNs

def endAttempt
    (joiner : InviteCodeJoiner)
    (terminal : InviteJoinPhase) : InviteCodeJoiner :=
  { joiner with
    phase := terminal
    liveAttemptId := 0
    deadlineNs := 0
    matchedGeneration := 0
    localSasConfirmed := false
    peerSasConfirmed := false }

def start
    (joiner : InviteCodeJoiner)
    (attemptId : Nat)
    (input : Bytes)
    (nowNs : Nat) : Bool × InviteCodeJoiner :=
  if attemptId = 0 ∨ attemptId ≤ joiner.highestAttemptId ∨
      joinPhaseLive joiner.phase ∨ joiner.isBackwards nowNs then
    (false, joiner)
  else
    match parseInviteCode input with
    | none => (false, joiner)
    | some _ =>
        (true,
          { phase := .lookingUp
            liveAttemptId := attemptId
            highestAttemptId := attemptId
            deadlineNs := deadlineAfter nowNs
            matchedGeneration := 0
            localSasConfirmed := false
            peerSasConfirmed := false
            hasLastTick := true
            lastTickNs := nowNs })

def onResponse
    (joiner : InviteCodeJoiner)
    (attemptId : Nat)
    (status : InviteLookupStatus)
    (matchedGeneration : Nat)
    (nowNs : Nat) : Bool × InviteCodeJoiner :=
  if !joiner.live attemptId || joiner.isBackwards nowNs then
    (false, joiner)
  else if joiner.deadlineNs ≤ nowNs then
    (false, joiner.endAttempt .expired)
  else
    let joiner := { joiner with lastTickNs := nowNs }
    match status with
    | .matchPendingHostApproval =>
        if joiner.phase = .lookingUp then
          if matchedGeneration = 0 then
            (false, joiner.endAttempt .idle)
          else
            (true,
              { joiner with
                matchedGeneration := matchedGeneration
                phase := .waitingHostApproval })
        -- A repeat of the same match changes nothing, another one is ambiguous.
        else if matchedGeneration = joiner.matchedGeneration then
          (true, joiner)
        else
          (false, joiner.endAttempt .ambiguous)
    | .noMatch | .expired | .rateLimited => (true, joiner.endAttempt .idle)
    | .unknown _ => (false, joiner)

def onHostAccepted
    (joiner : InviteCodeJoiner)
    (attemptId : Nat) : Bool × InviteCodeJoiner :=
  if !joiner.live attemptId || joiner.phase != .waitingHostApproval then
    (false, joiner)
  else
    (true, { joiner with phase := .waitingSasConfirm })

def onLocalSasConfirmed
    (joiner : InviteCodeJoiner)
    (attemptId : Nat) : Bool × InviteCodeJoiner :=
  if !joiner.live attemptId || joiner.phase != .waitingSasConfirm then
    (false, joiner)
  else
    (true,
      { joiner with
        localSasConfirmed := true
        phase := if joiner.peerSasConfirmed then .authenticated else joiner.phase })

def onPeerSasConfirmed
    (joiner : InviteCodeJoiner)
    (attemptId : Nat) : Bool × InviteCodeJoiner :=
  if !joiner.live attemptId || joiner.phase != .waitingSasConfirm then
    (false, joiner)
  else
    (true,
      { joiner with
        peerSasConfirmed := true
        phase := if joiner.localSasConfirmed then .authenticated else joiner.phase })

def cancel
    (joiner : InviteCodeJoiner)
    (attemptId : Nat) : Bool × InviteCodeJoiner :=
  if !joiner.live attemptId then
    (false, joiner)
  else
    (true, joiner.endAttempt .cancelled)

def tick (joiner : InviteCodeJoiner) (nowNs : Nat) : InviteCodeJoiner :=
  if joiner.isBackwards nowNs then
    if joinPhaseLive joiner.phase then
      joiner.endAttempt .expired
    else
      joiner
  else
    let joiner := { joiner with hasLastTick := true, lastTickNs := nowNs }
    if joinPhaseLive joiner.phase && joiner.deadlineNs ≤ nowNs then
      joiner.endAttempt .expired
    else
      joiner

def connected (joiner : InviteCodeJoiner) : Bool :=
  joiner.phase == .authenticated

end InviteCodeJoiner

/-- The two sides that compare the short authentication string. -/
inductive SasSide where
  | ours
  | peer
deriving DecidableEq

def SasSide.other : SasSide → SasSide
  | .ours => .peer
  | .peer => .ours

inductive JoinCall where
  | start (attemptId : Nat) (input : Bytes) (nowNs : Nat)
  | onResponse
      (attemptId : Nat) (status : InviteLookupStatus)
      (matchedGeneration nowNs : Nat)
  | onHostAccepted (attemptId : Nat)
  | onSasConfirmed (side : SasSide) (attemptId : Nat)
  | cancel (attemptId : Nat)
  | tick (nowNs : Nat)
deriving DecidableEq

namespace InviteCodeJoiner

/-- A call and what it returns; a tick returns nothing. -/
def perform
    (joiner : InviteCodeJoiner) : JoinCall → Option Bool × InviteCodeJoiner
  | .start attemptId input nowNs =>
      let (accepted, joiner) := joiner.start attemptId input nowNs
      (some accepted, joiner)
  | .onResponse attemptId status matchedGeneration nowNs =>
      let (accepted, joiner) :=
        joiner.onResponse attemptId status matchedGeneration nowNs
      (some accepted, joiner)
  | .onHostAccepted attemptId =>
      let (accepted, joiner) := joiner.onHostAccepted attemptId
      (some accepted, joiner)
  | .onSasConfirmed .ours attemptId =>
      let (accepted, joiner) := joiner.onLocalSasConfirmed attemptId
      (some accepted, joiner)
  | .onSasConfirmed .peer attemptId =>
      let (accepted, joiner) := joiner.onPeerSasConfirmed attemptId
      (some accepted, joiner)
  | .cancel attemptId =>
      let (accepted, joiner) := joiner.cancel attemptId
      (some accepted, joiner)
  | .tick nowNs => (none, joiner.tick nowNs)

section Perform

variable (joiner : InviteCodeJoiner)

theorem perform_start (attemptId : Nat) (input : Bytes) (nowNs : Nat) :
    joiner.perform (.start attemptId input nowNs) =
      (some (joiner.start attemptId input nowNs).1,
        (joiner.start attemptId input nowNs).2) :=
  rfl

theorem perform_onResponse
    (attemptId : Nat)
    (status : InviteLookupStatus)
    (matchedGeneration nowNs : Nat) :
    joiner.perform (.onResponse attemptId status matchedGeneration nowNs) =
      (some (joiner.onResponse attemptId status matchedGeneration nowNs).1,
        (joiner.onResponse attemptId status matchedGeneration nowNs).2) :=
  rfl

theorem perform_onHostAccepted (attemptId : Nat) :
    joiner.perform (.onHostAccepted attemptId) =
      (some (joiner.onHostAccepted attemptId).1, (joiner.onHostAccepted attemptId).2) :=
  rfl

theorem perform_ours (attemptId : Nat) :
    joiner.perform (.onSasConfirmed .ours attemptId) =
      (some (joiner.onLocalSasConfirmed attemptId).1,
        (joiner.onLocalSasConfirmed attemptId).2) :=
  rfl

theorem perform_peer (attemptId : Nat) :
    joiner.perform (.onSasConfirmed .peer attemptId) =
      (some (joiner.onPeerSasConfirmed attemptId).1,
        (joiner.onPeerSasConfirmed attemptId).2) :=
  rfl

theorem perform_cancel (attemptId : Nat) :
    joiner.perform (.cancel attemptId) =
      (some (joiner.cancel attemptId).1, (joiner.cancel attemptId).2) :=
  rfl

theorem perform_tick (nowNs : Nat) :
    joiner.perform (.tick nowNs) = (none, joiner.tick nowNs) :=
  rfl

end Perform

/-- The joiner after the calls of a run. -/
def after (calls : List JoinCall) : InviteCodeJoiner :=
  Logbook.after perform {} calls

end InviteCodeJoiner

abbrev JoinEntry := Logbook.Entry InviteCodeJoiner JoinCall (Option Bool)

abbrev JoinLog := List JoinEntry

namespace JoinLog

/-- The log of a run of a new joiner. -/
def ofCalls (calls : List JoinCall) : JoinLog :=
  Logbook.log InviteCodeJoiner.perform {} calls

def Starts (attemptId : Nat) (input : Bytes) (nowNs : Nat) (entry : JoinEntry) : Prop :=
  entry.call = .start attemptId input nowNs ∧ entry.answer = some true

def Matches (attemptId generation : Nat) (entry : JoinEntry) : Prop :=
  ∃ nowNs,
    entry.call = .onResponse attemptId .matchPendingHostApproval generation nowNs ∧
    entry.answer = some true

def HostAccepts (attemptId : Nat) (entry : JoinEntry) : Prop :=
  entry.call = .onHostAccepted attemptId ∧ entry.answer = some true

def Confirms (attemptId : Nat) (side : SasSide) (entry : JoinEntry) : Prop :=
  entry.call = .onSasConfirmed side attemptId ∧ entry.answer = some true

/--
What may not come between the stages of an attempt: a newer attempt, a cancel of
it, its expiry on a tick or a response, and a response of it that refuses it or is
the match of another generation.
-/
def Disturbs
    (attemptId deadlineNs generation : Nat)
    (entry : JoinEntry) : Prop :=
  match entry.call with
  | .start _ _ _ => entry.answer = some true
  | .onResponse other status matchedGeneration nowNs =>
      other = attemptId ∧ entry.before.isBackwards nowNs = false ∧
        (deadlineNs ≤ nowNs ∨
          match status with
          | .matchPendingHostApproval => matchedGeneration ≠ generation
          | .noMatch | .expired | .rateLimited => True
          | .unknown _ => False)
  | .cancel other => other = attemptId
  | .tick nowNs => entry.before.isBackwards nowNs = true ∨ deadlineNs ≤ nowNs
  | .onHostAccepted _ => False
  | .onSasConfirmed _ _ => False

def Quiet
    (attemptId deadlineNs generation : Nat)
    (entry : JoinEntry) : Prop :=
  ¬ Disturbs attemptId deadlineNs generation entry

/-- The ids of the attempts that were started. -/
def startedIds (entries : JoinLog) : List Nat :=
  entries.filterMap fun entry =>
    match entry.call, entry.answer with
    | .start attemptId _ _, some true => some attemptId
    | _, _ => none

/-- One attempt has passed these stages, and since then the log has gone on. -/
def Attempt
    (attemptId generation nowNs : Nat)
    (keys : List (JoinEntry → Prop))
    (entries : JoinLog) : Prop :=
  ∃ input earlier starting attempt,
    entries = earlier ++ starting :: attempt ∧
    Starts attemptId input nowNs starting ∧
    Logbook.Staged (Quiet attemptId (deadlineAfter nowNs) generation) keys attempt

/-- The stages of an attempt whose host accepted. -/
def acceptedStages (attemptId generation : Nat) : List (JoinEntry → Prop) :=
  [Matches attemptId generation, HostAccepts attemptId]

/-- One attempt has passed all stages, and no other was started since then. -/
def Joined (entries : JoinLog) : Prop :=
  ∃ attemptId generation nowNs first attempt later,
    entries = attempt ++ later ∧ generation ≠ 0 ∧
    Attempt attemptId generation nowNs
      (acceptedStages attemptId generation ++
        [Confirms attemptId first, Confirms attemptId first.other])
      attempt ∧
    ∀ entry ∈ later, ∀ input otherId otherNs, ¬ Starts otherId input otherNs entry

end JoinLog

namespace JoinLog

namespace Attempt

variable {attemptId generation nowNs : Nat}
variable {keys : List (JoinEntry → Prop)}
variable {entries : JoinLog}
variable {entry : JoinEntry}

theorem wait
    (attempt : Attempt attemptId generation nowNs keys entries)
    (quiet : Quiet attemptId (deadlineAfter nowNs) generation entry) :
    Attempt attemptId generation nowNs keys (entries ++ [entry]) := by
  obtain ⟨input, earlier, starting, rest, rfl, starts, staged⟩ := attempt
  exact ⟨input, earlier, starting, rest ++ [entry], by simp, starts, staged.wait quiet⟩

theorem pass
    {key : JoinEntry → Prop}
    (attempt : Attempt attemptId generation nowNs keys entries)
    (matching : key entry) :
    Attempt attemptId generation nowNs (keys ++ [key]) (entries ++ [entry]) := by
  obtain ⟨input, earlier, starting, rest, rfl, starts, staged⟩ := attempt
  exact
    ⟨input, earlier, starting, rest ++ [entry], by simp, starts, staged.pass matching⟩

theorem begun
    {input : Bytes}
    (entries : JoinLog)
    (starts : Starts attemptId input nowNs entry) :
    Attempt attemptId generation nowNs [] (entries ++ [entry]) :=
  ⟨input, entries, entry, [], rfl, starts, .start⟩

end Attempt

end JoinLog

namespace InviteCodeJoiner

open JoinLog

def confirmedBy (joiner : InviteCodeJoiner) : SasSide → Bool
  | .ours => joiner.localSasConfirmed
  | .peer => joiner.peerSasConfirmed

/-- Only the clock of the joiner moved. -/
def Clocked (joiner later : InviteCodeJoiner) : Prop :=
  ∃ hasLastTick lastTickNs,
    later = { joiner with hasLastTick := hasLastTick, lastTickNs := lastTickNs }

/-- An attempt is over and did not connect. -/
def Idle (joiner : InviteCodeJoiner) : Prop :=
  joinPhaseLive joiner.phase = false ∧ joiner.phase ≠ .authenticated

/-- The confirmation of one side. -/
def confirm (joiner : InviteCodeJoiner) : SasSide → InviteCodeJoiner
  | .ours =>
      { joiner with
        localSasConfirmed := true
        phase := if joiner.peerSasConfirmed then .authenticated else joiner.phase }
  | .peer =>
      { joiner with
        peerSasConfirmed := true
        phase := if joiner.localSasConfirmed then .authenticated else joiner.phase }

/-- What one call does to a joiner with a live attempt. -/
inductive Turn (joiner : InviteCodeJoiner) (call : JoinCall) : Prop where
  | ended
      (idle : (joiner.perform call).2.Idle)
  | waits
      (quiet :
        ∀ generation,
          (joiner.phase = .lookingUp ∨ generation = joiner.matchedGeneration) →
          Quiet joiner.liveAttemptId joiner.deadlineNs generation
            (Logbook.entry perform joiner call))
      (clocked : joiner.Clocked (joiner.perform call).2)
  | matched
      (generation nowNs : Nat)
      (phase : joiner.phase = .lookingUp)
      (asked :
        call =
          .onResponse joiner.liveAttemptId .matchPendingHostApproval generation nowNs)
      (nonzero : generation ≠ 0)
      (result :
        joiner.perform call =
          (some true,
            { joiner with
              lastTickNs := nowNs
              matchedGeneration := generation
              phase := .waitingHostApproval }))
  | accepted
      (phase : joiner.phase = .waitingHostApproval)
      (asked : call = .onHostAccepted joiner.liveAttemptId)
      (result :
        joiner.perform call =
          (some true, { joiner with phase := .waitingSasConfirm }))
  | confirmed
      (side : SasSide)
      (phase : joiner.phase = .waitingSasConfirm)
      (asked : call = .onSasConfirmed side joiner.liveAttemptId)
      (result : joiner.perform call = (some true, joiner.confirm side))

theorem Clocked.refl (joiner : InviteCodeJoiner) : joiner.Clocked joiner :=
  ⟨joiner.hasLastTick, joiner.lastTickNs, rfl⟩

theorem idle_endAttempt
    (joiner : InviteCodeJoiner)
    {terminal : InviteJoinPhase}
    (dead : joinPhaseLive terminal = false)
    (unconnected : terminal ≠ .authenticated) :
    (joiner.endAttempt terminal).Idle :=
  ⟨dead, unconnected⟩

variable {joiner : InviteCodeJoiner} {attemptId : Nat}

theorem eq_of_live
    (live : joiner.live attemptId = true) :
    attemptId = joiner.liveAttemptId := by
  simp only [InviteCodeJoiner.live, Bool.and_eq_true, beq_iff_eq] at live
  exact live.1.2

theorem live_self
    (nonzero : joiner.liveAttemptId ≠ 0)
    (alive : joinPhaseLive joiner.phase = true) :
    joiner.live joiner.liveAttemptId = true := by
  simp [InviteCodeJoiner.live, nonzero, alive]

section Turns

variable {joiner : InviteCodeJoiner}

theorem start_turn
    (alive : joinPhaseLive joiner.phase = true)
    (attemptId : Nat)
    (input : Bytes)
    (nowNs : Nat) :
    joiner.Turn (.start attemptId input nowNs) := by
  have refused : joiner.perform (.start attemptId input nowNs) = (some false, joiner) := by
    simp [perform_start, start, alive]
  refine .waits ?_ (by rw [refused]; exact .refl joiner)
  intro generation _
  simp [Quiet, Disturbs, Logbook.entry, refused]

theorem onResponse_turn
    (alive : joinPhaseLive joiner.phase = true)
    (nonzero : joiner.liveAttemptId ≠ 0)
    (attemptId : Nat)
    (status : InviteLookupStatus)
    (matchedGeneration nowNs : Nat) :
    joiner.Turn (.onResponse attemptId status matchedGeneration nowNs) := by
  by_cases live : joiner.live attemptId = true
  swap
  · have refused :
        joiner.perform (.onResponse attemptId status matchedGeneration nowNs) =
          (some false, joiner) := by
      simp [perform_onResponse, onResponse, live]
    refine .waits ?_ (by rw [refused]; exact .refl joiner)
    rintro generation - ⟨rfl, -⟩
    exact live (live_self nonzero alive)
  obtain rfl := eq_of_live live
  cases backwards : joiner.isBackwards nowNs with
  | true =>
      have refused :
          joiner.perform
              (.onResponse joiner.liveAttemptId status matchedGeneration nowNs) =
            (some false, joiner) := by
        simp [perform_onResponse, onResponse, backwards]
      refine .waits ?_ (by rw [refused]; exact .refl joiner)
      rintro generation - ⟨-, forwards, -⟩
      simp [Logbook.entry, backwards] at forwards
  | false =>
      by_cases late : joiner.deadlineNs ≤ nowNs
      · refine .ended ?_
        simp only [perform_onResponse, onResponse, live, backwards, late, Bool.not_true,
          Bool.or_self, Bool.false_eq_true, if_false, if_true]
        exact idle_endAttempt _ rfl (by simp)
      · cases status with
        | matchPendingHostApproval =>
            by_cases looking : joiner.phase = .lookingUp
            · by_cases zero : matchedGeneration = 0
              · refine .ended ?_
                simp only [perform_onResponse, onResponse, live, backwards, late, looking, zero,
                  Bool.not_true, Bool.or_self, Bool.false_eq_true, if_false, if_true]
                exact idle_endAttempt _ rfl (by simp)
              · refine .matched matchedGeneration nowNs looking rfl zero ?_
                simp [perform_onResponse, onResponse, live, backwards, late, looking, zero]
            · by_cases same : matchedGeneration = joiner.matchedGeneration
              · refine .waits ?_ ⟨joiner.hasLastTick, nowNs, ?_⟩
                · rintro generation (phase | rfl)
                  · exact (looking phase).elim
                  · rintro ⟨-, -, lateNow | different⟩
                    · exact late lateNow
                    · exact different same
                · simp [perform_onResponse, onResponse, live, backwards, late, looking, same]
              · refine .ended ?_
                simp only [perform_onResponse, onResponse, live, backwards, late, looking, same,
                  Bool.not_true, Bool.or_self, Bool.false_eq_true, if_false]
                exact idle_endAttempt _ rfl (by simp)
        | noMatch | expired | rateLimited =>
            refine .ended ?_
            simp only [perform_onResponse, onResponse, live, backwards, late, Bool.not_true,
              Bool.or_self, Bool.false_eq_true, if_false]
            exact idle_endAttempt _ rfl (by simp)
        | unknown code =>
            refine .waits ?_ ⟨joiner.hasLastTick, nowNs, ?_⟩
            · rintro generation -
              rintro ⟨-, -, lateNow | never⟩
              · exact late lateNow
              · exact never
            · simp [perform_onResponse, onResponse, live, backwards, late]

theorem onHostAccepted_turn (attemptId : Nat) :
    joiner.Turn (.onHostAccepted attemptId) := by
  by_cases accepted : joiner.live attemptId = true ∧ joiner.phase = .waitingHostApproval
  · obtain ⟨live, phase⟩ := accepted
    obtain rfl := eq_of_live live
    refine .accepted phase rfl ?_
    simp [perform_onHostAccepted, onHostAccepted, live, phase]
  · have refused : joiner.perform (.onHostAccepted attemptId) = (some false, joiner) := by
      simp only [perform_onHostAccepted, onHostAccepted]
      rw [if_pos (by
        simp only [Bool.or_eq_true, Bool.not_eq_true', bne_iff_ne]
        cases live : joiner.live attemptId
        · exact .inl rfl
        · exact .inr fun phase => accepted ⟨live, phase⟩)]
    refine .waits ?_ (by rw [refused]; exact .refl joiner)
    rintro generation - disturbs
    exact disturbs

theorem onSasConfirmed_turn
    (side : SasSide)
    (attemptId : Nat) :
    joiner.Turn (.onSasConfirmed side attemptId) := by
  by_cases accepted : joiner.live attemptId = true ∧ joiner.phase = .waitingSasConfirm
  · obtain ⟨live, phase⟩ := accepted
    obtain rfl := eq_of_live live
    refine .confirmed side phase rfl ?_
    cases side <;>
      simp [perform_ours, perform_peer, onLocalSasConfirmed, onPeerSasConfirmed, confirm,
        live, phase]
  · have closed :
        (!joiner.live attemptId || joiner.phase != .waitingSasConfirm) = true := by
      simp only [Bool.or_eq_true, Bool.not_eq_true', bne_iff_ne]
      cases live : joiner.live attemptId
      · exact .inl rfl
      · exact .inr fun phase => accepted ⟨live, phase⟩
    have refused :
        joiner.perform (.onSasConfirmed side attemptId) = (some false, joiner) := by
      cases side <;>
        simp only [perform_ours, perform_peer, onLocalSasConfirmed, onPeerSasConfirmed,
          closed, if_true]
    refine .waits ?_ (by rw [refused]; exact .refl joiner)
    rintro generation - disturbs
    exact disturbs

theorem cancel_turn
    (alive : joinPhaseLive joiner.phase = true)
    (nonzero : joiner.liveAttemptId ≠ 0)
    (attemptId : Nat) :
    joiner.Turn (.cancel attemptId) := by
  cases live : joiner.live attemptId with
  | true =>
      refine .ended ?_
      simp only [perform_cancel, cancel, live, Bool.not_true, Bool.false_eq_true, if_false]
      exact idle_endAttempt _ rfl (by simp)
  | false =>
      have refused : joiner.perform (.cancel attemptId) = (some false, joiner) := by
        simp [perform_cancel, cancel, live]
      refine .waits ?_ (by rw [refused]; exact .refl joiner)
      rintro generation - disturbs
      obtain rfl : attemptId = joiner.liveAttemptId := disturbs
      rw [live_self nonzero alive] at live
      cases live

theorem tick_turn
    (alive : joinPhaseLive joiner.phase = true)
    (nowNs : Nat) :
    joiner.Turn (.tick nowNs) := by
  cases backwards : joiner.isBackwards nowNs with
  | true =>
      refine .ended ?_
      simp only [perform_tick, tick, backwards, alive, if_true]
      exact idle_endAttempt _ rfl (by simp)
  | false =>
      by_cases late : joiner.deadlineNs ≤ nowNs
      · refine .ended ?_
        simp only [perform_tick, tick, backwards, alive, late, Bool.false_eq_true, if_false,
          decide_true, Bool.and_self, if_true]
        exact idle_endAttempt _ rfl (by simp)
      · refine .waits ?_ ⟨true, nowNs, ?_⟩
        · rintro generation - (backwardsNow | lateNow)
          · simp [Logbook.entry, backwards] at backwardsNow
          · exact late lateNow
        · simp [perform_tick, tick, backwards, late]

theorem turn
    (alive : joinPhaseLive joiner.phase = true)
    (nonzero : joiner.liveAttemptId ≠ 0)
    (call : JoinCall) :
    joiner.Turn call := by
  cases call with
  | start attemptId input nowNs => exact start_turn alive attemptId input nowNs
  | onResponse attemptId status matchedGeneration nowNs =>
      exact onResponse_turn alive nonzero attemptId status matchedGeneration nowNs
  | onHostAccepted attemptId => exact onHostAccepted_turn attemptId
  | onSasConfirmed side attemptId => exact onSasConfirmed_turn side attemptId
  | cancel attemptId => exact cancel_turn alive nonzero attemptId
  | tick nowNs => exact tick_turn alive nowNs

end Turns

/-- Where a run of the joiner stands. -/
inductive Course (entries : JoinLog) (joiner : InviteCodeJoiner) : Prop where
  | idle
      (idle : joiner.Idle)
  | lookingUp
      (nowNs : Nat)
      (phase : joiner.phase = .lookingUp)
      (nonzero : joiner.liveAttemptId ≠ 0)
      (deadline : joiner.deadlineNs = deadlineAfter nowNs)
      (unconfirmed : ∀ side, joiner.confirmedBy side = false)
      (attempt :
        ∀ generation, Attempt joiner.liveAttemptId generation nowNs [] entries)
  | waitingHostApproval
      (nowNs : Nat)
      (phase : joiner.phase = .waitingHostApproval)
      (nonzero : joiner.liveAttemptId ≠ 0)
      (deadline : joiner.deadlineNs = deadlineAfter nowNs)
      (unconfirmed : ∀ side, joiner.confirmedBy side = false)
      (matched : joiner.matchedGeneration ≠ 0)
      (attempt :
        Attempt joiner.liveAttemptId joiner.matchedGeneration nowNs
          [Matches joiner.liveAttemptId joiner.matchedGeneration] entries)
  | waitingSasConfirm
      (nowNs : Nat)
      (phase : joiner.phase = .waitingSasConfirm)
      (nonzero : joiner.liveAttemptId ≠ 0)
      (deadline : joiner.deadlineNs = deadlineAfter nowNs)
      (unconfirmed : ∀ side, joiner.confirmedBy side = false)
      (matched : joiner.matchedGeneration ≠ 0)
      (attempt :
        Attempt joiner.liveAttemptId joiner.matchedGeneration nowNs
          (acceptedStages joiner.liveAttemptId joiner.matchedGeneration) entries)
  | halfConfirmed
      (nowNs : Nat)
      (side : SasSide)
      (phase : joiner.phase = .waitingSasConfirm)
      (nonzero : joiner.liveAttemptId ≠ 0)
      (deadline : joiner.deadlineNs = deadlineAfter nowNs)
      (confirmed : joiner.confirmedBy side = true)
      (unconfirmed : joiner.confirmedBy side.other = false)
      (matched : joiner.matchedGeneration ≠ 0)
      (attempt :
        Attempt joiner.liveAttemptId joiner.matchedGeneration nowNs
          (acceptedStages joiner.liveAttemptId joiner.matchedGeneration ++
            [Confirms joiner.liveAttemptId side]) entries)
  | authenticated
      (phase : joiner.phase = .authenticated)
      (joined : Joined entries)

variable {entries : JoinLog}
variable {joiner : InviteCodeJoiner}

/-- A start begins an attempt with a new id or changes nothing. -/
theorem start_cases
    (joiner : InviteCodeJoiner)
    (attemptId : Nat)
    (input : Bytes)
    (nowNs : Nat) :
    joiner.perform (.start attemptId input nowNs) = (some false, joiner) ∨
      attemptId ≠ 0 ∧ joiner.highestAttemptId < attemptId ∧
        joiner.perform (.start attemptId input nowNs) =
          (some true,
            { phase := .lookingUp
              liveAttemptId := attemptId
              highestAttemptId := attemptId
              deadlineNs := deadlineAfter nowNs
              hasLastTick := true
              lastTickNs := nowNs }) := by
  simp only [perform_start, start]
  split
  · exact .inl rfl
  next accepting =>
    simp only [not_or, not_le] at accepting
    cases parseInviteCode input with
    | none => exact .inl rfl
    | some code => exact .inr ⟨accepting.1, accepting.2.1, rfl⟩

/-- A joiner without a live attempt goes on only by starting one. -/
theorem resting_cases
    (resting : joinPhaseLive joiner.phase = false)
    (call : JoinCall) :
    (∃ attemptId input nowNs,
        call = .start attemptId input nowNs ∧ attemptId ≠ 0 ∧
        joiner.highestAttemptId < attemptId ∧
        joiner.perform call =
          (some true,
            { phase := .lookingUp
              liveAttemptId := attemptId
              highestAttemptId := attemptId
              deadlineNs := deadlineAfter nowNs
              hasLastTick := true
              lastTickNs := nowNs })) ∨
      joiner.Clocked (joiner.perform call).2 ∧ (joiner.perform call).1 ≠ some true := by
  have dead : ∀ attemptId, joiner.live attemptId = false := by
    intro attemptId
    simp [InviteCodeJoiner.live, resting]
  cases call with
  | start attemptId input nowNs =>
      rcases start_cases joiner attemptId input nowNs with
        refused | ⟨positive, higher, result⟩
      · refine .inr ?_
        rw [refused]
        exact ⟨.refl joiner, by simp⟩
      · exact .inl ⟨attemptId, input, nowNs, rfl, positive, higher, result⟩
  | onResponse attemptId status matchedGeneration nowNs =>
      refine .inr ?_
      simp only [perform_onResponse, onResponse, dead, Bool.not_false, Bool.true_or, if_true]
      exact ⟨.refl joiner, by simp⟩
  | onHostAccepted attemptId =>
      refine .inr ?_
      simp only [perform_onHostAccepted, onHostAccepted, dead, Bool.not_false, Bool.true_or,
        if_true]
      exact ⟨.refl joiner, by simp⟩
  | onSasConfirmed side attemptId =>
      refine .inr ?_
      cases side <;>
        simp only [perform_ours, perform_peer, onLocalSasConfirmed, onPeerSasConfirmed, dead,
          Bool.not_false, Bool.true_or, if_true] <;>
        exact ⟨.refl joiner, by simp⟩
  | cancel attemptId =>
      refine .inr ?_
      simp only [perform_cancel, cancel, dead, Bool.not_false, if_true]
      exact ⟨.refl joiner, by simp⟩
  | tick nowNs =>
      refine .inr ⟨?_, by simp [perform_tick]⟩
      simp only [perform_tick, tick, resting, Bool.false_eq_true, if_false, Bool.false_and]
      split
      · exact .refl joiner
      · exact ⟨true, nowNs, rfl⟩

theorem Clocked.idle
    {later : InviteCodeJoiner}
    (clocked : joiner.Clocked later)
    (idle : joiner.Idle) :
    later.Idle := by
  obtain ⟨hasLastTick, lastTickNs, rfl⟩ := clocked
  exact idle

variable {attemptId nowNs : Nat} {input : Bytes}

/-- A start that succeeds begins an attempt. -/
theorem course_start
    (entries : JoinLog)
    (nonzero : attemptId ≠ 0)
    (result :
      joiner.perform (.start attemptId input nowNs) =
        (some true,
          { phase := .lookingUp
            liveAttemptId := attemptId
            highestAttemptId := attemptId
            deadlineNs := deadlineAfter nowNs
            hasLastTick := true
            lastTickNs := nowNs })) :
    Course (entries ++ [Logbook.entry perform joiner (.start attemptId input nowNs)])
      (joiner.perform (.start attemptId input nowNs)).2 := by
  have starts :
      Starts attemptId input nowNs
        (Logbook.entry perform joiner (.start attemptId input nowNs)) :=
    ⟨rfl, by rw [Logbook.entry, result]⟩
  rw [result]
  exact
    .lookingUp nowNs rfl nonzero rfl (fun side => by cases side <;> rfl)
      fun generation => .begun entries starts

namespace Course

theorem perform_idle
    (idle : joiner.Idle)
    (call : JoinCall) :
    Course (entries ++ [Logbook.entry perform joiner call])
      (joiner.perform call).2 := by
  rcases resting_cases idle.1 call with
    ⟨attemptId, input, nowNs, rfl, nonzero, -, result⟩ | ⟨clocked, -⟩
  · exact course_start entries nonzero result
  · exact .idle (clocked.idle idle)

theorem perform_authenticated
    (phase : joiner.phase = .authenticated)
    (joined : Joined entries)
    (call : JoinCall) :
    Course (entries ++ [Logbook.entry perform joiner call])
      (joiner.perform call).2 := by
  rcases resting_cases (by rw [phase]; rfl) call with
    ⟨attemptId, input, nowNs, rfl, nonzero, -, result⟩ | ⟨clocked, noStart⟩
  · exact course_start entries nonzero result
  · obtain ⟨hasLastTick, lastTickNs, same⟩ := clocked
    refine .authenticated (by rw [same]; exact phase) ?_
    obtain ⟨attemptId, generation, nowNs, first, attempt, later, rfl, nonzero, passed,
      silent⟩ := joined
    refine
      ⟨attemptId, generation, nowNs, first, attempt,
        later ++ [Logbook.entry perform joiner call], by simp, nonzero, passed, ?_⟩
    intro entry member input otherId otherNs starts
    rcases List.mem_append.1 member with old | new
    · exact silent entry old input otherId otherNs starts
    · obtain rfl := List.mem_singleton.1 new
      exact noStart starts.2

variable {side : SasSide}

/-- Both sides have confirmed once the second one does. -/
theorem confirm_second
    (confirmed : joiner.confirmedBy side = true) :
    (joiner.confirm side.other).phase = .authenticated := by
  cases side <;> simp_all [confirm, confirmedBy, SasSide.other]

theorem confirm_first
    (unconfirmed : joiner.confirmedBy side.other = false) :
    (joiner.confirm side).phase = joiner.phase ∧
      (joiner.confirm side).confirmedBy side = true ∧
      (joiner.confirm side).confirmedBy side.other = false := by
  cases side <;> simp_all [confirm, confirmedBy, SasSide.other]

@[simp] theorem confirm_liveAttemptId (side : SasSide) :
    (joiner.confirm side).liveAttemptId = joiner.liveAttemptId := by
  cases side <;> rfl

@[simp] theorem confirm_deadlineNs (side : SasSide) :
    (joiner.confirm side).deadlineNs = joiner.deadlineNs := by
  cases side <;> rfl

@[simp] theorem confirm_matchedGeneration (side : SasSide) :
    (joiner.confirm side).matchedGeneration = joiner.matchedGeneration := by
  cases side <;> rfl

theorem perform
    (course : Course entries joiner)
    (call : JoinCall) :
    Course (entries ++ [Logbook.entry InviteCodeJoiner.perform joiner call])
      (joiner.perform call).2 := by
  cases course with
  | idle idle => exact perform_idle idle call
  | authenticated phase joined => exact perform_authenticated phase joined call
  | lookingUp nowNs phase nonzero deadline unconfirmed attempt =>
      cases turn (by rw [phase]; rfl) nonzero call with
      | ended idle => exact .idle idle
      | waits quiet clocked =>
          obtain ⟨hasLastTick, lastTickNs, same⟩ := clocked
          rw [same]
          refine .lookingUp nowNs phase nonzero deadline unconfirmed ?_
          intro generation
          rw [deadline] at quiet
          exact (attempt generation).wait (quiet generation (.inl phase))
      | matched generation responseNs _ asked positive result =>
          rw [result]
          refine
            .waitingHostApproval nowNs rfl nonzero deadline unconfirmed positive ?_
          exact
            (attempt generation).pass
              ⟨responseNs, asked, by rw [Logbook.entry, result]⟩
      | accepted other => rw [phase] at other; cases other
      | confirmed side other => rw [phase] at other; cases other
  | waitingHostApproval nowNs phase nonzero deadline unconfirmed matched attempt =>
      cases turn (by rw [phase]; rfl) nonzero call with
      | ended idle => exact .idle idle
      | waits quiet clocked =>
          obtain ⟨hasLastTick, lastTickNs, same⟩ := clocked
          rw [same]
          refine .waitingHostApproval nowNs phase nonzero deadline unconfirmed matched ?_
          rw [deadline] at quiet
          exact attempt.wait (quiet _ (.inr rfl))
      | accepted _ asked result =>
          rw [result]
          refine .waitingSasConfirm nowNs rfl nonzero deadline unconfirmed matched ?_
          exact attempt.pass ⟨asked, by rw [Logbook.entry, result]⟩
      | matched generation responseNs other => rw [phase] at other; cases other
      | confirmed side other => rw [phase] at other; cases other
  | waitingSasConfirm nowNs phase nonzero deadline unconfirmed matched attempt =>
      cases turn (by rw [phase]; rfl) nonzero call with
      | ended idle => exact .idle idle
      | waits quiet clocked =>
          obtain ⟨hasLastTick, lastTickNs, same⟩ := clocked
          rw [same]
          refine .waitingSasConfirm nowNs phase nonzero deadline unconfirmed matched ?_
          rw [deadline] at quiet
          exact attempt.wait (quiet _ (.inr rfl))
      | confirmed side _ asked result =>
          rw [result]
          obtain ⟨samePhase, now, still⟩ := confirm_first (unconfirmed side.other)
          refine
            .halfConfirmed nowNs side (samePhase.trans phase) (by simpa using nonzero)
              (by simpa using deadline) now still (by simpa using matched) ?_
          rw [confirm_liveAttemptId, confirm_matchedGeneration]
          exact attempt.pass ⟨asked, by rw [Logbook.entry, result]⟩
      | matched generation responseNs other => rw [phase] at other; cases other
      | accepted other => rw [phase] at other; cases other
  | halfConfirmed nowNs side phase nonzero deadline confirmed unconfirmed matched
      attempt =>
      cases turn (by rw [phase]; rfl) nonzero call with
      | ended idle => exact .idle idle
      | waits quiet clocked =>
          obtain ⟨hasLastTick, lastTickNs, same⟩ := clocked
          rw [same]
          refine
            .halfConfirmed nowNs side phase nonzero deadline
              (by cases side <;> exact confirmed) (by cases side <;> exact unconfirmed)
              matched ?_
          rw [deadline] at quiet
          exact attempt.wait (quiet _ (.inr rfl))
      | confirmed other _ asked result =>
          have answered :
              Confirms joiner.liveAttemptId other
                (Logbook.entry InviteCodeJoiner.perform joiner call) :=
            ⟨asked, by rw [Logbook.entry, result]⟩
          by_cases again : other = side
          · subst again
            rw [result]
            obtain ⟨samePhase, now, still⟩ := confirm_first unconfirmed
            refine
              .halfConfirmed nowNs other (samePhase.trans phase) (by simpa using nonzero)
                (by simpa using deadline) now still (by simpa using matched) ?_
            rw [confirm_liveAttemptId, confirm_matchedGeneration]
            refine attempt.wait ?_
            rw [Quiet, Disturbs, Logbook.entry, asked]
            exact id
          · obtain rfl : other = side.other := by
              cases other <;> cases side <;> simp_all [SasSide.other]
            rw [result]
            refine .authenticated (confirm_second confirmed) ?_
            refine
              ⟨joiner.liveAttemptId, joiner.matchedGeneration, nowNs, side, _, [],
                (List.append_nil _).symm, matched, ?_, by simp⟩
            have passed := attempt.pass answered
            rwa [List.append_assoc] at passed
      | matched generation responseNs other => rw [phase] at other; cases other
      | accepted other => rw [phase] at other; cases other

end Course

/-- The ids of the started attempts grow, and the highest one is kept. -/
def Ascending (entries : JoinLog) (joiner : InviteCodeJoiner) : Prop :=
  (startedIds entries).Pairwise (· < ·) ∧
    ∀ attemptId ∈ startedIds entries, attemptId ≤ joiner.highestAttemptId

theorem startedIds_append
    (first second : JoinLog) :
    startedIds (first ++ second) = startedIds first ++ startedIds second :=
  List.filterMap_append ..

theorem highestAttemptId_perform
    (joiner : InviteCodeJoiner)
    (call : JoinCall) :
    startedIds [Logbook.entry perform joiner call] = [] ∧
        (joiner.perform call).2.highestAttemptId = joiner.highestAttemptId ∨
      ∃ attemptId,
        startedIds [Logbook.entry perform joiner call] = [attemptId] ∧
        joiner.highestAttemptId < attemptId ∧
        (joiner.perform call).2.highestAttemptId = attemptId := by
  cases call with
  | start attemptId input nowNs =>
      rcases start_cases joiner attemptId input nowNs with
        refused | ⟨-, higher, result⟩
      · rw [Logbook.entry, refused]
        exact .inl ⟨rfl, rfl⟩
      · rw [Logbook.entry, result]
        exact .inr ⟨attemptId, rfl, higher, rfl⟩
  | onResponse attemptId status matchedGeneration nowNs =>
      refine .inl ⟨rfl, ?_⟩
      simp only [perform_onResponse, onResponse]
      split
      · rfl
      split
      · rfl
      cases status with
      | matchPendingHostApproval =>
          simp only
          split
          · split <;> rfl
          split <;> rfl
      | noMatch | expired | rateLimited | unknown => rfl
  | onHostAccepted attemptId =>
      refine .inl ⟨rfl, ?_⟩
      simp only [perform_onHostAccepted, onHostAccepted]
      split <;> rfl
  | onSasConfirmed side attemptId =>
      refine .inl ⟨rfl, ?_⟩
      cases side <;>
        simp only [perform_ours, perform_peer, onLocalSasConfirmed, onPeerSasConfirmed] <;>
        split <;> rfl
  | cancel attemptId =>
      refine .inl ⟨rfl, ?_⟩
      simp only [perform_cancel, cancel]
      split <;> rfl
  | tick nowNs =>
      refine .inl ⟨rfl, ?_⟩
      simp only [perform_tick, tick]
      split
      · split <;> rfl
      split <;> rfl

theorem Ascending.perform
    (ascending : Ascending entries joiner)
    (call : JoinCall) :
    Ascending (entries ++ [Logbook.entry InviteCodeJoiner.perform joiner call])
      (joiner.perform call).2 := by
  obtain ⟨sorted, bounded⟩ := ascending
  rw [Ascending, startedIds_append]
  rcases highestAttemptId_perform joiner call with
    ⟨nothing, same⟩ | ⟨attemptId, started, higher, now⟩
  · rw [nothing, List.append_nil, same]
    exact ⟨sorted, bounded⟩
  · rw [started, now]
    refine ⟨List.pairwise_append.2 ⟨sorted, List.pairwise_singleton .., ?_⟩, ?_⟩
    · intro earlier member last isLast
      obtain rfl := List.mem_singleton.1 isLast
      exact (bounded earlier member).trans_lt higher
    · intro other member
      rcases List.mem_append.1 member with old | new
      · exact (bounded other old).trans higher.le
      · exact (List.mem_singleton.1 new).le

/-- The attempt id that a call carries, other than the new one of a start. -/
def attemptIdOf : JoinCall → Option Nat
  | .onResponse attemptId _ _ _ => some attemptId
  | .onHostAccepted attemptId => some attemptId
  | .onSasConfirmed _ attemptId => some attemptId
  | .cancel attemptId => some attemptId
  | .start _ _ _ => none
  | .tick _ => none

/-- A call for an attempt that is not live is refused and changes nothing. -/
theorem perform_stale
    {call : JoinCall}
    (carries : attemptIdOf call = some attemptId)
    (dead : joiner.live attemptId = false) :
    joiner.perform call = (some false, joiner) := by
  cases call with
  | start => cases carries
  | tick => cases carries
  | onResponse other status matchedGeneration nowNs =>
      obtain rfl := Option.some.inj carries
      simp [perform_onResponse, onResponse, dead]
  | onHostAccepted other =>
      obtain rfl := Option.some.inj carries
      simp [perform_onHostAccepted, onHostAccepted, dead]
  | onSasConfirmed side other =>
      obtain rfl := Option.some.inj carries
      cases side <;>
        simp [perform_ours, perform_peer, onLocalSasConfirmed, onPeerSasConfirmed, dead]
  | cancel other =>
      obtain rfl := Option.some.inj carries
      simp [perform_cancel, cancel, dead]

/-- While an attempt is live no other one starts. -/
theorem start_live
    (alive : joinPhaseLive joiner.phase = true)
    (attemptId : Nat)
    (input : Bytes)
    (nowNs : Nat) :
    joiner.perform (.start attemptId input nowNs) = (some false, joiner) := by
  simp [perform_start, start, alive]

theorem start_refused
    (refused : (joiner.perform (.start attemptId input nowNs)).1 = some false) :
    (joiner.perform (.start attemptId input nowNs)).2 = joiner := by
  rcases start_cases joiner attemptId input nowNs with same | ⟨-, -, result⟩
  · rw [same]
  · rw [result] at refused
    cases refused

/-- What holds of the log and the joiner in every run. -/
def Keeps (entries : JoinLog) (joiner : InviteCodeJoiner) : Prop :=
  Course entries joiner ∧ Ascending entries joiner

theorem keeps_run (calls : List JoinCall) : Keeps (ofCalls calls) (after calls) := by
  refine Logbook.run_keeps perform Keeps ?_ ?_ calls
  · exact ⟨.idle ⟨rfl, by simp⟩, List.Pairwise.nil, by simp [startedIds]⟩
  · intro entries joiner call keeps
    exact ⟨keeps.1.perform call, keeps.2.perform call⟩

/--
Every run of a joiner: if it is connected, one attempt has passed all stages in
their order with nothing in between that ends it, and no newer one was started; a
call for an attempt other than the live one is refused and changes nothing, also a
start as long as an attempt is live; and no attempt id is started twice.
-/
theorem join_soundness (calls : List JoinCall) :
    ((after calls).connected = true → Joined (ofCalls calls)) ∧
    (∀ call attemptId,
      attemptIdOf call = some attemptId → (after calls).live attemptId = false →
      (after calls).perform call = (some false, after calls)) ∧
    (∀ attemptId input nowNs,
      joinPhaseLive (after calls).phase = true ∨
        ((after calls).perform (.start attemptId input nowNs)).1 = some false →
      (after calls).perform (.start attemptId input nowNs) =
        (some false, after calls)) ∧
    (startedIds (ofCalls calls)).Pairwise (· < ·) := by
  have keeps := keeps_run calls
  refine ⟨?_, ?_, ?_, keeps.2.1⟩
  · intro connected
    have phase : (after calls).phase = .authenticated := by
      simpa [InviteCodeJoiner.connected] using connected
    cases keeps.1 with
    | authenticated _ joined => exact joined
    | idle idle => exact (idle.2 phase).elim
    | lookingUp _ other => rw [phase] at other; cases other
    | waitingHostApproval _ other => rw [phase] at other; cases other
    | waitingSasConfirm _ other => rw [phase] at other; cases other
    | halfConfirmed _ _ other => rw [phase] at other; cases other
  · intro call attemptId carries dead
    exact perform_stale carries dead
  · rintro attemptId input nowNs (alive | refused)
    · exact start_live alive attemptId input nowNs
    · exact Prod.ext refused (start_refused refused)

/-! A joiner that looks up 123456 and is confirmed by both sides. -/

def sampleJoin : List JoinCall :=
  [.start 1 [0x31, 0x32, 0x33, 0x34, 0x35, 0x36] 10,
    .onResponse 1 .matchPendingHostApproval 7 20,
    .onHostAccepted 1,
    .onSasConfirmed .peer 1,
    .tick 30,
    .onSasConfirmed .ours 1]

theorem sample_joined : Joined (ofCalls sampleJoin) :=
  (join_soundness sampleJoin).1 (by decide)

end InviteCodeJoiner

end FlyNes.InviteCode
