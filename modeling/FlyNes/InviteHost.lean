import FlyNes.InviteJoiner

namespace FlyNes.InviteCode

open ByteString

/-!
# Hosting by an invite code

The host has at most one invitation at a time, with a code, a deadline and a
budget of lookups.  Every lookup that is compared with the code costs one of the
budget, and a new generation replaces the old one together with its code.
-/

inductive InviteHostPhase where
  | idle
  | active
deriving DecidableEq

structure InviteCodeHost where
  phase : InviteHostPhase := .idle
  generation : Nat := 0
  highestGeneration : Nat := 0
  code : InviteCodeDigits := Block.zero kInviteCodeLength
  deadlineNs : Nat := 0
  attemptsLeft : Nat := kInviteLookupAttemptsPerInvitation
  hasLastTick : Bool := false
  lastTickNs : Nat := 0
deriving DecidableEq

namespace InviteCodeHost

def isBackwards (host : InviteCodeHost) (nowNs : Nat) : Bool :=
  host.hasLastTick && nowNs < host.lastTickNs

def reset (host : InviteCodeHost) : InviteCodeHost :=
  { host with
    phase := .idle
    generation := 0
    code := Block.zero kInviteCodeLength
    deadlineNs := 0
    attemptsLeft := kInviteLookupAttemptsPerInvitation }

def activate
    (host : InviteCodeHost)
    (generation : Nat)
    (codeInput : Bytes)
    (nowNs : Nat) : Bool × InviteCodeHost :=
  match parseInviteCode codeInput with
  | none => (false, host)
  | some code =>
      (true,
        { phase := .active
          generation := generation
          highestGeneration := generation
          code := code
          deadlineNs := deadlineAfter nowNs
          attemptsLeft := kInviteLookupAttemptsPerInvitation
          hasLastTick := true
          lastTickNs := nowNs })

def publish
    (host : InviteCodeHost)
    (generation : Nat)
    (codeInput : Bytes)
    (nowNs : Nat) : Bool × InviteCodeHost :=
  if generation = 0 ∨ generation ≤ host.highestGeneration ∨ host.phase ≠ .idle ∨
      host.isBackwards nowNs then
    (false, host)
  else
    host.activate generation codeInput nowNs

def regenerate
    (host : InviteCodeHost)
    (newGeneration : Nat)
    (codeInput : Bytes)
    (nowNs : Nat) : Bool × InviteCodeHost :=
  if newGeneration = 0 ∨ newGeneration ≤ host.highestGeneration ∨
      host.phase ≠ .active ∨ host.isBackwards nowNs then
    (false, host)
  else
    host.activate newGeneration codeInput nowNs

def cancel
    (host : InviteCodeHost)
    (generation : Nat) : Bool × InviteCodeHost :=
  if host.phase ≠ .active ∨ generation ≠ host.generation then
    (false, host)
  else
    (true, host.reset)

def tick (host : InviteCodeHost) (nowNs : Nat) : InviteCodeHost :=
  if host.isBackwards nowNs then
    if host.phase = .active then host.reset else host
  else
    let host := { host with hasLastTick := true, lastTickNs := nowNs }
    if host.phase = .active ∧ host.deadlineNs ≤ nowNs then host.reset else host

def onLookup
    (host : InviteCodeHost)
    (code : InviteCodeDigits)
    (nowNs : Nat) : InviteLookupStatus × InviteCodeHost :=
  if host.phase ≠ .active ∨ host.isBackwards nowNs then
    (.noMatch, host)
  else if host.deadlineNs ≤ nowNs then
    (.expired, host)
  else if host.attemptsLeft = 0 then
    (.rateLimited, host)
  else
    let host := { host with attemptsLeft := host.attemptsLeft - 1 }
    if code ≠ host.code then
      (.noMatch, host)
    else
      (.matchPendingHostApproval, host)

end InviteCodeHost

/-- The two ways to open an invitation. -/
inductive InviteOpening where
  | publish
  | regenerate
deriving DecidableEq

inductive HostCall where
  | activate
      (opening : InviteOpening) (generation : Nat) (codeInput : Bytes) (nowNs : Nat)
  | cancel (generation : Nat)
  | tick (nowNs : Nat)
  | onLookup (code : InviteCodeDigits) (nowNs : Nat)
deriving DecidableEq

inductive HostAnswer where
  | done
  | result (accepted : Bool)
  | status (status : InviteLookupStatus)
deriving DecidableEq

namespace InviteCodeHost

def perform (host : InviteCodeHost) : HostCall → HostAnswer × InviteCodeHost
  | .activate .publish generation codeInput nowNs =>
      let (accepted, host) := host.publish generation codeInput nowNs
      (.result accepted, host)
  | .activate .regenerate generation codeInput nowNs =>
      let (accepted, host) := host.regenerate generation codeInput nowNs
      (.result accepted, host)
  | .cancel generation =>
      let (accepted, host) := host.cancel generation
      (.result accepted, host)
  | .tick nowNs => (.done, host.tick nowNs)
  | .onLookup code nowNs =>
      let (status, host) := host.onLookup code nowNs
      (.status status, host)

/-- The host after the calls of a run. -/
def after (calls : List HostCall) : InviteCodeHost :=
  Logbook.after perform {} calls

/-- A lookup is compared with the code: its answer depends on it. -/
def counts (host : InviteCodeHost) (nowNs : Nat) : Bool :=
  host.phase == .active && !host.isBackwards nowNs && nowNs < host.deadlineNs &&
    host.attemptsLeft != 0

end InviteCodeHost

abbrev HostEntry := Logbook.Entry InviteCodeHost HostCall HostAnswer

abbrev HostLog := List HostEntry

namespace HostLog

def ofCalls (calls : List HostCall) : HostLog :=
  Logbook.log InviteCodeHost.perform {} calls

/-- The guesses of a generation that were compared with its code, in their order. -/
def countedGuesses (generation : Nat) (entries : HostLog) : List InviteCodeDigits :=
  entries.filterMap fun entry =>
    match entry.call with
    | .onLookup code nowNs =>
        if entry.before.counts nowNs && entry.before.generation == generation then
          some code
        else
          none
    | _ => none

/-- The generations that were opened, in their order. -/
def openedGenerations (entries : HostLog) : List Nat :=
  entries.filterMap fun entry =>
    match entry.call, entry.answer with
    | .activate _ generation _ _, .result true => some generation
    | _, _ => none

def Opens
    (generation : Nat)
    (code : InviteCodeDigits)
    (nowNs : Nat)
    (entry : HostEntry) : Prop :=
  ∃ opening codeInput,
    entry.call = .activate opening generation codeInput nowNs ∧
    entry.answer = .result true ∧ parseInviteCode codeInput = some code

/-- What ends an invitation: another one, its cancel, and its expiry on a tick. -/
def Ends (generation deadlineNs : Nat) (entry : HostEntry) : Prop :=
  match entry.call with
  | .activate _ _ _ _ => entry.answer = .result true
  | .cancel other => other = generation
  | .tick nowNs => entry.before.isBackwards nowNs = true ∨ deadlineNs ≤ nowNs
  | .onLookup _ _ => False

/-- An invitation was opened with this code and has not ended since. -/
def Stands
    (generation : Nat)
    (code : InviteCodeDigits)
    (openedNs : Nat)
    (entries : HostLog) : Prop :=
  ∃ earlier opening later,
    entries = earlier ++ opening :: later ∧ Opens generation code openedNs opening ∧
    ∀ entry ∈ later, ¬ Ends generation (deadlineAfter openedNs) entry

end HostLog

/-- The same call, with another code for one generation. -/
def HostCall.recode (generation : Nat) (codeInput : Bytes) : HostCall → HostCall
  | .activate opening opened original nowNs =>
      .activate opening opened (if opened = generation then codeInput else original) nowNs
  | call => call

namespace InviteCodeHost

open HostLog

variable {host host' : InviteCodeHost}
variable {entries : HostLog}

/-- The host right after an invitation was opened. -/
def openedWith (generation : Nat) (code : InviteCodeDigits) (nowNs : Nat) : InviteCodeHost where
  phase := .active
  generation := generation
  highestGeneration := generation
  code := code
  deadlineNs := deadlineAfter nowNs
  attemptsLeft := kInviteLookupAttemptsPerInvitation
  hasLastTick := true
  lastTickNs := nowNs

/-- A call neither compares a guess nor opens an invitation. -/
def Plain (entry : HostEntry) : Prop :=
  openedGenerations [entry] = [] ∧ ∀ generation, countedGuesses generation [entry] = []

/-- What one call does to a host. -/
inductive Turn (host : InviteCodeHost) (call : HostCall) : Prop where
  | opened
      (opening : InviteOpening)
      (generation nowNs : Nat)
      (codeInput : Bytes)
      (code : InviteCodeDigits)
      (asked : call = .activate opening generation codeInput nowNs)
      (parsed : parseInviteCode codeInput = some code)
      (higher : host.highestGeneration < generation)
      (result :
        host.perform call = (.result true, openedWith generation code nowNs))
  | closed
      (plain : Plain (Logbook.entry perform host call))
      (idle : (host.perform call).2.phase = .idle)
      (highest : (host.perform call).2.highestGeneration = host.highestGeneration)
  | kept
      (plain : Plain (Logbook.entry perform host call))
      (quiet :
        host.phase = .active →
          ¬ Ends host.generation host.deadlineNs (Logbook.entry perform host call))
      (clocked :
        ∃ hasLastTick lastTickNs,
          (host.perform call).2 =
            { host with hasLastTick := hasLastTick, lastTickNs := lastTickNs })
  | counted
      (guess : InviteCodeDigits)
      (nowNs : Nat)
      (asked : call = .onLookup guess nowNs)
      (counts : host.counts nowNs = true)
      (spent :
        (host.perform call).2 = { host with attemptsLeft := host.attemptsLeft - 1 })

theorem counts_iff
    (host : InviteCodeHost)
    (nowNs : Nat) :
    host.counts nowNs = true ↔
      host.phase = .active ∧ host.isBackwards nowNs = false ∧
        nowNs < host.deadlineNs ∧ host.attemptsLeft ≠ 0 := by
  simp [counts, and_assoc]

/-- The phase in which an invitation can be opened this way. -/
def openingPhase : InviteOpening → InviteHostPhase
  | .publish => .idle
  | .regenerate => .active

def accepts
    (host : InviteCodeHost)
    (opening : InviteOpening)
    (generation nowNs : Nat) : Prop :=
  generation ≠ 0 ∧ host.highestGeneration < generation ∧
    host.phase = openingPhase opening ∧ host.isBackwards nowNs = false

variable {opening : InviteOpening} {generation nowNs : Nat}

theorem activate_refused
    (refused : ¬ host.accepts opening generation nowNs)
    (codeInput : Bytes) :
    host.perform (.activate opening generation codeInput nowNs) =
      (.result false, host) := by
  cases opening with
  | publish =>
      simp only [perform, publish]
      split
      · rfl
      next accepting =>
        simp only [not_or, not_le, ne_eq, not_not, Bool.not_eq_true] at accepting
        exact (refused accepting).elim
  | regenerate =>
      simp only [perform, regenerate]
      split
      · rfl
      next accepting =>
        simp only [not_or, not_le, ne_eq, not_not, Bool.not_eq_true] at accepting
        exact (refused accepting).elim

theorem activate_accepted
    (accepting : host.accepts opening generation nowNs)
    (codeInput : Bytes) :
    host.perform (.activate opening generation codeInput nowNs) =
      match parseInviteCode codeInput with
      | none => (.result false, host)
      | some code => (.result true, openedWith generation code nowNs) := by
  obtain ⟨nonzero, higher, phase, forwards⟩ := accepting
  cases opening with
  | publish =>
      simp only [perform, publish]
      rw [if_neg (by
        simp only [not_or, not_le, ne_eq, not_not, Bool.not_eq_true]
        exact ⟨nonzero, higher, phase, forwards⟩)]
      simp only [activate]
      cases parseInviteCode codeInput <;> rfl
  | regenerate =>
      simp only [perform, regenerate]
      rw [if_neg (by
        simp only [not_or, not_le, ne_eq, not_not, Bool.not_eq_true]
        exact ⟨nonzero, higher, phase, forwards⟩)]
      simp only [activate]
      cases parseInviteCode codeInput <;> rfl

/-- An opening that is accepted has a new generation and a code of six digits. -/
theorem activate_cases
    (host : InviteCodeHost)
    (opening : InviteOpening)
    (generation : Nat)
    (codeInput : Bytes)
    (nowNs : Nat) :
    host.perform (.activate opening generation codeInput nowNs) =
        (.result false, host) ∨
      ∃ code,
        parseInviteCode codeInput = some code ∧
        host.highestGeneration < generation ∧
        host.perform (.activate opening generation codeInput nowNs) =
          (.result true, openedWith generation code nowNs) := by
  by_cases accepting : host.accepts opening generation nowNs
  · rw [activate_accepted accepting]
    cases parseInviteCode codeInput with
    | none => exact .inl rfl
    | some code => exact .inr ⟨code, rfl, accepting.2.1, rfl⟩
  · exact .inl (activate_refused accepting codeInput)

variable {nowNs : Nat}

/-- A lookup that is not counted gives an answer that no code has a part in. -/
theorem onLookup_uncounted
    (uncounted : host.counts nowNs = false)
    (guess guess' code : InviteCodeDigits) :
    ({ host with code := code }.onLookup guess nowNs).1 =
        (host.onLookup guess' nowNs).1 ∧
      (host.onLookup guess nowNs).2 = host := by
  have notCounted : ¬ host.counts nowNs = true := by simp [uncounted]
  rw [counts_iff] at notCounted
  unfold onLookup
  have sameClock :
      { host with code := code }.isBackwards nowNs = host.isBackwards nowNs :=
    rfl
  simp only [sameClock]
  split
  · exact ⟨rfl, rfl⟩
  next usable =>
    split
    · exact ⟨rfl, rfl⟩
    next inTime =>
      split
      · exact ⟨rfl, rfl⟩
      next remaining =>
        simp only [not_or, ne_eq, not_not, Bool.not_eq_true] at usable
        exact (notCounted ⟨usable.1, usable.2, Nat.not_le.1 inTime, remaining⟩).elim

theorem onLookup_counted
    (counts : host.counts nowNs = true)
    (guess : InviteCodeDigits) :
    host.onLookup guess nowNs =
      (if guess = host.code then .matchPendingHostApproval else .noMatch,
        { host with attemptsLeft := host.attemptsLeft - 1 }) := by
  obtain ⟨active, forwards, inTime, remaining⟩ := (counts_iff host nowNs).1 counts
  unfold onLookup
  rw [if_neg (by simp [active, forwards]), if_neg (Nat.not_le.2 inTime), if_neg remaining]
  by_cases same : guess = host.code <;> simp [same]

theorem turn (host : InviteCodeHost) (call : HostCall) : host.Turn call := by
  cases call with
  | activate opening generation codeInput nowNs =>
      rcases activate_cases host opening generation codeInput nowNs with
        refused | ⟨code, parsed, higher, result⟩
      · refine .kept ⟨?_, fun _ => rfl⟩ ?_ ⟨host.hasLastTick, host.lastTickNs, ?_⟩
        · simp [openedGenerations, Logbook.entry, refused]
        · simp [Ends, Logbook.entry, refused]
        · rw [refused]
      · exact .opened opening generation nowNs codeInput code rfl parsed higher result
  | cancel generation =>
      by_cases own : host.phase = .active ∧ generation = host.generation
      · obtain ⟨active, rfl⟩ := own
        refine .closed ⟨rfl, fun _ => rfl⟩ ?_ ?_ <;>
          simp [perform, cancel, active, reset]
      · have refused : host.perform (.cancel generation) = (.result false, host) := by
          simp only [perform, cancel]
          rw [if_pos (by
            rw [ne_eq, ne_eq, ← Decidable.not_and_iff_not_or_not]
            exact own)]
        refine .kept ⟨rfl, fun _ => rfl⟩ ?_ ⟨host.hasLastTick, host.lastTickNs, ?_⟩
        · intro active ends
          exact own ⟨active, ends⟩
        · rw [refused]
  | tick nowNs =>
      by_cases expires :
          host.phase = .active ∧
            (host.isBackwards nowNs = true ∨ host.deadlineNs ≤ nowNs)
      · obtain ⟨active, ended⟩ := expires
        refine .closed ⟨rfl, fun _ => rfl⟩ ?_ ?_ <;>
          cases backwards : host.isBackwards nowNs <;>
          simp_all [perform, tick, reset]
      · refine .kept ⟨rfl, fun _ => rfl⟩ ?_ ?_
        · intro active ends
          exact expires ⟨active, ends⟩
        · cases backwards : host.isBackwards nowNs with
          | true =>
              have inactive : host.phase ≠ .active := fun active =>
                expires ⟨active, .inl backwards⟩
              exact ⟨host.hasLastTick, host.lastTickNs, by
                simp [perform, tick, backwards, inactive]⟩
          | false =>
              refine ⟨true, nowNs, ?_⟩
              simp only [perform, tick, backwards, Bool.false_eq_true, if_false]
              rw [if_neg fun late => expires ⟨late.1, .inr late.2⟩]
  | onLookup guess nowNs =>
      cases counts : host.counts nowNs with
      | true =>
          refine .counted guess nowNs rfl counts ?_
          simp only [perform, onLookup_counted counts]
      | false =>
          refine .kept ⟨rfl, ?_⟩ (fun _ => id) ⟨host.hasLastTick, host.lastTickNs, ?_⟩
          · intro generation
            simp [countedGuesses, Logbook.entry, counts]
          · exact (onLookup_uncounted counts guess guess host.code).2

theorem countedGuesses_append
    (generation : Nat)
    (first second : HostLog) :
    countedGuesses generation (first ++ second) =
      countedGuesses generation first ++ countedGuesses generation second :=
  List.filterMap_append ..

theorem openedGenerations_append
    (first second : HostLog) :
    openedGenerations (first ++ second) =
      openedGenerations first ++ openedGenerations second :=
  List.filterMap_append ..

/-- What holds of the log and the host in every run. -/
structure Keeps (entries : HostLog) (host : InviteCodeHost) : Prop where
  ascending : (openedGenerations entries).Pairwise (· < ·)
  opened : ∀ generation ∈ openedGenerations entries,
    generation ≤ host.highestGeneration
  highest : host.phase = .active → host.generation = host.highestGeneration
  future : ∀ generation, host.highestGeneration < generation →
    countedGuesses generation entries = []
  within : ∀ generation,
    (countedGuesses generation entries).length ≤ kInviteLookupAttemptsPerInvitation
  budget : host.phase = .active →
    (countedGuesses host.generation entries).length + host.attemptsLeft =
      kInviteLookupAttemptsPerInvitation
  stands : host.phase = .active → ∃ openedNs,
    host.deadlineNs = deadlineAfter openedNs ∧
    Stands host.generation host.code openedNs entries

namespace Keeps

variable {entry : HostEntry}

/-- A plain call leaves the counts and the openings as they are. -/
theorem plain_lists
    (entries : HostLog)
    (plain : Plain entry) :
    openedGenerations (entries ++ [entry]) = openedGenerations entries ∧
      ∀ generation,
        countedGuesses generation (entries ++ [entry]) =
          countedGuesses generation entries := by
  refine ⟨?_, fun generation => ?_⟩
  · rw [openedGenerations_append, plain.1, List.append_nil]
  · rw [countedGuesses_append, plain.2, List.append_nil]

variable {code : InviteCodeDigits}

theorem stands_append
    {generation openedNs : Nat}
    (stands : Stands generation code openedNs entries)
    (quiet : ¬ Ends generation (deadlineAfter openedNs) entry) :
    Stands generation code openedNs (entries ++ [entry]) := by
  obtain ⟨earlier, opening, later, rfl, opens, silent⟩ := stands
  refine ⟨earlier, opening, later ++ [entry], by simp, opens, ?_⟩
  intro other member
  rcases List.mem_append.1 member with old | new
  · exact silent other old
  · obtain rfl := List.mem_singleton.1 new
    exact quiet

theorem opened_perform
    {opening : InviteOpening}
    {generation nowNs : Nat}
    {codeInput : Bytes}
    (keeps : Keeps entries host)
    (parsed : parseInviteCode codeInput = some code)
    (higher : host.highestGeneration < generation)
    (result :
      host.perform (.activate opening generation codeInput nowNs) =
        (.result true, openedWith generation code nowNs)) :
    Keeps
      (entries ++
        [Logbook.entry perform host (.activate opening generation codeInput nowNs)])
      (openedWith generation code nowNs) := by
  have openings :
      openedGenerations
          (entries ++
            [Logbook.entry perform host
              (.activate opening generation codeInput nowNs)]) =
        openedGenerations entries ++ [generation] := by
    rw [openedGenerations_append, Logbook.entry, result]
    rfl
  have guesses :
      ∀ other,
        countedGuesses other
            (entries ++
              [Logbook.entry perform host
                (.activate opening generation codeInput nowNs)]) =
          countedGuesses other entries := by
    intro other
    rw [countedGuesses_append]
    exact List.append_nil _
  refine
    { ascending := ?_
      opened := ?_
      highest := fun _ => rfl
      future := ?_
      within := ?_
      budget := ?_
      stands := ?_ }
  · rw [openings]
    refine List.pairwise_append.2 ⟨keeps.ascending, List.pairwise_singleton .., ?_⟩
    intro earlier member last isLast
    obtain rfl := List.mem_singleton.1 isLast
    exact (keeps.opened earlier member).trans_lt higher
  · rw [openings]
    intro other member
    rcases List.mem_append.1 member with old | new
    · exact (keeps.opened other old).trans higher.le
    · exact (List.mem_singleton.1 new).le
  · intro other above
    rw [guesses]
    exact keeps.future other (higher.trans above)
  · intro other
    rw [guesses]
    exact keeps.within other
  · intro _
    rw [guesses]
    have unguessed : countedGuesses generation entries = [] := keeps.future generation higher
    simp [openedWith, unguessed]
  · intro _
    refine
      ⟨nowNs, rfl, entries, Logbook.entry perform host
        (.activate opening generation codeInput nowNs), [], rfl, ?_, by simp⟩
    exact ⟨opening, codeInput, rfl, by rw [Logbook.entry, result], parsed⟩

theorem perform
    (keeps : Keeps entries host)
    (call : HostCall) :
    Keeps (entries ++ [Logbook.entry InviteCodeHost.perform host call])
      (host.perform call).2 := by
  cases host.turn call with
  | opened opening generation nowNs codeInput code asked parsed higher result =>
      subst asked
      rw [result]
      exact keeps.opened_perform parsed higher result
  | closed plain idle highest =>
      obtain ⟨openings, guesses⟩ := plain_lists entries plain
      have inactive : (host.perform call).2.phase ≠ .active := by simp [idle]
      refine
        { ascending := by rw [openings]; exact keeps.ascending
          opened := by rw [openings, highest]; exact keeps.opened
          highest := fun active => (inactive active).elim
          future := ?_
          within := ?_
          budget := fun active => (inactive active).elim
          stands := fun active => (inactive active).elim }
      · intro generation above
        rw [guesses]
        exact keeps.future generation (by rwa [highest] at above)
      · intro generation
        rw [guesses]
        exact keeps.within generation
  | kept plain quiet clocked =>
      obtain ⟨hasLastTick, lastTickNs, same⟩ := clocked
      obtain ⟨openings, guesses⟩ := plain_lists entries plain
      rw [same]
      refine
        { ascending := by rw [openings]; exact keeps.ascending
          opened := by rw [openings]; exact keeps.opened
          highest := keeps.highest
          future := ?_
          within := ?_
          budget := ?_
          stands := ?_ }
      · intro generation above
        rw [guesses]
        exact keeps.future generation above
      · intro generation
        rw [guesses]
        exact keeps.within generation
      · intro active
        rw [guesses]
        exact keeps.budget active
      · intro active
        obtain ⟨openedNs, deadline, stands⟩ := keeps.stands active
        refine ⟨openedNs, deadline, stands_append stands ?_⟩
        rw [← deadline]
        exact quiet active
  | counted guess nowNs asked counts spent =>
      subst asked
      obtain ⟨active, -, -, remaining⟩ := (counts_iff host nowNs).1 counts
      have openings :
          openedGenerations
              (entries ++
                [Logbook.entry InviteCodeHost.perform host (.onLookup guess nowNs)]) =
            openedGenerations entries := by
        rw [openedGenerations_append]
        exact List.append_nil _
      have guesses :
          ∀ generation,
            countedGuesses generation
                (entries ++
                  [Logbook.entry InviteCodeHost.perform host (.onLookup guess nowNs)]) =
              countedGuesses generation entries ++
                if host.generation = generation then [guess] else [] := by
        intro generation
        rw [countedGuesses_append]
        by_cases own : host.generation = generation <;>
          simp [countedGuesses, Logbook.entry, counts, own]
      have budget := keeps.budget active
      rw [spent]
      refine
        { ascending := by rw [openings]; exact keeps.ascending
          opened := by rw [openings]; exact keeps.opened
          highest := keeps.highest
          future := ?_
          within := ?_
          budget := ?_
          stands := ?_ }
      · intro generation above
        have other : host.generation ≠ generation := by
          rw [keeps.highest active]
          exact Nat.ne_of_lt above
        rw [guesses, if_neg other, List.append_nil]
        exact keeps.future generation above
      · intro generation
        rw [guesses]
        by_cases own : host.generation = generation
        · subst own
          rw [if_pos rfl, List.length_append, List.length_singleton]
          omega
        · rw [if_neg own, List.append_nil]
          exact keeps.within generation
      · intro _
        simp only [guesses, if_true, List.length_append, List.length_singleton]
        omega
      · intro _
        obtain ⟨openedNs, deadline, stands⟩ := keeps.stands active
        exact ⟨openedNs, deadline, stands_append stands id⟩

end Keeps

theorem keeps_run (calls : List HostCall) : Keeps (ofCalls calls) (after calls) := by
  refine Logbook.run_keeps perform Keeps ?_ (fun _ _ call keeps => keeps.perform call) calls
  refine
    { ascending := List.Pairwise.nil
      opened := by simp [openedGenerations]
      highest := by simp
      future := fun _ _ => rfl
      within := by simp [countedGuesses]
      budget := by simp
      stands := by simp }

/-- Two hosts that differ at most in the code of one generation. -/
structure Twin
    (generation : Nat)
    (code code' : InviteCodeDigits)
    (host host' : InviteCodeHost) : Prop where
  same : host' = { host with code := host'.code }
  own : host.phase = .active → host.generation = generation →
    host.code = code ∧ host'.code = code'
  other : ¬ (host.phase = .active ∧ host.generation = generation) →
    host'.code = host.code

variable {generation : Nat}

/-- A guess that hits neither code is answered alike by both hosts. -/
theorem Twin.onLookup
    {code code' guess : InviteCodeDigits}
    (twin : Twin generation code code' host host')
    (nowNs : Nat)
    (misses :
      host.counts nowNs = true → host.generation = generation →
        guess ≠ code ∧ guess ≠ code') :
    (host.onLookup guess nowNs).1 = (host'.onLookup guess nowNs).1 ∧
      Twin generation code code' (host.onLookup guess nowNs).2
        (host'.onLookup guess nowNs).2 := by
  have sameCounts : host'.counts nowNs = host.counts nowNs := by
    rw [twin.same]
    rfl
  cases counts : host.counts nowNs with
  | false =>
      rw [counts] at sameCounts
      obtain ⟨answer, unchanged⟩ := onLookup_uncounted counts guess guess host'.code
      rw [unchanged, (onLookup_uncounted sameCounts guess guess host'.code).2]
      rw [← twin.same] at answer
      exact ⟨answer.symm, twin⟩
  | true =>
      rw [counts] at sameCounts
      rw [onLookup_counted counts, onLookup_counted sameCounts]
      have active := ((counts_iff host nowNs).1 counts).1
      refine ⟨?_, ⟨?_, twin.own, twin.other⟩⟩
      · by_cases own : host.generation = generation
        · obtain ⟨notCode, notCode'⟩ := misses counts own
          obtain ⟨first, second⟩ := twin.own active own
          simp only [first, second]
          rw [if_neg notCode, if_neg notCode']
        · simp only [twin.other fun both => own both.2]
      · simp only
        rw [twin.same]

theorem Twin.opened_own
    (generation : Nat)
    (code code' : InviteCodeDigits)
    (nowNs : Nat) :
    Twin generation code code' (openedWith generation code nowNs)
      (openedWith generation code' nowNs) :=
  ⟨rfl, fun _ _ => ⟨rfl, rfl⟩, fun otherwise => (otherwise ⟨rfl, rfl⟩).elim⟩

/-- Hosts that agree on the code, outside the generation in question. -/
theorem Twin.agreed
    (host : InviteCodeHost)
    (code code' : InviteCodeDigits)
    (different : host.phase = .active → host.generation ≠ generation) :
    Twin generation code code' host host :=
  ⟨rfl, fun active own => (different active own).elim, fun _ => rfl⟩

variable {code code' : InviteCodeDigits}

/-- The clock of both hosts moves alike. -/
theorem Twin.clocked
    (twin : Twin generation code code' host host')
    (hasLastTick : Bool)
    (lastTickNs : Nat) :
    Twin generation code code'
      { host with hasLastTick := hasLastTick, lastTickNs := lastTickNs }
      { host' with hasLastTick := hasLastTick, lastTickNs := lastTickNs } := by
  refine ⟨?_, twin.own, twin.other⟩
  rw [twin.same]

/-- A reset forgets the code. -/
theorem Twin.reset
    (twin : Twin generation code code' host host') :
    Twin generation code code' host.reset host'.reset := by
  have same : host'.reset = host.reset := by
    rw [twin.same]
    rfl
  rw [same]
  exact .agreed _ code code' fun active => by cases active

variable {codeInput codeInput' : Bytes}

/-- One call with two codes for one generation. -/
theorem Twin.perform
    (parsed : parseInviteCode codeInput = some code)
    (parsed' : parseInviteCode codeInput' = some code')
    (twin : Twin generation code code' host host')
    (call : HostCall)
    (misses :
      ∀ guess nowNs, call = .onLookup guess nowNs → host.counts nowNs = true →
        host.generation = generation → guess ≠ code ∧ guess ≠ code') :
    (host.perform (call.recode generation codeInput)).1 =
        (host'.perform (call.recode generation codeInput')).1 ∧
      Twin generation code code'
        (host.perform (call.recode generation codeInput)).2
        (host'.perform (call.recode generation codeInput')).2 := by
  cases call with
  | activate opening opened original nowNs =>
      simp only [HostCall.recode]
      have sameAccepts :
          host'.accepts opening opened nowNs ↔ host.accepts opening opened nowNs := by
        rw [twin.same]
        rfl
      by_cases accepting : host.accepts opening opened nowNs
      · rw [activate_accepted accepting, activate_accepted (sameAccepts.2 accepting)]
        by_cases own : opened = generation
        · rw [if_pos own, if_pos own, parsed, parsed']
          subst own
          exact ⟨rfl, .opened_own opened code code' nowNs⟩
        · rw [if_neg own, if_neg own]
          cases parseInviteCode original with
          | none => exact ⟨rfl, twin⟩
          | some other =>
              exact ⟨rfl, .agreed _ code code' fun _ => own⟩
      · rw [activate_refused accepting, activate_refused (mt sameAccepts.1 accepting)]
        exact ⟨rfl, twin⟩
  | cancel other =>
      have samePhase : host'.phase = host.phase := by rw [twin.same]
      have sameGeneration : host'.generation = host.generation := by rw [twin.same]
      simp only [HostCall.recode, InviteCodeHost.perform, cancel, samePhase,
        sameGeneration]
      split
      · exact ⟨rfl, twin⟩
      · exact ⟨rfl, twin.reset⟩
  | tick nowNs =>
      have samePhase : host'.phase = host.phase := by rw [twin.same]
      have sameDeadline : host'.deadlineNs = host.deadlineNs := by rw [twin.same]
      have sameClock : host'.isBackwards nowNs = host.isBackwards nowNs := by
        rw [twin.same]
        rfl
      simp only [HostCall.recode, InviteCodeHost.perform, tick, samePhase, sameDeadline,
        sameClock, true_and]
      split
      · split
        · exact twin.reset
        · exact twin
      · split
        · exact (twin.clocked true nowNs).reset
        · simpa only [samePhase, sameDeadline] using twin.clocked true nowNs
  | onLookup guess nowNs =>
      have answers := twin.onLookup nowNs (misses guess nowNs rfl)
      exact ⟨congrArg HostAnswer.status answers.1, answers.2⟩

theorem Twin.log
    (parsed : parseInviteCode codeInput = some code)
    (parsed' : parseInviteCode codeInput' = some code')
    (twin : Twin generation code code' host host')
    (calls : List HostCall)
    (misses :
      ∀ guess ∈ countedGuesses generation
          (Logbook.log InviteCodeHost.perform host
            (calls.map (HostCall.recode generation codeInput))),
        guess ≠ code ∧ guess ≠ code') :
    (Logbook.log InviteCodeHost.perform host
        (calls.map (HostCall.recode generation codeInput))).map Logbook.Entry.answer =
      (Logbook.log InviteCodeHost.perform host'
        (calls.map (HostCall.recode generation codeInput'))).map Logbook.Entry.answer := by
  induction calls generalizing host host' with
  | nil => rfl
  | cons call rest inductionHypothesis =>
      simp only [List.map_cons, Logbook.log] at misses ⊢
      rw [← List.singleton_append, countedGuesses_append] at misses
      obtain ⟨answer, next⟩ := twin.perform parsed parsed' call (by
        rintro guess nowNs rfl counts own
        refine misses guess (List.mem_append_left _ ?_)
        simp [countedGuesses, Logbook.entry, HostCall.recode, counts, own])
      rw [inductionHypothesis next fun guess member =>
        misses guess (List.mem_append_right _ member)]
      rw [Logbook.entry, Logbook.entry, answer]

/--
Every run of a host.  In each generation at most five guesses are compared with
its code, and the answer to any other lookup is the same for every code; two runs
that differ only in the code of one generation give the same answers as long as
the compared guesses hit neither code.  A match is only answered to the code of
the invitation that stands, before its deadline.  The generations that are opened
grow strictly.
-/
theorem guessing_bound (calls : List HostCall) :
    (∀ generation,
      (countedGuesses generation (ofCalls calls)).length ≤
        kInviteLookupAttemptsPerInvitation) ∧
    (∀ nowNs guess guess' code,
      (after calls).counts nowNs = false →
      ({ after calls with code := code }.onLookup guess nowNs).1 =
        ((after calls).onLookup guess' nowNs).1) ∧
    (∀ generation codeInput codeInput' code code',
      parseInviteCode codeInput = some code →
      parseInviteCode codeInput' = some code' →
      (∀ guess ∈ countedGuesses generation
          (ofCalls (calls.map (HostCall.recode generation codeInput))),
        guess ≠ code ∧ guess ≠ code') →
      (ofCalls (calls.map (HostCall.recode generation codeInput))).map
          Logbook.Entry.answer =
        (ofCalls (calls.map (HostCall.recode generation codeInput'))).map
          Logbook.Entry.answer) ∧
    (∀ guess nowNs,
      ((after calls).onLookup guess nowNs).1 = .matchPendingHostApproval →
      (after calls).phase = .active ∧
        ∃ openedNs,
          Stands (after calls).generation guess openedNs (ofCalls calls) ∧
          nowNs < deadlineAfter openedNs) ∧
    (openedGenerations (ofCalls calls)).Pairwise (· < ·) := by
  have keeps := keeps_run calls
  refine ⟨keeps.within, ?_, ?_, ?_, keeps.ascending⟩
  · intro nowNs guess guess' code uncounted
    exact (onLookup_uncounted uncounted guess guess' code).1
  · intro generation codeInput codeInput' code code' parsed parsed' misses
    exact Twin.log parsed parsed' (.agreed {} code code' fun active => by cases active)
      calls misses
  · intro guess nowNs matched
    cases counts : (after calls).counts nowNs with
    | false =>
        exfalso
        unfold InviteCodeHost.onLookup at matched
        have notCounted : ¬ (after calls).counts nowNs = true := by simp [counts]
        rw [counts_iff] at notCounted
        grind
    | true =>
        rw [onLookup_counted counts] at matched
        obtain ⟨active, -, inTime, -⟩ := (counts_iff _ nowNs).1 counts
        obtain ⟨openedNs, deadline, stands⟩ := keeps.stands active
        have hit : guess = (after calls).code := by
          by_contra misses
          simp [misses] at matched
        refine ⟨active, openedNs, by rw [hit]; exact stands, ?_⟩
        rwa [← deadline]

/-! An invitation of the code 123456 that two lookups miss and a third one finds. -/

def sampleInput : Bytes :=
  [0x31, 0x32, 0x33, 0x34, 0x35, 0x36]

def otherInput : Bytes :=
  [0x36, 0x35, 0x34, 0x33, 0x32, 0x31]

def missingCalls : List HostCall :=
  [.activate .publish 1 sampleInput 10,
    .onLookup ⟨List.replicate 6 0x30, rfl⟩ 15, .onLookup ⟨List.replicate 6 0x39, rfl⟩ 16]

/-- The two guesses count, and they are answered as they would be for the code 654321. -/
theorem sample_match :
    countedGuesses 1 (ofCalls missingCalls) =
        [⟨List.replicate 6 0x30, rfl⟩, ⟨List.replicate 6 0x39, rfl⟩] ∧
      (ofCalls (missingCalls.map (HostCall.recode 1 sampleInput))).map Logbook.Entry.answer =
        (ofCalls (missingCalls.map (HostCall.recode 1 otherInput))).map
          Logbook.Entry.answer ∧
      (after missingCalls).phase = .active ∧
      ∃ openedNs,
        Stands 1 ⟨sampleInput, rfl⟩ openedNs (ofCalls missingCalls) ∧
          20 < deadlineAfter openedNs := by
  obtain ⟨-, -, blind, found, -⟩ := guessing_bound missingCalls
  exact ⟨by decide,
    blind 1 sampleInput otherInput ⟨sampleInput, rfl⟩ ⟨otherInput, rfl⟩ (by decide) (by decide)
      (by decide),
    found ⟨sampleInput, rfl⟩ 20 (by decide)⟩

end InviteCodeHost

end FlyNes.InviteCode
