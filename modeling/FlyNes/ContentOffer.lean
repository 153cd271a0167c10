import FlyNes.DualScheduler
import FlyNes.Logbook
import FlyNes.WireSha256

namespace FlyNes.Content

open ByteString FlyNes.Dual FlyNes.Wire

/-!
# Offering a ROM

An offer declares the length and the hash of a payload.  Once it may be sent and
may be received the bytes are staged, and when the last of them has arrived the
hash is checked.  An import has to be approved on its own.  A failed, cancelled or
imported offer is meant to be final, but a receiver appends bytes in every state.
-/

def kContentRomMaxBytes : Nat := 8 * 1024 * 1024

def kContentStallTimeoutNs : Nat := 10 * 1000 * 1000 * 1000

inductive ContentOfferRole where
  | offerer
  | receiver
deriving DecidableEq

inductive ContentOfferState where
  | idle
  | offered
  | waitingConsent
  | transferring
  | checking
  | waitingImport
  | imported
  | failed
  | cancelled
deriving DecidableEq

inductive ContentOfferFail where
  | none
  | oversize
  | hashMismatch
  | offsetOutOfRange
  | stallTimeout
  | cancelled
  | diskFull
  | multiPayload
  | format
deriving DecidableEq

structure ContentOfferDecl where
  offerId : Block 16 := Block.zero 16
  contentId : Block 32 := Block.zero 32
  declaredLength : Nat := 0
  payloadSha256 : Block 32 := Block.zero 32
deriving DecidableEq

structure ContentOfferScheduler where
  role : ContentOfferRole := .offerer
  state : ContentOfferState := .idle
  failReason : ContentOfferFail := .none
  decl : ContentOfferDecl := {}
  sendOk : Bool := false
  receiveOk : Bool := false
  importOk : Bool := false
  catalogPublished : Bool := false
  stagingLive : Bool := false
  transferred : Nat := 0
  lastProgressNs : Nat := 0
  clockSeen : Bool := false
  staging : Bytes := []
deriving DecidableEq

/-- `memcpy` into a buffer that is long enough. -/
def overwrite (target : Bytes) (offset : Nat) (data : Bytes) : Bytes :=
  target.take offset ++ data ++ target.drop (offset + data.length)

namespace ContentOfferScheduler

/-- `reset` writes every field but the role with its default. -/
def reset (role : ContentOfferRole) : ContentOfferScheduler where
  role := role
  state := .idle
  failReason := .none
  decl := {}
  sendOk := false
  receiveOk := false
  importOk := false
  catalogPublished := false
  stagingLive := false
  transferred := 0
  lastProgressNs := 0
  clockSeen := false
  staging := []

variable (scheduler : ContentOfferScheduler)

def mayOpenRomStream : Bool :=
  scheduler.sendOk && scheduler.receiveOk &&
    (scheduler.role = .receiver || scheduler.state = .transferring ||
      scheduler.state = .checking || scheduler.state = .waitingImport)

def discardStaging : ContentOfferScheduler :=
  { scheduler with
    staging := []
    stagingLive := false
    transferred := 0 }

def fail (reason : ContentOfferFail) : ContentOfferScheduler :=
  { scheduler with
    failReason := reason
    state := .failed
    catalogPublished := false
    importOk := false }.discardStaging

def bindDecl
    (decl : ContentOfferDecl) : SessionResult × ContentOfferScheduler :=
  if scheduler.state ≠ .idle then
    (.invalidState, scheduler)
  else if decl.offerId = Block.zero 16 || decl.contentId = Block.zero 32 ||
      decl.declaredLength = 0 then
    (.invalidArgument, scheduler.fail .format)
  else if kContentRomMaxBytes < decl.declaredLength then
    (.invalidArgument, scheduler.fail .oversize)
  else
    (.ok,
      { scheduler with
        decl := decl
        staging := List.replicate decl.declaredLength 0
        transferred := 0
        stagingLive := false
        state := .offered })

def maybeEnterTransfer : ContentOfferScheduler :=
  if scheduler.state ≠ .offered && scheduler.state ≠ .waitingConsent then
    scheduler
  else if scheduler.sendOk && scheduler.receiveOk then
    { scheduler with state := .transferring }
  else
    { scheduler with state := .waitingConsent }

def maybeFinishCheck : ContentOfferScheduler :=
  if scheduler.state ≠ .transferring then
    scheduler
  else if scheduler.transferred < scheduler.decl.declaredLength then
    scheduler
  else
    let got := sha256 (scheduler.staging.take scheduler.decl.declaredLength)
    if got ≠ scheduler.decl.payloadSha256 then
      { scheduler with state := .checking }.fail .hashMismatch
    else
      { scheduler with state := .waitingImport }

def offer (decl : ContentOfferDecl) : SessionResult × ContentOfferScheduler :=
  if scheduler.role ≠ .offerer then
    (.invalidState, scheduler)
  else
    scheduler.bindDecl decl

def acceptOffer
    (decl : ContentOfferDecl) : SessionResult × ContentOfferScheduler :=
  if scheduler.role ≠ .receiver then
    (.invalidState, scheduler)
  else
    let bound := scheduler.bindDecl decl
    if bound.1 ≠ .ok then
      bound
    else
      (.ok, bound.2.maybeEnterTransfer)

/-- An approval, with the consent it gives already noted in `consented`. -/
def approve
    (consented : ContentOfferScheduler) : SessionResult × ContentOfferScheduler :=
  if scheduler.state = .failed || scheduler.state = .cancelled then
    (.invalidState, scheduler)
  else if scheduler.state = .idle then
    if scheduler.role ≠ .receiver then
      (.invalidState, scheduler)
    else
      (.ok, consented)
  else
    (.ok, consented.maybeEnterTransfer)

def approveSend : SessionResult × ContentOfferScheduler :=
  scheduler.approve { scheduler with sendOk := true }

def approveReceive : SessionResult × ContentOfferScheduler :=
  scheduler.approve { scheduler with receiveOk := true }

def approveImport : SessionResult × ContentOfferScheduler :=
  if scheduler.state = .failed || scheduler.state = .cancelled then
    (.invalidState, scheduler)
  else if scheduler.state ≠ .waitingImport && scheduler.state ≠ .imported then
    (.invalidState, scheduler)
  else
    (.ok,
      { scheduler with
        importOk := true
        catalogPublished := true
        state := .imported }.discardStaging)

def cancel : SessionResult × ContentOfferScheduler :=
  if scheduler.state = .imported then
    (.invalidState, scheduler)
  else
    (.ok,
      { scheduler with
        failReason := .cancelled
        state := .cancelled }.discardStaging)

def noteFriendSaved : SessionResult × ContentOfferScheduler :=
  (.ok, scheduler)

def onClock (continuousNs : Nat) : SessionResult × ContentOfferScheduler :=
  if scheduler.state = .failed || scheduler.state = .cancelled ||
      scheduler.state = .imported then
    (.ok, scheduler)
  else if !scheduler.clockSeen then
    (.ok, { scheduler with lastProgressNs := continuousNs, clockSeen := true })
  else if scheduler.state = .transferring && scheduler.stagingLive &&
      scheduler.lastProgressNs ≤ continuousNs &&
      kContentStallTimeoutNs ≤ continuousNs - scheduler.lastProgressNs then
    (.timeout, scheduler.fail .stallTimeout)
  else
    (.ok, scheduler)

/-- The staged bytes, as long as the declaration says. -/
def sizedStaging : Bytes :=
  if scheduler.staging.length ≠ scheduler.decl.declaredLength then
    List.replicate scheduler.decl.declaredLength 0
  else
    scheduler.staging

def appendBytes
    (offset : Nat)
    (data : Bytes) : SessionResult × ContentOfferScheduler :=
  if !scheduler.mayOpenRomStream then
    (.unavailable, scheduler)
  else if kContentRomMaxBytes < data.length then
    (.invalidArgument, scheduler.fail .oversize)
  else if scheduler.decl.declaredLength < offset + data.length then
    (.invalidArgument, scheduler.fail .offsetOutOfRange)
  else
    let written :=
      { scheduler with
        staging := overwrite scheduler.sizedStaging offset data
        transferred := max scheduler.transferred (offset + data.length)
        stagingLive := true }
    let checked := written.maybeFinishCheck
    if checked.state = .failed then
      (.protocolViolation, checked)
    else
      (.ok, checked)

/-- A failure that is noted from outside, once there is an offer. -/
def note
    (reason : ContentOfferFail)
    (answer : SessionResult) : SessionResult × ContentOfferScheduler :=
  if scheduler.state = .idle then
    (.invalidState, scheduler)
  else
    (answer, scheduler.fail reason)

def noteDiskFull : SessionResult × ContentOfferScheduler :=
  scheduler.note .diskFull .unavailable

def noteMultiPayload : SessionResult × ContentOfferScheduler :=
  scheduler.note .multiPayload .invalidArgument

def noteFormatInvalid : SessionResult × ContentOfferScheduler :=
  scheduler.note .format .invalidArgument

end ContentOfferScheduler

/-! ## Calls -/

inductive OfferCall where
  | offer (decl : ContentOfferDecl)
  | acceptOffer (decl : ContentOfferDecl)
  | approveSend
  | approveReceive
  | approveImport
  | cancel
  | noteFriendSaved
  | onClock (continuousNs : Nat)
  | appendBytes (offset : Nat) (data : Bytes)
  | noteDiskFull
  | noteMultiPayload
  | noteFormatInvalid
deriving DecidableEq

namespace ContentOfferScheduler

def step
    (scheduler : ContentOfferScheduler) :
    OfferCall → SessionResult × ContentOfferScheduler
  | .offer decl => scheduler.offer decl
  | .acceptOffer decl => scheduler.acceptOffer decl
  | .approveSend => scheduler.approveSend
  | .approveReceive => scheduler.approveReceive
  | .approveImport => scheduler.approveImport
  | .cancel => scheduler.cancel
  | .noteFriendSaved => scheduler.noteFriendSaved
  | .onClock continuousNs => scheduler.onClock continuousNs
  | .appendBytes offset data => scheduler.appendBytes offset data
  | .noteDiskFull => scheduler.noteDiskFull
  | .noteMultiPayload => scheduler.noteMultiPayload
  | .noteFormatInvalid => scheduler.noteFormatInvalid

abbrev OfferEntry := Logbook.Entry ContentOfferScheduler OfferCall SessionResult

/-- The offer has failed or was cancelled. -/
def Ended (scheduler : ContentOfferScheduler) : Prop :=
  scheduler.state = .failed ∨ scheduler.state = .cancelled

/-- What a later state owes to an end state that was reached before it. -/
structure EndKept (earlier later : ContentOfferScheduler) : Prop where
  ended :
    earlier.Ended →
    later.Ended ∧ later.staging = [] ∧ later.stagingLive = false ∧
      later.catalogPublished = false
  imported :
    earlier.state = .imported →
    later.state = .imported ∧ later.staging = [] ∧
      later.catalogPublished = true

/-- The bytes of an append lie within the declared length. -/
def InRange
    (scheduler : ContentOfferScheduler)
    (offset : Nat)
    (data : Bytes) : Prop :=
  data.length ≤ kContentRomMaxBytes ∧
    offset + data.length ≤ scheduler.decl.declaredLength

/--
The calls that leave end states alone: no append in range after a failure or a
cancellation and none at all after an import while the stream may be open, and no
note of a failure after an import.
-/
def Harmless (scheduler : ContentOfferScheduler) : OfferCall → Prop
  | .appendBytes offset data =>
      scheduler.mayOpenRomStream = true →
      (scheduler.Ended → ¬ scheduler.InRange offset data) ∧
        scheduler.state ≠ .imported
  | .noteDiskFull => scheduler.state ≠ .imported
  | .noteMultiPayload => scheduler.state ≠ .imported
  | .noteFormatInvalid => scheduler.state ≠ .imported
  | _ => True

instance (scheduler : ContentOfferScheduler) : Decidable scheduler.Ended :=
  inferInstanceAs (Decidable (_ ∨ _))

instance
    (scheduler : ContentOfferScheduler)
    (offset : Nat)
    (data : Bytes) :
    Decidable (scheduler.InRange offset data) :=
  inferInstanceAs (Decidable (_ ∧ _))

instance
    (scheduler : ContentOfferScheduler) :
    (call : OfferCall) → Decidable (scheduler.Harmless call)
  | .appendBytes _ _ => inferInstanceAs (Decidable (_ → _ ∧ _))
  | .noteDiskFull => inferInstanceAs (Decidable (_ ≠ _))
  | .noteMultiPayload => inferInstanceAs (Decidable (_ ≠ _))
  | .noteFormatInvalid => inferInstanceAs (Decidable (_ ≠ _))
  | .offer _ | .acceptOffer _ | .approveSend | .approveReceive | .approveImport
  | .cancel | .noteFriendSaved | .onClock _ => .isTrue trivial

/-! ## End states -/

/-- Only an imported offer is published, and an end state has nothing staged. -/
structure Sound (scheduler : ContentOfferScheduler) : Prop where
  published : scheduler.catalogPublished = true ↔ scheduler.state = .imported
  discarded :
    scheduler.Ended ∨ scheduler.state = .imported →
    scheduler.staging = [] ∧ scheduler.stagingLive = false

section EndStates

variable {scheduler : ContentOfferScheduler}

theorem Sound.reset
    (role : ContentOfferRole) :
    Sound (ContentOfferScheduler.reset role) := by
  constructor <;> simp [ContentOfferScheduler.reset, Ended]

theorem Sound.fail
    (reason : ContentOfferFail) :
    Sound (scheduler.fail reason) := by
  constructor <;> simp [ContentOfferScheduler.fail, discardStaging]

/-- A state that is no end state is sound if nothing is published in it. -/
theorem Sound.of_open
    (active : ¬ scheduler.Ended)
    (unimported : scheduler.state ≠ .imported)
    (unpublished : scheduler.catalogPublished = false) :
    Sound scheduler where
  published := by simp [unpublished, unimported]
  discarded := fun final => by grind

theorem Sound.unpublished
    (sound : scheduler.Sound)
    (unimported : scheduler.state ≠ .imported) :
    scheduler.catalogPublished = false := by
  rw [← Bool.not_eq_true]
  exact fun claimed => unimported (sound.published.1 claimed)

theorem Sound.bindDecl
    (sound : scheduler.Sound)
    (decl : ContentOfferDecl) :
    Sound (scheduler.bindDecl decl).2 := by
  unfold ContentOfferScheduler.bindDecl
  split
  case isTrue => exact sound
  case isFalse idle =>
    split
    case isTrue => exact Sound.fail _
    case isFalse =>
      split
      case isTrue => exact Sound.fail _
      case isFalse =>
        refine Sound.of_open (by simp [Ended]) (by simp) ?_
        exact sound.unpublished (by simp_all)

theorem Sound.maybeEnterTransfer
    (sound : scheduler.Sound) :
    Sound scheduler.maybeEnterTransfer := by
  unfold ContentOfferScheduler.maybeEnterTransfer
  split
  case isTrue => exact sound
  case isFalse waiting =>
    have unpublished := sound.unpublished (by grind)
    split <;> exact Sound.of_open (by simp [Ended]) (by simp) unpublished

theorem Sound.maybeFinishCheck
    (sound : scheduler.Sound) :
    Sound scheduler.maybeFinishCheck := by
  unfold ContentOfferScheduler.maybeFinishCheck
  split
  case isTrue => exact sound
  case isFalse transferring =>
    split
    case isTrue => exact sound
    case isFalse =>
      simp only
      split
      case isTrue => exact Sound.fail _
      case isFalse =>
        refine Sound.of_open (by simp [Ended]) (by simp) ?_
        exact sound.unpublished (by simp_all)

theorem Sound.approve
    {consented : ContentOfferScheduler}
    (sound : scheduler.Sound)
    (approved : consented.Sound) :
    Sound (scheduler.approve consented).2 := by
  unfold ContentOfferScheduler.approve
  split
  case isTrue => exact sound
  case isFalse =>
    split
    case isTrue =>
      split
      case isTrue => exact sound
      case isFalse => exact approved
    case isFalse => exact approved.maybeEnterTransfer

theorem Sound.note
    (sound : scheduler.Sound)
    (reason : ContentOfferFail)
    (answer : SessionResult) :
    Sound (scheduler.note reason answer).2 := by
  unfold ContentOfferScheduler.note
  split
  case isTrue => exact sound
  case isFalse => exact Sound.fail _

variable {offset : Nat} {data : Bytes}

/-- An append in range that is harmless finds no end state. -/
theorem Harmless.active
    (harmless : scheduler.Harmless (.appendBytes offset data))
    (opened : scheduler.mayOpenRomStream = true)
    (inRange : scheduler.InRange offset data) :
    ¬ scheduler.Ended ∧ scheduler.state ≠ .imported := by
  obtain ⟨ended, unimported⟩ := harmless opened
  exact ⟨fun final => ended final inRange, unimported⟩

theorem Sound.appendBytes
    (sound : scheduler.Sound)
    (harmless : scheduler.Harmless (.appendBytes offset data)) :
    Sound (scheduler.appendBytes offset data).2 := by
  unfold ContentOfferScheduler.appendBytes
  split
  case isTrue => exact sound
  case isFalse opened =>
    split
    case isTrue => exact Sound.fail _
    case isFalse size =>
      split
      case isTrue => exact Sound.fail _
      case isFalse range =>
        have inRange : scheduler.InRange offset data :=
          ⟨Nat.le_of_not_lt size, Nat.le_of_not_lt range⟩
        obtain ⟨active, unimported⟩ :=
          harmless.active (by simpa using opened) inRange
        have written :
            Sound
              { scheduler with
                staging := overwrite scheduler.sizedStaging offset data
                transferred := max scheduler.transferred (offset + data.length)
                stagingLive := true } :=
          Sound.of_open active unimported (sound.unpublished unimported)
        have checked := written.maybeFinishCheck
        simp only
        split <;> exact checked

variable {call : OfferCall}

theorem Sound.step
    (sound : scheduler.Sound)
    (harmless : scheduler.Harmless call) :
    Sound (scheduler.step call).2 := by
  cases call with
  | offer decl =>
      simp only [ContentOfferScheduler.step, ContentOfferScheduler.offer]
      split
      case isTrue => exact sound
      case isFalse => exact sound.bindDecl decl
  | acceptOffer decl =>
      have bound := sound.bindDecl decl
      simp only [ContentOfferScheduler.step, acceptOffer]
      split
      case isTrue => exact sound
      case isFalse =>
        split
        case isTrue => exact bound
        case isFalse => exact bound.maybeEnterTransfer
  | approveSend => exact sound.approve { sound with }
  | approveReceive => exact sound.approve { sound with }
  | approveImport =>
      simp only [ContentOfferScheduler.step, approveImport]
      split
      case isTrue => exact sound
      case isFalse =>
        split
        case isTrue => exact sound
        case isFalse => constructor <;> simp [discardStaging]
  | cancel =>
      simp only [ContentOfferScheduler.step, cancel]
      split
      case isTrue => exact sound
      case isFalse unimported =>
        have unpublished := sound.unpublished unimported
        constructor <;> simp [discardStaging, unpublished]
  | noteFriendSaved => exact sound
  | onClock continuousNs =>
      simp only [ContentOfferScheduler.step, onClock]
      split
      case isTrue => exact sound
      case isFalse =>
        split
        case isTrue => exact { sound with }
        case isFalse =>
          split
          case isTrue => exact Sound.fail _
          case isFalse => exact sound
  | appendBytes offset data => exact sound.appendBytes harmless
  | noteDiskFull => exact sound.note _ _
  | noteMultiPayload => exact sound.note _ _
  | noteFormatInvalid => exact sound.note _ _

/-- After a failure or a cancellation a harmless call leaves one of the two. -/
theorem step_ended
    (ended : scheduler.Ended)
    (harmless : scheduler.Harmless call) :
    (scheduler.step call).2.Ended := by
  cases call with
  | appendBytes offset data =>
      simp only [step, appendBytes]
      split
      case isTrue => exact ended
      case isFalse opened =>
        split
        case isTrue => exact Or.inl rfl
        case isFalse size =>
          split
          case isTrue => exact Or.inl rfl
          case isFalse range =>
            have inRange : scheduler.InRange offset data :=
              ⟨Nat.le_of_not_lt size, Nat.le_of_not_lt range⟩
            exact absurd ended
              (harmless.active (by simpa using opened) inRange).1
  | acceptOffer decl =>
      rcases ended with failed | cancelled
      · simp only [step, acceptOffer, bindDecl, failed]
        grind [Ended]
      · simp only [step, acceptOffer, bindDecl, cancelled]
        grind [Ended]
  | _ =>
      rcases ended with failed | cancelled
      · simp only [step, offer, bindDecl, approveSend, approveReceive, approve,
          approveImport, cancel, noteFriendSaved, onClock, noteDiskFull,
          noteMultiPayload, noteFormatInvalid, note, failed]
        simp [Ended, fail, discardStaging, failed]
      · simp only [step, offer, bindDecl, approveSend, approveReceive, approve,
          approveImport, cancel, noteFriendSaved, onClock, noteDiskFull,
          noteMultiPayload, noteFormatInvalid, note, cancelled]
        simp [Ended, fail, discardStaging, cancelled]

/-- An imported offer stays imported over a harmless call. -/
theorem step_imported
    (imported : scheduler.state = .imported)
    (harmless : scheduler.Harmless call) :
    (scheduler.step call).2.state = .imported := by
  cases call with
  | appendBytes offset data =>
      simp only [step, appendBytes]
      split
      case isTrue => exact imported
      case isFalse opened =>
        exact absurd imported (harmless (by simpa using opened)).2
  | noteDiskFull => exact absurd imported harmless
  | noteMultiPayload => exact absurd imported harmless
  | noteFormatInvalid => exact absurd imported harmless
  | acceptOffer decl =>
      simp only [step, acceptOffer, bindDecl, imported]
      grind
  | approveSend | approveReceive =>
      simp [step, approveSend, approveReceive, approve, imported,
        maybeEnterTransfer]
  | noteFriendSaved => exact imported
  | offer decl =>
      simp only [step, offer, bindDecl, imported]
      grind
  | _ => simp [step, approveImport, cancel, onClock, imported, discardStaging]

theorem Sound.endKept
    {earlier : ContentOfferScheduler}
    (sound : scheduler.Sound)
    (ended : earlier.Ended → scheduler.Ended)
    (imported : earlier.state = .imported → scheduler.state = .imported) :
    EndKept earlier scheduler where
  ended := fun final => by
    have now := ended final
    have unimported : scheduler.state ≠ .imported := by
      rcases now with state | state <;> simp [state]
    obtain ⟨staging, live⟩ := sound.discarded (Or.inl now)
    exact ⟨now, staging, live, sound.unpublished unimported⟩
  imported := fun final => by
    have now := imported final
    exact ⟨now, (sound.discarded (Or.inr now)).1, sound.published.2 now⟩

theorem EndKept.trans
    {first second third : ContentOfferScheduler}
    (one : EndKept first second)
    (other : EndKept second third) :
    EndKept first third where
  ended := fun final => other.ended (one.ended final).1
  imported := fun final => other.imported (one.imported final).1

/-- From a sound state a harmless call keeps the end states. -/
theorem endKept_step
    (sound : scheduler.Sound)
    (harmless : scheduler.Harmless call) :
    EndKept scheduler (scheduler.step call).2 :=
  (sound.step harmless).endKept (fun ended => step_ended ended harmless)
    (fun imported => step_imported imported harmless)

theorem length_overwrite
    {target data : Bytes}
    (inside : offset + data.length ≤ target.length) :
    (overwrite target offset data).length = target.length := by
  simp only [overwrite, List.length_append, List.length_take, List.length_drop]
  omega

theorem length_sizedStaging
    (scheduler : ContentOfferScheduler) :
    scheduler.sizedStaging.length = scheduler.decl.declaredLength := by
  unfold sizedStaging
  split
  case isTrue => simp
  case isFalse same => simpa using same

/-- Outside a transfer an append in range only writes. -/
theorem appendBytes_outside
    (opened : scheduler.mayOpenRomStream = true)
    (inRange : scheduler.InRange offset data)
    (outside : scheduler.state ≠ .transferring) :
    (scheduler.appendBytes offset data).2 =
      { scheduler with
        staging := overwrite scheduler.sizedStaging offset data
        transferred := max scheduler.transferred (offset + data.length)
        stagingLive := true } := by
  have size := Nat.not_lt.2 inRange.1
  have range := Nat.not_lt.2 inRange.2
  simp only [appendBytes, opened, size, range, maybeFinishCheck]
  grind

/-- Exactly the harmless calls keep what end states promise. -/
theorem endKept_step_iff
    (sound : scheduler.Sound)
    (declared :
      scheduler.state = .imported → 0 < scheduler.decl.declaredLength) :
    EndKept scheduler (scheduler.step call).2 ↔ scheduler.Harmless call := by
  refine ⟨fun kept => ?_, endKept_step sound⟩
  have noted :
      ∀ reason answer,
        scheduler.state = .imported →
        (scheduler.step call).2 = (scheduler.note reason answer).2 →
        False := by
    intro reason answer imported same
    have state := (kept.imported imported).1
    rw [same] at state
    simp [note, imported, fail, discardStaging] at state
  cases call with
  | appendBytes offset data =>
      intro opened
      refine ⟨fun ended inRange => ?_, fun imported => ?_⟩
      · have outside : scheduler.state ≠ .transferring := by
          rcases ended with state | state <;> simp [state]
        have live := (kept.ended ended).2.2.1
        rw [step, appendBytes_outside opened inRange outside] at live
        simp at live
      · obtain ⟨state, staging, _⟩ := kept.imported imported
        by_cases inRange : scheduler.InRange offset data
        · rw [step, appendBytes_outside opened inRange (by simp [imported])]
            at staging
          have length := congrArg List.length staging
          rw [length_overwrite (by rw [length_sizedStaging]; exact inRange.2),
            length_sizedStaging, List.length_nil] at length
          exact absurd length (Nat.ne_of_gt (declared imported))
        · simp only [step, appendBytes, opened] at state
          simp only [InRange, not_and_or, Nat.not_le] at inRange
          rcases inRange with size | range
          · simp [size, fail, discardStaging] at state
          · by_cases size : kContentRomMaxBytes < data.length
            · simp [size, fail, discardStaging] at state
            · simp [size, range, fail, discardStaging] at state
  | noteDiskFull => exact fun imported => noted _ _ imported rfl
  | noteMultiPayload => exact fun imported => noted _ _ imported rfl
  | noteFormatInvalid => exact fun imported => noted _ _ imported rfl
  | _ => trivial

/-- The declaration of two bytes. -/
def sampleDecl : ContentOfferDecl where
  offerId := Block.copy 16 [1]
  contentId := Block.copy 32 [2]
  declaredLength := 2
  payloadSha256 := sha256 [7, 9]

/-- A receiver with both consents whose offer has come to an end. -/
def endedOffer (state : ContentOfferState) : ContentOfferScheduler where
  role := .receiver
  state := state
  decl := sampleDecl
  sendOk := true
  receiveOk := true
  catalogPublished := state = .imported

/-- After a cancellation a byte is staged if it lies within the declared length; after
an import no byte is harmless. -/
theorem sample_end_kept :
    ¬ EndKept (endedOffer .cancelled) ((endedOffer .cancelled).step (.appendBytes 0 [7])).2 ∧
      EndKept (endedOffer .cancelled) ((endedOffer .cancelled).step (.appendBytes 2 [7])).2 ∧
      ¬ EndKept (endedOffer .imported) ((endedOffer .imported).step (.appendBytes 2 [7])).2 := by
  have cancelled (call : OfferCall) :=
    @endKept_step_iff (endedOffer .cancelled) call ⟨by decide, fun _ => ⟨rfl, rfl⟩⟩ nofun
  have imported (call : OfferCall) :=
    @endKept_step_iff (endedOffer .imported) call ⟨by decide, fun _ => ⟨rfl, rfl⟩⟩
      (by decide)
  refine ⟨?_, (cancelled _).2 (by decide), ?_⟩
  · exact fun kept => absurd ((cancelled _).1 kept) (by decide)
  · exact fun kept => absurd ((imported _).1 kept) (by decide)

end EndStates

/-- Harmless calls keep every state of a run sound. -/
theorem sound_run
    (role : ContentOfferRole)
    (calls : List OfferCall)
    (harmless :
      ∀ entry ∈ Logbook.log step (reset role) calls,
        entry.before.Harmless entry.call) :
    Sound (Logbook.after step (reset role) calls) :=
  Logbook.run_keeps_allowed step (fun entry => entry.before.Harmless entry.call)
    Sound (Sound.reset role) (fun _ _ allowed sound => sound.step allowed) calls
    harmless

/--
In every run since a reset whose calls are harmless, an offer that has failed or
was cancelled stays so with nothing staged and nothing published, and an imported
offer stays imported and published with nothing staged.
-/
theorem end_states_final
    (role : ContentOfferRole)
    (calls : List OfferCall)
    (harmless :
      ∀ entry ∈ Logbook.log step (reset role) calls,
        entry.before.Harmless entry.call)
    (earlier later : List OfferCall)
    (shape : calls = earlier ++ later) :
    EndKept (Logbook.after step (reset role) earlier)
      (Logbook.after step (reset role) calls) := by
  subst shape
  rw [Logbook.log_append] at harmless
  rw [Logbook.after_append]
  have sound :
      Sound (Logbook.after step (reset role) earlier) :=
    sound_run role earlier fun entry member =>
      harmless entry (List.mem_append_left _ member)
  have both :
      Sound (Logbook.after step (Logbook.after step (reset role) earlier) later) ∧
        EndKept (Logbook.after step (reset role) earlier)
          (Logbook.after step (Logbook.after step (reset role) earlier) later) :=
    Logbook.run_keeps_allowed step (fun entry => entry.before.Harmless entry.call)
      (fun now =>
        Sound now ∧ EndKept (Logbook.after step (reset role) earlier) now)
      ⟨sound, sound.endKept id id⟩
      (fun _ _ allowed kept =>
        ⟨kept.1.step allowed, kept.2.trans (endKept_step kept.1 allowed)⟩)
      later (fun entry member => harmless entry (List.mem_append_right _ member))
  exact both.2

/-- A receiver imports two bytes and is then told to cancel. -/
def importingCalls : List OfferCall :=
  [.approveSend, .approveReceive, .acceptOffer sampleDecl, .appendBytes 0 [7, 9],
    .approveImport, .cancel, .approveImport]

theorem sample_import_final :
    (Logbook.after step (reset .receiver) importingCalls).state = .imported ∧
      (Logbook.after step (reset .receiver) importingCalls).staging = [] := by
  have final :=
    end_states_final .receiver importingCalls (by decide)
      (importingCalls.take 5) (importingCalls.drop 5) rfl
  have imported :
      (Logbook.after step (reset .receiver) (importingCalls.take 5)).state =
        .imported := by
    decide +kernel
  obtain ⟨state, staging, _⟩ := final.imported imported
  exact ⟨state, staging⟩

/-- A receiver cancels the offer, and a byte of it arrives late. -/
def lateCalls : List OfferCall :=
  [.approveSend, .approveReceive, .acceptOffer sampleDecl, .cancel,
    .appendBytes 0 [7]]

/-- The late byte brings the discarded staging back. -/
theorem late_append_revives :
    ¬ EndKept
      (Logbook.after step (reset .receiver) (lateCalls.take 4))
      (Logbook.after step (reset .receiver) lateCalls) := by
  intro kept
  have live := (kept.ended (by decide)).2.2.1
  exact absurd live (by decide)

end ContentOfferScheduler

end FlyNes.Content
