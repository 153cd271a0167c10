import FlyNes.DualScheduler
import FlyNes.WireSha256

namespace FlyNes.Dual

open ByteString

/-!
# The configuration both players agree on

Selecting a game binds a configuration under its fingerprint and a revision.
Both players confirm the pair of the two before a run may start.  The revision
counts how often the configuration was bound, in a table with room for sixteen
configurations; without room one counter serves all others.
-/

/-- A game on offer, with the conditions its start is bound to. -/
structure GameChoice where
  contentId : Block 32 := default
  sourceChoiceRef : Block 16 := default
  selectable : Bool := true
  coreId : Block 32 := default
  profileId : Block 32 := default
  optionsId : Block 32 := default
deriving DecidableEq

/-- How often a configuration was bound. -/
structure BindRevision where
  id : Block 32
  count : UInt64
deriving DecidableEq

/-- Number of configurations with a counter of their own. -/
def kMaxBindRevisions : Nat := 16

/-- Where a run stands, as far as the configuration depends on it. -/
structure RunFlags where
  localRuntimeReady : Bool := false
  running : Bool := false
  paused : Bool := false
  frozen : Bool := false
deriving DecidableEq

/-- The selection of one player. -/
structure PendingConfig where
  choices : List GameChoice := []
  catalogComplete : Bool := false
  selected : Bool := false
  selectedRef : Block 16 := default
  selectedContent : Block 32 := default
  pendingConfigId : Block 32 := default
  pendingConfigRevision : UInt64 := 0
  localConfirmed : Bool := false
  peerConfirmed : Bool := false
  pendingStartBound : Bool := false
  bindRevisions : List BindRevision := []
deriving DecidableEq

/-- What `start_dual` is given. -/
structure DualStartInputs where
  sessionId : Block 16 := default
  branchId : Block 16 := default
  localIsInitiator : Bool := true
  localSigningPublic : Block 65 := default
  peerSigningPublic : Block 65 := default
  quicConnection : UInt64 := 0
  localIsListener : Bool := false
  hasRuntime : Bool := false
deriving DecidableEq

/-- The identity of a start. -/
structure DualStartRef where
  content : DualContentRef
  sourceChoiceRef : Block 16
  pendingConfigId : Block 32
  pendingConfigRevision : UInt64
deriving DecidableEq

/-- All conditions of the start are known. -/
def startConditionsBound (choice : GameChoice) : Bool :=
  !allZero choice.contentId && !allZero choice.coreId &&
    !allZero choice.profileId && !allZero choice.optionsId

/-- The bytes of `flynes-pending-config-v1`. -/
def kPendingConfigDomain : Bytes :=
  [0x66, 0x6c, 0x79, 0x6e, 0x65, 0x73, 0x2d, 0x70, 0x65, 0x6e, 0x64, 0x69,
    0x6e, 0x67, 0x2d, 0x63, 0x6f, 0x6e, 0x66, 0x69, 0x67, 0x2d, 0x76, 0x31]

/-- The hash of everything two players have to agree on. -/
def pendingConfigFingerprint (choice : GameChoice) : Block 32 :=
  Wire.domainHash kPendingConfigDomain
    (choice.contentId.bytes ++ choice.coreId.bytes ++ choice.profileId.bytes ++
      choice.optionsId.bytes ++ bigEndian 4 1 ++ bigEndian 4 0 ++
      bigEndian 4 0 ++ bigEndian 4 1)

/-- Count on; zero is skipped. -/
def nextRevision (count : UInt64) : UInt64 :=
  if count + 1 = 0 then 1 else count + 1

/-- Count one more binding of a configuration that has a counter. -/
def countBinding
    (id : Block 32) :
    List BindRevision → Option (UInt64 × List BindRevision)
  | [] => none
  | entry :: rest =>
      if entry.id = id then
        some (nextRevision entry.count,
          { entry with count := nextRevision entry.count } :: rest)
      else
        (countBinding id rest).map fun (count, rest) => (count, entry :: rest)

namespace PendingConfig

/-- The revision of a new binding of this configuration. -/
def revisionForBind
    (id : Block 32)
    (config : PendingConfig) : UInt64 × PendingConfig :=
  match countBinding id config.bindRevisions with
  | some (count, entries) => (count, { config with bindRevisions := entries })
  | none =>
      if config.bindRevisions.length < kMaxBindRevisions then
        (1,
          { config with
            bindRevisions := config.bindRevisions ++ [⟨id, 1⟩] })
      else
        (nextRevision config.pendingConfigRevision,
          { config with
            pendingConfigRevision :=
              nextRevision config.pendingConfigRevision })

/-- This configuration is the one that is bound. -/
def Bound (config : PendingConfig) (id : Block 32) : Prop :=
  config.selected = true ∧ config.pendingConfigId = id

instance (config : PendingConfig) (id : Block 32) :
    Decidable (config.Bound id) :=
  inferInstanceAs (Decidable (_ ∧ _))

/-- Bind the configuration of a choice; another one voids both confirms. -/
def bindPendingConfig
    (choice : GameChoice)
    (config : PendingConfig) : PendingConfig :=
  let fingerprint := pendingConfigFingerprint choice
  let chosen : PendingConfig :=
    { config with
      selectedRef := choice.sourceChoiceRef
      selectedContent := choice.contentId
      pendingConfigId := fingerprint
      selected := true
      pendingStartBound := startConditionsBound choice }
  if config.Bound fingerprint then
    chosen
  else
    let (revision, counted) :=
      revisionForBind fingerprint
        { chosen with localConfirmed := false, peerConfirmed := false }
    { counted with pendingConfigRevision := revision }

/-- Select one of the games on offer. -/
def selectContent
    (flags : RunFlags)
    (choiceId : Block 16)
    (config : PendingConfig) : SessionResult × PendingConfig :=
  if !config.catalogComplete || flags.frozen then
    (.invalidState, config)
  else
    match config.choices.find? (·.sourceChoiceRef = choiceId) with
    | none => (.invalidArgument, config)
    | some choice =>
        if !choice.selectable then
          (.invalidArgument, config)
        else
          (.ok, config.bindPendingConfig choice)

def confirmLocalPending
    (flags : RunFlags)
    (config : PendingConfig) : SessionResult × PendingConfig :=
  if !config.selected || flags.frozen || !config.pendingStartBound then
    (.invalidState, config)
  else
    (.ok, { config with localConfirmed := true })

/-- The peer confirms a configuration under a revision. -/
def applyPeerPendingConfirm
    (flags : RunFlags)
    (id : Block 32)
    (revision : UInt64)
    (config : PendingConfig) : SessionResult × PendingConfig :=
  if !config.selected || flags.frozen || !config.pendingStartBound then
    (.invalidState, config)
  else if config.pendingConfigId ≠ id ∨
      revision ≠ config.pendingConfigRevision then
    (.stale, config)
  else if config.peerConfirmed then
    (.duplicate, config)
  else
    (.ok, { config with peerConfirmed := true })

/-- Offer one more game. -/
def publishImportedChoice
    (choice : GameChoice)
    (config : PendingConfig) : SessionResult × PendingConfig :=
  (.ok,
    { config with
      choices := config.choices ++ [choice]
      catalogComplete := true })

/-- The identity of the start that both players have confirmed. -/
def readStartRef
    (flags : RunFlags)
    (inputs : DualStartInputs)
    (config : PendingConfig) : Except SessionResult DualStartRef :=
  if !config.selected || !config.pendingStartBound || flags.running ||
      flags.frozen || flags.paused || flags.localRuntimeReady then
    .error .invalidState
  else if !config.localConfirmed || !config.peerConfirmed then
    .error .invalidState
  else if !inputs.hasRuntime || inputs.quicConnection = 0 then
    .error .unavailable
  else if allZero inputs.sessionId || allZero inputs.branchId ||
      allZero config.selectedContent then
    .error .invalidArgument
  else
    .ok
      { content :=
          { sessionId := inputs.sessionId
            branchId := inputs.branchId
            contentHash := config.selectedContent
            timelineEpoch := 1 }
        sourceChoiceRef := config.selectedRef
        pendingConfigId := config.pendingConfigId
        pendingConfigRevision := config.pendingConfigRevision }

end PendingConfig

end FlyNes.Dual
