import FlyNes.DualConfig

namespace FlyNes.Dual

open ByteString

/-!
# Consent to the configuration of a dual run

A confirm names a configuration and a revision.  As long as every configuration
has a counter of its own, no two bindings share their pair, so a confirm given
for an earlier binding is stale for good.
-/

/-- One call on the selection. -/
inductive ConfigCall where
  | selectContent (choiceId : Block 16)
  | confirmLocalPending
  | applyPeerPendingConfirm (id : Block 32) (revision : UInt64)
  | publishImportedChoice (choice : GameChoice)

/-- What a call has brought about. -/
inductive ConfigEvent where
  | bound (id : Block 32) (revision : UInt64)
  | localConfirmed
  | peerConfirmed (id : Block 32) (revision : UInt64)
deriving DecidableEq

/-- The binding an event is about, if it is one. -/
def ConfigEvent.binding : ConfigEvent → Option (Block 32 × UInt64)
  | .bound id revision => some (id, revision)
  | _ => none

/-- A selection with the history of its calls. -/
structure ConfigTrace where
  config : PendingConfig
  events : List ConfigEvent := []

namespace ConfigTrace

/-- Make one call and note what it has brought about. -/
def step
    (flags : RunFlags)
    (trace : ConfigTrace) : ConfigCall → ConfigTrace
  | .selectContent choiceId =>
      let (_, config) := trace.config.selectContent flags choiceId
      { config := config
        events :=
          if config.selected = true ∧
              ¬ trace.config.Bound config.pendingConfigId then
            trace.events ++
              [.bound config.pendingConfigId config.pendingConfigRevision]
          else
            trace.events }
  | .confirmLocalPending =>
      let (result, config) := trace.config.confirmLocalPending flags
      { config := config
        events :=
          if result = .ok then
            trace.events ++ [.localConfirmed]
          else
            trace.events }
  | .applyPeerPendingConfirm id revision =>
      let (result, config) :=
        trace.config.applyPeerPendingConfirm flags id revision
      { config := config
        events :=
          if result = .ok then
            trace.events ++ [.peerConfirmed id revision]
          else
            trace.events }
  | .publishImportedChoice choice =>
      { trace with config := (trace.config.publishImportedChoice choice).2 }

/-- Make a list of calls. -/
def run
    (flags : RunFlags)
    (trace : ConfigTrace)
    (calls : List ConfigCall) : ConfigTrace :=
  calls.foldl (step flags) trace

/-- All bindings, oldest first. -/
def bindings (trace : ConfigTrace) : List (Block 32 × UInt64) :=
  trace.events.filterMap ConfigEvent.binding

/-- Both players have confirmed the latest binding, and have done so after it. -/
def Agreed (trace : ConfigTrace) : Prop :=
  ∃ earlier later id revision,
    trace.events = earlier ++ .bound id revision :: later ∧
      later.filterMap ConfigEvent.binding = [] ∧
        .localConfirmed ∈ later ∧ .peerConfirmed id revision ∈ later

/-- What both players may rely on. -/
structure Consensual (flags : RunFlags) (trace : ConfigTrace) : Prop where
  distinct : trace.bindings.Nodup
  stale : ∀ binding ∈ trace.bindings.dropLast,
    trace.config.applyPeerPendingConfirm flags binding.1 binding.2 =
      (if trace.config.selected && !flags.frozen &&
          trace.config.pendingStartBound then
        .stale
      else
        .invalidState, trace.config)
  agreed : ∀ inputs ref,
    trace.config.readStartRef flags inputs = .ok ref → trace.Agreed

end ConfigTrace

/-- The counter of a configuration, when it has one. -/
def bindCount
    (entries : List BindRevision)
    (id : Block 32) : Option UInt64 :=
  (entries.find? (·.id = id)).map (·.count)

variable {id : Block 32} {count : UInt64}

/-- A configuration that has a counter is counted on, and only it. -/
theorem countBinding_eq_some
    {entries counted : List BindRevision}
    (counts : countBinding id entries = some (count, counted)) :
    ∃ before,
      bindCount entries id = some before ∧ count = nextRevision before ∧
        bindCount counted id = some count ∧
          ∀ other, other ≠ id →
            bindCount counted other = bindCount entries other := by
  induction entries generalizing counted with
  | nil => cases counts
  | cons entry rest inductionHypothesis =>
      simp only [countBinding] at counts
      split at counts
      next isEntry =>
        simp only [Option.some.injEq, Prod.mk.injEq] at counts
        obtain ⟨rfl, rfl⟩ := counts
        refine ⟨entry.count, ?_, rfl, ?_, ?_⟩
        · simp [bindCount, isEntry]
        · simp [bindCount, isEntry]
        · intro other different
          have notEntry : entry.id ≠ other := fun same =>
            different (same.symm.trans isEntry)
          simp [bindCount, notEntry]
      next notEntry =>
        rw [Option.map_eq_some_iff] at counts
        obtain ⟨⟨restCount, restCounted⟩, restCounts, same⟩ := counts
        simp only [Prod.mk.injEq] at same
        obtain ⟨rfl, rfl⟩ := same
        obtain ⟨before, had, next, has, others⟩ := inductionHypothesis restCounts
        refine ⟨before, ?_, next, ?_, ?_⟩
        · simpa [bindCount, notEntry] using had
        · simpa [bindCount, notEntry] using has
        · intro other different
          by_cases isOther : entry.id = other
          · simp [bindCount, isOther]
          · simpa [bindCount, isOther] using others other different

variable {entries : List BindRevision}

theorem countBinding_eq_none
    (uncounted : countBinding id entries = none) :
    bindCount entries id = none := by
  induction entries with
  | nil => rfl
  | cons entry rest inductionHypothesis =>
      simp only [countBinding] at uncounted
      split at uncounted
      · cases uncounted
      next notEntry =>
        rw [Option.map_eq_none_iff] at uncounted
        simpa [bindCount, notEntry] using inductionHypothesis uncounted

/-- A new counter leaves the others alone. -/
theorem bindCount_append
    (absent : bindCount entries id = none)
    (count : UInt64)
    (other : Block 32) :
    bindCount (entries ++ [⟨id, count⟩]) other =
      if other = id then some count else bindCount entries other := by
  have notFound : ∀ entry ∈ entries, entry.id ≠ id := by
    simpa [bindCount] using absent
  by_cases same : other = id
  · subst same
    rw [if_pos rfl]
    have none : entries.find? (·.id = other) = none := by
      simpa using notFound
    simp [bindCount, none]
  · have notNew : ¬ id = other := fun isNew => same isNew.symm
    rw [if_neg same]
    unfold bindCount
    rw [List.find?_append]
    cases entries.find? (·.id = other) with
    | none => simp [notNew]
    | some entry => simp

theorem lt_nextRevision
    (below : count.toNat + 1 < 2 ^ 64) :
    count < nextRevision count := by
  have next : (count + 1).toNat = count.toNat + 1 := by
    simp only [UInt64.toNat_add, UInt64.toNat_one]
    omega
  have notZero : count + 1 ≠ 0 := by
    intro zero
    rw [zero] at next
    simp at next
  rw [nextRevision, if_neg notZero, UInt64.lt_iff_toNat_lt, next]
  omega

namespace PendingConfig

variable {config : PendingConfig}

/-- The configuration has a counter that can count on, or gets one. -/
def HasCounter (config : PendingConfig) (id : Block 32) : Prop :=
  match bindCount config.bindRevisions id with
  | some count => count.toNat + 1 < 2 ^ 64
  | none => config.bindRevisions.length < kMaxBindRevisions

instance (config : PendingConfig) (id : Block 32) :
    Decidable (config.HasCounter id) :=
  match found : bindCount config.bindRevisions id with
  | some count =>
      decidable_of_iff (count.toNat + 1 < 2 ^ 64) (by simp [HasCounter, found])
  | none =>
      decidable_of_iff (config.bindRevisions.length < kMaxBindRevisions)
        (by simp [HasCounter, found])

/-- The configuration that a selection would bind. -/
def choice?
    (flags : RunFlags)
    (choiceId : Block 16)
    (config : PendingConfig) : Option GameChoice :=
  if !config.catalogComplete || flags.frozen then
    none
  else
    (config.choices.find? (·.sourceChoiceRef = choiceId)).filter (·.selectable)

/-- The call binds nothing new, or something with a counter of its own. -/
def Roomy
    (flags : RunFlags)
    (config : PendingConfig) : ConfigCall → Prop
  | .selectContent choiceId =>
      ∀ choice ∈ config.choice? flags choiceId,
        config.Bound (pendingConfigFingerprint choice) ∨
          config.HasCounter (pendingConfigFingerprint choice)
  | _ => True

instance (flags : RunFlags) (config : PendingConfig) (call : ConfigCall) :
    Decidable (config.Roomy flags call) :=
  match call with
  | .selectContent choiceId =>
      inferInstanceAs
        (Decidable (∀ choice ∈ config.choice? flags choiceId, _ ∨ _))
  | .confirmLocalPending | .applyPeerPendingConfirm _ _
  | .publishImportedChoice _ =>
      inferInstanceAs (Decidable True)

/-- A selection binds its choice, or changes nothing. -/
theorem selectContent_eq
    (flags : RunFlags)
    (choiceId : Block 16)
    (config : PendingConfig) :
    (config.selectContent flags choiceId).2 =
      match config.choice? flags choiceId with
      | none => config
      | some choice => config.bindPendingConfig choice := by
  unfold selectContent choice?
  split
  · rfl
  · cases config.choices.find? (·.sourceChoiceRef = choiceId) with
    | none => rfl
    | some choice =>
        cases selectable : choice.selectable <;>
          simp [selectable, Option.filter]

variable {choice : GameChoice}

/-- The same configuration again changes nothing that matters. -/
theorem bindPendingConfig_again
    (bound : config.Bound (pendingConfigFingerprint choice)) :
    config.bindPendingConfig choice =
      { config with
        selectedRef := choice.sourceChoiceRef
        selectedContent := choice.contentId
        pendingStartBound := startConditionsBound choice } := by
  simp only [bindPendingConfig, if_pos bound]
  rw [bound.1, bound.2]

/-- Another configuration gets a revision it never had. -/
theorem bindPendingConfig_new
    (unbound : ¬ config.Bound (pendingConfigFingerprint choice))
    (counter : config.HasCounter (pendingConfigFingerprint choice)) :
    (config.bindPendingConfig choice).selected = true ∧
      (config.bindPendingConfig choice).pendingConfigId =
        pendingConfigFingerprint choice ∧
      (config.bindPendingConfig choice).localConfirmed = false ∧
      (config.bindPendingConfig choice).peerConfirmed = false ∧
      bindCount (config.bindPendingConfig choice).bindRevisions
          (pendingConfigFingerprint choice) =
        some (config.bindPendingConfig choice).pendingConfigRevision ∧
      (∀ count,
        bindCount config.bindRevisions (pendingConfigFingerprint choice) =
            some count →
          count < (config.bindPendingConfig choice).pendingConfigRevision) ∧
      ∀ other, other ≠ pendingConfigFingerprint choice →
        bindCount (config.bindPendingConfig choice).bindRevisions other =
          bindCount config.bindRevisions other := by
  simp only [bindPendingConfig, if_neg unbound, revisionForBind]
  unfold HasCounter at counter
  cases counts :
      countBinding (pendingConfigFingerprint choice) config.bindRevisions with
  | none =>
      have absent := countBinding_eq_none counts
      rw [absent] at counter
      simp only at counter
      simp only [if_pos counter]
      refine ⟨trivial, trivial, trivial, trivial, ?_, ?_, ?_⟩
      · rw [bindCount_append absent, if_pos rfl]
      · intro count present
        rw [absent] at present
        cases present
      · intro other different
        rw [bindCount_append absent, if_neg different]
  | some counted =>
      obtain ⟨count, entries⟩ := counted
      obtain ⟨before, had, next, has, others⟩ := countBinding_eq_some counts
      rw [had] at counter
      refine ⟨rfl, rfl, rfl, rfl, has, ?_, others⟩
      intro old present
      rw [had] at present
      cases present
      rw [next]
      exact lt_nextRevision counter

end PendingConfig

namespace ConfigTrace

variable {flags : RunFlags}
variable {trace : ConfigTrace}

/-- What the history says about the selection. -/
structure Sound (trace : ConfigTrace) : Prop where
  counted : ∀ binding ∈ trace.bindings,
    ∃ count,
      bindCount trace.config.bindRevisions binding.1 = some count ∧
        binding.2 ≤ count
  distinct : trace.bindings.Nodup
  latest : trace.config.selected = true →
    ∃ earlier later,
      trace.events =
          earlier ++
            .bound trace.config.pendingConfigId
              trace.config.pendingConfigRevision :: later ∧
        later.filterMap ConfigEvent.binding = [] ∧
        (trace.config.localConfirmed = true → .localConfirmed ∈ later) ∧
        (trace.config.peerConfirmed = true →
          .peerConfirmed trace.config.pendingConfigId
            trace.config.pendingConfigRevision ∈ later)

/-- Events that bind nothing leave the bindings as they are. -/
theorem bindings_append
    (config : PendingConfig)
    (events more : List ConfigEvent) :
    bindings { config := config, events := events ++ more } =
      bindings { config := config, events := events } ++
        more.filterMap ConfigEvent.binding :=
  List.filterMap_append ..

variable {config : PendingConfig}

/-- A confirm keeps the invariant. -/
theorem Sound.confirm
    (sound : trace.Sound)
    {event : ConfigEvent}
    (noBinding : event.binding = none)
    (table : config.bindRevisions = trace.config.bindRevisions)
    (selected : config.selected = trace.config.selected)
    (id : config.pendingConfigId = trace.config.pendingConfigId)
    (revision : config.pendingConfigRevision =
      trace.config.pendingConfigRevision)
    (localConfirmed : config.localConfirmed = true →
      trace.config.localConfirmed = true ∨ event = .localConfirmed)
    (peerConfirmed : config.peerConfirmed = true →
      trace.config.peerConfirmed = true ∨
        event = .peerConfirmed trace.config.pendingConfigId
          trace.config.pendingConfigRevision) :
    Sound { config := config, events := trace.events ++ [event] } := by
  have sameBindings :
      bindings { config := config, events := trace.events ++ [event] } =
        trace.bindings := by
    rw [bindings_append]
    simp [noBinding, bindings]
  refine ⟨?_, ?_, ?_⟩
  · rw [sameBindings]
    simp only [table]
    exact sound.counted
  · rw [sameBindings]
    exact sound.distinct
  · intro isSelected
    simp only [selected] at isSelected
    obtain ⟨earlier, later, events, noLater, hasLocal, hasPeer⟩ :=
      sound.latest isSelected
    refine ⟨earlier, later ++ [event], ?_, ?_, ?_, ?_⟩
    · simp [events, id, revision]
    · simp [noLater, noBinding]
    · intro confirmed
      rcases localConfirmed confirmed with before | now
      · exact List.mem_append_left _ (hasLocal before)
      · simp [now]
    · intro confirmed
      simp only [id, revision]
      rcases peerConfirmed confirmed with before | now
      · exact List.mem_append_left _ (hasPeer before)
      · simp [now]

/-- A choice of the same configuration keeps the invariant. -/
theorem Sound.same
    (sound : trace.Sound)
    (table : config.bindRevisions = trace.config.bindRevisions)
    (selected : config.selected = trace.config.selected)
    (id : config.pendingConfigId = trace.config.pendingConfigId)
    (revision : config.pendingConfigRevision =
      trace.config.pendingConfigRevision)
    (localConfirmed : config.localConfirmed = trace.config.localConfirmed)
    (peerConfirmed : config.peerConfirmed = trace.config.peerConfirmed) :
    Sound { config := config, events := trace.events } := by
  refine ⟨?_, sound.distinct, ?_⟩
  · simp only [table]
    exact sound.counted
  · simp only [selected, id, revision, localConfirmed, peerConfirmed]
    exact sound.latest

/-- Binding a configuration with a counter of its own keeps the invariant. -/
theorem Sound.bind
    (sound : trace.Sound)
    {choice : GameChoice}
    (unbound : ¬ trace.config.Bound (pendingConfigFingerprint choice))
    (counter : trace.config.HasCounter (pendingConfigFingerprint choice)) :
    Sound
      { config := trace.config.bindPendingConfig choice
        events :=
          trace.events ++
            [.bound (pendingConfigFingerprint choice)
              (trace.config.bindPendingConfig choice).pendingConfigRevision] } := by
  obtain ⟨_, id, noLocal, noPeer, has, fresh, others⟩ :=
    PendingConfig.bindPendingConfig_new unbound counter
  refine ⟨?_, ?_, ?_⟩
  · rw [bindings_append]
    intro binding member
    rcases List.mem_append.mp member with old | new
    · obtain ⟨count, had, below⟩ := sound.counted binding old
      by_cases same : binding.1 = pendingConfigFingerprint choice
      · rw [same] at had ⊢
        exact ⟨_, has, UInt64.le_trans below (UInt64.le_of_lt (fresh count had))⟩
      · exact ⟨count, (others _ same).trans had, below⟩
    · simp only [List.filterMap_cons, ConfigEvent.binding, List.filterMap_nil,
        List.mem_singleton] at new
      subst new
      exact ⟨_, has, UInt64.le_refl _⟩
  · rw [bindings_append, List.nodup_append]
    refine ⟨sound.distinct, by simp [ConfigEvent.binding], ?_⟩
    intro binding old other new same
    simp only [List.filterMap_cons, ConfigEvent.binding, List.filterMap_nil,
      List.mem_singleton] at new
    subst new
    subst same
    obtain ⟨count, had, below⟩ := sound.counted _ old
    have above := fresh count had
    rw [UInt64.lt_iff_toNat_lt] at above
    simp only [UInt64.le_iff_toNat_le] at below
    omega
  · intro _
    refine ⟨trace.events, [], ?_, rfl, ?_, ?_⟩
    · simp [id]
    · simp [noLocal]
    · simp [noPeer]

/-- A call with room keeps the invariant. -/
theorem Sound.step
    (sound : trace.Sound)
    {call : ConfigCall}
    (roomy : trace.config.Roomy flags call) :
    (trace.step flags call).Sound := by
  cases call with
  | selectContent choiceId =>
      simp only [ConfigTrace.step, PendingConfig.selectContent_eq]
      cases chosen : trace.config.choice? flags choiceId with
      | none =>
          simp only
          rw [if_neg]
          · exact sound
          · exact fun ⟨selected, unbound⟩ => unbound ⟨selected, rfl⟩
      | some choice =>
          simp only
          by_cases bound :
              trace.config.Bound (pendingConfigFingerprint choice)
          · rw [PendingConfig.bindPendingConfig_again bound, if_neg]
            · exact sound.same rfl rfl rfl rfl rfl rfl
            · exact fun ⟨selected, unbound⟩ => unbound ⟨selected, rfl⟩
          · have counter := (roomy choice chosen).resolve_left bound
            obtain ⟨selected, id, _⟩ :=
              PendingConfig.bindPendingConfig_new bound counter
            rw [selected, id, if_pos ⟨rfl, bound⟩]
            exact sound.bind bound counter
  | confirmLocalPending =>
      simp only [ConfigTrace.step, PendingConfig.confirmLocalPending]
      split
      · exact sound.same rfl rfl rfl rfl rfl rfl
      · exact sound.confirm rfl rfl rfl rfl rfl (fun _ => Or.inr rfl) Or.inl
  | applyPeerPendingConfirm id revision =>
      simp only [ConfigTrace.step, PendingConfig.applyPeerPendingConfirm]
      split
      · exact sound.same rfl rfl rfl rfl rfl rfl
      split
      · exact sound.same rfl rfl rfl rfl rfl rfl
      next current =>
        split
        · exact sound.same rfl rfl rfl rfl rfl rfl
        · simp only [not_or, not_not] at current
          obtain ⟨rfl, rfl⟩ := current
          exact sound.confirm rfl rfl rfl rfl rfl Or.inl (fun _ => Or.inr rfl)
  | publishImportedChoice choice => exact sound.same rfl rfl rfl rfl rfl rfl

/-- Every call of the run has room. -/
def Roomy
    (flags : RunFlags)
    (trace : ConfigTrace) : List ConfigCall → Prop
  | [] => True
  | call :: calls =>
      trace.config.Roomy flags call ∧ Roomy flags (trace.step flags call) calls

instance instDecidableRoomy
    (flags : RunFlags)
    (trace : ConfigTrace) :
    (calls : List ConfigCall) → Decidable (trace.Roomy flags calls)
  | [] => inferInstanceAs (Decidable True)
  | call :: calls =>
      have := instDecidableRoomy flags (trace.step flags call) calls
      inferInstanceAs (Decidable (_ ∧ _))

theorem Sound.run
    (sound : trace.Sound)
    {calls : List ConfigCall}
    (roomy : trace.Roomy flags calls) :
    (trace.run flags calls).Sound := by
  induction calls generalizing trace with
  | nil => exact sound
  | cons call calls inductionHypothesis =>
      exact inductionHypothesis (sound.step roomy.1) roomy.2

/-- The latest binding is the one the selection names. -/
theorem Sound.bindings_eq
    (sound : trace.Sound)
    (selected : trace.config.selected = true) :
    ∃ earlier,
      trace.bindings =
        earlier ++
          [(trace.config.pendingConfigId,
            trace.config.pendingConfigRevision)] := by
  obtain ⟨earlier, later, events, noLater, _⟩ := sound.latest selected
  refine ⟨earlier.filterMap ConfigEvent.binding, ?_⟩
  simp [bindings, events, noLater, ConfigEvent.binding]

theorem Sound.consensual
    (sound : trace.Sound) :
    trace.Consensual flags := by
  refine ⟨sound.distinct, ?_, ?_⟩
  · intro binding member
    unfold PendingConfig.applyPeerPendingConfirm
    by_cases open_ :
        (!trace.config.selected || flags.frozen ||
          !trace.config.pendingStartBound) = true
    · rw [if_pos open_, if_neg]
      intro ready
      simp only [Bool.and_eq_true, Bool.not_eq_true'] at ready
      simp [ready] at open_
    · simp only [Bool.or_eq_true, Bool.not_eq_true', not_or,
        Bool.not_eq_false, Bool.not_eq_true] at open_
      obtain ⟨⟨selected, notFrozen⟩, startBound⟩ := open_
      obtain ⟨earlier, split⟩ := sound.bindings_eq selected
      rw [split, List.dropLast_concat] at member
      have distinct := sound.distinct
      rw [split, List.nodup_append] at distinct
      have other : binding ≠
          (trace.config.pendingConfigId,
            trace.config.pendingConfigRevision) :=
        distinct.2.2 binding member _ (by simp)
      have outdated :
          trace.config.pendingConfigId ≠ binding.1 ∨
            binding.2 ≠ trace.config.pendingConfigRevision := by
        by_contra current
        simp only [not_or, not_not] at current
        exact other (Prod.ext current.1.symm current.2)
      simp only [selected, notFrozen, startBound, if_pos outdated]
      rfl
  · intro inputs ref started
    unfold PendingConfig.readStartRef at started
    split at started
    · cases started
    next ready =>
      split at started
      · cases started
      next confirmed =>
        simp only [Bool.or_eq_true, Bool.not_eq_true', not_or,
          Bool.not_eq_false] at ready confirmed
        obtain ⟨earlier, later, events, noLater, hasLocal, hasPeer⟩ :=
          sound.latest ready.1.1.1.1.1
        exact ⟨earlier, later, _, _, events, noLater, hasLocal confirmed.1,
          hasPeer confirmed.2⟩

/--
As long as every binding has a counter of its own, no two bindings share their
pair, confirms for earlier ones are stale and a start needs both confirms of the
latest one.
-/
theorem consent_is_for_the_latest_binding
    (flags : RunFlags)
    (choices : List GameChoice)
    (catalogComplete : Bool)
    (calls : List ConfigCall)
    (roomy :
      Roomy flags
        { config :=
            { choices := choices, catalogComplete := catalogComplete } }
        calls) :
    (run flags
      { config := { choices := choices, catalogComplete := catalogComplete } }
      calls).Consensual flags := by
  have fresh : Sound
      { config :=
          { choices := choices, catalogComplete := catalogComplete } } :=
    ⟨by simp [bindings], by simp [bindings], by simp⟩
  exact (fresh.run roomy).consensual

/-- A game with all its conditions known. -/
def gameOf (octet : UInt8) : GameChoice :=
  { contentId := Block.copy 32 [octet]
    sourceChoiceRef := Block.copy 16 [octet]
    coreId := Block.copy 32 [1]
    profileId := Block.copy 32 [1]
    optionsId := Block.copy 32 [1] }

/-- Publish seventeen games and select some of them in turn. -/
def selecting (octets : List UInt8) : List ConfigCall :=
  (List.range 17).map (fun index =>
      .publishImportedChoice (gameOf (UInt8.ofNat (index + 1)))) ++
    octets.map fun octet => .selectContent (Block.copy 16 [octet])

theorem consent_is_for_the_latest_binding_of_two :
    (run {} { config := {} }
      (selecting [1, 2, 1] ++ [.confirmLocalPending])).Consensual {} :=
  consent_is_for_the_latest_binding {} [] false _ (by decide +kernel)

/-- The seventeenth game is bound twice under the same revision. -/
theorem seventeenth_game_repeats_its_binding :
    ¬ (run {} { config := {} }
      (selecting
        [1, 2, 3, 4, 5, 6, 7, 8, 9, 10, 11, 12, 13, 14, 15, 16, 17, 1, 17, 2,
          17])).Consensual {} := by
  intro consensual
  exact absurd consensual.distinct (by decide +kernel)

end ConfigTrace

end FlyNes.Dual
