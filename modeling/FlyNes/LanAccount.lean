import Mathlib.Data.List.Induction
import FlyNes.LanParty

namespace FlyNes.LanMvp

open Wire (Kind Message)

/-!
# Reading a history

A history tells which messages a side has sent and received, which frames it
has handed to its runtime and which digests it has published.  Each entry is
stamped with where in the life of the connection it belongs: the lobby
generation the side held, the number of times it had cleared its game and the
number of `Start` messages it had sent or received.
-/

/-- The messages a history sends. -/
def posted (log : List Effect) : List Message :=
  log.filterMap fun
    | .queued _ message => some message
    | _ => none

/-- The messages a history has received. -/
def heard (log : List Effect) : List Message :=
  log.filterMap fun
    | .received _ _ message => some message
    | _ => none

@[simp] theorem posted_append
    (first second : List Effect) :
    posted (first ++ second) = posted first ++ posted second := by
  simp [posted]

@[simp] theorem heard_append
    (first second : List Effect) :
    heard (first ++ second) = heard first ++ heard second := by
  simp [heard]

/-- A message that takes a guest into a lobby of its host. -/
def OpensLobby (message : Message) : Prop :=
  message.kind = .lobby ∧ message.payload.length = 8

instance (message : Message) : Decidable (OpensLobby message) :=
  inferInstanceAs
    (Decidable (message.kind = .lobby ∧ message.payload.length = 8))

/--
A place in the life of a connection: the generation as the code counts it, the
number of cleared games and the number of rounds started.
-/
structure Stamp where
  generation : Nat := 0
  epoch : Nat := 0
  round : Nat := 0
deriving DecidableEq

/-- A message under way, stamped by its sender. -/
structure Letter where
  stamp : Stamp
  message : Message
deriving DecidableEq

/-- A message received, stamped by its receiver just before it acts on it. -/
structure Receipt where
  state : State
  stamp : Stamp
  message : Message
deriving DecidableEq

/-- What a history amounts to. -/
structure Account where
  epoch : Nat := 0
  round : Nat := 0
  posts : List Letter := []
  mail : List Receipt := []
  steps : List (Nat × FrameInput) := []
  digests : List (Nat × Nat × Hash) := []

/-- A `Start` message opens the next round. -/
def nextRound (round : Nat) (message : Message) : Nat :=
  if message.kind = .start then round + 1 else round

/-- Enter one deed into an account. -/
def Account.add (account : Account) : Effect → Account
  | .received state generation message =>
      { account with
        round := nextRound account.round message
        mail := account.mail ++
          [⟨state, ⟨generation, account.epoch, account.round⟩, message⟩] }
  | .queued generation message =>
      { account with
        round := nextRound account.round message
        posts := account.posts ++
          [⟨⟨generation, account.epoch, nextRound account.round message⟩,
            message⟩] }
  | .cleared =>
      { account with epoch := account.epoch + 1 }
  | .stepped _ input =>
      { account with steps := account.steps ++ [(account.round, input)] }
  | .published frame digest =>
      { account with
        digests := account.digests ++ [(account.round, frame, digest)] }
  | _ =>
      account

/-- The account of a whole history. -/
def accountOf (log : List Effect) : Account :=
  log.foldl Account.add {}

@[simp] theorem accountOf_append
    (log effects : List Effect) :
    accountOf (log ++ effects) = effects.foldl Account.add (accountOf log) := by
  simp [accountOf]

/-- The account lists exactly the messages sent. -/
theorem map_posts
    (log : List Effect) :
    (accountOf log).posts.map Letter.message = posted log := by
  induction log using List.reverseRecOn with
  | nil =>
      rfl
  | append_singleton log effect inductionHypothesis =>
      rw [accountOf_append, posted_append, ← inductionHypothesis]
      cases effect <;> simp [Account.add, posted]

/-- The account lists exactly the messages received. -/
theorem map_mail
    (log : List Effect) :
    (accountOf log).mail.map Receipt.message = heard log := by
  induction log using List.reverseRecOn with
  | nil =>
      rfl
  | append_singleton log effect inductionHypothesis =>
      rw [accountOf_append, heard_append, ← inductionHypothesis]
      cases effect <;> simp [Account.add, heard]

namespace Party

variable {R : Type}

/-- Where a party stands. -/
def stamp (party : Party R) : Stamp :=
  ⟨party.game.lobbyGeneration, (accountOf party.log).epoch,
    (accountOf party.log).round⟩

end Party

end FlyNes.LanMvp
