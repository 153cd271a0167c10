import Mathlib.Logic.Function.Basic

namespace CrashDisk

/-!
# Files that survive a crash

Named files with contents.  A rename and a removal are atomic, a write may stop at any
point; every operation may fail or be the last one before a crash.  A program over
such files has a condition for each way in which it ends: with a result, or in a crash.
-/

variable {Name Byte Result Next : Type}

/-- The contents of the files that there are. -/
abbrev Files (Name Byte : Type) := Name → Option (List Byte)

/-- A program ends with a result, or crashes; the files stay either way. -/
def Disk (Name Byte Result : Type) :=
  Files Name Byte → Option Result × Files Name Byte

/-- What happens to an operation that is done whole or not at all. -/
inductive Fault where
  | passes
  | fails
  | crashes (applied : Bool)
deriving DecidableEq

/-- What happens to a write. -/
inductive WriteFault where
  | passes
  | refused
  | torn (count : Nat)
  | crashes (count : Option Nat)
deriving DecidableEq

instance : Monad (Disk Name Byte) where
  pure result files := (some result, files)
  bind program next files :=
    match program files with
    | (some result, files) => next result files
    | (none, files) => (none, files)

section Operations

variable [DecidableEq Name]

/-- An atomic change, where it is possible. -/
def operate
    (fault : Fault)
    (possible : Files Name Byte → Bool)
    (change : Files Name Byte → Files Name Byte) : Disk Name Byte Bool :=
  fun files =>
    match fault with
    | .passes => if possible files then (some true, change files) else (some false, files)
    | .fails => (some false, files)
    | .crashes applied => (none, if applied && possible files then change files else files)

/-- Remove a file; there may be none. -/
def remove (name : Name) (fault : Fault) : Disk Name Byte Bool :=
  operate fault (fun _ => true) fun files => Function.update files name none

/-- Give a file another name, in place of what had it. -/
def rename (source target : Name) (fault : Fault) : Disk Name Byte Bool :=
  operate fault (fun files => (files source).isSome) fun files =>
    Function.update (Function.update files target (files source)) source none

def fileExists (name : Name) : Disk Name Byte Bool :=
  fun files => (some (files name).isSome, files)

/-- Write a new file.  It may not be opened, and it may end too early. -/
def writeFile (name : Name) (bytes : List Byte) (fault : WriteFault) : Disk Name Byte Bool :=
  fun files =>
    match fault with
    | .passes => (some true, Function.update files name (some bytes))
    | .refused => (some false, files)
    | .torn count => (some false, Function.update files name (some (bytes.take count)))
    | .crashes none => (none, files)
    | .crashes (some count) =>
        (none, Function.update files name (some (bytes.take count)))

end Operations

/-- From files of one kind a program ends in files of others. -/
def Ensures
    (before : Files Name Byte → Prop)
    (program : Disk Name Byte Result)
    (result : Result → Files Name Byte → Prop)
    (crash : Files Name Byte → Prop) : Prop :=
  ∀ files, before files →
    match program files with
    | (some value, after) => result value after
    | (none, after) => crash after

section Rules

variable {before before' : Files Name Byte → Prop}
variable {program : Disk Name Byte Result} {next : Result → Disk Name Byte Next}
variable {result : Result → Files Name Byte → Prop}
variable {result' : Next → Files Name Byte → Prop}
variable {crash : Files Name Byte → Prop}

theorem ensures_pure
    {value : Result}
    (holds : ∀ files, before files → result value files) :
    Ensures before (pure value) result crash :=
  holds

theorem Ensures.bind
    (first : Ensures before program result crash)
    (second : ∀ value, Ensures (result value) (next value) result' crash) :
    Ensures before (program >>= next) result' crash := by
  intro files holds
  have outcome := first files holds
  change
    match
      (match program files with
        | (some value, files) => next value files
        | (none, files) => (none, files)) with
    | (some value, after) => result' value after
    | (none, after) => crash after
  generalize program files = ended at outcome ⊢
  obtain ⟨value, after⟩ := ended
  cases value with
  | none => exact outcome
  | some value => exact second value after outcome

/-- A program may be asked for less. -/
theorem Ensures.weaken
    {less : Result → Files Name Byte → Prop}
    {crash' : Files Name Byte → Prop}
    (ensures : Ensures before program result crash)
    (stronger : ∀ files, before' files → before files)
    (weaker : ∀ value files, result value files → less value files)
    (weaker' : ∀ files, crash files → crash' files) :
    Ensures before' program less crash' := by
  intro files holds
  have outcome := ensures files (stronger files holds)
  generalize program files = ended at outcome ⊢
  obtain ⟨value, after⟩ := ended
  cases value with
  | none => exact weaker' after outcome
  | some value => exact weaker value after outcome

/-- An atomic change is there or not, and says so unless it is the last one. -/
theorem ensures_operate
    {possible : Files Name Byte → Bool}
    {change : Files Name Byte → Files Name Byte}
    (fault : Fault)
    (after : Bool → Files Name Byte → Prop)
    (done : ∀ files, before files → possible files = true → after true (change files))
    (undone : ∀ files, before files → after false files)
    (crashed : ∀ files, before files → crash files)
    (crashed' : ∀ files, before files → possible files = true → crash (change files)) :
    Ensures before (operate fault possible change) after crash := by
  intro files holds
  cases fault with
  | passes =>
      cases able : possible files with
      | true => simpa [operate, able] using done files holds able
      | false => simpa [operate, able] using undone files holds
  | fails => exact undone files holds
  | crashes applied =>
      cases able : applied && possible files with
      | true =>
          simp only [operate, able, if_true]
          exact crashed' files holds (Bool.and_eq_true_iff.mp able).2
      | false =>
          simp only [operate, able, Bool.false_eq_true, if_false]
          exact crashed files holds

theorem ensures_fileExists
    (name : Name) :
    Ensures before (fileExists name)
      (fun found files => before files ∧ (files name).isSome = found) crash :=
  fun _ holds => ⟨holds, rfl⟩

variable [DecidableEq Name]

/-- What a removal leaves alone holds whether it removes or not. -/
theorem ensures_remove
    {name : Name}
    (fault : Fault)
    (keeps : ∀ files, before files → before (Function.update files name none))
    (crashed : ∀ files, before files → crash files) :
    Ensures before (remove name fault) (fun _ => before) crash :=
  ensures_operate fault (fun _ => before) (fun files holds _ => keeps files holds)
    (fun _ holds => holds) crashed fun files holds _ => crashed _ (keeps files holds)

/-- What a write leaves alone holds however the write ends. -/
theorem ensures_writeFile
    {name : Name}
    {bytes : List Byte}
    (fault : WriteFault)
    (keeps : ∀ files content, before files → before (Function.update files name content)) :
    Ensures before (writeFile name bytes fault)
      (fun done files => before files ∧ (done = true → files name = some bytes)) before := by
  intro files holds
  cases fault with
  | passes => exact ⟨keeps _ _ holds, fun _ => Function.update_self _ _ _⟩
  | refused => exact ⟨holds, nofun⟩
  | torn count => exact ⟨keeps _ _ holds, nofun⟩
  | crashes count =>
      cases count with
      | none => exact holds
      | some count => exact keeps _ _ holds

end Rules

end CrashDisk
