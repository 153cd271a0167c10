import FlyNes.ByteString
import FlyNes.CrashDisk

namespace FlyNes.App

open ByteString
open CrashDisk (Disk Ensures Fault Files WriteFault fileExists operate remove rename writeFile)

/-!
# Replacing a file

A file is written under a temporary name first.  The old file becomes the backup, then
the new one takes its place; if it cannot, the backup goes back.  What is loaded is the
live file, or the backup where there is none.
-/

inductive FileName where
  | live
  | tmp
  | bak
deriving DecidableEq

abbrev Folder := Files FileName UInt8

/-- What happens to the operations of a save, by their places in it. -/
structure SaveFaults where
  createDirectories : Fault := .passes
  write : WriteFault := .passes
  removeTorn : Fault := .passes
  removeBackup : Fault := .passes
  backUp : Fault := .passes
  removeRefused : Fault := .passes
  install : Fault := .passes
  restore : Fault := .passes
  removeUninstalled : Fault := .passes

/-- Put the temporary file in place; if that fails, undo the backup. -/
def installLive (faults : SaveFaults) : Disk FileName UInt8 Bool := do
  let installed ← rename .tmp .live faults.install
  if installed then
    return true
  else
    let present ← fileExists .bak
    if present then
      let _ ← rename .bak .live faults.restore
      let _ ← remove .tmp faults.removeUninstalled
      return false
    else
      let _ ← remove .tmp faults.removeUninstalled
      return false

def replaceLive (faults : SaveFaults) : Disk FileName UInt8 Bool := do
  let present ← fileExists .live
  if present then
    let _ ← remove .bak faults.removeBackup
    let backedUp ← rename .live .bak faults.backUp
    if backedUp then
      installLive faults
    else
      let _ ← remove .tmp faults.removeRefused
      return false
  else
    installLive faults

/-- Everything of a save behind the encoding. -/
def saveFile (bytes : Bytes) (faults : SaveFaults) : Disk FileName UInt8 Bool := do
  let created ← operate faults.createDirectories (fun _ => true) id
  if created then
    let written ← writeFile .tmp bytes faults.write
    if written then
      replaceLive faults
    else
      let _ ← remove .tmp faults.removeTorn
      return false
  else
    return false

/-- The file that is loaded. -/
def chosen (folder : Folder) : Option Bytes :=
  match folder .live with
  | some bytes => some bytes
  | none => folder .bak

/-! ### One good copy -/

/-- A save that succeeds is loaded; one that fails has changed nothing that is loaded. -/
def Replaced (old : Option Bytes) (bytes : Bytes) (success : Bool) (folder : Folder) : Prop :=
  chosen folder = if success then some bytes else old

/-- After a crash the old file or the new one is loaded. -/
def Survives (old : Option Bytes) (bytes : Bytes) (folder : Folder) : Prop :=
  chosen folder = old ∨ chosen folder = some bytes

variable {old : Option Bytes} {bytes : Bytes}

theorem chosen_update_tmp (folder : Folder) (content : Option Bytes) :
    chosen (Function.update folder .tmp content) = chosen folder := by
  simp [chosen]

/-- The temporary file is removed at the end of every failure. -/
theorem ensures_removeTmp (fault : Fault) :
    Ensures (fun folder => chosen folder = old)
      (do
        let _ ← remove .tmp fault
        return false)
      (Replaced old bytes) (Survives old bytes) := by
  refine (CrashDisk.ensures_remove fault ?_ ?_).bind fun _ => CrashDisk.ensures_pure ?_
  · intro folder same
    rw [chosen_update_tmp]
    exact same
  · exact fun _ same => .inl same
  · exact fun _ same => same

/-- The backup is what is loaded. -/
def OnlyBackup (old : Option Bytes) (folder : Folder) : Prop :=
  folder .live = none ∧ folder .bak = old

variable {folder : Folder}

theorem OnlyBackup.chosen
    (backup : OnlyBackup old folder) :
    chosen folder = old := by
  unfold App.chosen
  rw [backup.1]
  exact backup.2

/-- The backup goes back if it can, and is loaded either way. -/
theorem ensures_restore (fault : Fault) :
    Ensures (OnlyBackup old) (rename .bak .live fault) (fun _ folder => chosen folder = old)
      (Survives old bytes) := by
  have moved (folder : Folder) (backup : OnlyBackup old folder) :
      chosen
          (Function.update (Function.update folder .live (folder .bak)) .bak none) =
        old := by
    obtain ⟨live, rfl⟩ := backup
    cases present : folder .bak with
    | none => simp [chosen]
    | some bytes => simp [chosen]
  refine CrashDisk.ensures_operate fault _ ?_ ?_ ?_ ?_
  · exact fun folder backup _ => moved folder backup
  · exact fun folder backup => backup.chosen
  · exact fun folder backup => .inl backup.chosen
  · exact fun folder backup _ => .inl (moved folder backup)

/-- With no live file the backup is what is loaded, until the new file is in place. -/
theorem ensures_installLive (faults : SaveFaults) :
    Ensures (fun folder => OnlyBackup old folder ∧ folder .tmp = some bytes)
      (installLive faults) (Replaced old bytes) (Survives old bytes) := by
  have moved (folder : Folder) (tmp : folder .tmp = some bytes) :
      chosen
          (Function.update (Function.update folder .live (folder .tmp)) .tmp none) =
        some bytes := by
    simp [chosen, tmp]
  refine Ensures.bind
    (CrashDisk.ensures_operate faults.install
      (fun installed folder =>
        if installed then chosen folder = some bytes else OnlyBackup old folder)
      ?_ ?_ ?_ ?_) ?_
  · exact fun folder before _ => moved folder before.2
  · exact fun folder before => before.1
  · exact fun folder before => .inl before.1.chosen
  · exact fun folder before _ => .inr (moved folder before.2)
  · intro installed
    cases installed with
    | true => exact CrashDisk.ensures_pure fun _ new => new
    | false =>
        refine (CrashDisk.ensures_fileExists FileName.bak).bind fun present => ?_
        cases present with
        | true =>
            refine Ensures.bind ?_ fun _ => ensures_removeTmp faults.removeUninstalled
            exact (ensures_restore faults.restore).weaken (fun _ before => before.1)
              (fun _ _ same => same) fun _ survives => survives
        | false =>
            exact (ensures_removeTmp faults.removeUninstalled).weaken
              (fun _ before => OnlyBackup.chosen before.1) (fun _ _ same => same)
              fun _ survives => survives

/-- The live file is what is loaded, and the new one is ready. -/
structure OnlyLive (old : Option Bytes) (bytes : Bytes) (folder : Folder) : Prop where
  live : folder .live = old
  present : old.isSome = true
  tmp : folder .tmp = some bytes

theorem OnlyLive.chosen
    (ready : OnlyLive old bytes folder) :
    chosen folder = old := by
  obtain ⟨content, shown⟩ := Option.isSome_iff_exists.mp ready.present
  have live := ready.live
  rw [shown] at live
  rw [App.chosen, live, shown]

theorem ensures_removeBackup (fault : Fault) :
    Ensures (OnlyLive old bytes) (remove .bak fault) (fun _ => OnlyLive old bytes)
      (Survives old bytes) := by
  refine CrashDisk.ensures_remove fault ?_ ?_
  · intro folder ready
    exact ⟨by simpa using ready.live, ready.present, by simpa using ready.tmp⟩
  · exact fun _ ready => .inl ready.chosen

/-- The live file becomes the backup, whole. -/
theorem ensures_backUp (fault : Fault) :
    Ensures (OnlyLive old bytes) (rename .live .bak fault)
      (fun done folder =>
        if done then OnlyBackup old folder ∧ folder .tmp = some bytes
        else chosen folder = old)
      (Survives old bytes) := by
  have moved (folder : Folder) (ready : OnlyLive old bytes folder) :
      OnlyBackup old
          (Function.update (Function.update folder .bak (folder .live)) .live none) ∧
        Function.update (Function.update folder .bak (folder .live)) FileName.live none
            FileName.tmp =
          some bytes := by
    refine ⟨⟨?_, ?_⟩, ?_⟩
    · simp
    · simp [ready.live]
    · simp [ready.tmp]
  refine CrashDisk.ensures_operate fault _ ?_ ?_ ?_ ?_
  · exact fun folder ready _ => moved folder ready
  · exact fun folder ready => ready.chosen
  · exact fun folder ready => .inl ready.chosen
  · exact fun folder ready _ => .inl (moved folder ready).1.chosen

/-- A live file becomes the backup before the new one is put in place. -/
theorem ensures_replaceLive (faults : SaveFaults) :
    Ensures (fun folder => chosen folder = old ∧ folder .tmp = some bytes)
      (replaceLive faults) (Replaced old bytes) (Survives old bytes) := by
  refine (CrashDisk.ensures_fileExists FileName.live).bind fun present => ?_
  cases present with
  | true =>
      refine ((ensures_removeBackup faults.removeBackup).bind fun _ => ?_).weaken ?_
        (fun _ _ same => same) fun _ survives => survives
      · refine (ensures_backUp faults.backUp).bind fun backedUp => ?_
        cases backedUp with
        | true => exact ensures_installLive faults
        | false => exact ensures_removeTmp faults.removeRefused
      · rintro folder ⟨⟨same, tmp⟩, present⟩
        obtain ⟨content, live⟩ := Option.isSome_iff_exists.mp present
        unfold chosen at same
        rw [live] at same
        exact ⟨live.trans same, by rw [← same]; rfl, tmp⟩
  | false =>
      refine (ensures_installLive faults).weaken ?_ (fun _ _ same => same)
        fun _ survives => survives
      rintro folder ⟨⟨same, tmp⟩, absent⟩
      have live : folder .live = none := by
        simpa using absent
      refine ⟨⟨live, ?_⟩, tmp⟩
      unfold chosen at same
      rw [live] at same
      exact same

/-- However a save ends, what is loaded is the old file or the new one, and which of
them it is if the save returns. -/
theorem ensures_saveFile (bytes : Bytes) (faults : SaveFaults) :
    Ensures (fun folder => chosen folder = old) (saveFile bytes faults) (Replaced old bytes)
      (Survives old bytes) := by
  refine Ensures.bind
    (CrashDisk.ensures_operate faults.createDirectories (fun _ folder => chosen folder = old)
      (fun _ same _ => same) (fun _ same => same) (fun _ same => .inl same)
      fun _ same _ => .inl same) fun created => ?_
  cases created with
  | false => exact CrashDisk.ensures_pure fun _ same => same
  | true =>
      refine Ensures.bind
        ((CrashDisk.ensures_writeFile faults.write ?_).weaken (fun _ same => same)
          (fun _ _ written => written) fun _ same => .inl same) fun written => ?_
      · intro folder content same
        rw [chosen_update_tmp]
        exact same
      · cases written with
        | true =>
            exact (ensures_replaceLive faults).weaken
              (fun _ written => ⟨written.1, written.2 rfl⟩) (fun _ _ same => same)
              fun _ survives => survives
        | false =>
            exact (ensures_removeTmp faults.removeTorn).weaken (fun _ written => written.1)
              (fun _ _ same => same) fun _ survives => survives

end FlyNes.App
