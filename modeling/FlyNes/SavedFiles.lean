import FlyNes.CatalogCodec
import FlyNes.SafeSave
import FlyNes.SettingsFile

namespace FlyNes.App

open ByteString
open ByteReader (Stop)
open CrashDisk (Disk)

/-!
# Saving the catalog and the settings

Both are encoded, and the encoding replaces a file.  Loading falls back to a default
where there is no file or it cannot be read.
-/

section Loading

variable {Value : Type}

/-- Read the chosen file, if it is not too long. -/
def loadFile
    (decode : Bytes → Except Stop Value)
    (fallback : Value)
    (folder : Folder) : Value :=
  match chosen folder with
  | none => fallback
  | some encoded =>
      if encoded.length > kMaxBytes then
        fallback
      else
        match decode encoded with
        | .ok value => value
        | .error _ => fallback

def saveEncoded (encoded : Option Bytes) (faults : SaveFaults) : Disk FileName UInt8 Bool :=
  match encoded with
  | none => pure false
  | some bytes => saveFile bytes faults

end Loading

def loadCatalog : Folder → CatalogData :=
  loadFile decodeFile {}

def saveCatalog (catalog : CatalogData) : SaveFaults → Disk FileName UInt8 Bool :=
  saveEncoded (encodeFile catalog)

def loadSettings : Folder → SettingsData :=
  loadFile Settings.decodeFile {}

def saveSettings (settings : SettingsData) : SaveFaults → Disk FileName UInt8 Bool :=
  saveEncoded (Settings.encodeFile settings)

/-! ### Saves one after another -/

section Saves

variable {Value : Type}

/-- A save of a value, and what happens to its operations. -/
structure Attempt (Value : Type) where
  value : Value
  faults : SaveFaults

/-- The files after saves that may each have failed or crashed. -/
def afterSaves
    (save : Value → SaveFaults → Disk FileName UInt8 Bool)
    (folder : Folder)
    (attempts : List (Attempt Value)) : Folder :=
  attempts.foldl (fun folder attempt => (save attempt.value attempt.faults folder).2) folder

/-- What may be loaded after a save, by how it has ended. -/
def MayLoad (value : Value) (ended : Option Bool) (old new : Value) : Prop :=
  match ended with
  | some true => new = value
  | some false => new = old
  | none => new = old ∨ new = value

/-- A file that is read as a value. -/
structure ReadsAs
    (decode : Bytes → Except Stop Value)
    (bytes : Bytes)
    (value : Value) : Prop where
  few : bytes.length ≤ kMaxBytes
  decoded : decode bytes = .ok value

variable {decode : Bytes → Except Stop Value} {fallback value : Value}

theorem loadFile_congr
    {folder folder' : Folder}
    (same : chosen folder = chosen folder') :
    loadFile decode fallback folder = loadFile decode fallback folder' := by
  unfold loadFile
  rw [same]

theorem loadFile_of_readsAs
    {folder : Folder}
    {bytes : Bytes}
    (reads : ReadsAs decode bytes value)
    (picked : chosen folder = some bytes) :
    loadFile decode fallback folder = value := by
  unfold loadFile
  rw [picked]
  simp only [reads.decoded]
  exact if_neg (Nat.not_lt.mpr reads.few)

/-- A save changes what is loaded to its value, or not at all. -/
theorem mayLoad_saveEncoded
    {encoded : Option Bytes}
    (reads : ∀ bytes, encoded = some bytes → ReadsAs decode bytes value)
    (faults : SaveFaults)
    (folder : Folder) :
    MayLoad value (saveEncoded encoded faults folder).1
      (loadFile decode fallback folder)
      (loadFile decode fallback (saveEncoded encoded faults folder).2) := by
  cases encoded with
  | none => rfl
  | some bytes =>
      have new (later : Folder) (picked : chosen later = some bytes) :
          loadFile decode fallback later = value :=
        loadFile_of_readsAs (reads bytes rfl) picked
      have outcome := ensures_saveFile bytes faults folder rfl
      change MayLoad value (saveFile bytes faults folder).1 _
        (loadFile decode fallback (saveFile bytes faults folder).2)
      generalize saveFile bytes faults folder = ended at outcome ⊢
      obtain ⟨success, later⟩ := ended
      cases success with
      | none =>
          rcases outcome with same | replaced
          · exact .inl (loadFile_congr same)
          · exact .inr (new later replaced)
      | some success =>
          cases success with
          | true => exact new later outcome
          | false => exact loadFile_congr outcome

/-- What is loaded was there at first, or has been saved since. -/
theorem load_afterSaves
    {load : Folder → Value}
    {save : Value → SaveFaults → Disk FileName UInt8 Bool}
    {attempts : List (Attempt Value)}
    (keeps : ∀ attempt ∈ attempts, ∀ folder,
      MayLoad attempt.value (save attempt.value attempt.faults folder).1 (load folder)
        (load (save attempt.value attempt.faults folder).2))
    (folder : Folder) :
    load (afterSaves save folder attempts) = load folder ∨
      ∃ attempt ∈ attempts, load (afterSaves save folder attempts) = attempt.value := by
  induction attempts generalizing folder with
  | nil => exact .inl rfl
  | cons attempt rest inductionHypothesis =>
      rw [List.forall_mem_cons] at keeps
      have first := keeps.1 folder
      change
        load (afterSaves save (save attempt.value attempt.faults folder).2 rest) = _ ∨
          ∃ other ∈ attempt :: rest,
            load (afterSaves save (save attempt.value attempt.faults folder).2 rest) =
              other.value
      generalize save attempt.value attempt.faults folder = ended at first ⊢
      obtain ⟨success, later⟩ := ended
      rcases inductionHypothesis keeps.2 later with same | ⟨other, member, found⟩
      · rw [same]
        have here : load later = load folder ∨ load later = attempt.value := by
          cases success with
          | none => exact first
          | some success =>
              cases success with
              | true => exact .inr first
              | false => exact .inl first
        refine here.imp_right fun saved => ⟨attempt, List.mem_cons_self, saved⟩
      · exact .inr ⟨other, List.mem_cons_of_mem attempt member, found⟩

end Saves

theorem mayLoad_saveCatalog (catalog : CatalogData) (faults : SaveFaults) (folder : Folder) :
    MayLoad catalog (saveCatalog catalog faults folder).1 (loadCatalog folder)
      (loadCatalog (saveCatalog catalog faults folder).2) := by
  refine mayLoad_saveEncoded (fun bytes encoded => ?_) faults folder
  obtain ⟨fits, few, rfl⟩ := encodeFile_eq_some.mp encoded
  exact ⟨few, decodeFile_eq_ok.mpr ⟨fits, few, rfl⟩⟩

theorem mayLoad_saveSettings
    {settings : SettingsData}
    (fits : Settings.Fits settings)
    (faults : SaveFaults)
    (folder : Folder) :
    MayLoad settings (saveSettings settings faults folder).1 (loadSettings folder)
      (loadSettings (saveSettings settings faults folder).2) := by
  refine mayLoad_saveEncoded (fun bytes encoded => ?_) faults folder
  have decoded := Settings.decodeFile_encodeFile fits encoded
  obtain ⟨few, rfl⟩ := Settings.encodeFile_eq_some.mp encoded
  exact ⟨few, decoded⟩

/-- Whatever has failed or crashed before, a save that returns true is what is loaded,
one that returns false has no effect, and one that crashes has its whole effect or none.
The texts of settings are short enough to be read: settings are only saved once they
have been checked, and the check admits far shorter ones. -/
theorem saves_are_atomic :
    (∀ folder attempts catalog faults,
      let before := afterSaves saveCatalog folder attempts
      let ended := saveCatalog catalog faults before
      MayLoad catalog ended.1 (loadCatalog before) (loadCatalog ended.2)) ∧
    (∀ folder attempts,
      loadCatalog (afterSaves saveCatalog folder attempts) = loadCatalog folder ∨
        ∃ attempt ∈ attempts,
          loadCatalog (afterSaves saveCatalog folder attempts) = attempt.value) ∧
    (∀ folder attempts settings faults,
      Settings.Fits settings →
      let before := afterSaves saveSettings folder attempts
      let ended := saveSettings settings faults before
      MayLoad settings ended.1 (loadSettings before) (loadSettings ended.2)) ∧
    ∀ folder (attempts : List (Attempt SettingsData)),
      (∀ attempt ∈ attempts, Settings.Fits attempt.value) →
      loadSettings (afterSaves saveSettings folder attempts) = loadSettings folder ∨
        ∃ attempt ∈ attempts,
          loadSettings (afterSaves saveSettings folder attempts) = attempt.value := by
  refine ⟨?_, ?_, ?_, ?_⟩
  · intro folder attempts catalog faults
    exact mayLoad_saveCatalog catalog faults _
  · intro folder attempts
    exact load_afterSaves (fun attempt _ => mayLoad_saveCatalog attempt.value attempt.faults)
      folder
  · intro folder attempts settings faults fits
    exact mayLoad_saveSettings fits faults _
  · intro folder attempts fits
    exact load_afterSaves
      (fun attempt member => mayLoad_saveSettings (fits attempt member) attempt.faults) folder

/-- Settings that differ from the defaults in one number. -/
def aspect (mode : UInt32) : SettingsData where
  aspectMode := mode

theorem saveSettings_aspect (mode : UInt32) :
    saveSettings (aspect mode) =
      saveFile (sealedBytes Settings.kMagic (Settings.encodePayload (aspect mode))) := by
  have few :
      (sealedBytes Settings.kMagic (Settings.encodePayload (aspect mode))).length ≤
        kMaxBytes := by
    rw [length_sealedBytes rfl]
    simp [aspect, Settings.encodePayload, Settings.appendString, kMaxBytes]
  unfold saveSettings
  rw [Settings.encodeFile_eq_some.mpr ⟨few, rfl⟩]
  rfl

/-- A save, one that crashes between its renames, and one that cannot rename. -/
def troubled : List (Attempt SettingsData) :=
  [⟨aspect 1, {}⟩, ⟨aspect 2, { backUp := .crashes true }⟩, ⟨aspect 3, { install := .fails }⟩]

/-- The first settings are still loaded, and the next save replaces them. -/
theorem sample_saves :
    loadSettings (afterSaves saveSettings (fun _ => none) troubled) = aspect 1 ∧
      loadSettings (afterSaves saveSettings (fun _ => none) (troubled ++ [⟨aspect 4, {}⟩])) =
        aspect 4 := by
  have saves (attempts : List (Attempt SettingsData)) (mode : UInt32) (faults : SaveFaults) :=
    saves_are_atomic.2.2.1 (fun _ => none) attempts (aspect mode) faults
      ⟨by simp [aspect, Settings.kMaxStringBytes], by simp [aspect, Settings.kMaxStringBytes]⟩
  have first := saves [] 1 {}
  have third := saves (troubled.take 2) 3 { install := .fails }
  have fourth := saves troubled 4 {}
  simp only [troubled, afterSaves, List.take, List.foldl, List.cons_append, List.nil_append,
    saveSettings_aspect] at first third fourth ⊢
  exact ⟨third.trans (Eq.trans (loadFile_congr rfl) first), fourth⟩

end FlyNes.App
