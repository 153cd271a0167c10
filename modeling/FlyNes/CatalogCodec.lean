import FlyNes.CatalogFile

namespace FlyNes.App

open ByteString
open ByteReader (Reader Read Stop takeBlock takeBytes takeMany takeU8 takeU32 takeU64 require)
open ByteWriter (Write Puts putMany)
open FlyNes.Wire (sha256)

/-!
# One encoding for one catalog

What is written for a record is a format that reading takes back, and no format is the
beginning of another one.  So a catalog has one file, and a file has one catalog.
-/

/-! ### Formats -/

def blobBytes (data : Bytes) : Bytes :=
  ByteReader.putU32 (UInt32.ofNat data.length) ++ data

def i32Bytes (value : Int32) : Bytes :=
  ByteReader.putU32 value.toUInt32

def sourceBytes (source : SourceRecord) : Bytes :=
  source.key.uuid.bytes ++
    (ByteReader.putU32 source.key.scope ++
      ByteReader.putU32 source.lastCompleteness)

def entryBytes (entry : CatalogEntryData) : Bytes :=
  entry.source.uuid.bytes ++ (ByteReader.putU32 entry.source.scope ++
    (ByteReader.putU64 entry.payloadSize ++ (ByteReader.putU64 entry.physicalSize ++
      (ByteReader.putU64 entry.expectedBytes ++ (ByteReader.putU64 entry.prgBytes ++
        (ByteReader.putU64 entry.chrBytes ++ (i32Bytes entry.mapper ++
          (i32Bytes entry.submapper ++ (ByteReader.putU32 entry.diskSides ++
            (entry.payloadSha1.bytes ++ (entry.payloadSha256.bytes ++
              (entry.physicalSha256.bytes ++ (entry.payloadCrc32.bytes ++
                (ByteReader.putU32 entry.packageFormat ++
                  (ByteReader.putU32 entry.romFormat ++
                    (ByteReader.putU32 entry.compatibilityState ++
                      (ByteReader.putU32 entry.compatibilityReason ++
                        (ByteReader.putU32 entry.freshness ++
                          (ByteReader.putU32 entry.flags ++
                            (blobBytes entry.canonicalId ++ (blobBytes entry.variantId ++
                              (blobBytes entry.displayName ++
                                (blobBytes entry.sourceRelativePath ++
                                  (blobBytes entry.packageId ++
                                    (blobBytes entry.zipRawName ++
                                      i32Bytes entry.zipLocalHeaderOffset)))))))))))))))))))))))))

/-- The texts of an entry are short enough. -/
def EntryFits (entry : CatalogEntryData) : Prop :=
  entry.canonicalId.length ≤ kMaxStringBytes ∧ entry.variantId.length ≤ kMaxStringBytes ∧
    entry.displayName.length ≤ kMaxStringBytes ∧
    entry.sourceRelativePath.length ≤ kMaxStringBytes ∧
    entry.packageId.length ≤ kMaxStringBytes ∧ entry.zipRawName.length ≤ kMaxStringBytes

def userBytes (user : UserRecord) : Bytes :=
  blobBytes user.canonicalId ++
    ([if user.favorite then 1 else 0] ++
      (ByteReader.putU64 user.favoriteRevision ++
        (ByteReader.putU64 user.lastPlayedSequence ++
          ByteReader.putU32 user.playCount)))

def UserFits (user : UserRecord) : Prop :=
  user.canonicalId.length ≤ kMaxStringBytes

section Reading

open ByteReader

theorem codes_takeI32 : Codes takeI32 i32Bytes fun _ => True := by
  intro reader value after
  simp only [takeI32, codes_takeU32.bind_eq_ok, pure_eq_ok, true_and]
  constructor
  · rintro ⟨raw, holds, rfl, rfl⟩
    rw [i32Bytes, UInt32.toUInt32_toInt32]
    exact ⟨holds, rfl⟩
  · rintro ⟨holds, rfl⟩
    exact ⟨value.toUInt32, holds, Int32.toInt32_toUInt32 value, rfl⟩

theorem codes_takeBlob :
    Codes takeBlob blobBytes fun data => data.length ≤ kMaxStringBytes :=
  codes_takeU32.blob (by decide)

theorem codes_takeSource : Codes takeSource sourceBytes fun _ => True := by
  intro reader source after
  simp only [takeSource, (codes_takeBlock 16).bind_eq_ok, codes_takeU32.bind_eq_ok, pure_eq_ok,
    true_and, sourceBytes, Reader.holds_append, Reader.skip_skip, List.length_append,
    ← Nat.add_assoc]
  constructor
  · rintro ⟨uuid, h1, scope, h2, completeness, h3, rfl, rfl⟩
    exact ⟨⟨h1, h2, h3⟩, rfl⟩
  · rintro ⟨⟨h1, h2, h3⟩, rfl⟩
    exact ⟨_, h1, _, h2, _, h3, rfl, rfl⟩

theorem codes_takeEntry : Codes takeEntry entryBytes EntryFits := by
  intro reader entry after
  constructor
  · intro taken
    obtain ⟨uuid, -, h1, taken⟩ := (codes_takeBlock 16).bind_eq_ok.mp taken
    obtain ⟨scope, -, h2, taken⟩ := codes_takeU32.bind_eq_ok.mp taken
    obtain ⟨payloadSize, -, h3, taken⟩ := codes_takeU64.bind_eq_ok.mp taken
    obtain ⟨physicalSize, -, h4, taken⟩ := codes_takeU64.bind_eq_ok.mp taken
    obtain ⟨expectedBytes, -, h5, taken⟩ := codes_takeU64.bind_eq_ok.mp taken
    obtain ⟨prgBytes, -, h6, taken⟩ := codes_takeU64.bind_eq_ok.mp taken
    obtain ⟨chrBytes, -, h7, taken⟩ := codes_takeU64.bind_eq_ok.mp taken
    obtain ⟨mapper, -, h8, taken⟩ := (Codes.bind_eq_ok codes_takeI32).mp taken
    obtain ⟨submapper, -, h9, taken⟩ := (Codes.bind_eq_ok codes_takeI32).mp taken
    obtain ⟨diskSides, -, h10, taken⟩ := codes_takeU32.bind_eq_ok.mp taken
    obtain ⟨payloadSha1, -, h11, taken⟩ := (codes_takeBlock 20).bind_eq_ok.mp taken
    obtain ⟨payloadSha256, -, h12, taken⟩ := (codes_takeBlock 32).bind_eq_ok.mp taken
    obtain ⟨physicalSha256, -, h13, taken⟩ := (codes_takeBlock 32).bind_eq_ok.mp taken
    obtain ⟨payloadCrc32, -, h14, taken⟩ := (codes_takeBlock 4).bind_eq_ok.mp taken
    obtain ⟨packageFormat, -, h15, taken⟩ := codes_takeU32.bind_eq_ok.mp taken
    obtain ⟨romFormat, -, h16, taken⟩ := codes_takeU32.bind_eq_ok.mp taken
    obtain ⟨compatibilityState, -, h17, taken⟩ := codes_takeU32.bind_eq_ok.mp taken
    obtain ⟨compatibilityReason, -, h18, taken⟩ := codes_takeU32.bind_eq_ok.mp taken
    obtain ⟨freshness, -, h19, taken⟩ := codes_takeU32.bind_eq_ok.mp taken
    obtain ⟨flags, -, h20, taken⟩ := codes_takeU32.bind_eq_ok.mp taken
    obtain ⟨canonicalId, f1, h21, taken⟩ := (Codes.bind_eq_ok codes_takeBlob).mp taken
    obtain ⟨variantId, f2, h22, taken⟩ := (Codes.bind_eq_ok codes_takeBlob).mp taken
    obtain ⟨displayName, f3, h23, taken⟩ := (Codes.bind_eq_ok codes_takeBlob).mp taken
    obtain ⟨sourceRelativePath, f4, h24, taken⟩ := (Codes.bind_eq_ok codes_takeBlob).mp taken
    obtain ⟨packageId, f5, h25, taken⟩ := (Codes.bind_eq_ok codes_takeBlob).mp taken
    obtain ⟨zipRawName, f6, h26, taken⟩ := (Codes.bind_eq_ok codes_takeBlob).mp taken
    obtain ⟨zipLocalHeaderOffset, -, h27, taken⟩ := (Codes.bind_eq_ok codes_takeI32).mp taken
    obtain ⟨rfl, rfl⟩ := pure_eq_ok.mp taken
    simp only [entryBytes, Reader.holds_append, Reader.skip_skip, List.length_append,
      ← Nat.add_assoc] at *
    exact ⟨⟨f1, f2, f3, f4, f5, f6⟩, ⟨h1, h2, h3, h4, h5, h6, h7, h8, h9, h10, h11, h12, h13,
      h14, h15, h16, h17, h18, h19, h20, h21, h22, h23, h24, h25, h26, h27⟩, trivial⟩
  · rintro ⟨fits, holds, rfl⟩
    obtain ⟨f1, f2, f3, f4, f5, f6⟩ := fits
    simp only [entryBytes, Reader.holds_append, Reader.skip_skip] at holds
    obtain ⟨h1, h2, h3, h4, h5, h6, h7, h8, h9, h10, h11, h12, h13,
      h14, h15, h16, h17, h18, h19, h20, h21, h22, h23, h24, h25, h26, h27⟩ := holds
    simp only [takeEntry, takeString, (codes_takeBlock _).bind_eq_ok,
      codes_takeU32.bind_eq_ok, codes_takeU64.bind_eq_ok, Codes.bind_eq_ok codes_takeI32,
      Codes.bind_eq_ok codes_takeBlob, pure_eq_ok, true_and, entryBytes, Reader.skip_skip,
      List.length_append, ← Nat.add_assoc]
    exact ⟨_, h1, _, h2, _, h3, _, h4, _, h5, _, h6, _, h7, _, h8, _, h9, _, h10, _, h11, _,
      h12, _, h13, _, h14, _, h15, _, h16, _, h17, _, h18, _, h19, _, h20, _, f1, h21, _, f2,
      h22, _, f3, h23, _, f4, h24, _, f5, h25, _, f6, h26, _, h27, rfl, rfl⟩

/-- A flag is one of two octets. -/
theorem favorite_octet
    {octet : UInt8}
    (few : ¬ octet > 1) :
    (if (octet != 0) = true then 1 else 0) = octet := by
  have below : octet.toNat ≤ 1 := UInt8.le_iff_toNat_le.mp (UInt8.not_lt.mp few)
  rcases Nat.le_one_iff_eq_zero_or_eq_one.mp below with zero | one
  · obtain rfl : octet = 0 := UInt8.toNat_inj.mp zero
    rfl
  · obtain rfl : octet = 1 := UInt8.toNat_inj.mp one
    rfl

theorem favorite_flag (favorite : Bool) :
    ((if favorite = true then 1 else 0 : UInt8) != 0) = favorite := by
  cases favorite <;> rfl

theorem codes_takeUser : Codes takeUser userBytes UserFits := by
  intro reader user after
  simp only [takeUser, takeString, Codes.bind_eq_ok codes_takeBlob, codes_takeU8.bind_eq_ok,
    require_bind_eq_ok, codes_takeU64.bind_eq_ok, codes_takeU32.bind_eq_ok, pure_eq_ok,
    true_and, userBytes, Reader.holds_append, Reader.skip_skip, List.length_append,
    ← Nat.add_assoc]
  constructor
  · rintro ⟨canonicalId, fits, h1, favorite, h2, flag, revision, h3, sequence, h4, count, h5,
      rfl, rfl⟩
    have octet := favorite_octet (by simpa using flag : ¬ favorite > 1)
    dsimp only
    rw [octet]
    exact ⟨fits, ⟨h1, h2, h3, h4, h5⟩, rfl⟩
  · rintro ⟨fits, ⟨h1, h2, h3, h4, h5⟩, rfl⟩
    refine ⟨_, fits, h1, _, h2, ?_, _, h3, _, h4, _, h5, ?_, rfl⟩
    · cases user.favorite <;> rfl
    · rw [favorite_flag]

/-- A count and the records that it counts. -/
theorem codes_takeCount :
    Codes takeCount (fun count => ByteReader.putU32 (UInt32.ofNat count))
      fun count => count ≤ kMaxCount := by
  intro reader count after
  simp only [takeCount, codes_takeU32.bind_eq_ok, require_bind_eq_ok, pure_eq_ok, true_and]
  constructor
  · rintro ⟨raw, holds, few, rfl, rfl⟩
    rw [UInt32.ofNat_toNat]
    exact ⟨by simpa using few, holds, rfl⟩
  · rintro ⟨few, holds, rfl⟩
    have small : count < 2 ^ 32 := Nat.lt_of_le_of_lt few (by decide)
    have sized : (UInt32.ofNat count).toNat = count := UInt32.toNat_ofNat_of_lt' small
    refine ⟨_, holds, ?_, sized, rfl⟩
    rw [sized]
    simpa using few

end Reading

/-! ### Records -/

/-- Everything between the version and the hash. -/
def payloadBytes (catalog : CatalogData) : Bytes :=
  ByteReader.putU64 catalog.generation ++
    (ByteReader.putU32 (UInt32.ofNat catalog.sources.length) ++
      (catalog.sources.flatMap sourceBytes ++
        (ByteReader.putU32 (UInt32.ofNat catalog.entries.length) ++
          (catalog.entries.flatMap entryBytes ++
            (ByteReader.putU32 (UInt32.ofNat catalog.users.length) ++
              (catalog.users.flatMap userBytes ++
                (ByteReader.putU64 catalog.nextFavoriteRevision ++
                  ByteReader.putU64 catalog.nextPlaySequence)))))))

/-- There are not too many records, and their texts are short enough. -/
structure CatalogFits (catalog : CatalogData) : Prop where
  sources : catalog.sources.length ≤ kMaxCount
  entries : catalog.entries.length ≤ kMaxCount
  users : catalog.users.length ≤ kMaxCount
  entryTexts : ∀ entry ∈ catalog.entries, EntryFits entry
  userTexts : ∀ user ∈ catalog.users, UserFits user

section Payload

open ByteReader

theorem codes_takeRecords : Codes takeRecords payloadBytes CatalogFits := by
  intro reader catalog after
  simp only [takeRecords, codes_takeU64.bind_eq_ok, Codes.bind_eq_ok codes_takeCount,
    Codes.bind_eq_ok (Codes.takeMany codes_takeSource _),
    Codes.bind_eq_ok (Codes.takeMany codes_takeEntry _),
    Codes.bind_eq_ok (Codes.takeMany codes_takeUser _), pure_eq_ok, true_and, payloadBytes,
    Reader.holds_append, Reader.skip_skip, List.length_append, ← Nat.add_assoc]
  constructor
  · rintro ⟨generation, h1, _, few1, h2, sources, ⟨rfl, -⟩, h3, _, few2, h4, entries,
      ⟨rfl, texts⟩, h5, _, few3, h6, users, ⟨rfl, texts'⟩, h7, revision, h8, sequence, h9,
      rfl, rfl⟩
    exact ⟨⟨few1, few2, few3, texts, texts'⟩, ⟨h1, h2, h3, h4, h5, h6, h7, h8, h9⟩, rfl⟩
  · rintro ⟨⟨few1, few2, few3, texts, texts'⟩, ⟨h1, h2, h3, h4, h5, h6, h7, h8, h9⟩, rfl⟩
    exact ⟨_, h1, _, few1, h2, _, ⟨rfl, by simp⟩, h3, _, few2, h4, _, ⟨rfl, texts⟩, h5, _,
      few3, h6, _, ⟨rfl, texts'⟩, h7, _, h8, _, h9, rfl, rfl⟩

/-- A payload is read if it is the one that is written, and nothing follows. -/
theorem decodePayload_eq_ok {reader after : Reader} {catalog : CatalogData} :
    decodePayload reader = .ok (catalog, after) ↔
      CatalogFits catalog ∧ reader.Ends (payloadBytes catalog) ∧
        after = reader.skip (payloadBytes catalog).length := by
  simp only [decodePayload, Codes.bind_eq_ok codes_takeRecords, get_bind_eq_ok,
    require_bind_eq_ok,
    pure_eq_ok, Reader.ends_iff]
  constructor
  · rintro ⟨_, fits, holds, ends, rfl, rfl⟩
    exact ⟨fits, ⟨holds, ends⟩, rfl⟩
  · rintro ⟨fits, ⟨holds, ends⟩, rfl⟩
    exact ⟨catalog, fits, holds, ends, rfl, rfl⟩

/-- Nothing is read outside of a payload. -/
theorem safe_takeBlob : Safe takeBlob :=
  safe_takeU32.bind fun _ => (safe_require _).bind fun _ => safe_takeBytes _

theorem safe_takeI32 : Safe takeI32 :=
  safe_takeU32.bind fun _ => safe_pure _

theorem safe_takeSource : Safe takeSource :=
  (safe_takeBlock 16).bind fun _ => safe_takeU32.bind fun _ => safe_takeU32.bind fun _ =>
    safe_pure _

theorem safe_takeEntry : Safe takeEntry := by
  unfold takeEntry
  refine (safe_takeBlock 16).bind fun _ => safe_takeU32.bind fun _ => ?_
  refine safe_takeU64.bind fun _ => safe_takeU64.bind fun _ => safe_takeU64.bind fun _ => ?_
  refine safe_takeU64.bind fun _ => safe_takeU64.bind fun _ => ?_
  refine safe_takeI32.bind fun _ => safe_takeI32.bind fun _ => safe_takeU32.bind fun _ => ?_
  refine (safe_takeBlock 20).bind fun _ => (safe_takeBlock 32).bind fun _ => ?_
  refine (safe_takeBlock 32).bind fun _ => (safe_takeBlock 4).bind fun _ => ?_
  refine safe_takeU32.bind fun _ => safe_takeU32.bind fun _ => safe_takeU32.bind fun _ => ?_
  refine safe_takeU32.bind fun _ => safe_takeU32.bind fun _ => safe_takeU32.bind fun _ => ?_
  refine safe_takeBlob.bind fun _ => safe_takeBlob.bind fun _ => safe_takeBlob.bind fun _ => ?_
  refine safe_takeBlob.bind fun _ => safe_takeBlob.bind fun _ => safe_takeBlob.bind fun _ => ?_
  exact safe_takeI32.bind fun _ => safe_pure _

theorem safe_takeUser : Safe takeUser :=
  safe_takeBlob.bind fun _ => safe_takeU8.bind fun _ => (safe_require _).bind fun _ =>
    safe_takeU64.bind fun _ => safe_takeU64.bind fun _ => safe_takeU32.bind fun _ =>
      safe_pure _

theorem safe_takeCount : Safe takeCount :=
  safe_takeU32.bind fun _ => (safe_require _).bind fun _ => safe_pure _

theorem safe_takeRecords : Safe takeRecords := by
  unfold takeRecords
  refine safe_takeU64.bind fun _ => safe_takeCount.bind fun _ => ?_
  refine (safe_takeSource.takeMany _).bind fun _ => safe_takeCount.bind fun _ => ?_
  refine (safe_takeEntry.takeMany _).bind fun _ => safe_takeCount.bind fun _ => ?_
  refine (safe_takeUser.takeMany _).bind fun _ => ?_
  exact safe_takeU64.bind fun _ => safe_takeU64.bind fun _ => safe_pure _

theorem safe_decodePayload : Safe decodePayload :=
  safe_takeRecords.bind fun _ => safe_get.bind fun _ => (safe_require _).bind fun _ =>
    safe_pure _

end Payload

section Writing

open ByteWriter

theorem puts_putString (text : Bytes) :
    Puts kMaxBytes (putString text) (text.length ≤ kMaxStringBytes) (blobBytes text) :=
  puts_putBlob kMaxStringBytes text

theorem puts_putI32 (value : Int32) : Puts kMaxBytes (putI32 value) True (i32Bytes value) :=
  puts_putU32 value.toUInt32

theorem puts_putSource (source : SourceRecord) :
    Puts kMaxBytes (putSource source) True (sourceBytes source) :=
  ((puts_putBytes _).append ((puts_putU32 _).append (puts_putU32 _))).of_eq (by simp) rfl

theorem puts_putEntry (entry : CatalogEntryData) :
    Puts kMaxBytes (putEntry entry) (EntryFits entry) (entryBytes entry) := by
  refine Puts.of_eq
    ((puts_putBytes _).append ((puts_putU32 _).append ((puts_putU64 _).append
      ((puts_putU64 _).append ((puts_putU64 _).append ((puts_putU64 _).append
        ((puts_putU64 _).append ((puts_putI32 _).append ((puts_putI32 _).append
          ((puts_putU32 _).append ((puts_putBytes _).append ((puts_putBytes _).append
            ((puts_putBytes _).append ((puts_putBytes _).append ((puts_putU32 _).append
              ((puts_putU32 _).append ((puts_putU32 _).append ((puts_putU32 _).append
                ((puts_putU32 _).append ((puts_putU32 _).append
                  ((puts_putString _).append ((puts_putString _).append
                    ((puts_putString _).append ((puts_putString _).append
                      ((puts_putString _).append ((puts_putString _).append
                        (puts_putI32 _)))))))))))))))))))))))))))
    ?_ rfl
  simp only [true_and, and_true, EntryFits]

theorem puts_putUser (user : UserRecord) :
    Puts kMaxBytes (putUser user) (UserFits user) (userBytes user) :=
  ((puts_putString _).append ((puts_putU8 _).append ((puts_putU64 _).append
    ((puts_putU64 _).append (puts_putU32 _))))).of_eq (by simp [UserFits]) rfl

theorem puts_encodePayload (catalog : CatalogData) :
    Puts kMaxBytes (encodePayload catalog) (CatalogFits catalog) (payloadBytes catalog) := by
  have records :=
    (@puts_putU64 kMaxBytes catalog.generation).append
      ((puts_putU32 (UInt32.ofNat catalog.sources.length)).append
        ((puts_putMany puts_putSource catalog.sources).append
          ((puts_putU32 (UInt32.ofNat catalog.entries.length)).append
            ((puts_putMany puts_putEntry catalog.entries).append
              ((puts_putU32 (UInt32.ofNat catalog.users.length)).append
                ((puts_putMany puts_putUser catalog.users).append
                  ((puts_putU64 catalog.nextFavoriteRevision).append
                    (puts_putU64 catalog.nextPlaySequence))))))))
  intro bytes within result
  unfold encodePayload
  split
  · next many =>
    constructor
    · intro written
      cases written
    · rintro ⟨fits, -⟩
      have := fits.sources
      have := fits.entries
      have := fits.users
      omega
  · next few =>
    refine (records bytes within result).trans (and_congr_left' ?_)
    constructor
    · rintro ⟨-, -, -, -, texts, -, texts', -⟩
      exact ⟨by omega, by omega, by omega, texts, texts'⟩
    · rintro ⟨-, -, -, texts, texts'⟩
      exact ⟨trivial, trivial, fun _ _ => trivial, trivial, texts, trivial, texts', trivial,
        trivial⟩

/-- The one encoding of a catalog. -/
def fileBytes (catalog : CatalogData) : Bytes :=
  sealedBytes kMagic (payloadBytes catalog)

theorem length_fileBytes (catalog : CatalogData) :
    (fileBytes catalog).length = 12 + (payloadBytes catalog).length + 32 :=
  length_sealedBytes rfl _

theorem encodeFile_eq_some {catalog : CatalogData} {file : Bytes} :
    encodeFile catalog = some file ↔
      CatalogFits catalog ∧ (fileBytes catalog).length ≤ kMaxBytes ∧
        file = fileBytes catalog := by
  have payload := puts_encodePayload catalog [] (Nat.zero_le _)
  have front (payload : Bytes) :=
    (@puts_putBytes kMaxBytes kMagic).append
      ((puts_putU32 kVersion).append (puts_putBytes payload)) [] (Nat.zero_le _)
  have length := length_fileBytes catalog
  unfold encodeFile
  constructor
  · intro encoded
    obtain ⟨_, first, encoded⟩ := Option.bind_eq_some_iff.mp encoded
    obtain ⟨fits, -, rfl⟩ := (payload _).mp first
    obtain ⟨_, second, encoded⟩ := Option.bind_eq_some_iff.mp encoded
    obtain ⟨-, room, rfl⟩ := (front _ _).mp second
    obtain ⟨_, third, encoded⟩ := Option.bind_eq_some_iff.mp encoded
    obtain ⟨-, room', rfl⟩ := (puts_putBytes _ _ (by simpa using room) _).mp third
    split at encoded
    · cases encoded
    · next few =>
      obtain rfl := Option.some.inj encoded
      exact ⟨fits, Nat.not_lt.mp few, rfl⟩
  · rintro ⟨fits, few, rfl⟩
    have room : (payloadBytes catalog).length ≤ kMaxBytes := by omega
    have sized : (frontBytes kMagic (payloadBytes catalog)).length =
        12 + (payloadBytes catalog).length := by
      have whole := length
      rw [fileBytes, sealedBytes, List.length_append, Block.sized] at whole
      omega
    refine Option.bind_eq_some_iff.mpr ⟨payloadBytes catalog, ?_, ?_⟩
    · exact (payload _).mpr ⟨fits, by simpa using room, rfl⟩
    · refine Option.bind_eq_some_iff.mpr ⟨frontBytes kMagic (payloadBytes catalog), ?_, ?_⟩
      · refine (front _ _).mpr ⟨by simp, ?_, rfl⟩
        change 0 + (frontBytes kMagic (payloadBytes catalog)).length ≤ kMaxBytes
        omega
      · refine Option.bind_eq_some_iff.mpr ⟨fileBytes catalog, ?_, ?_⟩
        · refine (puts_putBytes _ _ (by omega) _).mpr ⟨trivial, ?_, rfl⟩
          rw [Block.sized]
          omega
        · exact if_neg (by omega)

end Writing

section Files

open ByteReader

variable {catalog : CatalogData}

/-- What a file has to be. -/
theorem decodeFile_eq_ok {encoded : Bytes} :
    decodeFile encoded = .ok catalog ↔
      CatalogFits catalog ∧ (fileBytes catalog).length ≤ kMaxBytes ∧
        encoded = fileBytes catalog := by
  unfold decodeFile
  constructor
  · intro decoded
    cases opened : openSealed kMagic encoded with
    | error stop =>
        rw [opened] at decoded
        cases decoded
    | ok payload =>
        rw [opened] at decoded
        cases taken : decodePayload { bytes := payload } with
        | error stop =>
            simp only [taken, bind, Except.bind] at decoded
            cases decoded
        | ok pair =>
            simp only [taken, bind, Except.bind] at decoded
            obtain ⟨other, after⟩ := pair
            obtain rfl : other = catalog := Except.ok.inj decoded
            obtain ⟨fits, ends, -⟩ := Iff.mp decodePayload_eq_ok taken
            obtain rfl : payload = payloadBytes other := ends
            obtain ⟨few, whole⟩ := (openSealed_eq_ok rfl).mp opened
            exact ⟨fits, few, whole⟩
  · rintro ⟨fits, few, rfl⟩
    have opened : openSealed kMagic (fileBytes catalog) = .ok (payloadBytes catalog) :=
      (openSealed_eq_ok rfl).mpr ⟨few, rfl⟩
    have taken :=
      Iff.mpr decodePayload_eq_ok ⟨fits, Reader.ends_whole (payloadBytes catalog), rfl⟩
    simp only [opened, taken, bind, Except.bind]
    rfl

theorem decodeFile_within (encoded : Bytes) : decodeFile encoded ≠ .error .outside := by
  unfold decodeFile
  have within := openSealed_within kMagic encoded
  cases opened : openSealed kMagic encoded with
  | error stop =>
      intro outside
      obtain rfl : stop = .outside := Except.error.inj outside
      exact within opened
  | ok payload =>
      have safe := safe_decodePayload { bytes := payload }
      cases taken : decodePayload { bytes := payload } with
      | error stop =>
          simp only [taken, bind, Except.bind]
          intro outside
          obtain rfl : stop = .outside := Except.error.inj outside
          exact safe taken
      | ok pair =>
          simp only [taken, bind, Except.bind]
          intro outside
          cases outside

/-- A file that is cut short is rejected. -/
theorem decodeFile_cut
    {front : Bytes}
    (fits : CatalogFits catalog)
    (begins : front <+: fileBytes catalog)
    (short : front ≠ fileBytes catalog) :
    decodeFile front = .error .rejected := by
  have within := decodeFile_within front
  cases decoded : decodeFile front with
  | error stop =>
      cases stop with
      | rejected => rfl
      | outside => exact absurd decoded within
  | ok other =>
      obtain ⟨fits', -, rfl⟩ := Iff.mp decodeFile_eq_ok decoded
      have shorter := begins.length_le
      rw [length_fileBytes, length_fileBytes] at shorter
      have payload : payloadBytes other <+: payloadBytes catalog := by
        simp only [fileBytes, sealedBytes, frontBytes, List.append_assoc,
          List.prefix_append_right_inj]
          at begins
        refine List.prefix_of_prefix_length_le ((List.prefix_append _ _).trans begins)
          (List.prefix_append _ _) ?_
        omega
      have same := codes_takeRecords.eq_of_isPrefix fits' fits payload
      exact absurd (congrArg fileBytes same) short

end Files

/-- Reading and writing are one relation; a file that is cut short is rejected, and no
access leaves a file. -/
theorem catalog_file_canonical :
    (∀ catalog file, encodeFile catalog = some file → decodeFile file = .ok catalog) ∧
      (∀ file catalog, decodeFile file = .ok catalog → encodeFile catalog = some file) ∧
      (∀ catalog file front, encodeFile catalog = some file → front <+: file → front ≠ file →
        decodeFile front = .error .rejected) ∧
      ∀ file, decodeFile file ≠ .error .outside := by
  refine ⟨?_, ?_, ?_, decodeFile_within⟩
  · intro catalog file encoded
    exact Iff.mpr decodeFile_eq_ok (Iff.mp encodeFile_eq_some encoded)
  · intro file catalog decoded
    exact Iff.mpr encodeFile_eq_some (Iff.mp decodeFile_eq_ok decoded)
  · intro catalog file front encoded begins short
    obtain ⟨fits, -, rfl⟩ := Iff.mp encodeFile_eq_some encoded
    exact decodeFile_cut fits begins short

/-- A game in a package that was found in one source, and was played and set. -/
def sampleCatalog : CatalogData where
  generation := 2
  sources := [{ key := { uuid := Block.copy 16 [7], scope := 3 }, lastCompleteness := 2 }]
  entries :=
    [{ source := { uuid := Block.copy 16 [7], scope := 3 }
       payloadSize := 40976
       mapper := 4
       payloadSha1 := Block.copy 20 [0xDA, 0x39]
       flags := 1
       canonicalId := [0x6D, 0x31]
       variantId := [0x6A, 0x70]
       displayName := [0x4D, 0xC3, 0xA9, 0x74]
       sourceRelativePath := [0x61, 0x2F, 0x62, 0x2E, 0x7A, 0x69, 0x70]
       packageId := [0x70]
       zipRawName := [0x62, 0x2E, 0x6E, 0x65, 0x73]
       zipLocalHeaderOffset := 512 }]
  users :=
    [{ canonicalId := [0x6D, 0x31]
       favorite := true
       favoriteRevision := 1
       lastPlayedSequence := 5
       playCount := 9 }]
  nextFavoriteRevision := 2
  nextPlaySequence := 6

theorem length_sampleCatalog : (payloadBytes sampleCatalog).length = 320 := by
  decide +kernel

theorem sampleCatalog_encoded : encodeFile sampleCatalog = some (fileBytes sampleCatalog) := by
  have fits : CatalogFits sampleCatalog :=
    ⟨by decide, by decide, by decide, by simp [sampleCatalog, EntryFits, kMaxStringBytes],
      by simp [sampleCatalog, UserFits, kMaxStringBytes]⟩
  have sized : (fileBytes sampleCatalog).length ≤ kMaxBytes := by
    rw [length_fileBytes, length_sampleCatalog]
    decide
  exact Iff.mpr encodeFile_eq_some ⟨fits, sized, rfl⟩

/-- The file is read back, and is rejected where it breaks off inside the entry. -/
theorem sample_catalog_file :
    ∃ file, encodeFile sampleCatalog = some file ∧ decodeFile file = .ok sampleCatalog ∧
      decodeFile (file.take 100) = .error .rejected := by
  obtain ⟨reads, -, cut, -⟩ := catalog_file_canonical
  have breaksOff : (fileBytes sampleCatalog).take 100 ≠ fileBytes sampleCatalog := by
    intro same
    have short := congrArg List.length same
    rw [List.length_take, length_fileBytes, length_sampleCatalog] at short
    exact absurd short (by decide)
  exact ⟨_, sampleCatalog_encoded, reads _ _ sampleCatalog_encoded,
    cut _ _ _ sampleCatalog_encoded (List.take_prefix _ _) breaksOff⟩

end FlyNes.App
