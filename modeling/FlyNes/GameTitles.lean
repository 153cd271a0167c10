import FlyNes.ByteString
import Mathlib.Data.List.AList
import Mathlib.Data.List.Induction

namespace FlyNes.Catalog

open ByteString

/-!
# The index of game titles

A record is found under its hash, its titles and its aliases.  A key that records with
different titles share is of no use; among records with the same titles the one with the
least identifier answers, in whatever order they have come.
-/

structure GameTitleRecord where
  payloadSha256Hex : Bytes
  indexId : Bytes
  titleEn : Bytes
  titleZhHans : Bytes
  aliases : Bytes
deriving DecidableEq

/-- A match is of kind 1 by the hash, of kind 2 by a name. -/
structure GameTitleMatch where
  record : Option GameTitleRecord := none
  matchKind : UInt32 := 0
deriving DecidableEq

/-! ### Keys -/

def space (byte : UInt8) : Bool :=
  byte == 0x20 || byte == 0x09 || byte == 0x0D || byte == 0x0A || byte == 0x0C ||
    byte == 0x0B

def trim (value : Bytes) : Bytes :=
  ((value.reverse.dropWhile space).reverse).dropWhile space

def ascii (text : String) : Bytes :=
  text.toList.map fun character => UInt8.ofNat character.toNat

def regions : List String :=
  ["u", "e", "j", "ju", "je", "ue", "jue", "usa", "europe", "japan", "world", "asia",
    "china", "hong kong", "korea", "australia", "canada", "france", "germany", "italy",
    "spain", "sweden", "usa, europe", "japan, usa", "japan, europe", "japan, usa, europe",
    "u,e", "j,u", "j,e", "j,u,e"]

def region (value : Bytes) : Bool :=
  regions.any fun name => ascii name == value

def suffixes : List Bytes :=
  [".nes", ".fds", ".unf", ".unif"].map ascii

theorem length_trim (value : Bytes) : (trim value).length ≤ value.length := by
  unfold trim
  refine Nat.le_trans (List.dropWhile_sublist _).length_le ?_
  rw [List.length_reverse]
  exact Nat.le_trans (List.dropWhile_sublist _).length_le
    (Nat.le_of_eq List.length_reverse)

/-- Take tags of regions in brackets off the end. -/
def stripRegions (result : Bytes) : Bytes :=
  match _shape : result.reverse with
  | [] => result
  | last :: body =>
      if last = 0x29 ∨ last = 0x5D then
        let opener := if last = 0x29 then 0x28 else 0x5B
        match _rest : body.dropWhile (· != opener) with
        | [] => result
        | _ :: front =>
            if region (trim (body.takeWhile (· != opener)).reverse) then
              stripRegions (trim front.reverse)
            else
              result
      else
        result
termination_by result.length
decreasing_by
  have whole : result.length = body.length + 1 := by
    rw [← List.length_reverse, _shape, List.length_cons]
  have part := (List.dropWhile_sublist (l := body) (· != opener)).length_le
  rw [_rest, List.length_cons] at part
  have trimmed := length_trim front.reverse
  rw [List.length_reverse] at trimmed
  omega

/-- One blank for each row of separators between other characters. -/
def collapse (result : Bytes) : Bytes :=
  (result.foldl
    (fun (state : Bytes × Bool) byte =>
      if space byte || byte == 0x5F || byte == 0x2D then
        (state.1, !state.1.isEmpty)
      else
        ((if state.2 then state.1 ++ [0x20] else state.1) ++ [byte], false))
    ([], false)).1

def normalizeGameTitleAlias (name : Bytes) : Bytes :=
  let file := (name.reverse.takeWhile fun byte => byte != 0x2F && byte != 0x5C).reverse
  let lower := file.map fun byte => if 0x41 ≤ byte ∧ byte ≤ 0x5A then byte + 0x20 else byte
  let result := trim lower
  let extension := result.reverse.takeWhile (· != 0x2E)
  let result :=
    if result.contains 0x2E && suffixes.contains (0x2E :: extension.reverse) then
      result.take (result.length - (extension.length + 1))
    else
      result
  collapse (stripRegions (trim result))

/-- The lines of the aliases; a line behind the last break is one only if it has bytes. -/
def aliasLines (line : Bytes) : Bytes → List Bytes
  | [] => if line = [] then [] else [line]
  | byte :: rest =>
      if byte = 0x0A then line :: aliasLines [] rest else aliasLines (line ++ [byte]) rest

/-! ### The index -/

abbrev TitleMap := AList fun _ : Bytes => Option GameTitleRecord

def sameTitle (left right : GameTitleRecord) : Bool :=
  left.titleEn == right.titleEn && left.titleZhHans == right.titleZhHans

def insert (map : TitleMap) (key : Bytes) (row : GameTitleRecord) : TitleMap :=
  if key = [] then
    map
  else
    match map.lookup key with
    | none => map.insert key (some row)
    | some none => map
    | some (some old) =>
        if !sameTitle old row then
          map.insert key none
        else if row.indexId < old.indexId then
          map.insert key (some row)
        else
          map

structure GameTitleIndex where
  hashes : TitleMap := ∅
  aliases : TitleMap := ∅

namespace GameTitleIndex

/-- The names under which a record is found. -/
def names (row : GameTitleRecord) : List Bytes :=
  ([row.titleEn, row.titleZhHans] ++ aliasLines [] row.aliases).map normalizeGameTitleAlias

def add (index : GameTitleIndex) (row : GameTitleRecord) : GameTitleIndex where
  hashes := insert index.hashes row.payloadSha256Hex row
  aliases := (names row).foldl (fun map name => insert map name row) index.aliases

def ofRecords (records : List GameTitleRecord) : GameTitleIndex :=
  records.foldl add {}

def hexDigit (digit : UInt8) : UInt8 :=
  if digit < 10 then digit + 0x30 else digit + 0x57

def hexKey (payloadSha256 : Block 32) : Bytes :=
  payloadSha256.bytes.flatMap fun (byte : UInt8) =>
    [hexDigit (byte >>> 4), hexDigit (byte &&& 15)]

def lookup
    (index : GameTitleIndex)
    (payloadSha256 : Option (Block 32))
    (fallbackName : Bytes) : GameTitleMatch :=
  let byName : GameTitleMatch :=
    match index.aliases.lookup (normalizeGameTitleAlias fallbackName) with
    | some (some row) => { record := some row, matchKind := 2 }
    | _ => {}
  match payloadSha256 with
  | none => byName
  | some hash =>
      match index.hashes.lookup (hexKey hash) with
      | some (some row) => { record := some row, matchKind := 1 }
      | some none => {}
      | none => byName

end GameTitleIndex

/-! ### What a key answers -/

/-- A record is entered under a key. -/
def Enters (pairs : List (Bytes × GameTitleRecord)) (key : Bytes) (row : GameTitleRecord) : Prop :=
  key ≠ [] ∧ (key, row) ∈ pairs

/-- The answer of a key to the records that are entered under it. -/
inductive Answers (entered : GameTitleRecord → Prop) : Option (Option GameTitleRecord) → Prop where
  | unknown (empty : ∀ row, ¬ entered row) : Answers entered none
  | conflict
      {one other : GameTitleRecord}
      (enters : entered one)
      (enters' : entered other)
      (different : sameTitle one other = false) :
      Answers entered (some none)
  | least
      {row : GameTitleRecord}
      (enters : entered row)
      (same : ∀ other, entered other → sameTitle row other = true)
      (least : ∀ other, entered other → row.indexId ≤ other.indexId) :
      Answers entered (some (some row))

theorem sameTitle_iff (left right : GameTitleRecord) :
    sameTitle left right = true ↔
      left.titleEn = right.titleEn ∧ left.titleZhHans = right.titleZhHans := by
  simp [sameTitle]

variable {entered : GameTitleRecord → Prop} {map : TitleMap}

/-- A new record under a key. -/
theorem Answers.insert
    {key : Bytes}
    (filled : key ≠ [])
    (row : GameTitleRecord)
    (answers : Answers entered (map.lookup key)) :
    Answers (fun other => entered other ∨ other = row) ((insert map key row).lookup key) := by
  unfold Catalog.insert
  rw [if_neg filled]
  generalize found : map.lookup key = answer at answers
  cases answers with
  | unknown empty =>
      simp only [AList.lookup_insert]
      refine .least (Or.inr rfl) ?_ ?_
      · rintro other (old | rfl)
        · exact absurd old (empty other)
        · exact (sameTitle_iff _ _).mpr ⟨rfl, rfl⟩
      · rintro other (old | rfl)
        · exact absurd old (empty other)
        · exact Std.le_refl _
  | conflict enters enters' different =>
      simp only [found]
      exact .conflict (Or.inl enters) (Or.inl enters') different
  | @least old enters same least =>
      dsimp only
      split
      next different =>
        simp only [AList.lookup_insert]
        exact .conflict (Or.inl enters) (Or.inr rfl) (by simpa using different)
      next agreeing =>
        have agrees : sameTitle old row = true := by simpa using agreeing
        split
        next less =>
          simp only [AList.lookup_insert]
          refine .least (Or.inr rfl) ?_ ?_
          · rintro other (known | rfl)
            · have titles := (sameTitle_iff _ _).mp (same other known)
              have titles' := (sameTitle_iff _ _).mp agrees
              exact (sameTitle_iff _ _).mpr
                ⟨titles'.1.symm.trans titles.1, titles'.2.symm.trans titles.2⟩
            · exact (sameTitle_iff _ _).mpr ⟨rfl, rfl⟩
          · rintro other (known | rfl)
            · exact Std.le_trans (Std.le_of_lt less) (least other known)
            · exact Std.le_refl _
        next more =>
          rw [found]
          refine .least (Or.inl enters) ?_ ?_
          · rintro other (known | rfl)
            · exact same other known
            · exact agrees
          · rintro other (known | rfl)
            · exact least other known
            · exact Std.not_lt.mp more

theorem lookup_insert_of_ne
    {key other : Bytes}
    (row : GameTitleRecord)
    (apart : other ≠ key ∨ key = []) :
    (insert map key row).lookup other = map.lookup other := by
  unfold Catalog.insert
  by_cases empty : key = []
  · rw [if_pos empty]
  · rw [if_neg empty]
    have differs := apart.resolve_right empty
    split
    · exact AList.lookup_insert_ne differs
    · rfl
    · split
      · exact AList.lookup_insert_ne differs
      · split
        · exact AList.lookup_insert_ne differs
        · rfl

def insertAll (map : TitleMap) (pairs : List (Bytes × GameTitleRecord)) : TitleMap :=
  pairs.foldl (fun map pair => insert map pair.1 pair.2) map

theorem insertAll_answers
    (pairs : List (Bytes × GameTitleRecord))
    (key : Bytes) :
    Answers (Enters pairs key) ((insertAll ∅ pairs).lookup key) := by
  induction pairs using List.reverseRecOn with
  | nil => exact .unknown fun row enters => by simp [Enters] at enters
  | append_singleton pairs pair inductionHypothesis =>
      unfold insertAll at inductionHypothesis ⊢
      rw [List.foldl_append, List.foldl_cons, List.foldl_nil]
      by_cases here : key = pair.1 ∧ key ≠ []
      · obtain ⟨rfl, filled⟩ := here
        have entered :
            Enters (pairs ++ [pair]) pair.1 =
              fun other => Enters pairs pair.1 other ∨ other = pair.2 := by
          funext other
          simp [Enters, filled, Prod.ext_iff]
        rw [entered]
        exact inductionHypothesis.insert filled pair.2
      · have entered : Enters (pairs ++ [pair]) key = Enters pairs key := by
          funext other
          simp only [Enters, List.mem_append, List.mem_singleton, Prod.ext_iff, eq_iff_iff]
          tauto
        have apart : key ≠ pair.1 ∨ pair.1 = [] := by
          by_cases same : key = pair.1
          · exact Or.inr (not_not.mp fun filled => here ⟨same, same ▸ filled⟩)
          · exact Or.inl same
        rw [entered, lookup_insert_of_ne pair.2 apart]
        exact inductionHypothesis

/-- Records that are told apart by their identifiers answer in one way. -/
theorem Answers.unique
    {first second : Option (Option GameTitleRecord)}
    (distinct :
      ∀ one other, entered one → entered other → one.indexId = other.indexId → one = other)
    (answers : Answers entered first)
    (answers' : Answers entered second) :
    first = second := by
  have agree
      {row one other : GameTitleRecord}
      (same : ∀ other, entered other → sameTitle row other = true)
      (enters : entered one)
      (enters' : entered other) :
      sameTitle one other = true := by
    have titles := (sameTitle_iff _ _).mp (same one enters)
    have titles' := (sameTitle_iff _ _).mp (same other enters')
    exact (sameTitle_iff _ _).mpr
      ⟨titles.1.symm.trans titles'.1, titles.2.symm.trans titles'.2⟩
  cases answers with
  | unknown empty =>
      cases answers' with
      | unknown => rfl
      | conflict enters => exact absurd enters (empty _)
      | least enters => exact absurd enters (empty _)
  | conflict enters enters' different =>
      cases answers' with
      | unknown empty => exact absurd enters (empty _)
      | conflict => rfl
      | least _ same =>
          rw [agree same enters enters'] at different
          cases different
  | least enters same least =>
      cases answers' with
      | unknown empty => exact absurd enters (empty _)
      | conflict one other different =>
          rw [agree same one other] at different
          cases different
      | least enters' _ least' =>
          rw [distinct _ _ enters enters' (Std.le_antisymm (least _ enters') (least' _ enters))]

/-! ### The index answers in one way -/

namespace GameTitleIndex

/-- A record has a key among its hashes or its names. -/
structure Shares
    (keys : GameTitleRecord → List Bytes)
    (records : List GameTitleRecord)
    (key : Bytes)
    (row : GameTitleRecord) : Prop where
  filled : key ≠ []
  listed : row ∈ records
  has : key ∈ keys row

def hash (row : GameTitleRecord) : List Bytes :=
  [row.payloadSha256Hex]

section Records

variable {records records' : List GameTitleRecord}

theorem answers_of_entries
    (keys : GameTitleRecord → List Bytes)
    (key : Bytes) :
    Answers (Shares keys records key)
      ((insertAll ∅ (records.flatMap fun row => (keys row).map (·, row))).lookup key) := by
  have entered :
      Shares keys records key =
        Enters (records.flatMap fun row => (keys row).map (·, row)) key := by
    funext row
    rw [eq_iff_iff]
    constructor
    · rintro ⟨filled, listed, has⟩
      exact ⟨filled, List.mem_flatMap.mpr ⟨row, listed, List.mem_map.mpr ⟨key, has, rfl⟩⟩⟩
    · rintro ⟨filled, member⟩
      obtain ⟨_, listed, member⟩ := List.mem_flatMap.mp member
      obtain ⟨_, has, same⟩ := List.mem_map.mp member
      cases same
      exact ⟨filled, listed, has⟩
  rw [entered]
  exact insertAll_answers _ key

theorem answers_hashes (key : Bytes) :
    Answers (Shares hash records key) ((ofRecords records).hashes.lookup key) := by
  have answers : Answers (Shares hash records key) _ := answers_of_entries hash key
  rw [insertAll, List.foldl_flatMap] at answers
  simp only [List.foldl_map] at answers
  have built :
      (ofRecords records).hashes =
        records.foldl (fun map row => insert map row.payloadSha256Hex row) ∅ :=
    (List.foldl_hom hashes fun _ _ => rfl).symm
  rw [built]
  exact answers

theorem answers_aliases (key : Bytes) :
    Answers (Shares names records key) ((ofRecords records).aliases.lookup key) := by
  have answers : Answers (Shares names records key) _ := answers_of_entries names key
  rw [insertAll, List.foldl_flatMap] at answers
  simp only [List.foldl_map] at answers
  have built :
      (ofRecords records).aliases =
        records.foldl
          (fun map row => (names row).foldl (fun map name => insert map name row) map) ∅ :=
    (List.foldl_hom aliases fun _ _ => rfl).symm
  rw [built]
  exact answers

/-- Permuted records answer a key in one way. -/
theorem answers_perm
    (distinct : (records.map (·.indexId)).Nodup)
    (perm : records.Perm records')
    {keys : GameTitleRecord → List Bytes}
    {key : Bytes}
    {first second : Option (Option GameTitleRecord)}
    (answers : Answers (Shares keys records key) first)
    (answers' : Answers (Shares keys records' key) second) :
    second = first := by
  have shared : Shares keys records' key = Shares keys records key := by
    funext row
    exact eq_iff_iff.mpr
      ⟨fun ⟨filled, listed, has⟩ => ⟨filled, perm.mem_iff.mpr listed, has⟩,
        fun ⟨filled, listed, has⟩ => ⟨filled, perm.mem_iff.mp listed, has⟩⟩
  rw [shared] at answers'
  refine answers'.unique (fun one other shares shares' same => ?_) answers
  exact List.inj_on_of_nodup_map distinct shares.listed shares'.listed same

end Records

/-- Records with different titles share a key. -/
def Conflicting (shares : GameTitleRecord → Prop) : Prop :=
  ∃ one other, shares one ∧ shares other ∧ sameTitle one other = false

/-- Only records with the same titles share a key, and this one has the least identifier. -/
structure Least
    (shares : GameTitleRecord → Prop)
    (row : GameTitleRecord) : Prop where
  enters : shares row
  same : ∀ other, shares other → sameTitle row other = true
  least : ∀ other, shares other → row.indexId ≤ other.indexId

/-- No order of the records changes an answer; different titles under one key are never
found by it, and of equal titles the least identifier is. -/
theorem lookup_order_independent
    (records records' : List GameTitleRecord)
    (distinct : (records.map (·.indexId)).Nodup)
    (perm : records.Perm records') :
    let index := ofRecords records
    let byHash (payloadSha256 : Block 32) := Shares hash records (hexKey payloadSha256)
    let byName (name : Bytes) := Shares names records (normalizeGameTitleAlias name)
    (∀ payloadSha256 name,
        (ofRecords records').lookup payloadSha256 name = index.lookup payloadSha256 name) ∧
      (∀ payloadSha256 name,
        (Conflicting (byHash payloadSha256) →
          index.lookup (some payloadSha256) name = {}) ∧
        ∀ row, Least (byHash payloadSha256) row →
          index.lookup (some payloadSha256) name = { record := some row, matchKind := 1 }) ∧
      ∀ payloadSha256 name,
        (Conflicting (byName name) → (index.lookup payloadSha256 name).matchKind ≠ 2) ∧
        ((∀ payload ∈ payloadSha256, ∀ row, ¬ byHash payload row) →
          (Conflicting (byName name) → index.lookup payloadSha256 name = {}) ∧
          ∀ row, Least (byName name) row →
            index.lookup payloadSha256 name = { record := some row, matchKind := 2 }) := by
  intro index byHash byName
  have once
      {keys : GameTitleRecord → List Bytes}
      {key : Bytes}
      {first second : Option (Option GameTitleRecord)}
      (answers : Answers (Shares keys records key) first)
      (answers' : Answers (Shares keys records key) second) :
      first = second :=
    answers_perm distinct (List.Perm.refl _) answers' answers
  refine ⟨fun payloadSha256 name => ?_, fun payloadSha256 name => ⟨?_, ?_⟩,
    fun payloadSha256 name => ⟨?_, fun unknown => ?_⟩⟩
  · have hashes (key : Bytes) :=
      answers_perm distinct perm (answers_hashes key) (answers_hashes key)
    have aliases (key : Bytes) :=
      answers_perm distinct perm (answers_aliases key) (answers_aliases key)
    simp only [lookup, hashes, aliases, index]
  · rintro ⟨one, other, shares, shares', different⟩
    have found := once (answers_hashes _) (.conflict shares shares' different)
    simp only [lookup, index, found]
  · rintro row ⟨enters, same, least⟩
    have found := once (answers_hashes _) (.least enters same least)
    simp only [lookup, index, found]
  · rintro ⟨one, other, shares, shares', different⟩
    have found := once (answers_aliases _) (.conflict shares shares' different)
    simp only [lookup, index, found]
    split
    · simp
    · split <;> simp
  · have byNameOnly :
        index.lookup payloadSha256 name = index.lookup none name := by
      cases payloadSha256 with
      | none => rfl
      | some payload =>
          have found := once (answers_hashes _) (.unknown (unknown payload rfl))
          simp only [lookup, index, found]
    rw [byNameOnly]
    refine ⟨?_, ?_⟩
    · rintro ⟨one, other, shares, shares', different⟩
      have found := once (answers_aliases _) (.conflict shares shares' different)
      simp only [lookup, index, found]
    · rintro row ⟨enters, same, least⟩
      have found := once (answers_aliases _) (.least enters same least)
      simp only [lookup, index, found]

/-- Two games of one title, in either order. -/
theorem swapped_records :
    let first : GameTitleRecord := ⟨ascii "00", ascii "a", ascii "Tetris (U)", [], []⟩
    let second : GameTitleRecord := ⟨ascii "01", ascii "b", ascii "Tetris (U)", [], []⟩
    (ofRecords [second, first]).lookup none (ascii "tetris.nes") =
      (ofRecords [first, second]).lookup none (ascii "tetris.nes") := by
  intro first second
  exact (lookup_order_independent [first, second] [second, first] (by decide)
    (List.Perm.swap second first [])).1 none (ascii "tetris.nes")

end GameTitleIndex

end FlyNes.Catalog
