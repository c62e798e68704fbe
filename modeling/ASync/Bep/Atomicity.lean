import ASync.Core.Helpers.Sample
import ASync.Bep.Helpers.Records
/-!
# What a failed update leaves behind

`updateFileInfo` writes the block list, the record and the statistics one
after the other, each statement committed as it runs and none rolled
back. A call that throws has left the tables and the statistics cache as
they were only where it had written nothing yet, or nothing new.
-/

namespace ASync

namespace Bep

open ASync.Core Repository BlockExchageProtos Effect

section Atomicity

variable [Guava] [FilenameUtils] [Protobuf IndexSerializationProtos.Blocks]
variable {s s' : SqlRepository} {fault : Fault} {info : Core.FileInfo}
variable {blocks : Option FileBlocks}

/-- The tables an update writes and the statistics cache are the same. -/
structure Unchanged (s s' : SqlRepository) : Prop where
  fileInfo : s'.fileInfo = s.fileInfo
  fileBlocks : s'.fileBlocks = s.fileBlocks
  folderStats : s'.folderStats = s.folderStats
  folderStatsByFolder : s'.folderStatsByFolder = s.folderStatsByFolder

/-- The block list, if there is one, is stored already. -/
def BlocksStored (s : SqlRepository) (blocks : Option FileBlocks) : Prop :=
  ∀ b, blocks = some b → ∃ bytes, encodeBlocks b = .ok bytes ∧
    s.fileBlocks.find (b.folder, b.path) = some (blocksRow b bytes)

/-- The record is stored already. -/
def RecordStored (s : SqlRepository) (info : Core.FileInfo) : Prop :=
  s.fileInfo.find (info.folder, info.path) = some (FileInfoRow.of info (lastVersion info))

/-- Writing the block list changes nothing exactly when it is stored. -/
theorem withBlocks_fileBlocks_iff (hwrites : stopsBeforeWrites fault info blocks = false) :
    (s.withBlocks blocks).fileBlocks = s.fileBlocks ↔ BlocksStored s blocks := by
  cases blocks with
  | none => exact ⟨fun _ b hb => (by cases hb), fun _ => rfl⟩
  | some b =>
    cases henc : encodeBlocks b with
    | error e =>
      simp [stopsBeforeWrites, henc, Except.isOk, Except.toBool] at hwrites
    | ok bytes =>
      have hwith : (s.withBlocks (some b)).fileBlocks =
          s.fileBlocks.merge (b.folder, b.path) (blocksRow b bytes) := by
        simp only [SqlRepository.withBlocks, henc]
      rw [hwith, Table.merge_eq_self_iff]
      constructor
      · rintro hfind b' ⟨rfl⟩
        exact ⟨bytes, henc, hfind⟩
      · intro hstored
        obtain ⟨bytes', henc', hfind⟩ := hstored b rfl
        rw [henc] at henc'
        cases henc'
        exact hfind

omit [Guava] [Protobuf IndexSerializationProtos.Blocks] in
/-- Writing the record changes nothing exactly when it is stored. -/
theorem withFileInfo_fileInfo_iff :
    (s.withFileInfo info (lastVersion info)).fileInfo = s.fileInfo ↔ RecordStored s info :=
  Table.merge_eq_self_iff

omit [Guava] [Protobuf IndexSerializationProtos.Blocks] in
/-- Loading a folder's statistics changes the cache exactly where it did
not hold the folder. -/
theorem withLoadedStats_cache_iff (folder : String) :
    (s.withLoadedStats folder).folderStatsByFolder = s.folderStatsByFolder ↔
      s.folderStatsByFolder.find folder ≠ none := by
  unfold SqlRepository.withLoadedStats
  split
  · next stats hfind => simp [hfind]
  · next hfind =>
    rw [Table.merge_eq_self_iff, hfind]
    simp

/-- **When a failed update has changed nothing.** It stopped before its
first write; or it stopped before it wrote the record, and the block list
was stored already; or block list and record were stored already, and
the statistics were cached or could not be loaded. -/
theorem unchanged_of_failed_iff {e : JavaException}
    (h : (updateFileInfo fault info blocks).run s = .error e s') :
    Unchanged s s' ↔ stopsBeforeWrites fault info blocks = true ∨
      BlocksStored s blocks ∧ (fault = some .selectFileInfo ∨ fault = some .mergeFileInfo) ∨
      BlocksStored s blocks ∧ RecordStored s info ∧
        (s.folderStatsByFolder.find info.folder ≠ none ∨ fault = some .selectFolderStats) := by
  obtain ⟨e', heq⟩ := run_updateFileInfo s fault info blocks
  rw [h] at heq
  by_cases hstop : stopsBeforeWrites fault info blocks = true
  · rw [if_pos hstop] at heq
    cases heq
    exact ⟨fun _ => .inl hstop, fun _ => ⟨rfl, rfl, rfl, rfl⟩⟩
  rw [if_neg hstop] at heq
  have hblocks := withBlocks_fileBlocks_iff (s := s) (Bool.not_eq_true _ ▸ hstop)
  by_cases hread : fault = some .selectFileInfo ∨ fault = some .mergeFileInfo
  · rw [if_pos hread] at heq
    cases heq
    constructor
    · intro hu
      exact .inr (.inl ⟨hblocks.1 hu.fileBlocks, hread⟩)
    · intro hc
      have hstored : BlocksStored s blocks := by
        rcases hc with hc | ⟨hb, _⟩ | ⟨hb, _⟩
        · exact absurd hc hstop
        · exact hb
        · exact hb
      exact ⟨s.withBlocks_fileInfo blocks, hblocks.2 hstored, s.withBlocks_folderStats blocks,
        s.withBlocks_cache blocks⟩
  rw [if_neg hread] at heq
  -- from here on the block list and the record have been written
  have hrecord : (s.withFileInfo info (lastVersion info)).fileInfo = s.fileInfo ↔
      RecordStored s info := withFileInfo_fileInfo_iff
  have hwritten : ((s.withBlocks blocks).withFileInfo info (lastVersion info)).fileInfo =
      (s.withFileInfo info (lastVersion info)).fileInfo := by
    simp only [SqlRepository.withFileInfo, SqlRepository.withBlocks_fileInfo]
  by_cases hload : s.folderStatsByFolder.find info.folder = none ∧
      fault = some .selectFolderStats
  · rw [if_pos hload] at heq
    cases heq
    constructor
    · intro hu
      exact .inr (.inr ⟨hblocks.1 hu.fileBlocks, hrecord.1 (hwritten.symm.trans hu.fileInfo),
        .inr hload.2⟩)
    · intro hc
      obtain ⟨hb, hr⟩ : BlocksStored s blocks ∧ RecordStored s info := by
        rcases hc with hc | ⟨_, hc⟩ | ⟨hb, hr, _⟩
        · exact absurd hc hstop
        · exact absurd hc hread
        · exact ⟨hb, hr⟩
      exact ⟨hwritten.trans (hrecord.2 hr), hblocks.2 hb, s.withBlocks_folderStats blocks,
        s.withBlocks_cache blocks⟩
  rw [if_neg hload] at heq
  split at heq
  · cases heq
  cases heq
  obtain ⟨t, ht⟩ := s.withBlocks_eq blocks
  obtain ⟨c, hc⟩ := ((s.withBlocks blocks).withFileInfo info (lastVersion info)).withLoadedStats_eq
    info.folder
  have hcache := withLoadedStats_cache_iff
    (s := (s.withBlocks blocks).withFileInfo info (lastVersion info)) info.folder
  rw [SqlRepository.withFileInfo_cache, SqlRepository.withBlocks_cache] at hcache
  have hlists : (((s.withBlocks blocks).withFileInfo info (lastVersion info)).withLoadedStats
      info.folder).fileBlocks = (s.withBlocks blocks).fileBlocks := by rw [hc]; rfl
  constructor
  · intro hu
    exact .inr (.inr ⟨hblocks.1 (hlists.symm.trans hu.fileBlocks),
      hrecord.1 (hwritten.symm.trans ((SqlRepository.withLoadedStats_fileInfo _ _).symm.trans
        hu.fileInfo)), .inl (hcache.1 hu.folderStatsByFolder)⟩)
  · intro hcond
    obtain ⟨hb, hr, hfind⟩ : BlocksStored s blocks ∧ RecordStored s info ∧
        s.folderStatsByFolder.find info.folder ≠ none := by
      rcases hcond with hcond | ⟨_, hcond⟩ | ⟨hb, hr, hfind | hfault⟩
      · exact absurd hcond hstop
      · exact absurd hcond hread
      · exact ⟨hb, hr, hfind⟩
      · exact ⟨hb, hr, fun hnone => hload ⟨hnone, hfault⟩⟩
    refine ⟨?_, hlists.trans (hblocks.2 hb), ?_, hcache.2 hfind⟩
    · rw [SqlRepository.withLoadedStats_fileInfo, hwritten, hrecord.2 hr]
    · rw [SqlRepository.withLoadedStats_folderStats, SqlRepository.withFileInfo_folderStats,
        SqlRepository.withBlocks_folderStats]

end Atomicity

section Sample

attribute [local instance] Sample.guava Sample.filenameUtils

/-- The serialised form of the one block list stored below: a block at
offset zero, of size -5, with an empty hash. -/
@[reducible] def sampleBlocksProtobuf : Protobuf IndexSerializationProtos.Blocks where
  toByteArray _ := [0x0a, 0x0f, 0x08, 0x00, 0x10, 0xfb, 0xff, 0xff, 0xff, 0xff, 0xff, 0xff, 0xff,
    0xff, 0x01, 0x1a, 0x00]
  parseFrom _ := none

attribute [local instance] sampleBlocksProtobuf

/-- A file record whose size and block size are negative. -/
def sampleNegative : BlockExchageProtos.FileInfo :=
  { name := "d", size := -5, version := some [⟨1, 1⟩], blocks := [⟨0, -5, []⟩] }

theorem hexEncode_emptyDigest_ne : Sample.hexEncode Sample.emptyDigest ≠ "" := by decide

/-- The record and the blocks made of it. -/
def sampleNegativeInfo : Core.FileInfo :=
  Sample.file Sample.names_d hexEncode_emptyDigest_ne 0 (-5)

theorem d_ne : "d" ≠ "" := by decide

def sampleNegativeBlocks : FileBlocks :=
  ⟨"default", "d", [⟨0, -5, ""⟩], Sample.default_ne, d_ne⟩

/-- A call fails at the record, and leaves the block list behind. The next
one fails there too, and leaves everything as it was. -/
theorem unchanged_of_failed_iff_sample :
    ∃ e s e' s', (updateFileInfo (some .mergeFileInfo) sampleNegativeInfo
        (some sampleNegativeBlocks)).run SqlRepository.fresh = .error e s ∧
      ¬ Unchanged SqlRepository.fresh s ∧
      (updateFileInfo (some .mergeFileInfo) sampleNegativeInfo
        (some sampleNegativeBlocks)).run s = .error e' s' ∧ Unchanged s s' := by
  have hfirst : (updateFileInfo (some .mergeFileInfo) sampleNegativeInfo
      (some sampleNegativeBlocks)).run SqlRepository.fresh = .error (.runtime "SQLException")
        (after (updateFileInfo (some .mergeFileInfo) sampleNegativeInfo
          (some sampleNegativeBlocks)) SqlRepository.fresh) := rfl
  have hsecond : (updateFileInfo (some .mergeFileInfo) sampleNegativeInfo
      (some sampleNegativeBlocks)).run (after (updateFileInfo (some .mergeFileInfo)
        sampleNegativeInfo (some sampleNegativeBlocks)) SqlRepository.fresh) = .error
          (.runtime "SQLException") (after (updateFileInfo (some .mergeFileInfo) sampleNegativeInfo
            (some sampleNegativeBlocks)) (after (updateFileInfo (some .mergeFileInfo)
              sampleNegativeInfo (some sampleNegativeBlocks)) SqlRepository.fresh)) := rfl
  refine ⟨_, _, _, _, hfirst, fun hu => ?_, hsecond, (unchanged_of_failed_iff hsecond).2 ?_⟩
  · rcases (unchanged_of_failed_iff hfirst).1 hu with hstop | ⟨hstored, -⟩ | ⟨hstored, -⟩
    · exact absurd hstop (by decide +kernel)
    · obtain ⟨bytes, -, hfind⟩ := hstored _ rfl
      cases hfind
    · obtain ⟨bytes, -, hfind⟩ := hstored _ rfl
      cases hfind
  · refine .inr (.inl ⟨?_, .inr rfl⟩)
    rintro _ ⟨rfl⟩
    exact ⟨_, rfl, by decide +kernel⟩

/-- **A refused record stays in the index.** A record of negative size
passes `checkBlocks`, is written with its block list, and is refused only
by the guard on the folder's size. -/
theorem refused_update_is_not_rolled_back :
    buildRecord "default" sampleNegative =
        .ok (some (sampleNegativeInfo, some sampleNegativeBlocks)) ∧
      ∃ e s', (updateFileInfo none sampleNegativeInfo (some sampleNegativeBlocks)).run
          SqlRepository.fresh = .error e s' ∧
        (s'.fileInfo.find ("default", "d")).isSome = true ∧
        (s'.fileBlocks.find ("default", "d")).isSome = true ∧ s'.folderStats = ∅ ∧
        ¬ Unchanged SqlRepository.fresh s' := by
  have hrow : ((after (updateFileInfo none sampleNegativeInfo (some sampleNegativeBlocks))
      SqlRepository.fresh).fileInfo.find ("default", "d")).isSome = true := by decide +kernel
  refine ⟨by decide +kernel, .illegalArgument "", after (updateFileInfo none sampleNegativeInfo
    (some sampleNegativeBlocks)) SqlRepository.fresh, rfl, hrow, by decide +kernel,
    by decide +kernel, fun hu => ?_⟩
  rw [hu.fileInfo] at hrow
  cases hrow

end Sample

end Bep

end ASync
