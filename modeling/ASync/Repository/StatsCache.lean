import Mathlib
import ASync.Core.Helpers.Sample
import ASync.Repository.Helpers.UpdateFileInfo
import ASync.Repository.Model.StatsCache
import ASync.Repository.Statistics
/-!
# Refreshing the statistics cache

An update computes the next row of `folder_stats` from the cache, so a
row that reaches the cache late is persisted with the change that
follows it. What keeps the two together is that a reader's put is not
overtaken: the row is still the table's, or the update that replaced it
has its own put to come. `CacheInv` is what such a run keeps, and says
both where the cache may lag and what the numbers in flight are.
-/

namespace ASync

namespace Repository

open ASync.Core Effect

section Updates

variable [FilenameUtils]
variable {s t : SqlRepository} {fault : Fault}

/-! ## What the parts of an update touch -/

/-- The statistics, in the table and in the cache. -/
def statistics (s : SqlRepository) :
    Table String FolderStats × Table String (Option FolderStats) :=
  (s.folderStats, s.folderStatsByFolder)

/-- A statement leaves the statistics. -/
theorem keeps_execute (statement : Statement) : Keeps statistics (execute fault statement) :=
  fun _ => .ite (.throw _) (.pure _)

/-- Reading a record leaves the statistics. -/
theorem keeps_findFileInfo (folder path : String) :
    Keeps statistics (findFileInfo fault folder path) := by
  intro v
  refine .bind (keeps_execute _ v) fun _ => .bind .get fun s => ?_
  split
  · exact .pure _
  · exact .bind (.ofExcept _) fun _ => .pure _

/-- Writing a record leaves the statistics. -/
theorem keeps_mergeFileInfo (info : FileInfo) (version : Version) :
    Keeps statistics (mergeFileInfo fault info version) :=
  fun v => .bind (keeps_execute _ v) fun _ => .modify fun _ h => h

variable [Guava] [Protobuf IndexSerializationProtos.Blocks]

/-- Writing a record's blocks leaves the statistics. -/
theorem keeps_mergeFileBlocks (blocks : FileBlocks) :
    Keeps statistics (mergeFileBlocks fault blocks) :=
  fun v => .bind (.ofExcept _) fun _ => .bind (keeps_execute _ v) fun _ => .modify fun _ h => h

/-- **Up to the statistics an update leaves them alone**, however it
ends. -/
theorem keeps_writeRecord (fault : Fault) (info : FileInfo) (blocks : Option FileBlocks) :
    Keeps statistics (writeRecord fault info blocks) := by
  intro v
  refine .bind (.ofExcept _) fun version => .bind (keeps_execute _ v) fun _ => ?_
  have hrest : Preserves (fun s => statistics s = v) (do
      let oldFileInfo ← findFileInfo fault info.folder info.path
      mergeFileInfo fault info version
      return ({
        folder := info.folder
        deltaFileCount := fileShare info - oldFileInfo.elim 0 fileShare
        deltaDirCount := dirShare info - oldFileInfo.elim 0 dirShare
        deltaSize := Long.wrap (sizeShare info - oldFileInfo.elim 0 sizeShare)
        lastUpdate := info.lastModified } : StatsChange)) :=
    .bind (keeps_findFileInfo _ _ v) fun _ => .bind (keeps_mergeFileInfo _ _ v) fun _ => .pure _
  cases blocks with
  | none => exact hrest
  | some b =>
    exact .bind (.ofExcept _) fun _ => .bind (keeps_mergeFileBlocks b v) fun _ => hrest

/-! ## The invariant -/

namespace StatsCache

/-- A row carries its key; what the cache answers is the row, save where
a put is to come; and the numbers in flight start from the row. -/
structure CacheInv (s : StatsCache) : Prop where
  folder_eq : ∀ folder row, s.repository.folderStats.find folder = some row → row.folder = folder
  cached : ∀ folder cached, s.repository.folderStatsByFolder.find folder = some cached →
    cached = s.repository.folderStats.find folder ∨ s.PutsNext folder
  computed : ∀ fault change folderStats, s.writer = some (.merging fault change folderStats) →
    folderStats = change.apply (s.repository.folderStats.find change.folder)
  written : ∀ folderStats, s.writer = some (.putting folderStats) →
    s.repository.folderStats.find folderStats.folder = some folderStats

variable {s s' : StatsCache}

omit [Guava] [Protobuf IndexSerializationProtos.Blocks] in
/-- A new repository caches nothing. -/
theorem CacheInv.fresh : CacheInv { repository := .fresh } where
  folder_eq folder row h := by
    rw [SqlRepository.fresh, Table.find_empty] at h
    cases h
  cached folder cached h := by
    rw [SqlRepository.fresh, Table.find_empty] at h
    cases h
  computed _ _ _ h := by cases h
  written _ h := by cases h

omit [Guava] [Protobuf IndexSerializationProtos.Blocks] in
/-- Only an update in its last step lets the cache lag. -/
theorem CacheInv.cached_of_not_putting (h : CacheInv s)
    (hput : ∀ stats, s.writer ≠ some (.putting stats)) {folder : String}
    {cached : Option FolderStats}
    (hc : s.repository.folderStatsByFolder.find folder = some cached) :
    cached = s.repository.folderStats.find folder := by
  rcases h.cached folder cached hc with heq | ⟨stats, hw, _⟩
  · exact heq
  · exact absurd hw (hput stats)

omit [Guava] [Protobuf IndexSerializationProtos.Blocks] in
/-- The readers take no part in it. -/
theorem CacheInv.of_readers (h : CacheInv s) (readers : List (List FolderStats)) :
    CacheInv { s with readers } :=
  ⟨h.folder_eq, h.cached, h.computed, h.written⟩

/-- A reader puts a row that is up to date. -/
theorem CacheInv.refresh (h : CacheInv s) {i : ℕ} (hok : s.UpToDate (.refresh i))
    (hstep : s.step (.refresh i) = some s') : CacheInv s' := by
  rw [step] at hstep
  split at hstep
  · next row more hrow =>
    cases hstep
    refine ⟨h.folder_eq, fun folder cached hc => ?_, h.computed, h.written⟩
    change (s.repository.folderStatsByFolder.merge row.folder (some row)).find folder =
      some cached at hc
    rw [Table.find_merge] at hc
    split at hc
    · next hf =>
      cases hc
      rcases hok row more hrow with hrow | hnext
      · exact Or.inl (hf ▸ hrow.symm)
      · exact Or.inr (hf ▸ hnext)
    · exact h.cached folder cached hc
  · cases hstep

/-- An update writes its record before any statistics. -/
theorem CacheInv.writeRecord (h : CacheInv s) {fault : Fault} {info : FileInfo}
    {blocks : Option FileBlocks}
    (hstep : s.step (.writeRecord fault info blocks) = some s') : CacheInv s' := by
  rw [step] at hstep
  split at hstep
  · next hnone =>
    cases hstep
    have hkeep := (keeps_writeRecord fault info blocks).after_eq s.repository
    have hrows := congrArg Prod.fst hkeep
    have hcache := congrArg Prod.snd hkeep
    simp only [statistics] at hrows hcache
    refine ⟨fun folder row hrow => ?_, fun folder cached hc => ?_, fun f c fs hw => ?_,
      fun fs hw => ?_⟩
    · rw [advance, hrows] at hrow
      exact h.folder_eq folder row hrow
    · rw [advance, hcache] at hc
      rw [advance, hrows]
      exact Or.inl (h.cached_of_not_putting (fun stats hw => by rw [hnone] at hw; cases hw) hc)
    · obtain ⟨change, _, heq⟩ := Option.bind_eq_some_iff.1 hw
      cases heq
    · obtain ⟨change, _, heq⟩ := Option.bind_eq_some_iff.1 hw
      cases heq
  · cases hstep

/-- An update reads the statistics the cache or the table has. -/
theorem CacheInv.readStats (h : CacheInv s) (hstep : s.step .readStats = some s') :
    CacheInv s' := by
  rw [step] at hstep
  split at hstep
  · next fault change hw =>
    cases hstep
    -- nobody is between the row and the put, so what is cached is the row
    have hcached : ∀ folder cached, s.repository.folderStatsByFolder.find folder = some cached →
        cached = s.repository.folderStats.find folder := fun folder cached hc =>
      h.cached_of_not_putting (fun stats hput => by rw [hw] at hput; cases hput) hc
    have hbase : s.repository.statsOf change.folder =
        s.repository.folderStats.find change.folder := by
      unfold SqlRepository.statsOf
      split
      · next cached hc => exact hcached change.folder cached hc
      · rfl
    have hrun := run_findFolderStats s.repository fault change.folder
    split at hrun
    · -- the load failed and left everything as it was
      have herr := run_bind_of_error hrun fun old => pure (change.apply old)
      refine ⟨fun folder row hrow => ?_, fun folder cached hc => ?_, fun f c fs hm => ?_,
        fun fs hp => ?_⟩
      · rw [advance, Repository.readStats, after_of_error herr] at hrow
        exact h.folder_eq folder row hrow
      · rw [advance, Repository.readStats, after_of_error herr] at hc ⊢
        exact Or.inl (hcached folder cached hc)
      · rw [advance, Repository.readStats, result_of_error herr] at hm
        cases hm
      · rw [advance, Repository.readStats, result_of_error herr] at hp
        cases hp
    · have hok : (Repository.readStats fault change).run s.repository =
          .ok (change.apply (s.repository.folderStats.find change.folder))
            (s.repository.withLoadedStats change.folder) := by
        rw [Repository.readStats, run_bind_of_ok hrun, hbase]
        rfl
      refine ⟨fun folder row hrow => ?_, fun folder cached hc => ?_, fun f c fs hm => ?_,
        fun fs hp => ?_⟩
      · rw [advance, after_of_ok hok, SqlRepository.withLoadedStats_folderStats] at hrow
        exact h.folder_eq folder row hrow
      · rw [advance, after_of_ok hok] at hc ⊢
        rw [SqlRepository.withLoadedStats_folderStats]
        unfold SqlRepository.withLoadedStats at hc
        split at hc
        · exact Or.inl (hcached folder cached hc)
        · rw [Table.find_merge] at hc
          split at hc
          · next hf =>
            cases hc
            exact Or.inl (congrArg s.repository.folderStats.find hf.symm)
          · exact Or.inl (hcached folder cached hc)
      · rw [advance, result_of_ok hok] at hm
        cases hm
        rw [advance, after_of_ok hok, SqlRepository.withLoadedStats_folderStats]
      · rw [advance, result_of_ok hok] at hp
        cases hp
  · cases hstep

/-- The row is written; until the put, the cache of that folder lags. -/
theorem CacheInv.mergeStats (h : CacheInv s) (hstep : s.step .mergeStats = some s') :
    CacheInv s' := by
  rw [step] at hstep
  split at hstep
  · next fault change stats hw =>
    cases hstep
    have hcached : ∀ folder cached, s.repository.folderStatsByFolder.find folder = some cached →
        cached = s.repository.folderStats.find folder := fun folder cached hc =>
      h.cached_of_not_putting (fun stats hput => by rw [hw] at hput; cases hput) hc
    obtain ⟨e, hrun⟩ := run_writeFolderStats s.repository fault stats
    split at hrun
    · refine ⟨fun folder row hrow => ?_, fun folder cached hc => ?_, fun f c fs hm => ?_,
        fun fs hp => ?_⟩
      · rw [advance, after_of_ok hrun, Table.find_merge] at hrow
        split at hrow
        · next hf =>
          cases hrow
          exact hf.symm
        · exact h.folder_eq folder row hrow
      · rw [advance, after_of_ok hrun] at hc
        by_cases hf : stats.folder = folder
        · refine Or.inr ⟨stats, ?_, hf⟩
          rw [advance, result_of_ok hrun]
          rfl
        · rw [advance, after_of_ok hrun, Table.find_merge_of_ne (Ne.symm hf)]
          exact Or.inl (hcached folder cached hc)
      · rw [advance, result_of_ok hrun] at hm
        cases hm
      · rw [advance, result_of_ok hrun] at hp
        cases hp
        rw [advance, after_of_ok hrun, Table.find_merge_self]
    · refine ⟨fun folder row hrow => ?_, fun folder cached hc => ?_, fun f c fs hm => ?_,
        fun fs hp => ?_⟩
      · rw [advance, after_of_error hrun] at hrow
        exact h.folder_eq folder row hrow
      · rw [advance, after_of_error hrun] at hc ⊢
        exact Or.inl (hcached folder cached hc)
      · rw [advance, result_of_error hrun] at hm
        cases hm
      · rw [advance, result_of_error hrun] at hp
        cases hp
  · cases hstep

/-- The put makes up for the lag. -/
theorem CacheInv.putStats (h : CacheInv s) (hstep : s.step .putStats = some s') :
    CacheInv s' := by
  rw [step] at hstep
  split at hstep
  · next stats hw =>
    cases hstep
    refine ⟨h.folder_eq, fun folder cached hc => ?_, fun f c fs hm => ?_, fun fs hp => ?_⟩
    · change (s.repository.folderStatsByFolder.merge stats.folder (some stats)).find folder =
        some cached at hc
      change cached = s.repository.folderStats.find folder ∨ _
      rw [Table.find_merge] at hc
      split at hc
      · next hf =>
        cases hc
        exact Or.inl (hf ▸ (h.written stats hw).symm)
      · next hf =>
        rcases h.cached folder cached hc with heq | ⟨stats', hw', hf'⟩
        · exact Or.inl heq
        · rw [hw] at hw'
          cases hw'
          exact absurd hf'.symm hf
    · cases hm
    · cases hp
  · cases hstep

/-- An entry that expires leaves nothing wrong behind. -/
theorem CacheInv.expire (h : CacheInv s) {folder : String}
    (hstep : s.step (.expire folder) = some s') : CacheInv s' := by
  cases hstep
  refine ⟨h.folder_eq, fun folder' cached hc => ?_, h.computed, h.written⟩
  change (s.repository.folderStatsByFolder.delete folder).find folder' = some cached at hc
  by_cases hf : folder' = folder
  · rw [hf, Table.find_delete_self] at hc
    cases hc
  · rw [Table.find_delete_of_ne hf] at hc
    exact h.cached folder' cached hc

/-- **Every step that meets the condition keeps the invariant.** -/
theorem CacheInv.step (h : CacheInv s) {turn : Turn} (hok : s.UpToDate turn)
    (hstep : s.step turn = some s') : CacheInv s' := by
  cases turn with
  | select rows =>
    rw [StatsCache.step] at hstep
    split at hstep
    · cases hstep
      exact h.of_readers _
    · cases hstep
  | refresh i => exact h.refresh hok hstep
  | abandon i =>
    cases hstep
    exact h.of_readers _
  | writeRecord fault info blocks => exact h.writeRecord hstep
  | readStats => exact h.readStats hstep
  | mergeStats => exact h.mergeStats hstep
  | putStats => exact h.putStats hstep
  | expire folder => exact h.expire hstep

/-- The invariant holds in every run of such steps. -/
theorem cacheInv_of_run {es : List Turn} (h : machine.Run (fun _ => UpToDate) es s) :
    CacheInv s := by
  refine h.invariant (I := fun _ s => CacheInv s) (fun s hs => ?_)
    fun es s turn s' _ hinv hok hstep => hinv.step hok hstep
  rw [show s = { repository := .fresh } from hs]
  exact CacheInv.fresh

/-- **Where no put of a reader is overtaken, the cache is the table.**
With no call in progress every cached entry is its row, and the numbers
an update is about to write are its change of the row they replace. -/
theorem cached_of_run {es : List Turn} (h : machine.Run (fun _ => UpToDate) es s) :
    (s.Quiet → ∀ folder cached, s.repository.folderStatsByFolder.find folder = some cached →
      cached = s.repository.folderStats.find folder) ∧
    ∀ fault change folderStats, s.writer = some (.merging fault change folderStats) →
      folderStats = change.apply (s.repository.folderStats.find change.folder) := by
  have hinv := cacheInv_of_run h
  refine ⟨fun hquiet folder cached hc => ?_, hinv.computed⟩
  exact hinv.cached_of_not_putting (fun stats hw => by rw [hquiet.1] at hw; cases hw) hc

end StatsCache

end Updates

namespace StatsCache

section Sample

attribute [local instance] Sample.guava Sample.filenameUtils Sample.protobuf

/-- The steps of an update. -/
def update (info : FileInfo) : List Turn :=
  [.writeRecord none info none, .readStats, .mergeStats, .putStats]

/-- The file of a given path, in the folder `default`. -/
def sampleFile {path : String} (hnames : PathUtils.namesOf path = .ok (path, "")) : FileInfo :=
  Sample.file hnames zeros_ne 7 5

/-- Run steps that each pass a test. -/
def sampleRun (test : StatsCache → Turn → Bool) (turns : List Turn) : Option StatsCache :=
  turns.foldlM (fun s turn => if test s turn then s.step turn else none) { repository := .fresh }

/-- A reader that puts its row before the next update begins. -/
def refreshed : List Turn :=
  update (sampleFile Sample.names_a) ++ [.select [⟨"default", 1, 0, 5, 7⟩], .refresh 0] ++
    update (sampleFile Sample.names_f)

/-- A reader that puts its row after the next update. -/
def overtaken : List Turn :=
  update (sampleFile Sample.names_a) ++ [.select [⟨"default", 1, 0, 5, 7⟩]] ++
    update (sampleFile Sample.names_f) ++ [.refresh 0]

/-- The rows a reader is about to put are the table's. -/
def firstUpToDate (s : StatsCache) : Turn → Bool
  | .refresh i => ((s.readers[i]?).bind List.head?).all fun row =>
      s.repository.folderStats.find row.folder = some row
  | _ => true

/-- The test is enough for the condition. -/
theorem upToDate_of_firstUpToDate {s : StatsCache} {turn : Turn}
    (h : firstUpToDate s turn = true) : s.UpToDate turn := by
  cases turn with
  | refresh i =>
    intro row more hrow
    rw [firstUpToDate, hrow] at h
    exact Or.inl (of_decide_eq_true h)
  | _ => trivial

/-- A refresh between two updates leaves the cache the table's. -/
theorem cached_of_run_sample :
    ∃ s, machine.Run (fun _ => UpToDate) refreshed s ∧ s.Quiet ∧
      s.repository.folderStatsByFolder.find "default" = some (some ⟨"default", 2, 0, 10, 7⟩) ∧
      s.repository.folderStats.find "default" = some ⟨"default", 2, 0, 10, 7⟩ := by
  have hany : (sampleRun firstUpToDate refreshed).any (fun s =>
      (s.writer = none ∧ ∀ rows ∈ s.readers, rows = []) ∧
      s.repository.folderStatsByFolder.find "default" =
        some (some ⟨"default", 2, 0, 10, 7⟩)) = true := by
    decide +kernel
  obtain ⟨s, hsteps, hparts⟩ := Machine.exists_run_of_any hany
  obtain ⟨hquiet, hcached⟩ := of_decide_eq_true hparts
  have hrun := hsteps.mono fun _ _ _ h => upToDate_of_firstUpToDate h
  exact ⟨s, hrun, hquiet, hcached, ((cached_of_run hrun).1 hquiet _ _ hcached).symm⟩

/-- **A put that an update has overtaken stays**: with no call in progress
the cache answers one file where the table has two, and the next update
persists two where the folder has three. -/
theorem overtaken_put_persisted :
    ∃ s s', machine.Reaches overtaken s ∧ s.Quiet ∧
      s.repository.folderStatsByFolder.find "default" = some (some ⟨"default", 1, 0, 5, 7⟩) ∧
      s.repository.folderStats.find "default" = some ⟨"default", 2, 0, 10, 7⟩ ∧
      machine.Reaches (overtaken ++ update (sampleFile Sample.names_d)) s' ∧ s'.Quiet ∧
      s'.repository.folderStats.find "default" = some ⟨"default", 2, 0, 10, 7⟩ ∧
      fileCountOf s'.repository "default" = 3 := by
  have hfirst : (sampleRun (fun _ _ => true) overtaken).any (fun s =>
      (s.writer = none ∧ ∀ rows ∈ s.readers, rows = []) ∧
      s.repository.folderStatsByFolder.find "default" = some (some ⟨"default", 1, 0, 5, 7⟩) ∧
      s.repository.folderStats.find "default" = some ⟨"default", 2, 0, 10, 7⟩) = true := by
    decide +kernel
  have hnext : (sampleRun (fun _ _ => true)
      (overtaken ++ update (sampleFile Sample.names_d))).any (fun s =>
        (s.writer = none ∧ ∀ rows ∈ s.readers, rows = []) ∧
        s.repository.folderStats.find "default" = some ⟨"default", 2, 0, 10, 7⟩ ∧
        fileCountOf s.repository "default" = 3) = true := by
    decide +kernel
  obtain ⟨s, hsteps, hparts⟩ := Machine.exists_run_of_any hfirst
  obtain ⟨s', hsteps', hparts'⟩ := Machine.exists_run_of_any hnext
  obtain ⟨hquiet, hcached, hrow⟩ := of_decide_eq_true hparts
  obtain ⟨hquiet', hrow', hcount⟩ := of_decide_eq_true hparts'
  exact ⟨s, s', hsteps.reaches, hquiet, hcached, hrow,
    hsteps'.reaches, hquiet', hrow', hcount⟩

end Sample

end StatsCache

end Repository

end ASync
