import ASync.Bep.Replication
import ASync.Repository.Statistics
/-!
# A register that keeps the newest record

Records passed to `pushRecord` one after another, from an empty
repository. The row of a path is that of its newest record, and the block
list of a file and the statistics of a folder follow from the records
alone: where modification times tell the records of a path apart, neither
their order nor how often each is delivered makes a difference.
-/

namespace ASync

namespace Bep

open ASync.Core Repository BlockExchageProtos Effect

section Convergence

variable [Guava] [FilenameUtils] [Protobuf IndexSerializationProtos.Blocks]
variable {h h' : IndexHandler} {fault : Fault} {folder path : String}
variable {r : BlockExchageProtos.FileInfo} {info : Core.FileInfo} {blocks : Option FileBlocks}
variable {records records' : List (String × BlockExchageProtos.FileInfo)}

/-! ## The records and what they leave -/

/-- The handler after records, each with its folder, were passed to
`pushRecord`; one that cannot be built is refused with an exception. -/
def pushed (records : List (String × BlockExchageProtos.FileInfo)) (h : IndexHandler) :
    IndexHandler :=
  records.foldl (fun h record => after (pushRecord none record.1 record.2) h) h

/-- The records of a path that can be built. -/
def recordsOfPath (folder path : String) (records : List (String × BlockExchageProtos.FileInfo)) :
    List (String × BlockExchageProtos.FileInfo) :=
  records.filter fun record =>
    buildable record.1 record.2 && decide ((record.1, record.2.name) = (folder, path))

/-- The first of them with the greatest modification time. -/
noncomputable def newest (folder path : String)
    (records : List (String × BlockExchageProtos.FileInfo)) :
    Option (String × BlockExchageProtos.FileInfo) :=
  (recordsOfPath folder path records).argmax fun record => lastModified record.2

/-- The row a record is stored as. -/
def storedRow (record : String × BlockExchageProtos.FileInfo) : Option FileInfoRow :=
  match buildRecord record.1 record.2 with
  | .ok (some (info, _)) => some (FileInfoRow.of info (lastVersion info))
  | _ => none

/-- The row its block list is stored as. -/
def storedBlocks (record : String × BlockExchageProtos.FileInfo) : Option FileBlocksRow :=
  match buildRecord record.1 record.2 with
  | .ok (some (_, some fileBlocks)) =>
    match encodeBlocks fileBlocks with
    | .ok blocks => some (blocksRow fileBlocks blocks)
    | .error _ => none
  | _ => none

/-- The modification times of a folder's records. -/
def timesOf (folder : String) (records : List (String × BlockExchageProtos.FileInfo)) : List ℤ :=
  (records.filter fun record => buildable record.1 record.2 && decide (record.1 = folder)).map
    fun record => lastModified record.2

/-- The total size of each folder stays within a `long`, from the first
record to the last. -/
def Fits (records : List (String × BlockExchageProtos.FileInfo)) (h : IndexHandler) : Prop :=
  ∀ before, before <+: records → ∀ record ∈ before,
    Repository.sizeOf (pushed before h).indexRepository record.1 < 2 ^ 63

/-- Modification times tell the records of a path apart. -/
def DistinctTimes (records : List (String × BlockExchageProtos.FileInfo)) : Prop :=
  ∀ a ∈ records, ∀ b ∈ records, a.1 = b.1 → a.2.name = b.2.name →
    lastModified a.2 = lastModified b.2 → a = b

theorem pushed_concat (records : List (String × BlockExchageProtos.FileInfo))
    (record : String × BlockExchageProtos.FileInfo) (h : IndexHandler) :
    pushed (records ++ [record]) h =
      after (pushRecord none record.1 record.2) (pushed records h) := by
  rw [pushed, List.foldl_append, List.foldl_cons, List.foldl_nil, pushed]

omit [Protobuf IndexSerializationProtos.Blocks] in
theorem exists_build_of_buildable (hb : buildable folder r = true) :
    ∃ info blocks, buildRecord folder r = .ok (some (info, blocks)) := by
  unfold buildable at hb
  split at hb
  · next built hbuilt => exact ⟨built.1, built.2, hbuilt⟩
  · cases hb

omit [Protobuf IndexSerializationProtos.Blocks] in
theorem buildable_of_build (hb : buildRecord folder r = .ok (some (info, blocks))) :
    buildable folder r = true := by
  rw [buildable, hb]

omit [Protobuf IndexSerializationProtos.Blocks] in
/-- One record more, of the path or not. -/
theorem newest_concat (records : List (String × BlockExchageProtos.FileInfo))
    (record : String × BlockExchageProtos.FileInfo) :
    newest folder path (records ++ [record]) =
      if buildable record.1 record.2 = true ∧ (record.1, record.2.name) = (folder, path) then
        (newest folder path records).elim (some record) fun old =>
          if lastModified old.2 < lastModified record.2 then some record else some old
      else newest folder path records := by
  unfold newest recordsOfPath
  rw [List.filter_append]
  by_cases hrecord : buildable record.1 record.2 = true ∧ (record.1, record.2.name) = (folder, path)
  · rw [if_pos hrecord, List.filter_cons_of_pos (by simpa using hrecord), List.filter_nil,
      List.argmax_concat]
    cases List.argmax (fun record : String × BlockExchageProtos.FileInfo => lastModified record.2)
        (records.filter fun record => buildable record.1 record.2 &&
          decide ((record.1, record.2.name) = (folder, path))) with
    | none => rfl
    | some old => rfl
  · rw [if_neg hrecord, List.filter_cons_of_neg (by simpa using hrecord), List.filter_nil,
      List.append_nil]

omit [Protobuf IndexSerializationProtos.Blocks] in
/-- A record newer than the newest of its path takes its place. -/
theorem newest_concat_of_newer {record : String × BlockExchageProtos.FileInfo}
    (hb : buildable record.1 record.2 = true)
    (hnewer : ∀ old, newest record.1 record.2.name records = some old →
      lastModified old.2 < lastModified record.2) :
    newest record.1 record.2.name (records ++ [record]) = some record := by
  rw [newest_concat, if_pos ⟨hb, rfl⟩]
  cases hold : newest record.1 record.2.name records with
  | none => rfl
  | some old => exact if_pos (hnewer old hold)

omit [Protobuf IndexSerializationProtos.Blocks] in
/-- Another one leaves it there. -/
theorem newest_concat_of_not_newer {record : String × BlockExchageProtos.FileInfo}
    (hnot : ¬∀ old, newest record.1 record.2.name records = some old →
      lastModified old.2 < lastModified record.2) :
    ∃ old, newest record.1 record.2.name records = some old ∧
      ¬ lastModified old.2 < lastModified record.2 ∧
      newest record.1 record.2.name (records ++ [record]) = some old := by
  obtain ⟨old, hrest⟩ := not_forall.1 hnot
  obtain ⟨hold, hle⟩ := Classical.not_imp.1 hrest
  refine ⟨old, hold, hle, ?_⟩
  rw [newest_concat, hold, Option.elim_some, if_neg hle, ite_self]

omit [Protobuf IndexSerializationProtos.Blocks] in
theorem timesOf_concat (records : List (String × BlockExchageProtos.FileInfo))
    (record : String × BlockExchageProtos.FileInfo) :
    timesOf folder (records ++ [record]) =
      if buildable record.1 record.2 = true ∧ record.1 = folder then
        timesOf folder records ++ [lastModified record.2]
      else timesOf folder records := by
  unfold timesOf
  rw [List.filter_append]
  by_cases hrecord : buildable record.1 record.2 = true ∧ record.1 = folder
  · rw [if_pos hrecord, List.filter_cons_of_pos (by simpa using hrecord), List.filter_nil,
      List.map_append]
    rfl
  · rw [if_neg hrecord, List.filter_cons_of_neg (by simpa using hrecord), List.filter_nil,
      List.append_nil]

/-! ## One record -/

/-- `pushRecord` leaves the repository as a turn of the record loop does. -/
theorem repository_pushRecord (fault : Fault) (folder : String) (r : BlockExchageProtos.FileInfo)
    (h : IndexHandler) :
    (after (pushRecord fault folder r) h).indexRepository =
      (after (processRecord fault folder r) h).indexRepository := by
  cases hrun : (pushRecord fault folder r).run h with
  | ok record h' => rw [after_of_ok hrun, processRecord, after_of_ok (run_tryCatch_of_ok hrun)]
  | error e h' =>
    rw [after_of_error hrun, after_of_ok (run_processRecord_of_error hrun)]

/-- A record that cannot be built leaves the repository as it was. -/
theorem pushRecord_of_not_buildable (hb : buildable folder r = false) (h : IndexHandler) :
    (after (pushRecord none folder r) h).indexRepository = h.indexRepository := by
  have hturn := (processRecord_after none folder r h).2
  have hnot : ∀ {built}, buildRecord folder r ≠ .ok (some built) := by
    intro built hbuilt
    rw [buildable, hbuilt] at hb
    cases hb
  rw [repository_pushRecord]
  generalize after (processRecord none folder r) h = h' at hturn
  cases hturn with
  | unsupported => rfl
  | notNewer hb' => exact absurd hb' hnot
  | stored hb' => exact absurd hb' hnot
  | refused => rfl
  | failed hb' => exact absurd hb' hnot

/-- **A record that can be built is stored when it is newer** than the row
of its path: as `updateFileInfo` leaves the repository. -/
theorem pushRecord_of_buildable (hb : buildRecord folder r = .ok (some (info, blocks)))
    (h : IndexHandler) :
    (after (pushRecord none folder r) h).indexRepository =
      if Newer h info then after (updateFileInfo none info blocks) h.indexRepository
      else h.indexRepository := by
  have hturn := (processRecord_after none folder r h).2
  have hsame : ∀ {info' : Core.FileInfo} {blocks' : Option FileBlocks},
      buildRecord folder r = .ok (some (info', blocks')) → info' = info ∧ blocks' = blocks := by
    intro info' blocks' hb'
    rw [hb] at hb'
    cases hb'
    exact ⟨rfl, rfl⟩
  rw [repository_pushRecord]
  generalize after (processRecord none folder r) h = h' at hturn
  cases hturn with
  | unsupported hnone =>
    rw [hb] at hnone
    cases hnone
  | notNewer hb' hnot =>
    obtain ⟨rfl, rfl⟩ := hsame hb'
    rw [if_neg hnot]
  | stored hb' hnewer hrun =>
    obtain ⟨rfl, rfl⟩ := hsame hb'
    rw [if_pos hnewer, after_of_ok hrun]
  | refused hrefused =>
    rcases hrefused with ⟨e, he⟩ | hfault
    · rw [hb] at he
      cases he
    · cases hfault
  | failed hb' hnewer hrun =>
    obtain ⟨rfl, rfl⟩ := hsame hb'
    rw [if_pos hnewer, after_of_error hrun]

/-! ## The rows -/

omit [Protobuf IndexSerializationProtos.Blocks] in
theorem newest_mem {record : String × BlockExchageProtos.FileInfo}
    (hn : newest folder path records = some record) :
    record ∈ records ∧ buildable record.1 record.2 = true ∧ record.1 = folder ∧
      record.2.name = path := by
  have hmem := List.mem_filter.1 (List.argmax_mem hn)
  rw [Bool.and_eq_true, decide_eq_true_eq, Prod.mk.injEq] at hmem
  exact hmem

omit [Protobuf IndexSerializationProtos.Blocks] in
theorem storedRow_of_build (hb : buildRecord folder r = .ok (some (info, blocks))) :
    storedRow (folder, r) = some (FileInfoRow.of info (lastVersion info)) := by
  simp only [storedRow, hb]

omit [Protobuf IndexSerializationProtos.Blocks] in
/-- The row of the newest record carries its time. -/
theorem storedRow_of_newest {record : String × BlockExchageProtos.FileInfo}
    (hn : newest folder path records = some record) :
    ∃ row, storedRow record = some row ∧ row.lastModified = lastModified record.2 := by
  obtain ⟨info, blocks, hb⟩ := exists_build_of_buildable (newest_mem hn).2.1
  obtain ⟨_, _, hmod, _⟩ := buildRecord_eq_ok hb
  exact ⟨_, storedRow_of_build hb, hmod⟩

omit [Protobuf IndexSerializationProtos.Blocks] in
/-- **Newer than the row is newer than the newest record** of the path. -/
theorem newer_iff (hrow : h.rowOf folder r.name = (newest folder r.name records).bind storedRow)
    (hb : buildRecord folder r = .ok (some (info, blocks))) :
    Newer h info ↔
      ∀ old, newest folder r.name records = some old → lastModified old.2 < lastModified r := by
  obtain ⟨hfolder, hpath, hmod, _⟩ := buildRecord_eq_ok hb
  unfold Newer
  rw [hfolder, hpath, hmod, hrow]
  cases hn : newest folder r.name records with
  | none => simp
  | some old =>
    obtain ⟨row, hstored, htime⟩ := storedRow_of_newest hn
    simp only [Option.bind_some, hstored, Option.some.injEq, forall_eq', htime]

/-- **The row of a path is that of its newest record.** -/
theorem rowOf_pushed [LawfulBase16] (hempty : h.indexRepository.fileInfo = ∅)
    (hvalid : ∀ record ∈ records, Valid record.2) (folder path : String) :
    (pushed records h).rowOf folder path = (newest folder path records).bind storedRow := by
  induction records using List.reverseRecOn generalizing folder path with
  | nil =>
    show h.indexRepository.fileInfo.find (folder, path) = _
    rw [hempty, Table.find_empty]
    rfl
  | append_singleton records record ih =>
    have ih := ih fun a ha => hvalid a (List.mem_append_left _ ha)
    have hlast : Valid record.2 := hvalid record (List.mem_append_right _ List.mem_cons_self)
    rw [pushed_concat, IndexHandler.rowOf, repository_pushRecord]
    cases hbuildable : buildable record.1 record.2 with
    | false =>
      rw [fileInfo_processRecord_of_not_buildable hbuildable, newest_concat, hbuildable,
        if_neg fun h' => Bool.false_ne_true h'.1]
      exact ih folder path
    | true =>
      obtain ⟨info, blocks, hb⟩ := exists_build_of_buildable hbuildable
      obtain ⟨hfolder, hpath, _⟩ := buildRecord_eq_ok hb
      have hnewer := newer_iff (ih record.1 record.2.name) hb
      rw [fileInfo_processRecord hlast hb]
      by_cases hkey : (record.1, record.2.name) = (folder, path)
      · obtain ⟨rfl, rfl⟩ := Prod.mk.inj hkey
        by_cases hn : Newer (pushed records h) info
        · rw [if_pos hn, hfolder, hpath, Table.find_merge_self,
            newest_concat_of_newer hbuildable (hnewer.1 hn)]
          exact (storedRow_of_build hb).symm
        · obtain ⟨old, hold, _, hconcat⟩ := newest_concat_of_not_newer (mt hnewer.2 hn)
          rw [if_neg hn, hconcat, ← hold]
          exact ih record.1 record.2.name
      · have hrow := ih folder path
        by_cases hn : Newer (pushed records h) info
        · rw [if_pos hn, hfolder, hpath, Table.find_merge_of_ne (Ne.symm hkey), newest_concat,
            if_neg fun h' => hkey h'.2]
          exact hrow
        · rw [if_neg hn, newest_concat, if_neg fun h' => hkey h'.2]
          exact hrow

/-! ## Block lists and statistics -/

omit [Guava] [Protobuf IndexSerializationProtos.Blocks] in
theorem sizeOf_congr {s t : SqlRepository} (hrows : t.fileInfo = s.fileInfo) (folder : String) :
    Repository.sizeOf t folder = Repository.sizeOf s folder := by
  rw [sizeOf_eq_total, sizeOf_eq_total, total_congr hrows]

/-- What the records say of the repository besides its rows: the
statistics are those of calls that wrote the greatest time of each
folder's records, and the block list of a file is that of its newest
record. -/
structure Counted (records : List (String × BlockExchageProtos.FileInfo)) (s : SqlRepository) :
    Prop where
  stats : ∃ es, StatsInv es s ∧
    ∀ folder, (lastModifiedsWritten folder es).maximum = (timesOf folder records).maximum
  blocks : ∀ folder path record, newest folder path records = some record →
    record.2.type = .FILE → s.fileBlocks.find (folder, path) = storedBlocks record

theorem Counted.fresh : Counted [] SqlRepository.fresh where
  stats := ⟨[], StatsInv.fresh, fun _ => rfl⟩
  blocks _ _ _ hn := nomatch hn

omit [Protobuf IndexSerializationProtos.Blocks] in
/-- A valid record is given to the repository with a size that is not
negative. -/
theorem size_nonneg_of_build (hb : buildRecord folder r = .ok (some (info, blocks)))
    (hvalid : Valid r) : ∀ n, info.size = some n → 0 ≤ n := by
  intro n hn
  obtain ⟨_, _, _, _, _, hcases⟩ := buildRecord_eq_ok hb
  rcases hcases with ⟨_, hi, _⟩ | ⟨htype, _, hsize, _⟩
  · have htyped := info.typed
    rw [hi] at htyped
    rw [htyped.1] at hn
    cases hn
  · rcases hvalid.2 with hdir | ⟨_, hnonneg, _⟩
    · rw [htype] at hdir
      cases hdir
    · rw [hsize] at hn
      cases hn
      exact hnonneg

/-- Writing a block list leaves those of other paths. -/
theorem find_withBlocks_of_ne (s : SqlRepository) {key : String × String}
    (hother : ∀ b, blocks = some b → key ≠ (b.folder, b.path)) :
    (s.withBlocks blocks).fileBlocks.find key = s.fileBlocks.find key := by
  cases blocks with
  | none => rfl
  | some b =>
    rw [SqlRepository.withBlocks]
    split
    · exact Table.find_merge_of_ne (hother b rfl)
    · rfl

/-- The block list of a file that can be built is stored. -/
theorem find_withBlocks_self [LawfulBase16] (s : SqlRepository)
    (hb : buildRecord folder r = .ok (some (info, blocks))) (htype : r.type = .FILE) :
    (s.withBlocks blocks).fileBlocks.find (folder, r.name) = storedBlocks (folder, r) := by
  obtain ⟨_, _, _, _, _, hcases⟩ := buildRecord_eq_ok hb
  rcases hcases with ⟨hdir, _⟩ | ⟨_, _, _, _, b, rfl, hbf, hbp, hbb⟩
  · rw [htype] at hdir
    cases hdir
  · have hok := encodeBlocks_isOk hbb
    rw [SqlRepository.withBlocks]
    simp only [storedBlocks, hb]
    cases hencode : encodeBlocks b with
    | error e =>
      rw [hencode] at hok
      cases hok
    | ok bytes =>
      rw [← hbf, ← hbp]
      exact Table.find_merge_self

/-- **A record that is stored** enters the statistics and, if it is a
file, leaves its block list. -/
theorem Counted.stored [LawfulBase16] {s : SqlRepository} (hc : Counted records s)
    (hb : buildRecord folder r = .ok (some (info, blocks))) (hvalid : Valid r)
    (hfits : Repository.sizeOf (s.withFileInfo info (lastVersion info)) info.folder < 2 ^ 63)
    (hnewest : newest folder r.name (records ++ [(folder, r)]) = some (folder, r)) :
    Counted (records ++ [(folder, r)]) (after (updateFileInfo none info blocks) s) := by
  obtain ⟨es, hinv, hmax⟩ := hc.stats
  obtain ⟨hfolder, hpath, hmod, _, _, hcases⟩ := buildRecord_eq_ok hb
  have hstop := stopsBeforeWrites_eq_false hvalid hb
  have hlong : FitsLong es s (.updateFileInfo info blocks) :=
    ⟨size_nonneg_of_build hb hvalid, hfits⟩
  refine ⟨⟨es ++ [.updateFileInfo info blocks], hinv.step hlong, fun folder' => ?_⟩,
    fun folder' path record hn htype => ?_⟩
  · rw [lastModifiedsWritten_append_updateFileInfo, timesOf_concat, hfolder]
    by_cases hf : folder = folder'
    · rw [if_pos ⟨hf, hstop⟩, if_pos ⟨buildable_of_build hb, hf⟩, List.maximum_concat,
        List.maximum_concat, hmax, hmod]
    · rw [if_neg fun h' => hf h'.1, if_neg fun h' => hf h'.2]
      exact hmax folder'
  · rw [after_updateFileInfo_none hinv hlong, hstop, if_neg Bool.false_ne_true, updated_fileBlocks]
    by_cases hkey : (folder, r.name) = (folder', path)
    · obtain ⟨rfl, rfl⟩ := Prod.mk.inj hkey
      rw [hnewest] at hn
      cases hn
      exact find_withBlocks_self s hb htype
    · rw [newest_concat, if_neg fun h' => hkey h'.2] at hn
      rw [find_withBlocks_of_ne]
      · exact hc.blocks folder' path record hn htype
      · intro b hsome heq
        rcases hcases with ⟨_, _, hnone⟩ | ⟨_, _, _, _, b', hsome', hbf, hbp, _⟩
        · rw [hsome] at hnone
          cases hnone
        · rw [hsome] at hsome'
          cases hsome'
          rw [hbf, hbp] at heq
          exact hkey heq.symm

/-- A record that is not newer than its path's changes nothing. -/
theorem Counted.skipped {s : SqlRepository} (hc : Counted records s)
    {record : String × BlockExchageProtos.FileInfo}
    (hold : buildable record.1 record.2 = true →
      ∃ old, newest record.1 record.2.name records = some old ∧
        ¬ lastModified old.2 < lastModified record.2) : Counted (records ++ [record]) s := by
  obtain ⟨es, hinv, hmax⟩ := hc.stats
  refine ⟨⟨es, hinv, fun folder => ?_⟩, fun folder path record' hn htype => ?_⟩
  · rw [hmax, timesOf_concat]
    split
    · next hrecord =>
      obtain ⟨old, hnewest, hle⟩ := hold hrecord.1
      obtain ⟨hmem, hbuild, hfolder, _⟩ := newest_mem hnewest
      -- the older record's time is among those of the folder
      have hin : lastModified old.2 ∈ timesOf folder records :=
        List.mem_map.2 ⟨old, List.mem_filter.2 ⟨hmem,
          Bool.and_eq_true_iff.2 ⟨hbuild, decide_eq_true (hfolder.trans hrecord.2)⟩⟩, rfl⟩
      rw [List.maximum_concat, max_eq_left]
      refine le_trans ?_ (List.le_maximum_of_mem' hin)
      exact_mod_cast not_lt.1 hle
    · rfl
  · rw [newest_concat] at hn
    split at hn
    · next hrecord =>
      obtain ⟨old, hnewest, hle⟩ := hold hrecord.1
      obtain ⟨rfl, rfl⟩ := Prod.mk.inj hrecord.2
      rw [hnewest, Option.elim_some, if_neg hle] at hn
      cases hn
      exact hc.blocks _ _ _ hnewest htype
    · exact hc.blocks folder path record' hn htype

/-- **The records determine statistics and block lists**, in every state
of the run. -/
theorem counted_pushed [LawfulBase16] (hstart : h.indexRepository = SqlRepository.fresh)
    (hvalid : ∀ record ∈ records, Valid record.2) (hfits : Fits records h) :
    Counted records (pushed records h).indexRepository := by
  induction records using List.reverseRecOn with
  | nil =>
    show Counted [] h.indexRepository
    rw [hstart]
    exact Counted.fresh
  | append_singleton records record ih =>
    have hinit : ∀ a ∈ records, Valid a.2 := fun a ha => hvalid a (List.mem_append_left _ ha)
    have hc := ih hinit fun before hbefore =>
      hfits before (hbefore.trans (List.prefix_append records [record]))
    have hlast : Valid record.2 := hvalid record (List.mem_append_right _ List.mem_cons_self)
    have hend := hfits (records ++ [record]) (List.prefix_refl _) record
      (List.mem_append_right _ List.mem_cons_self)
    rw [pushed_concat] at hend ⊢
    cases hbuildable : buildable record.1 record.2 with
    | false =>
      rw [pushRecord_of_not_buildable hbuildable]
      refine hc.skipped fun hb => ?_
      rw [hbuildable] at hb
      cases hb
    | true =>
      obtain ⟨info, blocks, hb⟩ := exists_build_of_buildable hbuildable
      have hrow := rowOf_pushed (h := h) (by rw [hstart]; rfl) hinit record.1 record.2.name
      have hnewer := newer_iff hrow hb
      by_cases hn : Newer (pushed records h) info
      · have hrows : (after (pushRecord none record.1 record.2)
            (pushed records h)).indexRepository.fileInfo =
              ((pushed records h).indexRepository.withFileInfo info
                (lastVersion info)).fileInfo := by
          rw [repository_pushRecord, fileInfo_processRecord hlast hb, if_pos hn,
            SqlRepository.withFileInfo]
        rw [sizeOf_congr hrows, ← (buildRecord_eq_ok hb).1] at hend
        rw [pushRecord_of_buildable hb, if_pos hn]
        exact hc.stored hb hlast hend (newest_concat_of_newer hbuildable (hnewer.1 hn))
      · obtain ⟨old, hold, hle, _⟩ := newest_concat_of_not_newer (mt hnewer.2 hn)
        rw [pushRecord_of_buildable hb, if_neg hn]
        exact hc.skipped fun _ => ⟨old, hold, hle⟩

/-! ## Order and repetition -/

/-- Statistics that are true to the same rows, and written up to the same
times, are the same. -/
theorem folderStats_eq {es es' : List Call} {s s' : SqlRepository} (hs : StatsInv es s)
    (hs' : StatsInv es' s') (hrows : s'.fileInfo = s.fileInfo)
    (htimes : ∀ folder, (lastModifiedsWritten folder es').maximum =
      (lastModifiedsWritten folder es).maximum) : s'.folderStats = s.folderStats := by
  refine Table.ext_find fun folder => ?_
  have hfile := (hs'.fileCount folder).trans ((total_congr hrows).trans (hs.fileCount folder).symm)
  have hdir := (hs'.dirCount folder).trans ((total_congr hrows).trans (hs.dirCount folder).symm)
  have hsize := (hs'.size folder).trans ((total_congr hrows).trans (hs.size folder).symm)
  have hlast := (hs'.lastUpdate folder).trans ((htimes folder).trans (hs.lastUpdate folder).symm)
  cases hfind : s.folderStats.find folder with
  | none =>
    cases hfind' : s'.folderStats.find folder with
    | none => rfl
    | some stats' =>
      rw [hfind, hfind'] at hlast
      cases hlast
  | some stats =>
    cases hfind' : s'.folderStats.find folder with
    | none =>
      rw [hfind, hfind'] at hlast
      cases hlast
    | some stats' =>
      have hfolder :=
        (hs'.folder_eq folder stats' hfind').trans (hs.folder_eq folder stats hfind).symm
      rw [hfind, hfind'] at hfile hdir hsize hlast
      have hupdate : stats'.lastUpdate = stats.lastUpdate := WithBot.coe_injective hlast
      cases stats
      cases stats'
      simp only [Option.elim_some] at hfile hdir hsize
      simp only at hfolder hupdate
      rw [hfolder, hfile, hdir, hsize, hupdate]

omit [Protobuf IndexSerializationProtos.Blocks] in
theorem mem_recordsOfPath_iff (hmem : ∀ record, record ∈ records' ↔ record ∈ records)
    (record : String × BlockExchageProtos.FileInfo) :
    record ∈ recordsOfPath folder path records' ↔ record ∈ recordsOfPath folder path records := by
  rw [recordsOfPath, List.mem_filter, recordsOfPath, List.mem_filter, hmem]

omit [Protobuf IndexSerializationProtos.Blocks] in
/-- The newest records are those of the set of records. -/
theorem newest_eq (hmem : ∀ record, record ∈ records' ↔ record ∈ records)
    (hdistinct : DistinctTimes records) (folder path : String) :
    newest folder path records' = newest folder path records := by
  unfold newest
  refine (Table.argmax_eq_of_mem_iff _ (fun a => (mem_recordsOfPath_iff hmem a).symm) ?_).symm
  intro a ha b hb htime
  have hkey := fun {c} (hc : c ∈ recordsOfPath folder path records) =>
    Bool.and_eq_true_iff.1 (List.mem_filter.1 hc).2
  obtain ⟨hfolder, hname⟩ := Prod.mk.inj (of_decide_eq_true (hkey ha).2)
  obtain ⟨hfolder', hname'⟩ := Prod.mk.inj (of_decide_eq_true (hkey hb).2)
  exact hdistinct a (List.mem_filter.1 ha).1 b (List.mem_filter.1 hb).1
    (hfolder.trans hfolder'.symm) (hname.trans hname'.symm) htime

omit [Protobuf IndexSerializationProtos.Blocks] in
theorem timesOf_maximum_eq (hmem : ∀ record, record ∈ records' ↔ record ∈ records)
    (folder : String) : (timesOf folder records').maximum = (timesOf folder records).maximum := by
  refine Table.maximum_eq_of_mem_iff fun time => ?_
  simp only [timesOf, List.mem_map, List.mem_filter, hmem]

/-- What a path's two rows read as, together. -/
def readBoth (row : Option FileInfoRow) (blocksRow : Option FileBlocksRow) :
    Except JavaException (Option (Core.FileInfo × FileBlocks)) :=
  match row with
  | none => .ok none
  | some row => do
    checkArgument row.info.isFile ""
    let found ← blocksRow.mapM readFileBlocks
    let fileBlocks ← checkNotNull found "file blocks not found for file info"
    return some (row.info, fileBlocks)

theorem run_findFileBlocks (folder path : String) (h : IndexHandler) :
    (repository (findFileBlocks folder path)).run h =
      (ofExcept ((h.indexRepository.fileBlocks.find (folder, path)).mapM readFileBlocks) :
        HandlerM (Option FileBlocks)).run h := by
  cases hfind : h.indexRepository.fileBlocks.find (folder, path) with
  | none =>
    have hrun : (findFileBlocks folder path).run h.indexRepository =
        .ok none h.indexRepository := by
      simp only [findFileBlocks, EStateM.run_bind, EStateM.run_get, hfind, EStateM.run_pure]
    exact run_repository_of_ok hrun
  | some row =>
    cases hread : readFileBlocks row with
    | error e =>
      have hrun : (findFileBlocks folder path).run h.indexRepository =
          .error e h.indexRepository := by
        simp only [findFileBlocks, EStateM.run_bind, EStateM.run_get, hfind, hread]
        rfl
      rw [run_repository_of_error hrun, Option.mapM_some, hread]
      rfl
    | ok fileBlocks =>
      have hrun : (findFileBlocks folder path).run h.indexRepository =
          .ok (some fileBlocks) h.indexRepository := by
        simp only [findFileBlocks, EStateM.run_bind, EStateM.run_get, hfind, hread]
        rfl
      rw [run_repository_of_ok hrun, Option.mapM_some, hread]
      rfl

/-- **A file and its blocks are read off its two rows.** -/
theorem run_getFileInfoAndBlocksByPath (folder path : String) (h : IndexHandler) :
    (getFileInfoAndBlocksByPath folder path).run h =
      (ofExcept (readBoth (h.rowOf folder path)
        (h.indexRepository.fileBlocks.find (folder, path))) :
        HandlerM (Option (Core.FileInfo × FileBlocks))).run h := by
  have hfind : (repository (findFileInfo none folder path)).run h =
      .ok ((h.rowOf folder path).map FileInfoRow.info) h :=
    run_repository_of_ok (run_findFileInfo h.indexRepository none folder path)
  rw [getFileInfoAndBlocksByPath, run_bind_of_ok hfind]
  cases h.rowOf folder path with
  | none => rfl
  | some row =>
    have hblocks := run_findFileBlocks folder path h
    cases hfile : checkArgument row.info.isFile "" with
    | error e =>
      simp only [Option.map_some, readBoth, hfile]
      rfl
    | ok u =>
      simp only [Option.map_some, readBoth, hfile]
      rw [run_bind_of_ok (run_ofExcept_of_ok rfl h), EStateM.run_bind, hblocks]
      cases (h.indexRepository.fileBlocks.find (folder, path)).mapM readFileBlocks with
      | error e => rfl
      | ok found =>
        cases found with
        | none => rfl
        | some fileBlocks => rfl

theorem result_getFileInfoAndBlocksByPath (folder path : String) (h : IndexHandler) :
    result (getFileInfoAndBlocksByPath folder path) h =
      (readBoth (h.rowOf folder path)
        (h.indexRepository.fileBlocks.find (folder, path))).toOption := by
  rw [result, run_getFileInfoAndBlocksByPath]
  cases readBoth (h.rowOf folder path) (h.indexRepository.fileBlocks.find (folder, path)) with
  | error e => rfl
  | ok found => rfl

/-- **Records delivered to an empty repository.** The row of each path is
that of its newest record, the first of them where times are equal. Where
modification times tell the records of a path apart, any delivery of the
same records, in any order and with any of them repeated, leaves the same
rows, the same statistics, and the same answer for each file. -/
theorem pushRecord_keeps_newest [LawfulBase16] {h h' : IndexHandler}
    {records records' : List (String × BlockExchageProtos.FileInfo)}
    (hstart : h.indexRepository = SqlRepository.fresh)
    (hstart' : h'.indexRepository = SqlRepository.fresh)
    (hvalid : ∀ record ∈ records, Valid record.2) (hfits : Fits records h)
    (hfits' : Fits records' h') :
    (∀ folder path,
      (pushed records h).rowOf folder path = (newest folder path records).bind storedRow) ∧
    (DistinctTimes records → (∀ record, record ∈ records' ↔ record ∈ records) →
      (pushed records' h').indexRepository.fileInfo =
          (pushed records h).indexRepository.fileInfo ∧
        (pushed records' h').indexRepository.folderStats =
          (pushed records h).indexRepository.folderStats ∧
        ∀ folder path record, newest folder path records = some record →
          record.2.type = .FILE →
          result (getFileInfoAndBlocksByPath folder path) (pushed records' h') =
            result (getFileInfoAndBlocksByPath folder path) (pushed records h)) := by
  have hrows := rowOf_pushed (h := h) (by rw [hstart]; rfl) hvalid
  refine ⟨hrows, fun hdistinct hmem => ?_⟩
  have hvalid' : ∀ record ∈ records', Valid record.2 :=
    fun record hrecord => hvalid record ((hmem record).1 hrecord)
  have hrows' := rowOf_pushed (h := h') (by rw [hstart']; rfl) hvalid'
  have hrow : ∀ folder path,
      (pushed records' h').rowOf folder path = (pushed records h).rowOf folder path := by
    intro folder path
    rw [hrows', hrows, newest_eq hmem hdistinct]
  have htable : (pushed records' h').indexRepository.fileInfo =
      (pushed records h).indexRepository.fileInfo :=
    Table.ext_find fun key => hrow key.1 key.2
  have hc := counted_pushed hstart hvalid hfits
  have hc' := counted_pushed hstart' hvalid' hfits'
  refine ⟨htable, ?_, fun folder path record hn htype => ?_⟩
  · obtain ⟨es, hinv, hmax⟩ := hc.stats
    obtain ⟨es', hinv', hmax'⟩ := hc'.stats
    refine folderStats_eq hinv hinv' htable fun folder => ?_
    rw [hmax, hmax', timesOf_maximum_eq hmem]
  · have hblocks := hc.blocks folder path record hn htype
    have hblocks' := hc'.blocks folder path record
      ((newest_eq hmem hdistinct folder path).trans hn) htype
    rw [result_getFileInfoAndBlocksByPath, result_getFileInfoAndBlocksByPath, hrow, hblocks',
      hblocks]

end Convergence

section Sample

attribute [local instance] Sample.guava Sample.filenameUtils Sample.protobuf Sample.lawfulBase16

/-- A file that became a directory, and another file. -/
def sampleRecords : List (String × BlockExchageProtos.FileInfo) :=
  [("default", sampleFile 1), ("default", sampleDirectory 2),
    ("default", { sampleFile 3 with name := "f" })]

/-- The same in another order, one of them twice. -/
def sampleShuffled : List (String × BlockExchageProtos.FileInfo) :=
  [("default", { sampleFile 3 with name := "f" }), ("default", sampleDirectory 2),
    ("default", sampleFile 1), ("default", sampleDirectory 2)]

theorem fits_sample (records : List (String × BlockExchageProtos.FileInfo))
    (h : ∀ before ∈ records.inits, ∀ record ∈ before,
      Repository.sizeOf (pushed before IndexHandler.fresh).indexRepository record.1 < 2 ^ 63) :
    Fits records IndexHandler.fresh :=
  fun before hbefore => h before ((List.mem_inits before records).2 hbefore)

theorem valid_sampleRecords : ∀ record ∈ sampleRecords, Valid record.2 := by
  intro record hrecord
  simp only [sampleRecords, List.mem_cons, List.not_mem_nil, or_false] at hrecord
  rcases hrecord with rfl | rfl | rfl
  · exact valid_sampleFile 1
  · exact valid_sampleDirectory 2
  · exact ⟨by simp [versionList, sampleFile], .inr ⟨rfl, le_refl 0, rfl⟩⟩

/-- In either order the directory and the other file are what is left. -/
theorem pushRecord_keeps_newest_sample :
    (pushed sampleRecords IndexHandler.fresh).rowOf "default" "d" =
        (newest "default" "d" sampleRecords).bind storedRow ∧
      (pushed sampleShuffled IndexHandler.fresh).indexRepository.fileInfo =
        (pushed sampleRecords IndexHandler.fresh).indexRepository.fileInfo ∧
      (pushed sampleShuffled IndexHandler.fresh).indexRepository.folderStats =
        (pushed sampleRecords IndexHandler.fresh).indexRepository.folderStats := by
  have hfits : Fits sampleRecords IndexHandler.fresh := fits_sample _ (by decide +kernel)
  have hfits' : Fits sampleShuffled IndexHandler.fresh := fits_sample _ (by decide +kernel)
  have hconverge := pushRecord_keeps_newest rfl rfl valid_sampleRecords hfits hfits'
  have hdistinct : DistinctTimes sampleRecords := by
    unfold DistinctTimes
    decide +kernel
  have hmem : ∀ record, record ∈ sampleShuffled ↔ record ∈ sampleRecords := by
    intro record
    simp only [sampleShuffled, sampleRecords, List.mem_cons, List.not_mem_nil, or_false]
    tauto
  obtain ⟨hfile, hstats, _⟩ := hconverge.2 hdistinct hmem
  exact ⟨hconverge.1 "default" "d", hfile, hstats⟩

/-- A file without a name. -/
def namelessFile : BlockExchageProtos.FileInfo := { sampleFile 1 with name := "" }

/-- **A valid record need not have a row**: no `FileBlocks` is made for an
empty path, so the only record of the path is refused. -/
theorem refused_record_has_no_row :
    Valid namelessFile ∧
      (pushed [("default", namelessFile)] IndexHandler.fresh).rowOf "default" namelessFile.name =
        none :=
  ⟨valid_sampleFile 1, by decide +kernel⟩

end Sample

end Bep

end ASync
