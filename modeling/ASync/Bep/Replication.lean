import ASync.Common.Newest
import ASync.Core.Helpers.Sample
import ASync.Bep.Helpers.Messages
/-!
# What a replica of one peer's index holds

`addRecord` compares modification times, not sequences: a record that
was not modified after the stored one is discarded. So the row of a path
is that of the newest record sent for it, the first of them where times
are equal — and the last record sent only where times increase.
-/

namespace ASync

namespace Bep

open ASync.Core Repository BlockExchageProtos Effect

section Replication

variable [Guava] [FilenameUtils] [Protobuf IndexSerializationProtos.Blocks]
variable {h h' : IndexHandler} {folder path : String} {r : BlockExchageProtos.FileInfo}
variable {info : Core.FileInfo} {blocks : Option FileBlocks}

/-! ## Records -/

/-- A record as a peer sends it: a file or a directory, with a version,
a file's size the sum of its blocks'. -/
def Valid (r : BlockExchageProtos.FileInfo) : Prop :=
  versionList r ≠ [] ∧ (r.type = .DIRECTORY ∨
    r.type = .FILE ∧ 0 ≤ r.size ∧ r.size = (r.blocks.map BlockExchageProtos.BlockInfo.size).sum)

/-- The program can make a record of it: its folder and path are ones a
`FileInfo` and a `FileBlocks` accept. -/
def buildable (folder : String) (r : BlockExchageProtos.FileInfo) : Bool :=
  match buildRecord folder r with
  | .ok (some _) => true
  | _ => false

omit [Protobuf IndexSerializationProtos.Blocks] in
/-- The folders and paths the program accepts. -/
theorem buildable_iff : buildable folder r = true ↔
    folder ≠ "" ∧ (PathUtils.namesOf r.name).isOk = true ∧
      (r.type = .DIRECTORY ∨
        r.type = .FILE ∧ r.name ≠ "" ∧ BlockUtils.hashBlocks (blockList r) ≠ "") := by
  unfold buildable buildRecord
  cases htype : r.type with
  | FILE =>
    by_cases hfolder : folder = ""
    · simp [FileBlocks.new, hfolder, bind, Except.bind]
    · by_cases hname : r.name = ""
      · simp [FileBlocks.new, hfolder, hname, bind, Except.bind]
      · have hbuild := FileInfo.Builder.build_isOk_iff (b := { newBuilder folder r .FILE with
          hash := some (BlockUtils.hashBlocks (blockList r)), size := some r.size })
        simp only [FileBlocks.new, dif_neg hfolder, dif_neg hname, FileBlocks.hash, bind,
          Except.bind]
        cases hrecord : ({ newBuilder folder r .FILE with
            hash := some (BlockUtils.hashBlocks (blockList r)), size := some r.size } :
            FileInfo.Builder).build with
        | error e =>
          rw [hrecord] at hbuild
          simpa [newBuilder, Except.isOk, Except.toBool, hfolder, hname] using hbuild
        | ok record =>
          rw [hrecord] at hbuild
          simpa [newBuilder, Except.isOk, Except.toBool, hfolder, hname, pure, Except.pure]
            using hbuild
  | DIRECTORY =>
    have hbuild := FileInfo.Builder.build_isOk_iff (b := newBuilder folder r .DIRECTORY)
    cases hrecord : (newBuilder folder r .DIRECTORY).build with
    | error e =>
      rw [hrecord] at hbuild
      simpa [newBuilder, Except.isOk, Except.toBool, bind, Except.bind, hrecord] using hbuild
    | ok record =>
      rw [hrecord] at hbuild
      simpa [newBuilder, Except.isOk, Except.toBool, bind, Except.bind, pure, Except.pure, hrecord]
        using hbuild
  | SYMLINK_FILE => simp [pure, Except.pure]
  | SYMLINK_DIRECTORY => simp [pure, Except.pure]
  | SYMLINK_UNKNOWN => simp [pure, Except.pure]

/-- A row agrees with a record in what the index is for. -/
structure Agrees (row : FileInfoRow) (r : BlockExchageProtos.FileInfo) : Prop where
  fileType : row.fileType = .FILE ∧ r.type = .FILE ∨ row.fileType = .DIRECTORY ∧ r.type = .DIRECTORY
  isDeleted : row.isDeleted = r.deleted
  lastModified : row.lastModified = Bep.lastModified r
  size : r.type = .FILE → row.size = some r.size
  hash : r.type = .FILE → row.hash = some (BlockUtils.hashBlocks (blockList r))
  version : (versionList r).getLast? = some ⟨row.versionId, row.versionValue⟩

omit [Protobuf IndexSerializationProtos.Blocks] in
/-- The row a record is stored as agrees with it. -/
theorem agrees_of_buildRecord (hb : buildRecord folder r = .ok (some (info, blocks)))
    (hversion : versionList r ≠ []) : Agrees (FileInfoRow.of info (lastVersion info)) r := by
  obtain ⟨_, _, hmod, hv, hdel, hcases⟩ := buildRecord_eq_ok hb
  have hlast : (versionList r).getLast? = some (lastVersion info) := by
    obtain ⟨v, hget⟩ := Option.isSome_iff_exists.mp (List.getLast?_isSome.2 hversion)
    rw [lastVersion, hv, hget, Option.getD_some]
  rcases hcases with ⟨htype, hi, _⟩ | ⟨htype, hi, hsize, hhash, _⟩
  · refine ⟨.inr ⟨hi, htype⟩, hdel, hmod, fun hf => ?_, fun hf => ?_, hlast⟩
    all_goals
      rw [htype] at hf
      cases hf
  · exact ⟨.inl ⟨hi, htype⟩, hdel, hmod, fun _ => hsize, fun _ => hhash, hlast⟩

omit [FilenameUtils] in
/-- The column a record's block list is stored in: its hashes come from
base16. -/
theorem encodeBlocks_blockList [LawfulBase16] {b : FileBlocks} (hb : b.blocks = blockList r) :
    encodeBlocks b = .ok (toByteArray (IndexSerializationProtos.Blocks.mk
      (r.blocks.map fun block => ⟨block.offset, block.size, block.hash⟩))) := by
  have hmap : ∀ list : List BlockExchageProtos.BlockInfo, (list.map fun block =>
      (⟨block.offset, block.size, base16Encode block.hash⟩ : Core.BlockInfo)).mapM encodeBlock =
        .ok (list.map fun block => ⟨block.offset, block.size, block.hash⟩) := by
    intro list
    induction list with
    | nil => rfl
    | cons block list ih =>
      rw [List.map_cons, List.mapM_cons, encodeBlock, LawfulBase16.base16Decode_base16Encode, ih]
      rfl
  rw [encodeBlocks, hb, blockList, hmap]
  rfl

omit [FilenameUtils] in
/-- The block list of a record can be encoded. -/
theorem encodeBlocks_isOk [LawfulBase16] {b : FileBlocks} (hb : b.blocks = blockList r) :
    (encodeBlocks b).isOk = true := by
  rw [encodeBlocks_blockList hb]
  rfl

omit [Protobuf IndexSerializationProtos.Blocks] in
/-- A record and the block list it is built with fit each other where its
size is that of its blocks. -/
theorem checkBlocks_of_build {b : FileBlocks}
    (hb : buildRecord folder r = .ok (some (info, some b)))
    (hsize : r.size = (r.blocks.map BlockExchageProtos.BlockInfo.size).sum) :
    checkBlocks info b = .ok () := by
  obtain ⟨hfolder, hpath, _, _, _, hcases⟩ := buildRecord_eq_ok hb
  rcases hcases with ⟨_, _, hnone⟩ | ⟨_, hfile, hinfo, hhash, _, hb', hbf, hbp, hbb⟩
  · cases hnone
  cases hb'
  refine checkBlocks_eq_ok.2 ⟨hbf.trans hfolder.symm, hbp.trans hpath.symm, ?_, ?_, ?_⟩
  · rw [Core.FileInfo.isFile, hfile]
    rfl
  · rw [hinfo, hsize, FileBlocks.size, hbb, blockList, List.map_map]
    rfl
  · rw [hhash, FileBlocks.hash, hbb]

/-- **A valid record that can be built passes every check** before the
first write. -/
theorem stopsBeforeWrites_eq_false [LawfulBase16] (hvalid : Valid r)
    (hb : buildRecord folder r = .ok (some (info, blocks))) :
    stopsBeforeWrites none info blocks = false := by
  obtain ⟨_, _, _, hv, _, hcases⟩ := buildRecord_eq_ok hb
  obtain ⟨hversion, htyped⟩ := hvalid
  have hempty : info.versionList.isEmpty = false := by
    rw [hv]
    exact List.isEmpty_eq_false_iff.2 hversion
  rcases hcases with ⟨_, _, rfl⟩ | ⟨htype, _, _, _, b, rfl, _, _, hbb⟩
  · simp [stopsBeforeWrites, hempty]
  · have hsum : r.size = (r.blocks.map BlockExchageProtos.BlockInfo.size).sum := by
      rcases htyped with hdir | ⟨_, _, hsum⟩
      · rw [htype] at hdir
        cases hdir
      · exact hsum
    have hcheck := checkBlocks_of_build hb hsum
    simp only [stopsBeforeWrites, hempty, hcheck, encodeBlocks_isOk hbb, reduceCtorEq,
      decide_false, Bool.or_false, Bool.not_true]
    rfl

/-! ## One turn, and the replica it keeps -/

/-- The rows of a turn that is given a valid record: it is written where
it is newer than the row of its path. -/
theorem fileInfo_processRecord [LawfulBase16] (hvalid : Valid r)
    (hb : buildRecord folder r = .ok (some (info, blocks))) (h : IndexHandler) :
    (after (processRecord none folder r) h).indexRepository.fileInfo =
      if Newer h info then
        h.indexRepository.fileInfo.merge (info.folder, info.path)
          (FileInfoRow.of info (lastVersion info))
      else h.indexRepository.fileInfo := by
  have hstop := stopsBeforeWrites_eq_false hvalid hb
  have hturn := (processRecord_after none folder r h).2
  have hsame : ∀ {info' : Core.FileInfo} {blocks' : Option FileBlocks},
      buildRecord folder r = .ok (some (info', blocks')) → info' = info ∧ blocks' = blocks := by
    intro info' blocks' hb'
    rw [hb] at hb'
    cases hb'
    exact ⟨rfl, rfl⟩
  generalize after (processRecord none folder r) h = h' at hturn
  cases hturn with
  | unsupported hnone =>
    rw [hb] at hnone
    cases hnone
  | notNewer hb' hnot =>
    obtain ⟨rfl, rfl⟩ := hsame hb'
    rw [if_neg hnot]
  | stored hb' hnewer hrun =>
    obtain ⟨rfl, rfl⟩ := hsame hb'
    have hafter := fileInfo_after_updateFileInfo h.indexRepository hstop
    rw [after_of_ok hrun] at hafter
    rw [if_pos hnewer]
    exact hafter
  | refused hrefused =>
    rcases hrefused with ⟨e, he⟩ | hfault
    · rw [hb] at he
      cases he
    · cases hfault
  | failed hb' hnewer hrun =>
    obtain ⟨rfl, rfl⟩ := hsame hb'
    have hafter := fileInfo_after_updateFileInfo h.indexRepository hstop
    rw [after_of_error hrun] at hafter
    rw [if_pos hnewer]
    exact hafter

/-- The rows of a folder are those of a table of records. -/
def Mirrors (folder : String) (rows : Table (String × String) FileInfoRow)
    (records : Table String BlockExchageProtos.FileInfo) : Prop :=
  ∀ path, match records.find path with
    | none => rows.find (folder, path) = none
    | some r => ∃ info blocks, buildRecord folder r = .ok (some (info, blocks)) ∧
        rows.find (folder, path) = some (FileInfoRow.of info (lastVersion info))

/-- A record that cannot be built writes no row. -/
theorem fileInfo_processRecord_of_not_buildable (hb : buildable folder r = false)
    (h : IndexHandler) :
    (after (processRecord none folder r) h).indexRepository.fileInfo =
      h.indexRepository.fileInfo := by
  have hturn := (processRecord_after none folder r h).2
  have hnot : ∀ {built}, buildRecord folder r ≠ .ok (some built) := by
    intro built hbuilt
    rw [buildable, hbuilt] at hb
    cases hb
  generalize after (processRecord none folder r) h = h' at hturn
  cases hturn with
  | unsupported => rfl
  | notNewer hb' => exact absurd hb' hnot
  | stored hb' => exact absurd hb' hnot
  | refused => rfl
  | failed hb' => exact absurd hb' hnot

/-- The table of records after one more is offered. -/
def offer (folder : String) (records : Table String BlockExchageProtos.FileInfo)
    (r : BlockExchageProtos.FileInfo) : Table String BlockExchageProtos.FileInfo :=
  if buildable folder r then
    records.keepNewest BlockExchageProtos.FileInfo.name Bep.lastModified r
  else records

/-- **A turn of the loop is an offer**: comparing with the row's time is
comparing with that of the record it came from. -/
theorem Mirrors.processRecord [LawfulBase16] {records : Table String BlockExchageProtos.FileInfo}
    (hm : Mirrors folder h.indexRepository.fileInfo records) (hvalid : Valid r) :
    Mirrors folder (after (Bep.processRecord none folder r) h).indexRepository.fileInfo
      (offer folder records r) := by
  cases hbuildable : buildable folder r with
  | false =>
    rw [fileInfo_processRecord_of_not_buildable hbuildable, offer, hbuildable]
    exact hm
  | true =>
    obtain ⟨info, blocks, hb⟩ : ∃ info blocks,
        buildRecord folder r = .ok (some (info, blocks)) := by
      unfold buildable at hbuildable
      split at hbuildable
      · next built hbuilt => exact ⟨built.1, built.2, hbuilt⟩
      · cases hbuildable
    obtain ⟨hfolder, hpath, hmod, _⟩ := buildRecord_eq_ok hb
    have hnewer : Newer h info ↔
        records.IsNewer BlockExchageProtos.FileInfo.name Bep.lastModified r := by
      have hrow := hm r.name
      unfold Newer IndexHandler.rowOf Table.IsNewer
      rw [hfolder, hpath, hmod]
      cases hfind : records.find r.name with
      | none =>
        rw [hfind] at hrow
        rw [hrow]
        simp
      | some r' =>
        rw [hfind] at hrow
        obtain ⟨info', blocks', hb', hrow⟩ := hrow
        obtain ⟨_, _, hmod', _⟩ := buildRecord_eq_ok hb'
        rw [hrow]
        simp only [Option.some.injEq, forall_eq', FileInfoRow.of, hmod']
    rw [fileInfo_processRecord hvalid hb, offer, if_pos hbuildable, Table.keepNewest]
    by_cases hn : Newer h info
    · rw [if_pos hn, if_pos (hnewer.1 hn), hfolder, hpath]
      intro path
      by_cases hp : path = r.name
      · rw [hp, Table.find_merge_self, Table.find_merge_self]
        exact ⟨info, blocks, hb, rfl⟩
      · rw [Table.find_merge_of_ne hp,
          Table.find_merge_of_ne fun h' => hp (Prod.mk.inj h').2]
        exact hm path
    · rw [if_neg hn, if_neg (mt hnewer.2 hn)]
      exact hm

/-! ## Messages -/

theorem Mirrors.processed [LawfulBase16] {records : Table String BlockExchageProtos.FileInfo}
    {files : List BlockExchageProtos.FileInfo}
    (hm : Mirrors folder h.indexRepository.fileInfo records) (hvalid : ∀ r ∈ files, Valid r) :
    Mirrors folder
      (Bep.processed folder (files.map fun r => (r, none)) h).indexRepository.fileInfo
      (files.foldl (offer folder) records) := by
  induction files generalizing h records with
  | nil => exact hm
  | cons r files ih =>
    rw [List.map_cons, processed_cons, List.foldl_cons]
    exact ih (hm.processRecord (hvalid r List.mem_cons_self))
      fun r' hr' => hvalid r' (List.mem_cons_of_mem r hr')

/-- The messages of one peer, processed in order, where no call on the
repository fails. -/
def deliver (peerDeviceId : String) (cluster : ClusterConfigInfo) (ms : List IndexUpdate)
    (h : IndexHandler) : IndexHandler :=
  ms.foldl (fun h message =>
    after (PeerMessage.index peerDeviceId cluster (fun _ => none) message).process h) h

omit [Guava] [FilenameUtils] [Protobuf IndexSerializationProtos.Blocks] in
theorem withFaults_none (files : List BlockExchageProtos.FileInfo) :
    withFaults (fun _ => none) files = files.map fun r => (r, none) := by
  have hfst : files.zipIdx.map Prod.fst = files := List.zipIdx_map_fst 0 files
  conv_rhs => rw [← hfst, List.map_map]
  rfl

/-- **The replica of a folder is an offer of every record**, however the
records are split into messages. -/
theorem Mirrors.deliver [LawfulBase16] {records : Table String BlockExchageProtos.FileInfo}
    {ms : List IndexUpdate} (peerDeviceId : String) (cluster : ClusterConfigInfo)
    (ht : h.IndexTable) (hne : h.folderInfoByFolder.find "" = none)
    (hm : Mirrors folder h.indexRepository.fileInfo records)
    (hfolder : ∀ message ∈ ms, message.folder = folder)
    (hvalid : ∀ message ∈ ms, ∀ r ∈ message.files, Valid r) :
    Mirrors folder (Bep.deliver peerDeviceId cluster ms h).indexRepository.fileInfo
      ((ms.flatMap IndexUpdate.files).foldl (offer folder) records) := by
  induction ms generalizing h records with
  | nil => exact hm
  | cons message ms ih =>
    obtain ⟨ht', hne', _⟩ := process_index ht hne peerDeviceId cluster (fun _ => none) message
    have hself := hfolder message List.mem_cons_self
    rw [List.flatMap_cons, List.foldl_append]
    refine ih ht' hne' ?_ (fun m' hm' => hfolder m' (List.mem_cons_of_mem _ hm'))
      fun m' hm' => hvalid m' (List.mem_cons_of_mem _ hm')
    rw [fileInfo_process_index ht, hself, withFaults_none]
    exact hm.processed (hvalid message List.mem_cons_self)

omit [Protobuf IndexSerializationProtos.Blocks] in
theorem foldl_offer (files : List BlockExchageProtos.FileInfo)
    (records : Table String BlockExchageProtos.FileInfo) :
    files.foldl (offer folder) records = (files.filter (buildable folder)).foldl
      (Table.keepNewest BlockExchageProtos.FileInfo.name Bep.lastModified) records := by
  rw [List.foldl_filter]
  rfl

/-- The records of a path that can be built. -/
def sentFor (folder path : String) (ms : List IndexUpdate) : List BlockExchageProtos.FileInfo :=
  (ms.flatMap IndexUpdate.files).filter fun r => buildable folder r && decide (r.name = path)

/-- **The row of every path is that of the newest record sent for it**,
the first of them where modification times are equal; so it is that of
the last record sent where that was modified after all before it. The
repository may have seen cluster configurations, but holds no rows. -/
theorem fileInfo_eq_newest [LawfulBase16] {es : List PeerMessage} {ms : List IndexUpdate}
    (peerDeviceId : String) (cluster : ClusterConfigInfo) (hrun : messages.Reaches es h)
    (hempty : h.indexRepository.fileInfo = ∅)
    (hfolder : ∀ message ∈ ms, message.folder = folder)
    (hvalid : ∀ message ∈ ms, ∀ r ∈ message.files, Valid r) (path : String) :
    (match (sentFor folder path ms).argmax Bep.lastModified with
      | none => (deliver peerDeviceId cluster ms h).rowOf folder path = none
      | some r => ∃ row, (deliver peerDeviceId cluster ms h).rowOf folder path = some row ∧
          Agrees row r) ∧
      ∀ before r, sentFor folder path ms = before ++ [r] →
        (∀ r' ∈ before, Bep.lastModified r' < Bep.lastModified r) →
        ∃ row, (deliver peerDeviceId cluster ms h).rowOf folder path = some row ∧ Agrees row r := by
  have hn := noted_of_run hrun
  have hstart : Mirrors folder h.indexRepository.fileInfo ∅ := by
    intro path
    rw [Table.find_empty, hempty]
    exact Table.find_empty _
  have hfinal := hstart.deliver peerDeviceId cluster hn.indexTable hn.noEmpty hfolder hvalid path
  rw [foldl_offer, Table.find_foldl_keepNewest, List.filter_filter] at hfinal
  have hsent : sentFor folder path ms = (ms.flatMap IndexUpdate.files).filter fun r =>
      decide (r.name = path) && buildable folder r := by
    rw [sentFor]
    simp only [Bool.and_comm]
  rw [← hsent] at hfinal
  have hmatch : ∀ r, (sentFor folder path ms).argmax Bep.lastModified = some r →
      ∃ row, (deliver peerDeviceId cluster ms h).rowOf folder path = some row ∧ Agrees row r := by
    intro r hr
    rw [hr] at hfinal
    obtain ⟨info, blocks, hb, hrow⟩ := hfinal
    obtain ⟨message, hmessage, hmem⟩ :=
      List.mem_flatMap.1 (List.mem_filter.1 (List.argmax_mem hr)).1
    exact ⟨_, hrow, agrees_of_buildRecord hb (hvalid message hmessage r hmem).1⟩
  refine ⟨?_, fun before r hsplit hlt => hmatch r ?_⟩
  · split
    · next hnone =>
      rw [hnone] at hfinal
      exact hfinal
    · next r hr => exact hmatch r hr
  · rw [hsplit]
    exact Table.argmax_concat_of_forall_lt Bep.lastModified hlt

end Replication

section Sample

attribute [local instance] Sample.guava Sample.filenameUtils Sample.protobuf Sample.lawfulBase16

/-- An empty file, modified at five seconds. -/
def sampleFile (sequence : ℤ) : BlockExchageProtos.FileInfo :=
  { name := "d", modifiedS := 5, version := some [⟨1, 1⟩], sequence }

/-- A deleted directory of the same path, modified at ten seconds. -/
def sampleDirectory (sequence : ℤ) : BlockExchageProtos.FileInfo :=
  { name := "d", type := .DIRECTORY, modifiedS := 10, deleted := true, version := some [⟨1, 2⟩]
    sequence }

theorem valid_sampleFile (sequence : ℤ) : Valid (sampleFile sequence) :=
  ⟨by simp [versionList, sampleFile], .inr ⟨rfl, le_refl 0, rfl⟩⟩

theorem valid_sampleDirectory (sequence : ℤ) : Valid (sampleDirectory sequence) :=
  ⟨by simp [versionList, sampleDirectory], .inl rfl⟩

/-- A file that becomes a directory later is replicated as one. -/
theorem fileInfo_eq_newest_sample :
    ∃ row, (deliver "peer" ⟨["default"]⟩ [⟨"default", [sampleFile 1]⟩,
        ⟨"default", [sampleDirectory 2]⟩] IndexHandler.fresh).rowOf "default" "d" = some row ∧
      Agrees row (sampleDirectory 2) := by
  have hstart : messages.Reaches [] IndexHandler.fresh := .start ⟨rfl, rfl⟩
  refine (fileInfo_eq_newest "peer" ⟨["default"]⟩ hstart rfl ?_ ?_ "d").2
    [sampleFile 1] (sampleDirectory 2) (by decide +kernel) (by decide)
  · decide
  · intro message hmessage r hr
    simp only [List.mem_cons, List.not_mem_nil, or_false] at hmessage
    rcases hmessage with rfl | rfl
    · rw [List.mem_singleton.1 hr]
      exact valid_sampleFile 1
    · rw [List.mem_singleton.1 hr]
      exact valid_sampleDirectory 2

/-- **The last record need not win.** A directory of ten seconds is sent
first, a file of five seconds after it, with the next sequence: the row
stays the directory's. -/
theorem older_record_is_discarded :
    (∀ r ∈ [sampleDirectory 1, sampleFile 2], Valid r) ∧
      ∃ row, (deliver "peer" ⟨["default"]⟩ [⟨"default", [sampleDirectory 1, sampleFile 2]⟩]
          IndexHandler.fresh).rowOf "default" "d" = some row ∧
        row.lastModified = 10000 ∧ Bep.lastModified (sampleFile 2) = 5000 ∧
        row.fileType = .DIRECTORY ∧ row.isDeleted = true ∧ ¬ Agrees row (sampleFile 2) := by
  refine ⟨?_, ?_⟩
  · intro r hr
    simp only [List.mem_cons, List.not_mem_nil, or_false] at hr
    rcases hr with rfl | rfl
    · exact valid_sampleDirectory 1
    · exact valid_sampleFile 2
  · have hrow : ((deliver "peer" ⟨["default"]⟩ [⟨"default", [sampleDirectory 1, sampleFile 2]⟩]
        IndexHandler.fresh).rowOf "default" "d").map
          (fun row => (row.lastModified, row.fileType, row.isDeleted)) =
        some (10000, .DIRECTORY, true) := by
      decide +kernel
    obtain ⟨row, hfind, hfields⟩ := Option.map_eq_some_iff.1 hrow
    simp only [Prod.mk.injEq] at hfields
    obtain ⟨hmod, htype, hdel⟩ := hfields
    refine ⟨row, hfind, hmod, by decide, htype, hdel, fun hagrees => ?_⟩
    have hsent := hagrees.isDeleted
    rw [hdel] at hsent
    cases hsent

end Sample

end Bep

end ASync
