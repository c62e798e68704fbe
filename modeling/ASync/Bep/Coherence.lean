import Mathlib
import ASync.Bep.Convergence
/-!
# Files and their block lists

`updateFileInfo` writes a file's block list and its record in two tables,
one after the other. Where no statement fails it writes both or neither,
so over any calls of `pushRecord` and `clearIndex` the block list stored
for a file is that of the record its row was written from
(`pushRecord_coherent`). A directory leaves the old block list behind,
which the next file at its path replaces.
-/

namespace ASync

namespace Bep

open ASync.Core Repository BlockExchageProtos Effect

section Coherence

variable [Guava] [FilenameUtils] [Protobuf IndexSerializationProtos.Blocks]
variable {h : IndexHandler} {folder path : String} {r : BlockExchageProtos.FileInfo}
variable {info : Core.FileInfo} {blocks : Option FileBlocks} {row : FileInfoRow}

/-! ## Calls -/

/-- The calls that change the index, with what they are given. -/
inductive IndexCall
  | pushRecord (folder : String) (fileInfo : BlockExchageProtos.FileInfo)
  | clearIndex (folders : List FolderInfo)

/-- A call, whether it returns or throws. -/
def IndexCall.perform : IndexCall → IndexHandler → IndexHandler
  | .pushRecord folder fileInfo, h => after (Bep.pushRecord none folder fileInfo) h
  | .clearIndex folders, h => after (Bep.clearIndex folders) h

/-- The handler after some calls. -/
def performed (calls : List IndexCall) (h : IndexHandler) : IndexHandler :=
  calls.foldl (fun h call => call.perform h) h

/-- `r` is the record the row of a path was last written from: the call
that passed it changed the row, and no call since then has. A record is
written only where it is newer, so writing one always changes the row. -/
def WrittenFrom (h : IndexHandler) (calls : List IndexCall) (folder path : String)
    (r : BlockExchageProtos.FileInfo) : Prop :=
  ∃ earlier later, calls = earlier ++ .pushRecord folder r :: later ∧ r.name = path ∧
    (performed (earlier ++ [.pushRecord folder r]) h).rowOf folder path ≠
      (performed earlier h).rowOf folder path ∧
    ∀ more, more <+: later →
      (performed (earlier ++ .pushRecord folder r :: more) h).rowOf folder path =
        (performed (earlier ++ [.pushRecord folder r]) h).rowOf folder path

/-- The stored block list of a path belongs to a row of its and to the
record `r`: it decodes to the blocks of `r`, in order, and its hash and
size are those of the row. -/
def Paired (h : IndexHandler) (folder path : String) (row : FileInfoRow)
    (r : BlockExchageProtos.FileInfo) (fileBlocks : FileBlocks) : Prop :=
  ∃ blocksRow, h.indexRepository.fileBlocks.find (folder, path) = some blocksRow ∧
    readFileBlocks blocksRow = .ok fileBlocks ∧ fileBlocks.blocks = blockList r ∧
    row.hash = some fileBlocks.hash ∧ row.size = some fileBlocks.size

omit [Guava] [Protobuf IndexSerializationProtos.Blocks] in
theorem rowOf_eq (h : IndexHandler) (folder path : String) :
    h.rowOf folder path = h.indexRepository.fileInfo.find (folder, path) := rfl

theorem performed_concat (calls : List IndexCall) (call : IndexCall) (h : IndexHandler) :
    performed (calls ++ [call]) h = call.perform (performed calls h) := by
  rw [performed, List.foldl_append, List.foldl_cons, List.foldl_nil, performed]

/-! ## One call -/

/-- **A record that passes the checks writes its block list** too,
whatever the statistics do. -/
theorem fileBlocks_after_updateFileInfo (s : SqlRepository)
    (hstop : stopsBeforeWrites none info blocks = false) :
    (after (updateFileInfo none info blocks) s).fileBlocks = (s.withBlocks blocks).fileBlocks := by
  obtain ⟨e, heq⟩ := run_updateFileInfo s none info blocks
  simp only [hstop, reduceCtorEq, or_self, and_false, if_false, ne_eq, not_false_eq_true, and_true,
    Bool.false_eq_true] at heq
  split at heq
  · rw [after_of_ok heq, updated_fileBlocks]
  · obtain ⟨c, hc⟩ := ((s.withBlocks blocks).withFileInfo info
      (lastVersion info)).withLoadedStats_eq info.folder
    rw [after_of_error heq, hc]
    rfl

/-- **A call of `pushRecord` writes both tables or neither.** -/
theorem pushRecord_tables (folder : String) (r : BlockExchageProtos.FileInfo) (h : IndexHandler) :
    ((after (pushRecord none folder r) h).indexRepository.fileInfo = h.indexRepository.fileInfo ∧
      (after (pushRecord none folder r) h).indexRepository.fileBlocks =
        h.indexRepository.fileBlocks) ∨
    ∃ info blocks, buildRecord folder r = .ok (some (info, blocks)) ∧ Newer h info ∧
      stopsBeforeWrites none info blocks = false ∧
      (after (pushRecord none folder r) h).indexRepository.fileInfo =
        (h.indexRepository.withFileInfo info (lastVersion info)).fileInfo ∧
      (after (pushRecord none folder r) h).indexRepository.fileBlocks =
        (h.indexRepository.withBlocks blocks).fileBlocks := by
  by_cases hbuildable : buildable folder r = true
  · obtain ⟨info, blocks, hb⟩ := exists_build_of_buildable hbuildable
    have hpush := pushRecord_of_buildable hb h
    by_cases hnewer : Newer h info
    · rw [if_pos hnewer] at hpush
      cases hstop : stopsBeforeWrites none info blocks with
      | false =>
        refine .inr ⟨info, blocks, hb, hnewer, hstop, ?_, ?_⟩
        · rw [hpush, fileInfo_after_updateFileInfo _ hstop]
        · rw [hpush, fileBlocks_after_updateFileInfo _ hstop]
      | true =>
        -- the call throws before its first statement
        obtain ⟨e, heq⟩ := run_updateFileInfo_eq h.indexRepository none info blocks
        rw [if_pos hstop] at heq
        rw [hpush, after_of_error heq]
        exact .inl ⟨rfl, rfl⟩
    · rw [if_neg hnewer] at hpush
      rw [hpush]
      exact .inl ⟨rfl, rfl⟩
  · have hnot := pushRecord_of_not_buildable (Bool.eq_false_iff.2 hbuildable) h
    rw [hnot]
    exact .inl ⟨rfl, rfl⟩

omit [FilenameUtils] in
/-- A block list is read back as it was stored. -/
theorem readFileBlocks_blocksRow [LawfulBase16] [LawfulProtobuf IndexSerializationProtos.Blocks]
    {b : FileBlocks} (hb : b.blocks = blockList r) {bytes : Bytes}
    (hencode : encodeBlocks b = .ok bytes) : readFileBlocks (blocksRow b bytes) = .ok b := by
  rw [encodeBlocks_blockList hb] at hencode
  cases hencode
  rw [readFileBlocks, blocksRow, LawfulProtobuf.parseFrom_toByteArray]
  obtain ⟨bfolder, bpath, bblocks, hfolder, hpath⟩ := b
  simp only [FileBlocks.new, dif_neg hfolder, dif_neg hpath, List.map_map, Except.ok.injEq,
    FileBlocks.mk.injEq, true_and]
  exact hb.symm

/-- **A file that is written is paired** with its block list. -/
theorem exists_paired_of_written [LawfulBase16] [LawfulProtobuf IndexSerializationProtos.Blocks]
    {s : SqlRepository} (hb : buildRecord folder r = .ok (some (info, blocks)))
    (hstop : stopsBeforeWrites none info blocks = false) (htype : info.type = .FILE)
    (hfileBlocks : h.indexRepository.fileBlocks = (s.withBlocks blocks).fileBlocks) :
    ∃ b, Paired h folder r.name (FileInfoRow.of info (lastVersion info)) r b := by
  obtain ⟨_, _, _, _, _, hcases⟩ := buildRecord_eq_ok hb
  rcases hcases with ⟨_, hdir, _⟩ | ⟨_, _, _, _, b, rfl, hbf, hbp, hbb⟩
  · rw [htype] at hdir
    cases hdir
  · have hencode := encodeBlocks_blockList hbb
    have hcheck : (checkBlocks info b).isOk = true := by
      simp only [stopsBeforeWrites, Bool.or_eq_false_iff, Bool.not_eq_false'] at hstop
      exact hstop.2.1.1
    obtain ⟨u, hcheck⟩ : ∃ u, checkBlocks info b = .ok u := by
      cases hc : checkBlocks info b with
      | ok u => exact ⟨u, rfl⟩
      | error e =>
        rw [hc] at hcheck
        cases hcheck
    obtain ⟨_, _, _, hsize, hhash⟩ := checkBlocks_eq_ok.1 hcheck
    refine ⟨b, blocksRow b _, ?_, readFileBlocks_blocksRow hbb hencode, hbb, hhash.symm,
      hsize.symm⟩
    rw [hfileBlocks, SqlRepository.withBlocks]
    simp only [hencode]
    rw [← hbf, ← hbp]
    exact Table.find_merge_self

/-! ## All calls -/

theorem WrittenFrom.concat {calls : List IndexCall} {call : IndexCall}
    (hw : WrittenFrom h calls folder path r)
    (hkeep : (performed (calls ++ [call]) h).rowOf folder path =
      (performed calls h).rowOf folder path) : WrittenFrom h (calls ++ [call]) folder path r := by
  obtain ⟨earlier, later, rfl, hname, hchange, hlater⟩ := hw
  refine ⟨earlier, later ++ [call], by rw [List.append_assoc, List.cons_append], hname, hchange,
    ?_⟩
  intro more hmore
  rcases List.prefix_concat_iff.1 hmore with rfl | hmore
  · rw [← List.cons_append, ← List.append_assoc, hkeep]
    exact hlater later (List.prefix_refl later)
  · exact hlater more hmore

/-- The row of a record just written. -/
theorem WrittenFrom.self {calls : List IndexCall}
    (hchange : (performed (calls ++ [.pushRecord folder r]) h).rowOf folder r.name ≠
      (performed calls h).rowOf folder r.name) :
    WrittenFrom h (calls ++ [.pushRecord folder r]) folder r.name r := by
  refine ⟨calls, [], rfl, rfl, hchange, ?_⟩
  intro more hmore
  rw [List.prefix_nil.1 hmore]

/-- **Every file has the block list of the record its row was written
from**, after any calls. -/
theorem exists_paired [LawfulBase16] [LawfulProtobuf IndexSerializationProtos.Blocks]
    (hstart : h.indexRepository = SqlRepository.fresh) (calls : List IndexCall)
    (folder path : String) (row : FileInfoRow)
    (hrow : (performed calls h).rowOf folder path = some row) (htype : row.fileType = .FILE) :
    ∃ r fileBlocks, WrittenFrom h calls folder path r ∧ storedRow (folder, r) = some row ∧
      Paired (performed calls h) folder path row r fileBlocks := by
  induction calls using List.reverseRecOn with
  | nil =>
    rw [performed, List.foldl_nil, rowOf_eq, hstart] at hrow
    cases hrow
  | append_singleton calls call ih =>
    cases call with
    | clearIndex folders =>
      rw [performed_concat] at hrow
      cases hrow
    | pushRecord folder' r' =>
      -- where the tables keep what they have for the path, so does the pair
      have hkept : (performed (calls ++ [.pushRecord folder' r']) h).rowOf folder path =
            (performed calls h).rowOf folder path →
          (performed (calls ++ [.pushRecord folder' r']) h).indexRepository.fileBlocks.find
              (folder, path) =
            (performed calls h).indexRepository.fileBlocks.find (folder, path) →
          ∃ r fileBlocks, WrittenFrom h (calls ++ [.pushRecord folder' r']) folder path r ∧
            storedRow (folder, r) = some row ∧
            Paired (performed (calls ++ [.pushRecord folder' r']) h) folder path row r
              fileBlocks := by
        intro hsame hblocks
        obtain ⟨r, fileBlocks, hwritten, hstored, blocksRow, hfind, hread⟩ :=
          ih (hsame.symm.trans hrow)
        exact ⟨r, fileBlocks, hwritten.concat hsame, hstored, blocksRow, hblocks.trans hfind, hread⟩
      rcases pushRecord_tables folder' r' (performed calls h) with
        ⟨hinfo, hblocks⟩ | ⟨info, blocks, hb, hnewer, hstop, hinfo, hblocks⟩
      · refine hkept ?_ ?_
        · rw [performed_concat, rowOf_eq, IndexCall.perform, hinfo, rowOf_eq]
        · rw [performed_concat, IndexCall.perform, hblocks]
      · obtain ⟨hf, hp, _⟩ := buildRecord_eq_ok hb
        have hmerge : (performed (calls ++ [.pushRecord folder' r']) h).indexRepository.fileInfo =
            (performed calls h).indexRepository.fileInfo.merge (folder', r'.name)
              (FileInfoRow.of info (lastVersion info)) := by
          rw [performed_concat, IndexCall.perform, hinfo, SqlRepository.withFileInfo, hf, hp]
        by_cases hkey : (folder, path) = (folder', r'.name)
        · obtain ⟨rfl, rfl⟩ := Prod.mk.inj hkey
          rw [rowOf_eq, hmerge, Table.find_merge_self] at hrow
          cases hrow
          have hwritten : WrittenFrom h (calls ++ [.pushRecord folder r']) folder r'.name r' := by
            refine WrittenFrom.self ?_
            rw [rowOf_eq, hmerge, Table.find_merge_self]
            intro hsame
            -- the row replaced is older
            have hlt := hnewer _ (by rw [hf, hp]; exact hsame.symm)
            exact lt_irrefl _ hlt
          obtain ⟨fileBlocks, hpaired⟩ := exists_paired_of_written
            (h := performed (calls ++ [.pushRecord folder r']) h) hb hstop htype
            (by rw [performed_concat, IndexCall.perform, hblocks])
          exact ⟨r', fileBlocks, hwritten, storedRow_of_build hb, hpaired⟩
        · refine hkept ?_ ?_
          · rw [rowOf_eq, hmerge, Table.find_merge_of_ne hkey, rowOf_eq]
          · rw [performed_concat, IndexCall.perform, hblocks]
            refine find_withBlocks_of_ne _ ?_
            rintro b rfl
            obtain ⟨_, _, _, _, _, hcases⟩ := buildRecord_eq_ok hb
            rcases hcases with ⟨_, _, hnone⟩ | ⟨_, _, _, _, b', hb', hbf, hbp, _⟩
            · cases hnone
            · cases hb'
              rw [hbf, hbp]
              exact hkey

/-- **Files and block lists stay coherent.** After any calls of
`pushRecord` and `clearIndex`, each file is read with the block list of
the record its row was written from, and no path fails for want of a
block list. -/
theorem pushRecord_coherent [LawfulBase16] [LawfulProtobuf IndexSerializationProtos.Blocks]
    (hstart : h.indexRepository = SqlRepository.fresh) (calls : List IndexCall)
    (folder path : String) :
    (∀ row, (performed calls h).rowOf folder path = some row → row.fileType = .FILE →
      ∃ r fileBlocks, WrittenFrom h calls folder path r ∧ storedRow (folder, r) = some row ∧
        Paired (performed calls h) folder path row r fileBlocks ∧
        (getFileInfoAndBlocksByPath folder path).run (performed calls h) =
          .ok (some (row.info, fileBlocks)) (performed calls h)) ∧
    ∀ h', (getFileInfoAndBlocksByPath folder path).run (performed calls h) ≠
      .error (.nullPointer "file blocks not found for file info") h' := by
  have hfile : ∀ row, (performed calls h).rowOf folder path = some row → row.fileType = .FILE →
      ∃ r fileBlocks, WrittenFrom h calls folder path r ∧ storedRow (folder, r) = some row ∧
        Paired (performed calls h) folder path row r fileBlocks ∧
        (getFileInfoAndBlocksByPath folder path).run (performed calls h) =
          .ok (some (row.info, fileBlocks)) (performed calls h) := by
    intro row hrow htype
    obtain ⟨r, fileBlocks, hwritten, hstored, hpaired⟩ :=
      exists_paired hstart calls folder path row hrow htype
    refine ⟨r, fileBlocks, hwritten, hstored, hpaired, ?_⟩
    obtain ⟨blocksRow, hfind, hread, _⟩ := hpaired
    have hisFile : row.info.isFile = true := decide_eq_true htype
    rw [run_getFileInfoAndBlocksByPath, hrow, hfind]
    simp only [readBoth, Option.mapM_some, hread, hisFile]
    rfl
  refine ⟨hfile, ?_⟩
  intro h' hrun
  cases hrow : (performed calls h).rowOf folder path with
  | none =>
    rw [run_getFileInfoAndBlocksByPath, hrow] at hrun
    cases hrun
  | some row =>
    cases htype : row.fileType with
    | FILE =>
      obtain ⟨_, _, _, _, _, hok⟩ := hfile row hrow htype
      rw [hok] at hrun
      cases hrun
    | DIRECTORY =>
      -- a directory is refused before its block list is looked for
      have hnotFile : row.info.isFile = false :=
        decide_eq_false fun hfile => by cases htype.symm.trans hfile
      rw [run_getFileInfoAndBlocksByPath, hrow] at hrun
      simp only [readBoth, hnotFile] at hrun
      cases hrun

end Coherence

section Sample

/-- The block list of the file `ab` as it is stored. -/
def Sample.storedAB : IndexSerializationProtos.Blocks := ⟨[⟨0, 2, Sample.digestOfAB⟩]⟩

/-- Its bytes: a block of thirty-eight bytes with offset, size and hash. -/
def Sample.bytesOfAB : Bytes :=
  [0x0a, 0x26, 0x08, 0x00, 0x10, 0x02, 0x1a, 0x20] ++ Sample.digestOfAB

/-- The numbers of a block list. -/
def Sample.numbersOf (message : IndexSerializationProtos.Blocks) : List (ℤ × ℤ × List ℕ) :=
  message.blocks.map fun block => (block.offset, block.size, block.hash.map UInt8.toNat)

/-- The block list of some numbers. -/
def Sample.blocksOf (numbers : List (ℤ × ℤ × List ℕ)) : IndexSerializationProtos.Blocks :=
  ⟨numbers.map fun block => ⟨block.1, block.2.1, block.2.2.map UInt8.ofNat⟩⟩

/-- The message class as it is on the block list of `ab`; any other list
is written as its code number. -/
@[reducible] def Sample.protobufOfAB : Protobuf IndexSerializationProtos.Blocks where
  toByteArray message :=
    if message = Sample.storedAB then Sample.bytesOfAB
    else 0x07 :: List.replicate (Encodable.encode (Sample.numbersOf message)) 0
  parseFrom bytes :=
    if bytes = Sample.bytesOfAB then some Sample.storedAB
    else (Encodable.decode (bytes.length - 1)).map Sample.blocksOf

theorem Sample.blocksOf_numbersOf (message : IndexSerializationProtos.Blocks) :
    Sample.blocksOf (Sample.numbersOf message) = message := by
  have hhash : ∀ hash : Bytes, (hash.map UInt8.toNat).map UInt8.ofNat = hash := by
    intro hash
    rw [List.map_map]
    exact (List.map_congr_left fun b _ => UInt8.ofNat_toNat).trans (List.map_id hash)
  obtain ⟨blocks⟩ := message
  rw [Sample.blocksOf, Sample.numbersOf, List.map_map]
  congr 1
  refine (List.map_congr_left fun block _ => ?_).trans (List.map_id blocks)
  show (⟨block.offset, block.size, (block.hash.map UInt8.toNat).map UInt8.ofNat⟩ :
    IndexSerializationProtos.BlockInfo) = block
  rw [hhash]

attribute [local instance] Sample.protobufOfAB

theorem Sample.lawfulProtobufOfAB : LawfulProtobuf IndexSerializationProtos.Blocks := by
  refine ⟨fun message => ?_⟩
  show (if toByteArray message = Sample.bytesOfAB then some Sample.storedAB
    else (Encodable.decode ((toByteArray message).length - 1)).map Sample.blocksOf) = some message
  by_cases hmessage : message = Sample.storedAB
  · have hbytes : toByteArray message = Sample.bytesOfAB := if_pos hmessage
    rw [if_pos hbytes, hmessage]
  · have hbytes : toByteArray message =
        0x07 :: List.replicate (Encodable.encode (Sample.numbersOf message)) 0 := if_neg hmessage
    have hne : toByteArray message ≠ Sample.bytesOfAB := by
      rw [hbytes]
      intro heq
      cases (List.cons.inj heq).1
    rw [if_neg hne, hbytes, List.length_cons, List.length_replicate, Nat.add_sub_cancel,
      Encodable.encodek, Option.map_some, Sample.blocksOf_numbersOf]

attribute [local instance] Sample.guavaOfBlocks Sample.filenameUtils
attribute [local instance] Sample.lawfulProtobufOfAB Sample.lawfulBase16OfBlocks

/-- The file `ab` as a record. -/
def Sample.recordOfAB (modifiedS : ℤ) : BlockExchageProtos.FileInfo where
  name := "f"
  size := 2
  modifiedS := modifiedS
  version := some [⟨1, 1⟩]
  blocks := [⟨0, 2, Sample.digestOfAB⟩]

/-- A file that became a directory and a file again, then was sent with a
wrong size. -/
def Sample.indexCalls : List IndexCall :=
  [.clearIndex [], .pushRecord "default" (Sample.recordOfAB 1),
    .pushRecord "default" { Sample.recordOfAB 2 with type := .DIRECTORY, blocks := [] },
    .pushRecord "default" (Sample.recordOfAB 3),
    .pushRecord "default" { Sample.recordOfAB 4 with size := 3 }]

theorem pushRecord_coherent_sample :
    ∃ row, (performed Sample.indexCalls IndexHandler.fresh).rowOf "default" "f" = some row ∧
      ∃ r fileBlocks, WrittenFrom IndexHandler.fresh Sample.indexCalls "default" "f" r ∧
        storedRow ("default", r) = some row ∧
        Paired (performed Sample.indexCalls IndexHandler.fresh) "default" "f" row r fileBlocks ∧
        (getFileInfoAndBlocksByPath "default" "f").run
            (performed Sample.indexCalls IndexHandler.fresh) =
          .ok (some (row.info, fileBlocks)) (performed Sample.indexCalls IndexHandler.fresh) := by
  have hany : ((performed Sample.indexCalls IndexHandler.fresh).rowOf "default" "f").any
      (fun row => decide (row.fileType = .FILE)) = true := by decide +kernel
  obtain ⟨row, hrow, htype⟩ := Option.any_eq_true .. |>.1 hany
  exact ⟨row, hrow, (pushRecord_coherent rfl Sample.indexCalls "default" "f").1 row hrow
    (of_decide_eq_true htype)⟩

end Sample

end Bep

end ASync
