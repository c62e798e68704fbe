import ASync.Bep.Model.BlockPusher
import ASync.Bep.Helpers.Messages
/-!
# The version of a local edit

An edit should carry a version that dominates the one it replaces. What
it carries is what is left of the old version after the index stored it,
one counter, and a new counter of the local device, appended even where
the local device has one; the edit of a directory carries the new counter
alone. So the version dominates the old one only where nothing was lost:
`dominates_iff` says where.
-/

namespace ASync

namespace Bep

open ASync.Core Repository BlockExchageProtos Effect

/-! ## Domination -/

/-- `V'` is a version after `V` for the device `localId`: each counter of
`V` is kept or raised, the local one is raised, and no id has two. -/
structure Dominates (localId : ℤ) (V V' : List Counter) : Prop where
  kept : ∀ c ∈ V, ∃ c', V'.filter (fun d => d.id = c.id) = [c'] ∧ c.value ≤ c'.value
  raised : ∃ c' ∈ V', c'.id = localId ∧ ∀ c ∈ V, c.id = localId → c.value < c'.value
  nodup : (V'.map Counter.id).Nodup

section Domination

variable {l n : ℤ} {V : List Counter} {last : Counter}

/-- A new counter alone dominates a version of the same device. -/
theorem dominates_singleton_iff (hnext : ∀ c ∈ V, c.id = l → c.value < n) :
    Dominates l V [⟨l, n⟩] ↔ ∀ c ∈ V, c.id = l := by
  constructor
  · intro h c hc
    by_contra hne
    obtain ⟨c', hfilter, _⟩ := h.kept c hc
    have hnone : [(⟨l, n⟩ : Counter)].filter (fun d => d.id = c.id) = [] :=
      List.filter_cons_of_neg (by simpa using fun heq => hne heq.symm)
    rw [hnone] at hfilter
    cases hfilter
  · intro h
    refine ⟨fun c hc => ⟨⟨l, n⟩, ?_, (hnext c hc (h c hc)).le⟩,
      ⟨⟨l, n⟩, List.mem_cons_self, rfl, hnext⟩, List.nodup_singleton l⟩
    rw [List.filter_cons_of_pos (by simpa using (h c hc).symm), List.filter_nil]

/-- The last counter and a new one dominate a version exactly when the
new one is of another device, and nobody else has a counter. -/
theorem dominates_pair_iff (hnodup : (V.map Counter.id).Nodup) (hlast : V.getLast? = some last)
    (hnext : ∀ c ∈ V, c.id = l → c.value < n) :
    Dominates l V [last, ⟨l, n⟩] ↔ last.id ≠ l ∧ ∀ c ∈ V.dropLast, c.id = l := by
  have hV : V = V.dropLast ++ [last] := by
    obtain ⟨init, rfl⟩ := List.getLast?_eq_some_iff.1 hlast
    rw [List.dropLast_concat]
  have hother : ∀ c ∈ V.dropLast, last.id ≠ c.id := by
    intro c hc heq
    rw [hV, List.map_append, List.nodup_append] at hnodup
    exact hnodup.2.2 c.id (List.mem_map_of_mem hc) last.id List.mem_cons_self heq.symm
  constructor
  · intro h
    have hne : last.id ≠ l := by
      have hpair : [last.id, l].Nodup := h.nodup
      simpa using hpair
    refine ⟨hne, ?_⟩
    intro c hc
    by_contra hl
    obtain ⟨c', hfilter, _⟩ := h.kept c (List.mem_of_mem_dropLast hc)
    rw [List.filter_cons_of_neg (by simpa using hother c hc),
      List.filter_cons_of_neg (by simpa using fun heq => hl heq.symm)] at hfilter
    cases hfilter
  · rintro ⟨hne, hlocal⟩
    refine ⟨?_, ⟨⟨l, n⟩, by simp, rfl, hnext⟩, by simpa using hne⟩
    intro c hc
    rw [hV] at hc
    rcases List.mem_append.1 hc with hinit | hlast'
    · -- a counter of the local device: the new one replaces it
      have hc := hlocal c hinit
      refine ⟨⟨l, n⟩, ?_, (hnext c (List.mem_of_mem_dropLast hinit) hc).le⟩
      rw [List.filter_cons_of_neg (by simpa using hother c hinit),
        List.filter_cons_of_pos (by simpa using hc.symm), List.filter_nil]
    · rw [List.mem_singleton.1 hlast']
      refine ⟨last, ?_, le_refl _⟩
      rw [List.filter_cons_of_pos (by simp), List.filter_cons_of_neg (by simpa using Ne.symm hne),
        List.filter_nil]

end Domination

/-! ## The edits -/

section Edits

variable [Guava] [FilenameUtils] {p p' : BlockPusher} {now sequence id : ℤ} {folder path : String}
variable {info found : Core.FileInfo} {builder : BlockExchageProtos.FileInfo} {update : IndexUpdate}

/-- A local edit of a path. -/
inductive LocalEdit
  | pushFile (dataSource : DataSource)
  | pushDelete
  | pushDir

/-- The call for an edit of a path whose record is `found`. -/
def LocalEdit.push (edit : LocalEdit) (now : ℤ) (found : Core.FileInfo) (folder path : String) :
    PusherM IndexUpdate :=
  match edit with
  | .pushFile dataSource => BlockPusher.pushFile now dataSource (some found) folder path
  | .pushDelete => BlockPusher.pushDelete now (some found) folder path
  | .pushDir => BlockPusher.pushDir now folder path

/-- The version an edit starts from. -/
def LocalEdit.oldVersions (edit : LocalEdit) (found : Core.FileInfo) : List Version :=
  match edit with
  | .pushDir => []
  | _ => found.versionList

/-- The versions an edit dominates: for a file or a deletion, those whose
last counter is another device's and whose other counters are the local
device's; for a directory, those of the local device alone. -/
def LocalEdit.Extends (edit : LocalEdit) (localId : ℤ) (V : List Counter) : Prop :=
  match edit with
  | .pushDir => ∀ c ∈ V, c.id = localId
  | _ => (∀ c ∈ V.getLast?, c.id ≠ localId) ∧ ∀ c ∈ V.dropLast, c.id = localId

/-- The version in an update. -/
def sentVersion (update : IndexUpdate) : List Counter :=
  update.files.flatMap fun fileInfo => fileInfo.version.getD []

omit [FilenameUtils] in
/-- What a call that sent an update sent. -/
theorem sendIndexUpdate_eq_ok {old : Option (List Version)} (hid : localId p.deviceId = .ok id)
    (h : (BlockPusher.sendIndexUpdate now folder builder old).run p = .ok update p') :
    sentVersion update =
      (old.getD []).map counterOf ++ [⟨id, p.sequencer.nextSequence⟩] := by
  obtain ⟨nextSequence, p₁, hnext, h₁⟩ := run_bind_eq_ok.1 h
  cases hnext
  obtain ⟨_, p₂, hget, h₂⟩ := run_bind_eq_ok.1 h₁
  cases hget
  obtain ⟨id', p₃, hread, h₃⟩ := run_bind_eq_ok.1 h₂
  obtain ⟨hid', _⟩ := ofExcept_eq_ok hread
  cases hid.symm.trans hid'
  obtain ⟨_, p₄, _, h₄⟩ := run_bind_eq_ok.1 h₃
  cases h₄
  exact List.append_nil _

omit [Guava] [FilenameUtils] in
/-- The check on the folder changes nothing. -/
theorem checkFolder_eq_ok (h : (BlockPusher.checkFolder folder).run p = .ok () p') : p' = p := by
  obtain ⟨_, p₁, hget, h⟩ := run_bind_eq_ok.1 h
  cases hget
  exact (ofExcept_eq_ok h).2

/-- **What an edit sends**: the counters of the version it starts from,
and a new one of the local device. -/
theorem sentVersion_push (edit : LocalEdit) (hid : localId p.deviceId = .ok id)
    (h : (edit.push now found folder path).run p = .ok update p') :
    sentVersion update =
      (edit.oldVersions found).map counterOf ++ [⟨id, p.sequencer.nextSequence⟩] := by
  cases edit with
  | pushFile dataSource =>
    obtain ⟨_, p₁, hcheck, h₁⟩ := run_bind_eq_ok.1 h
    obtain ⟨_, p₂, hfolder, h₂⟩ := run_bind_eq_ok.1 h₁
    obtain ⟨_, p₃, hpath, h₃⟩ := run_bind_eq_ok.1 h₂
    obtain rfl := checkFolder_eq_ok hcheck
    obtain ⟨_, rfl⟩ := ofExcept_eq_ok hfolder
    obtain ⟨_, rfl⟩ := ofExcept_eq_ok hpath
    exact sendIndexUpdate_eq_ok hid (tryCatch_throw_eq_ok h₃)
  | pushDelete =>
    obtain ⟨info, p₁, hnull, h₁⟩ := run_bind_eq_ok.1 h
    cases hnull
    obtain ⟨_, p₂, hcheck, h₂⟩ := run_bind_eq_ok.1 h₁
    obtain rfl := checkFolder_eq_ok hcheck
    exact sendIndexUpdate_eq_ok hid h₂
  | pushDir =>
    obtain ⟨_, p₁, hcheck, h₁⟩ := run_bind_eq_ok.1 h
    obtain rfl := checkFolder_eq_ok hcheck
    exact sendIndexUpdate_eq_ok hid h₁

end Edits

/-! ## What is left of the old version -/

section Stored

variable [Guava] [FilenameUtils] [Protobuf IndexSerializationProtos.Blocks]
variable {p p' : BlockPusher} {now id : ℤ} {fault fault' : Fault} {folder : String}
variable {h h' h'' : IndexHandler} {fileInfo : BlockExchageProtos.FileInfo}
variable {info found : Core.FileInfo} {update : IndexUpdate}

/-- **The record read back has the last counter of the record stored**,
and the record stored had one. -/
theorem versionList_found (hpush : (pushRecord fault folder fileInfo).run h = .ok (some info) h')
    (hfound : (getFileInfoByPath fault' folder fileInfo.name).run h' = .ok (some found) h'') :
    ∃ last, (fileInfo.version.getD []).getLast? = some last ∧
      found.versionList.map counterOf = [last] := by
  obtain ⟨blocks, s, hbuild, hupdate, hs⟩ := pushRecord_eq_some hpush
  obtain ⟨hfolder, hpath, _, hversions, _⟩ := buildRecord_eq_ok hbuild
  obtain ⟨hstop, _, rfl⟩ := updateFileInfo_eq_ok hupdate
  -- the update got past its first call, so there is a last version
  obtain ⟨version, hlast⟩ : ∃ version, info.versionList.getLast? = some version := by
    cases hv : info.versionList with
    | nil => simp [stopsBeforeWrites, hv] at hstop
    | cons v vs => exact ⟨_, List.getLast?_cons⟩
  have hrow : h'.indexRepository.recordAt folder fileInfo.name =
      some { info with versionList := [version] } := by
    rw [hs, SqlRepository.recordAt, updated_fileInfo, SqlRepository.withFileInfo, ← hfolder,
      ← hpath, Table.find_merge_self, Option.map_some, info_of, lastVersion, hlast,
        Option.getD_some]
  have hread : found = { info with versionList := [version] } := by
    have hrun := run_findFileInfo h'.indexRepository fault' folder fileInfo.name
    split at hrun
    · rw [getFileInfoByPath, run_repository_of_error hrun] at hfound
      cases hfound
    · rw [getFileInfoByPath, run_repository_of_ok hrun, hrow] at hfound
      cases hfound
      rfl
  -- the counters of the record are its versions
  have hcounters : (fileInfo.version.getD []).getLast?.map (fun c => Version.mk c.id c.value) =
      some version := by
    rw [← List.getLast?_map]
    exact (congrArg List.getLast? hversions).symm.trans hlast
  obtain ⟨last, hlast', rfl⟩ := Option.map_eq_some_iff.1 hcounters
  exact ⟨last, hlast', by rw [hread]; rfl⟩

/-- **Where a local edit dominates what it replaces.** For every record
the index accepted and every edit of its path, the version sent dominates
the record's exactly when the edit extends it. -/
theorem dominates_iff (edit : LocalEdit)
    (hpush : (pushRecord fault folder fileInfo).run h = .ok (some info) h')
    (hfound : (getFileInfoByPath fault' folder fileInfo.name).run h' = .ok (some found) h'')
    (hnodup : ((fileInfo.version.getD []).map Counter.id).Nodup)
    (hid : localId p.deviceId = .ok id)
    (hnext : ∀ c ∈ fileInfo.version.getD [], c.id = id → c.value < p.sequencer.nextSequence)
    (hedit : (edit.push now found folder fileInfo.name).run p = .ok update p') :
    Dominates id (fileInfo.version.getD []) (sentVersion update) ↔
      edit.Extends id (fileInfo.version.getD []) := by
  obtain ⟨last, hlast, hstored⟩ := versionList_found hpush hfound
  have hsent := sentVersion_push edit hid hedit
  have hpair : Dominates id (fileInfo.version.getD [])
      (found.versionList.map counterOf ++ [⟨id, p.sequencer.nextSequence⟩]) ↔
      (∀ c ∈ (fileInfo.version.getD []).getLast?, c.id ≠ id) ∧
        ∀ c ∈ (fileInfo.version.getD []).dropLast, c.id = id := by
    rw [hstored, List.singleton_append, dominates_pair_iff hnodup hlast hnext, hlast]
    simp
  cases edit with
  | pushFile dataSource =>
    rw [hsent]
    exact hpair
  | pushDelete =>
    rw [hsent]
    exact hpair
  | pushDir =>
    rw [hsent]
    exact dominates_singleton_iff hnext

end Stored

section Sample

attribute [local instance] Sample.guava Sample.filenameUtils Sample.protobuf

/-- A directory, with the version it has. -/
def sampleEdited (version : List Counter) : BlockExchageProtos.FileInfo :=
  { name := "a", type := .DIRECTORY, modifiedS := 5, version := some version }

/-- The record it is built to. -/
def sampleBuilt (version : List Version) : Core.FileInfo :=
  { Sample.directory Sample.names_a 5000 with versionList := version }

/-- The handler that accepted it. -/
def sampleAccepted (version : List Counter) : IndexHandler :=
  after (pushRecord none "default" (sampleEdited version)) IndexHandler.fresh

/-- A pusher of the device whose hash is zero, at sequence 41. -/
def samplePusher : BlockPusher := ⟨sampleDevice, ⟨"", {"default"}, none⟩, ⟨1, 41⟩, []⟩

def sampleDeletion (old : List Version) : IndexUpdate :=
  BlockPusher.indexUpdateOf "default" { name := "a", type := .DIRECTORY, deleted := true }
    old 0 42 0

theorem localId_sampleDevice : localId sampleDevice = .ok 0 := by decide +kernel

/-- The record is accepted, read back with one version, and deleted. -/
def SampleRun (version : List Counter) (last : Version) : Prop :=
  (∃ info, (pushRecord none "default" (sampleEdited version)).run IndexHandler.fresh =
      .ok (some info) (sampleAccepted version)) ∧
    (getFileInfoByPath none "default" "a").run (sampleAccepted version) =
      .ok (some (sampleBuilt [last]))
        (after (getFileInfoByPath none "default" "a") (sampleAccepted version)) ∧
    (LocalEdit.pushDelete.push 0 (sampleBuilt [last]) "default" "a").run samplePusher =
      .ok (sampleDeletion [last])
        (after (LocalEdit.pushDelete.push 0 (sampleBuilt [last]) "default" "a") samplePusher)

theorem sampleRun_ownFirst : SampleRun [⟨0, 1⟩, ⟨9, 2⟩] ⟨9, 2⟩ :=
  ⟨⟨sampleBuilt [⟨0, 1⟩, ⟨9, 2⟩], run_eq_ok_after (by decide +kernel)⟩,
    run_eq_ok_after (by decide +kernel), run_eq_ok_after (by decide +kernel)⟩

theorem sampleRun_ownLast : SampleRun [⟨9, 2⟩, ⟨0, 1⟩] ⟨0, 1⟩ :=
  ⟨⟨sampleBuilt [⟨9, 2⟩, ⟨0, 1⟩], run_eq_ok_after (by decide +kernel)⟩,
    run_eq_ok_after (by decide +kernel), run_eq_ok_after (by decide +kernel)⟩

theorem sampleRun_two : SampleRun [⟨7, 1⟩, ⟨9, 2⟩] ⟨9, 2⟩ :=
  ⟨⟨sampleBuilt [⟨7, 1⟩, ⟨9, 2⟩], run_eq_ok_after (by decide +kernel)⟩,
    run_eq_ok_after (by decide +kernel), run_eq_ok_after (by decide +kernel)⟩

/-- The deletion of a directory that this device and another one have
edited: its version dominates where the other one's counter is the last,
and does not where another one's is before its own. -/
theorem dominates_iff_sample :
    Dominates 0 [⟨0, 1⟩, ⟨9, 2⟩] (sentVersion (sampleDeletion [⟨9, 2⟩])) ∧
      ¬ Dominates 0 [⟨9, 2⟩, ⟨0, 1⟩] (sentVersion (sampleDeletion [⟨0, 1⟩])) := by
  obtain ⟨⟨info, hpush⟩, hfound, hedit⟩ := sampleRun_ownFirst
  obtain ⟨⟨info', hpush'⟩, hfound', hedit'⟩ := sampleRun_ownLast
  refine ⟨(dominates_iff (p := samplePusher) .pushDelete hpush hfound (by decide)
    localId_sampleDevice (by decide) hedit).2 ⟨by decide, by decide⟩, fun hdominates => ?_⟩
  have hextends := (dominates_iff (p := samplePusher) .pushDelete hpush' hfound' (by decide)
    localId_sampleDevice (by decide) hedit').1 hdominates
  exact hextends.1 ⟨0, 1⟩ rfl rfl

/-- **A deletion loses a counter.** The directory has the counters of two
devices; the deletion sent has that of the second and a new one. -/
theorem deletion_loses_a_counter : SampleRun [⟨7, 1⟩, ⟨9, 2⟩] ⟨9, 2⟩ ∧
    (([⟨7, 1⟩, ⟨9, 2⟩] : List Counter).map Counter.id).Nodup ∧
    localId samplePusher.deviceId = .ok 0 ∧
    (∀ c ∈ ([⟨7, 1⟩, ⟨9, 2⟩] : List Counter), c.value < samplePusher.sequencer.nextSequence) ∧
    ¬ Dominates 0 [⟨7, 1⟩, ⟨9, 2⟩] (sentVersion (sampleDeletion [⟨9, 2⟩])) := by
  refine ⟨sampleRun_two, by decide, localId_sampleDevice, by decide, ?_⟩
  intro h
  obtain ⟨c', hfilter, _⟩ := h.kept ⟨7, 1⟩ List.mem_cons_self
  have hnone : (sentVersion (sampleDeletion [⟨9, 2⟩])).filter (fun d => d.id = 7) = [] := by decide
  rw [hnone] at hfilter
  cases hfilter

end Sample

end Bep

end ASync
