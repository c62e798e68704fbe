import ASync.Core.Helpers.Sample
import ASync.Bep.Replication
import ASync.Bep.Model.Synchronization
/-!
# What this device knows of its peers' indexes

The stored sequence of a peer is the cursor its next session starts from,
so a record below it that was not processed would never be sent again.
Over any number of sessions, lost at any point, there is none: every row
is a record some peer made, every current record up to the stored
sequence has a row as new as itself, and once the peers have sent all
they have the rows are the newest of their records.
-/

namespace ASync

namespace Bep

open ASync.Core Repository BlockExchageProtos Effect

section Synchronization

variable [Guava] [FilenameUtils] [Protobuf IndexSerializationProtos.Blocks]
variable {h h' : IndexHandler} {folder path peer : String} {r : BlockExchageProtos.FileInfo}
variable {files : List BlockExchageProtos.FileInfo} {indexId : String → ℤ}
variable {s s' : Synchronization} {e : SyncEvent} {es : List SyncEvent}

/-- How this device reads the records of a folder. -/
abbrev numbering (folder : String) : Numbering String BlockExchageProtos.FileInfo :=
  recordNumbering (buildable folder)

omit [Protobuf IndexSerializationProtos.Blocks] in
@[simp] theorem accepts_numbering : (numbering folder).accepts r = buildable folder r := rfl

/-- What the peers keep to, and that the messages of a session are
processed in the order sent, with a database that takes their records. A
peer numbers its records upwards, with later modification times for the
same path; it leaves no current record out; its index keeps its id. -/
def KeepsOrder (folder : String) (indexId : String → ℤ) (_ : List SyncEvent)
    (s : Synchronization) : SyncEvent → Prop
  | .record peer r =>
    (numbering folder).Past (s.history peer) r.sequence ∧
      (∀ old ∈ s.history peer, old.name = r.name → lastModified old < lastModified r) ∧
      (buildable folder r = true → Valid r)
  | .connect _ _ => True
  | .clusterConfig message =>
    ∀ a ∈ announcements message, a.folder = folder → a.indexId = indexId a.deviceId
  | .send j files => ∀ c, s.session j = some c →
    (∀ r ∈ files, r ∈ s.history c.source) ∧
      ∀ r, (numbering folder).Current (s.history c.source) r → c.cursor < r.sequence →
        r.sequence ≤ maxSequence files (-1) → r ∈ files
  | .process j n _ faults => n = 0 ∧ ∀ c files, s.session j = some c →
    c.inFlight.head? = some files → ∀ i < files.length, faults i = none
  | .processOther _ _ _ message => message.folder ≠ folder
  | .disconnect _ _ => True

/-- The sessions of this device with its peers. -/
def synchronizing (folder : String) (indexId : String → ℤ) : Machine Synchronization SyncEvent :=
  Machine.ofStep Synchronization.fresh (Synchronization.step folder indexId)

/-! ## The replica -/

omit [Protobuf IndexSerializationProtos.Blocks] in
theorem greatest_eq_maxSequence (files : List BlockExchageProtos.FileInfo) :
    (numbering folder).greatest files = maxSequence files (-1) := by
  have hfold : ∀ (files : List BlockExchageProtos.FileInfo) (n : ℤ),
      (files.map BlockExchageProtos.FileInfo.sequence).foldl max n = maxSequence files n := by
    intro files
    induction files with
    | nil => exact fun n => rfl
    | cons r files ih =>
      intro n
      rw [List.map_cons, List.foldl_cons, ih, max_comm]
      rfl
  exact hfold files (-1)

/-- A turn of the record loop is an offer, where what can be built is
valid. -/
theorem Mirrors.processRecord_of_storable [LawfulBase16]
    {records : Table String BlockExchageProtos.FileInfo}
    (hm : Mirrors folder h.indexRepository.fileInfo records)
    (hvalid : buildable folder r = true → Valid r) :
    Mirrors folder (after (Bep.processRecord none folder r) h).indexRepository.fileInfo
      ((numbering folder).offer records r) := by
  by_cases hb : buildable folder r = true
  · exact hm.processRecord (hvalid hb)
  · rw [Bool.not_eq_true] at hb
    rw [fileInfo_processRecord_of_not_buildable hb, Numbering.offer, if_neg (by simp [hb])]
    exact hm

theorem Mirrors.processed_of_storable [LawfulBase16]
    {records : Table String BlockExchageProtos.FileInfo}
    (hm : Mirrors folder h.indexRepository.fileInfo records)
    (hvalid : ∀ r ∈ files, buildable folder r = true → Valid r) :
    Mirrors folder
      (Bep.processed folder (files.map fun r => (r, none)) h).indexRepository.fileInfo
      (files.foldl (numbering folder).offer records) := by
  induction files generalizing h records with
  | nil => exact hm
  | cons r files ih =>
    rw [List.map_cons, processed_cons, List.foldl_cons]
    exact ih (hm.processRecord_of_storable (hvalid r List.mem_cons_self))
      fun r' hr' => hvalid r' (List.mem_cons_of_mem r hr')

/-- A turn writes rows of its own folder only, whatever it fails at. -/
theorem find_processRecord_of_ne (fault : Fault) (hne : folder ≠ path)
    (r : BlockExchageProtos.FileInfo) (h : IndexHandler) (name : String) :
    (after (processRecord fault path r) h).indexRepository.fileInfo.find (folder, name) =
      h.indexRepository.fileInfo.find (folder, name) := by
  have hrow : ∀ (info : Core.FileInfo) (blocks : Option FileBlocks), info.folder = path →
      (after (updateFileInfo fault info blocks) h.indexRepository).fileInfo.find (folder, name) =
        h.indexRepository.fileInfo.find (folder, name) := by
    intro info blocks hinfo
    obtain ⟨t, _, _, _, _, heq, hsame | hwrite⟩ := after_updateFileInfo_eq h.indexRepository fault
      info blocks
    · rw [heq, hsame]
    · rw [heq, hwrite]
      refine Table.find_merge_of_ne fun hkey => hne ?_
      rw [(Prod.mk.inj hkey).1, hinfo]
  have hturn := (processRecord_after fault path r h).2
  generalize after (processRecord fault path r) h = h' at hturn
  cases hturn with
  | unsupported => rfl
  | notNewer => rfl
  | refused => rfl
  | @stored info blocks _ hb _ hrun =>
    have hwritten := hrow info blocks (buildRecord_eq_ok hb).1
    rw [after_of_ok hrun] at hwritten
    exact hwritten
  | @failed info blocks _ _ hb _ hrun =>
    have hwritten := hrow info blocks (buildRecord_eq_ok hb).1
    rw [after_of_error hrun] at hwritten
    exact hwritten

theorem find_processed_of_ne (hne : folder ≠ path)
    (records : List (BlockExchageProtos.FileInfo × Fault)) (h : IndexHandler) (name : String) :
    (processed path records h).indexRepository.fileInfo.find (folder, name) =
      h.indexRepository.fileInfo.find (folder, name) := by
  induction records generalizing h with
  | nil => rfl
  | cons r records ih => rw [processed_cons, ih, find_processRecord_of_ne r.2 hne]

omit [Protobuf IndexSerializationProtos.Blocks] in
theorem Mirrors.of_find_eq {rows rows' : Table (String × String) FileInfoRow}
    {records : Table String BlockExchageProtos.FileInfo} (hm : Mirrors folder rows records)
    (hrows : ∀ name, rows'.find (folder, name) = rows.find (folder, name)) :
    Mirrors folder rows' records := by
  intro name
  rw [hrows name]
  exact hm name

omit [Guava] [FilenameUtils] [Protobuf IndexSerializationProtos.Blocks] in
/-- Only the records of the message can fail. -/
theorem withFaults_congr {faults faults' : ℕ → Fault}
    (h : ∀ i < files.length, faults i = faults' i) :
    withFaults faults files = withFaults faults' files := by
  refine List.map_congr_left fun r hr => ?_
  rw [h r.2 (List.snd_lt_of_mem_zipIdx hr)]

/-! ## What is noted of a peer -/

namespace Synchronization

/-- The sequence the next session with a peer starts from. -/
def noted (folder : String) (s : Synchronization) (peer : String) : ℤ :=
  (s.handler.indexInfoOf peer folder).elim 0 IndexInfo.localSequence

/-- The system, as sources and a replica. -/
def view (folder : String) (s : Synchronization)
    (replica : Table String BlockExchageProtos.FileInfo) :
    Deltas String String BlockExchageProtos.FileInfo where
  history := s.history
  noted := s.noted folder
  channel := s.session
  replica := replica

end Synchronization

/-- An index info is of the peer's index. -/
def OfIndex (id : ℤ) (stored : Option IndexInfo) : Prop :=
  ∀ info, stored = some info → info.indexId = id

omit [Guava] [FilenameUtils] [Protobuf IndexSerializationProtos.Blocks] in
/-- An announcement of the peer's own index leaves the sequence received. -/
theorem foldl_announceTo_of_index {stored : Option IndexInfo} {as : List Announcement}
    (hids : ∀ a ∈ as, a.folder = folder → a.indexId = indexId a.deviceId)
    (hstored : OfIndex (indexId peer) stored) :
    OfIndex (indexId peer) (as.foldl (announceTo peer folder) stored) ∧
      (as.foldl (announceTo peer folder) stored).elim 0 IndexInfo.localSequence =
        stored.elim 0 IndexInfo.localSequence := by
  induction as generalizing stored with
  | nil => exact ⟨hstored, rfl⟩
  | cons a as ih =>
    have hrest : ∀ b ∈ as, b.folder = folder → b.indexId = indexId b.deviceId :=
      fun b hb => hids b (List.mem_cons_of_mem a hb)
    have hstep : OfIndex (indexId peer) (announceTo peer folder stored a) ∧
        (announceTo peer folder stored a).elim 0 IndexInfo.localSequence =
          stored.elim 0 IndexInfo.localSequence := by
      rw [announceTo]
      split
      · next hkey =>
        obtain ⟨hdevice, hfolder⟩ := hkey
        have hid := hids a List.mem_cons_self hfolder
        rw [hdevice] at hid
        rcases stored with _ | info
        · refine ⟨fun info hinfo => ?_, ?_⟩
          · rw [nextIndexInfo, Option.some.injEq, changeIndexInfo_fst] at hinfo
            rw [← hinfo]
            exact hid
          · rw [nextIndexInfo, changeIndexInfo_fst]
            simp
        · refine ⟨fun info' hinfo => ?_, ?_⟩
          · rw [nextIndexInfo, Option.some.injEq, changeIndexInfo_fst] at hinfo
            rw [← hinfo]
            exact hid
          · rw [nextIndexInfo, changeIndexInfo_fst]
            simp
      · exact ⟨hstored, rfl⟩
    obtain ⟨hid, hlocal⟩ := ih hrest hstep.1
    exact ⟨hid, hlocal.trans hstep.2⟩

omit [Protobuf IndexSerializationProtos.Blocks] in
/-- **What `connect` tells a peer** is the index stored of it, and up to
where it was received. -/
theorem run_peerDevice (ht : h.IndexTable) (peer folder : String) :
    (∃ e, (peerDevice true peer folder).run h = .error e h) ∨
      ∃ id h', (peerDevice true peer folder).run h =
          .ok ⟨id, (h.indexInfoOf peer folder).map IndexInfo.indexId,
            (h.indexInfoOf peer folder).map IndexInfo.localSequence⟩ h' ∧
        KeystoreHandler.deviceIdStringToHashData peer = .ok id ∧ IndexLoad h h' := by
  rw [peerDevice]
  rcases hhash : KeystoreHandler.deviceIdStringToHashData peer with e | id
  · exact Or.inl ⟨e, rfl⟩
  · obtain ⟨h', hfind, hload⟩ := run_findIndexInfo peer folder ht
    refine Or.inr ⟨id, h', ?_, rfl, hload⟩
    change (otherDevice id peer folder).run h = _
    rw [otherDevice, run_bind_of_ok hfind]
    rcases h.indexInfoOf peer folder with _ | info
    · rfl
    · rfl

/-! ## The invariant -/

/-- What holds after every step of a run: the rows mirror a replica the
peers' sessions keep sound. -/
structure Following (folder : String) (indexId : String → ℤ) (s : Synchronization) : Prop where
  indexTable : s.handler.IndexTable
  noEmpty : s.handler.folderInfoByFolder.find "" = none
  ofIndex : ∀ peer, OfIndex (indexId peer) (s.handler.indexInfoOf peer folder)
  storable : ∀ peer, ∀ r ∈ s.history peer, buildable folder r = true → Valid r
  replica : ∃ replica, Mirrors folder s.handler.indexRepository.fileInfo replica ∧
    Deltas.Sound (numbering folder) (s.view folder replica)

namespace Following

omit [Protobuf IndexSerializationProtos.Blocks] in
theorem start : Following folder indexId Synchronization.fresh := by
  have hstart := noted_start (h := IndexHandler.fresh) rfl (Table.find_empty _)
  have hinfo : ∀ peer, Synchronization.fresh.handler.indexInfoOf peer folder = none :=
    fun peer => hstart.indexInfoOf peer folder
  refine ⟨hstart.indexTable, hstart.noEmpty, fun peer info h => ?_, fun peer r hr => ?_, ∅, ?_, ?_⟩
  · rw [hinfo] at h
    cases h
  · cases hr
  · intro name
    rw [Table.find_empty]
    exact Table.find_empty _
  · refine Deltas.sound_start _ (fun _ => rfl) (fun peer => ?_) (fun _ => rfl) rfl
    change Synchronization.noted folder Synchronization.fresh peer = 0
    rw [Synchronization.noted, hinfo]
    rfl

omit [Protobuf IndexSerializationProtos.Blocks] in
/-- The handler changed, but nothing that was noted of a peer or any row
of the folder. -/
theorem of_handler (hf : Following folder indexId s) (ht : h.IndexTable)
    (hne : h.folderInfoByFolder.find "" = none)
    (hid : ∀ peer, OfIndex (indexId peer) (h.indexInfoOf peer folder))
    (hlocal : ∀ peer, (h.indexInfoOf peer folder).elim 0 IndexInfo.localSequence =
      s.noted folder peer)
    (hrows : ∀ name, h.indexRepository.fileInfo.find (folder, name) =
      s.handler.indexRepository.fileInfo.find (folder, name)) :
    Following folder indexId { s with handler := h } := by
  obtain ⟨replica, hm, hsound⟩ := hf.replica
  refine ⟨ht, hne, hid, hf.storable, replica, hm.of_find_eq hrows, ?_⟩
  have hview : Synchronization.view folder { s with handler := h } replica =
      s.view folder replica := by
    rw [Synchronization.view, Synchronization.view]
    congr 1
    exact funext hlocal
  rw [hview]
  exact hsound

omit [Protobuf IndexSerializationProtos.Blocks] in
theorem of_load (hf : Following folder indexId s) (hl : IndexLoad s.handler h) :
    Following folder indexId { s with handler := h } := by
  have hinfo := hl.indexInfoOf
  refine hf.of_handler hl.indexTable ?_ (fun peer => ?_) (fun peer => ?_) fun name => ?_
  · rw [hl.same.folderInfoByFolder]
    exact hf.noEmpty
  · rw [hinfo]
    exact hf.ofIndex peer
  · rw [hinfo]
    rfl
  · rw [hl.same.fileInfo]

omit [Protobuf IndexSerializationProtos.Blocks] in
theorem record (hf : Following folder indexId s)
    (hok : KeepsOrder folder indexId es s (.record peer r)) :
    Following folder indexId
      { s with history := Function.update s.history peer (s.history peer ++ [r]) } := by
  obtain ⟨hpast, hnew, hvalid⟩ := hok
  obtain ⟨replica, hm, hsound⟩ := hf.replica
  refine ⟨hf.indexTable, hf.noEmpty, hf.ofIndex, fun peer' r' hr' => ?_, replica, hm, ?_⟩
  · dsimp only at hr'
    by_cases hpeer : peer' = peer
    · subst hpeer
      rw [Function.update_self] at hr'
      rcases List.mem_append.1 hr' with hold | hlast
      · exact hf.storable peer' r' hold
      · rw [List.mem_singleton.1 hlast]
        exact hvalid
    · rw [Function.update_of_ne hpeer] at hr'
      exact hf.storable peer' r' hr'
  · exact Deltas.Sound.make (numbering folder) hsound hpast hnew

omit [Protobuf IndexSerializationProtos.Blocks] in
/-- **A session starts from what is noted of the peer.** -/
theorem connect {j : ℕ} {device : Device} (hf : Following folder indexId s)
    (hrun : (peerDevice true peer folder).run s.handler = .ok device h) :
    Following folder indexId { s with
      handler := h
      session := Function.update s.session j
        (some ⟨peer, startOf (indexId peer) device, [], true, true⟩) } := by
  rcases run_peerDevice hf.indexTable peer folder with ⟨e, herror⟩ | ⟨id, h', hrun', -, hload⟩
  · rw [hrun] at herror
    cases herror
  · rw [hrun] at hrun'
    cases hrun'
    have hstart : startOf (indexId peer)
        ⟨id, (s.handler.indexInfoOf peer folder).map IndexInfo.indexId,
          (s.handler.indexInfoOf peer folder).map IndexInfo.localSequence⟩ =
        s.noted folder peer := by
      rw [startOf, Synchronization.noted]
      rcases hinfo : s.handler.indexInfoOf peer folder with _ | info
      · exact if_neg fun heq => by cases heq
      · exact if_pos (congrArg some (hf.ofIndex peer info hinfo))
    rw [hstart]
    have hloaded := hf.of_load hload
    obtain ⟨replica, hm, hsound⟩ := hloaded.replica
    have hnoted : s.noted folder peer =
        (Synchronization.view folder { s with handler := h } replica).noted peer := by
      rw [Synchronization.noted, ← hload.indexInfoOf]
      rfl
    refine ⟨hloaded.indexTable, hloaded.noEmpty, hloaded.ofIndex, hf.storable, replica, hm, ?_⟩
    rw [hnoted]
    exact Deltas.Sound.connect (numbering folder) hsound j peer

theorem clusterConfig {message : ClusterConfig} (hf : Following folder indexId s)
    (hok : KeepsOrder folder indexId es s (.clusterConfig message)) :
    Following folder indexId { s with
      handler := after (PeerMessage.clusterConfig message).process s.handler } := by
  have hann := handleClusterConfig_announced hf.indexTable hf.noEmpty message
  have hfold := fun peer => foldl_announceTo_of_index hok (hf.ofIndex peer)
  refine hf.of_handler hann.indexTable hann.noEmpty (fun peer => ?_) (fun peer => ?_) fun name => ?_
  · rw [PeerMessage.process, hann.indexInfoOf]
    exact (hfold peer).1
  · rw [PeerMessage.process, hann.indexInfoOf]
    exact (hfold peer).2
  · rw [PeerMessage.process, hann.fileInfo]

theorem processOther {cluster : ClusterConfigInfo} {faults : ℕ → Fault} {message : IndexUpdate}
    (hf : Following folder indexId s) (hne : message.folder ≠ folder) :
    Following folder indexId { s with
      handler := after (PeerMessage.index peer cluster faults message).process s.handler } := by
  obtain ⟨ht, hempty, -, hinfo⟩ :=
    process_index hf.indexTable hf.noEmpty peer cluster faults message
  have hsame : ∀ peer', (after (PeerMessage.index peer cluster faults message).process
      s.handler).indexInfoOf peer' folder = s.handler.indexInfoOf peer' folder := by
    intro peer'
    rw [hinfo, PeerMessage.notes, if_neg fun h => hne h.2, List.foldl_nil]
  refine hf.of_handler ht hempty (fun peer' => ?_) (fun peer' => ?_) fun name => ?_
  · rw [hsame]
    exact hf.ofIndex peer'
  · rw [hsame]
    rfl
  · rw [fileInfo_process_index hf.indexTable, find_processed_of_ne (Ne.symm hne)]

/-- **The first message of a session is processed**: its records are
offered, and its greatest sequence is noted where the peer's index is
known. -/
theorem process [LawfulBase16] {c : Channel String BlockExchageProtos.FileInfo} {j : ℕ}
    {rest : List (List BlockExchageProtos.FileInfo)} (cluster : ClusterConfigInfo)
    {faults : ℕ → Fault} (hf : Following folder indexId s) (hj : s.session j = some c)
    (hflight : c.inFlight = files :: rest) (hfaults : ∀ i < files.length, faults i = none) :
    Following folder indexId { s with
      handler := after (PeerMessage.index c.source cluster faults
        ⟨folder, files⟩).process s.handler
      session := Function.update s.session j (some { c with inFlight := rest }) } := by
  obtain ⟨ht, hempty, -, hinfo⟩ := process_index hf.indexTable hf.noEmpty c.source cluster
    faults ⟨folder, files⟩
  obtain ⟨replica, hm, hsound⟩ := hf.replica
  have hof : ∀ r ∈ files, r ∈ s.history c.source :=
    (hsound.carried j c hj).sent files (hflight ▸ List.mem_cons_self)
  have hrows := fileInfo_process_index hf.indexTable c.source cluster faults ⟨folder, files⟩
  -- no record of the message meets a database failure
  rw [withFaults_congr hfaults, withFaults_none] at hrows
  generalize after (PeerMessage.index c.source cluster faults ⟨folder, files⟩).process
    s.handler = h at ht hempty hinfo hrows
  -- the index info of the other peers is left alone
  have hother : ∀ peer, peer ≠ c.source →
      h.indexInfoOf peer folder = s.handler.indexInfoOf peer folder := by
    intro peer hne
    rw [hinfo, PeerMessage.notes, if_neg fun hk => hne hk.1.symm, List.foldl_nil]
  have hself : h.indexInfoOf c.source folder = noteStep c.source folder
      (s.handler.indexInfoOf c.source folder) (.received files) := by
    rw [hinfo, PeerMessage.notes, if_pos ⟨rfl, rfl⟩]
    rfl
  -- what is noted of the source stays or rises to the greatest of the message
  have hcases : (OfIndex (indexId c.source) (h.indexInfoOf c.source folder)) ∧
      ((h.indexInfoOf c.source folder).elim 0 IndexInfo.localSequence = s.noted folder c.source ∨
        (h.indexInfoOf c.source folder).elim 0 IndexInfo.localSequence =
          max (s.noted folder c.source) ((numbering folder).greatest files)) := by
    rw [hself, Synchronization.noted, greatest_eq_maxSequence]
    rcases hold : s.handler.indexInfoOf c.source folder with _ | info
    · refine ⟨fun info hnone => ?_, Or.inl rfl⟩
      cases hnone
    · rw [noteStep, nextIndexInfo, changeIndexInfo_fst]
      refine ⟨fun info' hsome => ?_, Or.inr rfl⟩
      rw [← Option.some.inj hsome]
      exact hf.ofIndex c.source info hold
  obtain ⟨hid, hlocal⟩ := hcases
  refine ⟨ht, hempty, fun peer => ?_, hf.storable, files.foldl (numbering folder).offer replica,
    ?_, ?_⟩
  · by_cases hpeer : peer = c.source
    · rw [hpeer]
      exact hid
    · dsimp only
      rw [hother peer hpeer]
      exact hf.ofIndex peer
  · dsimp only
    rw [hrows]
    exact hm.processed_of_storable fun r hr => hf.storable c.source r (hof r hr)
  · have hreceive := Deltas.Sound.receive (numbering folder) hsound hj hflight hlocal
    have hnoted : Synchronization.noted folder { s with
        handler := h, session := Function.update s.session j (some { c with inFlight := rest }) } =
        Function.update (s.noted folder) c.source
          ((h.indexInfoOf c.source folder).elim 0 IndexInfo.localSequence) := by
      funext peer
      by_cases hpeer : peer = c.source
      · rw [hpeer, Function.update_self]
        rfl
      · rw [Function.update_of_ne hpeer, Synchronization.noted, Synchronization.noted,
          hother peer hpeer]
    rw [Synchronization.view, hnoted]
    exact hreceive

/-- **Every step of the system keeps it.** -/
theorem step [LawfulBase16] (hf : Following folder indexId s)
    (hok : KeepsOrder folder indexId es s e)
    (hstep : s.step folder indexId e = some s') : Following folder indexId s' := by
  cases e with
  | record peer r =>
    rw [← Option.some.inj hstep]
    exact hf.record hok
  | connect j peer =>
    rw [Synchronization.step] at hstep
    split at hstep
    · cases hstep
    · split at hstep
      · next device h hrun =>
        rw [← Option.some.inj hstep]
        exact hf.connect hrun
      · next e h hrun =>
        rw [← Option.some.inj hstep]
        rcases run_peerDevice hf.indexTable peer folder with ⟨e', hrun'⟩ | ⟨_, _, hrun', -, -⟩
        · rw [hrun] at hrun'
          cases hrun'
          exact hf
        · rw [hrun] at hrun'
          cases hrun'
  | clusterConfig message =>
    rw [← Option.some.inj hstep]
    exact hf.clusterConfig hok
  | send j files =>
    obtain ⟨c, hj, hstep⟩ := Option.bind_eq_some_iff.1 hstep
    split at hstep
    · next hopen =>
      rw [← Option.some.inj hstep]
      obtain ⟨hof, hall⟩ := hok c hj
      obtain ⟨replica, hm, hsound⟩ := hf.replica
      have hgreatest : (numbering folder).greatest files = maxSequence files (-1) :=
        greatest_eq_maxSequence files
      -- the cursor goes up to the greatest sequence of the message
      rw [← hgreatest] at hall ⊢
      exact ⟨hf.indexTable, hf.noEmpty, hf.ofIndex, hf.storable, replica, hm,
        Deltas.Sound.send (numbering folder) hsound hj hopen hof hall⟩
    · cases hstep
  | process j n cluster faults =>
    obtain ⟨rfl, hfaults⟩ := hok
    obtain ⟨c, hj, hstep⟩ := Option.bind_eq_some_iff.1 hstep
    obtain ⟨files, hfiles, hstep⟩ := Option.bind_eq_some_iff.1 hstep
    rw [← Option.some.inj hstep]
    rcases hflight : c.inFlight with _ | ⟨files', rest⟩
    · rw [hflight] at hfiles
      cases hfiles
    · rw [hflight] at hfiles
      cases hfiles
      -- the message processed is the first in flight
      refine hf.process cluster hj hflight (hfaults c files hj ?_)
      rw [hflight]
      rfl
  | processOther peer cluster faults message =>
    rw [← Option.some.inj hstep]
    exact hf.processOther hok
  | disconnect j n =>
    obtain ⟨c, hj, hstep⟩ := Option.bind_eq_some_iff.1 hstep
    rw [← Option.some.inj hstep]
    obtain ⟨replica, hm, hsound⟩ := hf.replica
    exact ⟨hf.indexTable, hf.noEmpty, hf.ofIndex, hf.storable, replica, hm,
      Deltas.Sound.cut (numbering folder) hsound hj n⟩

theorem of_run [LawfulBase16]
    (hrun : (synchronizing folder indexId).Run (KeepsOrder folder indexId) es s) :
    Following folder indexId s := by
  refine hrun.invariant (I := fun _ s => Following folder indexId s) (fun s hs => ?_)
    fun es s e s' _ hf hok hstep => hf.step hok hstep
  rw [show s = Synchronization.fresh from hs]
  exact Following.start

end Following

/-! ## The rows -/

/-- A peer has sent all it recorded, the last of it in a session that lost
nothing, and that was processed. The session may be over. -/
def Delivered (s : Synchronization) (peer : String) : Prop :=
  s.history peer = [] ∨ ∃ j c, s.session j = some c ∧ c.source = peer ∧ c.isWhole = true ∧
    c.inFlight = [] ∧ ∀ r ∈ s.history peer, r.sequence ≤ c.cursor

omit [Protobuf IndexSerializationProtos.Blocks] in
/-- The row of a path is that of the replica's record. -/
theorem Mirrors.row {rows : Table (String × String) FileInfoRow}
    {records : Table String BlockExchageProtos.FileInfo} (hm : Mirrors folder rows records)
    (hr : records.find path = some r) (hvalid : buildable folder r = true → Valid r) :
    ∃ row, rows.find (folder, path) = some row ∧ Agrees row r := by
  have hrow := hm path
  rw [hr] at hrow
  obtain ⟨info, blocks, hb, hfind⟩ := hrow
  have hbuildable : buildable folder r = true := by
    rw [buildable, hb]
  exact ⟨_, hfind, agrees_of_buildRecord hb (hvalid hbuildable).1⟩

/-- **The rows of a folder follow the peers.** Wherever the sessions were
lost: a current record not past the sequence noted of its peer has a row
as new as itself; every row is a record of some peer; and once every peer
has sent all it recorded, the row of a path is the newest of the peers'
current records of it, and a path without a row is one nobody recorded. -/
theorem rows_follow_peers [LawfulBase16]
    (hrun : (synchronizing folder indexId).Run (KeepsOrder folder indexId) es s) :
    (∀ peer r, (numbering folder).Current (s.history peer) r → buildable folder r = true →
      r.sequence ≤ s.noted folder peer →
        ∃ row, s.handler.rowOf folder r.name = some row ∧ lastModified r ≤ row.lastModified) ∧
    (∀ path row, s.handler.rowOf folder path = some row →
      ∃ peer, ∃ r ∈ s.history peer, r.name = path ∧ Agrees row r) ∧
    ((∀ peer, Delivered s peer) → ∀ path,
      (∀ peer r, (numbering folder).Current (s.history peer) r → r.name = path →
        buildable folder r = true) →
      match s.handler.rowOf folder path with
      | none => ∀ peer, ∀ r ∈ s.history peer, r.name ≠ path
      | some row => ∃ peer r, (numbering folder).Current (s.history peer) r ∧ r.name = path ∧
          Agrees row r ∧ ∀ peer' r', (numbering folder).Current (s.history peer') r' →
            r'.name = path → lastModified r' ≤ lastModified r) := by
  have hf := Following.of_run hrun
  obtain ⟨replica, hm, hsound⟩ := hf.replica
  have horigin : ∀ path r, replica.find path = some r →
      r.name = path ∧ ∃ peer, r ∈ s.history peer := by
    intro path r hr
    obtain ⟨hkey, -, peer, hmem⟩ := hsound.origin path r hr
    exact ⟨hkey, peer, hmem⟩
  have hrow : ∀ path r, replica.find path = some r →
      ∃ row, s.handler.rowOf folder path = some row ∧ Agrees row r := by
    intro path r hr
    obtain ⟨-, peer, hmem⟩ := horigin path r hr
    exact hm.row hr (hf.storable peer r hmem)
  refine ⟨fun peer r hcur hb hle => ?_, fun path row hfind => ?_, fun hall path hbuild => ?_⟩
  · obtain ⟨r', hr', hnewer⟩ := hsound.known peer r hcur hle hb
    obtain ⟨row, hfind, hagrees⟩ := hrow _ r' hr'
    refine ⟨row, hfind, ?_⟩
    rw [hagrees.lastModified]
    exact hnewer
  · rcases hr : replica.find path with _ | r
    · have hnone := hm path
      rw [hr] at hnone
      rw [IndexHandler.rowOf, show Table.find _ _ = none from hnone] at hfind
      cases hfind
    · obtain ⟨row', hfind', hagrees⟩ := hrow path r hr
      rw [hfind] at hfind'
      cases hfind'
      obtain ⟨hkey, peer, hmem⟩ := horigin path r hr
      exact ⟨peer, r, hmem, hkey, hagrees⟩
  · have hknown : ∀ peer r, (numbering folder).Current (s.history peer) r →
        (numbering folder).Known replica r := by
      intro peer r hcur
      rcases hall peer with hnil | ⟨j, c, hj, rfl, hwhole, hflight, hsent⟩
      · have hmem := hcur.1
        rw [hnil] at hmem
        cases hmem
      · exact hsound.known_of_delivered _ hj hwhole hflight (fun a ha => hsent a ha.1) hcur
    rcases hr : replica.find path with _ | r
    · have hnone : s.handler.rowOf folder path = none := by
        have hmirror := hm path
        rw [hr] at hmirror
        exact hmirror
      rw [hnone]
      intro peer r hmem hname
      -- the current record of the path would be known
      obtain ⟨r', hcur, hkey, -⟩ := (numbering folder).exists_current hmem
      obtain ⟨b, hb, -⟩ := hknown peer r' hcur (hbuild peer r' hcur (hkey.trans hname))
      rw [hkey, show (numbering folder).key r = path from hname, hr] at hb
      cases hb
    · obtain ⟨row, hfind, hagrees⟩ := hrow path r hr
      obtain ⟨⟨peer, hcur⟩, hnewest⟩ := hsound.newest (numbering folder) hknown hbuild hr
      rw [hfind]
      exact ⟨peer, r, hcur, (horigin path r hr).1, hagrees, hnewest⟩

/-- What an event adds to the history of a peer. -/
def recordOf (peer : String) : SyncEvent → Option BlockExchageProtos.FileInfo
  | .record peer' r => if peer' = peer then some r else none
  | _ => none

/-- The history of a peer is what it recorded. -/
theorem history_of_run {ok : List SyncEvent → Synchronization → SyncEvent → Prop}
    (hrun : (synchronizing folder indexId).Run ok es s) (peer : String) :
    s.history peer = es.filterMap (recordOf peer) := by
  refine hrun.invariant (I := fun es s => s.history peer = es.filterMap (recordOf peer))
    (fun s hs => ?_) fun es s e s' _ ih _ hstep => ?_
  · rw [show s = Synchronization.fresh from hs]
    rfl
  · -- only a record of the peer itself is appended
    have hkeep : s'.history peer = s.history peer ++ (recordOf peer e).toList := by
      cases e with
      | record peer' r =>
        rw [← Option.some.inj hstep, recordOf]
        by_cases hpeer : peer' = peer
        · rw [hpeer, if_pos rfl]
          exact Function.update_self ..
        · rw [if_neg hpeer]
          exact (Function.update_of_ne (Ne.symm hpeer) ..).trans (List.append_nil _).symm
      | connect j peer' =>
        rw [show (synchronizing folder indexId).step s _ s' ↔ s.step folder indexId _ = some s'
          from Iff.rfl, Synchronization.step] at hstep
        split at hstep
        · cases hstep
        · split at hstep <;> rw [← Option.some.inj hstep] <;> exact (List.append_nil _).symm
      | clusterConfig message =>
        rw [← Option.some.inj hstep]
        exact (List.append_nil _).symm
      | send j files =>
        obtain ⟨c, -, hstep⟩ := Option.bind_eq_some_iff.1 hstep
        split at hstep
        · rw [← Option.some.inj hstep]
          exact (List.append_nil _).symm
        · cases hstep
      | process j n cluster faults =>
        obtain ⟨c, -, hstep⟩ := Option.bind_eq_some_iff.1 hstep
        obtain ⟨files, -, hstep⟩ := Option.bind_eq_some_iff.1 hstep
        rw [← Option.some.inj hstep]
        exact (List.append_nil _).symm
      | processOther peer' cluster faults message =>
        rw [← Option.some.inj hstep]
        exact (List.append_nil _).symm
      | disconnect j n =>
        obtain ⟨c, -, hstep⟩ := Option.bind_eq_some_iff.1 hstep
        rw [← Option.some.inj hstep]
        exact (List.append_nil _).symm
    rw [hkeep, ih, List.filterMap_append]
    rcases hrecord : recordOf peer e with _ | r
    · rw [List.filterMap_cons_none hrecord]
      rfl
    · rw [List.filterMap_cons_some hrecord]
      rfl

end Synchronization

section Sample

attribute [local instance] Sample.guava Sample.filenameUtils Sample.protobuf Sample.lawfulBase16

/-- A directory, as a peer records it. -/
def syncedDirectory (sequence modifiedS : ℤ) (deleted : Bool) : BlockExchageProtos.FileInfo :=
  { name := "d", type := .DIRECTORY, modifiedS, deleted, version := some [⟨1, sequence⟩], sequence }

/-- A check of one event that is enough for `KeepsOrder`, where records
are of directories. -/
def keepsOrder (s : Synchronization) : SyncEvent → Bool
  | .record peer r =>
    decide (0 < r.sequence) && (s.history peer).all (fun old =>
      decide (old.sequence < r.sequence) && decide (lastModified old < lastModified r)) &&
        decide (r.type = .DIRECTORY) && !(versionList r).isEmpty
  | .connect _ _ => true
  | .clusterConfig message => (announcements message).all fun a => decide (a.indexId = 7)
  | .send j files => match s.session j with
    | none => true
    | some c => files.all (fun r => decide (r ∈ s.history c.source)) &&
        (s.history c.source).all fun r => decide (r.sequence ≤ c.cursor) || decide (r ∈ files)
  | .process j n _ faults => decide (n = 0) && match s.session j with
    | none => true
    | some c => match c.inFlight.head? with
      | none => true
      | some files => (List.range files.length).all fun i => (faults i).isNone
  | .processOther _ _ _ message => decide (message.folder ≠ "default")
  | .disconnect _ _ => true

theorem keepsOrder_sound {es : List SyncEvent} {s : Synchronization} {e : SyncEvent}
    (h : keepsOrder s e = true) : KeepsOrder "default" (fun _ => 7) es s e := by
  cases e with
  | record peer r =>
    simp only [keepsOrder, Bool.and_eq_true, decide_eq_true_eq, List.all_eq_true,
      Bool.not_eq_true', List.isEmpty_eq_false_iff] at h
    obtain ⟨⟨⟨hpos, hold⟩, htype⟩, hversion⟩ := h
    refine ⟨⟨hpos, fun old hmem => (hold old hmem).1⟩, fun old hmem _ => (hold old hmem).2, ?_⟩
    exact fun _ => ⟨hversion, Or.inl htype⟩
  | connect j peer => trivial
  | clusterConfig message =>
    simp only [keepsOrder, List.all_eq_true, decide_eq_true_eq] at h
    exact fun a ha _ => h a ha
  | send j files =>
    intro c hj
    rw [keepsOrder, hj] at h
    simp only [Bool.and_eq_true, List.all_eq_true, decide_eq_true_eq, Bool.or_eq_true] at h
    refine ⟨h.1, fun r hcur hlt _ => ?_⟩
    exact (h.2 r hcur.1).resolve_left (not_le.2 hlt)
  | process j n cluster faults =>
    obtain ⟨hzero, hall⟩ := Bool.and_eq_true_iff.1 h
    refine ⟨of_decide_eq_true hzero, fun c files hj hhead i hi => ?_⟩
    rw [hj] at hall
    dsimp only at hall
    rw [hhead] at hall
    exact Option.isNone_iff_eq_none.1 (List.all_eq_true.1 hall i (List.mem_range.2 hi))
  | processOther peer cluster faults message =>
    have hne : message.folder ≠ "default" := of_decide_eq_true h
    exact hne
  | disconnect j n => trivial

/-- A peer records a directory, which is received; the session is lost.
The peer deletes the directory, and sends that in the next session, which
ends before the message is processed. -/
def sampleSessions : List SyncEvent :=
  [.record sampleDevice (syncedDirectory 1 5 false), .connect 0 sampleDevice,
    .clusterConfig ⟨[⟨"default", "", [⟨Sample.zeroHash, some 7, some 1⟩]⟩]⟩,
    .send 0 [syncedDirectory 1 5 false], .process 0 0 ⟨["default"]⟩ fun _ => none,
    .disconnect 0 0, .record sampleDevice (syncedDirectory 2 9 true), .connect 1 sampleDevice,
    .send 1 [syncedDirectory 2 9 true], .disconnect 1 1,
    .process 1 0 ⟨["default"]⟩ fun _ => none]

/-- The second session of the sample is through. -/
def sampleDelivered (s : Synchronization) : Bool :=
  match s.session 1 with
  | none => false
  | some c => decide (c.source = sampleDevice) && c.isWhole && c.inFlight.isEmpty &&
      decide (c.cursor = 2)

set_option maxRecDepth 4000 in
theorem rows_follow_peers_sample : ∃ s,
    (synchronizing "default" fun _ => 7).Run (KeepsOrder "default" fun _ => 7) sampleSessions s ∧
      ∃ row, s.handler.rowOf "default" "d" = some row ∧ Agrees row (syncedDirectory 2 9 true) := by
  obtain ⟨s, hchecked, hs⟩ : ∃ s, (synchronizing "default" fun _ => 7).Run
      (fun _ s e => keepsOrder s e = true) sampleSessions s ∧ sampleDelivered s = true :=
    Machine.exists_run_of_any (by decide +kernel)
  have hrun : (synchronizing "default" fun _ => 7).Run (KeepsOrder "default" fun _ => 7)
      sampleSessions s := hchecked.mono fun _ _ _ => keepsOrder_sound
  have hhistory : ∀ peer, s.history peer = if sampleDevice = peer then
      [syncedDirectory 1 5 false, syncedDirectory 2 9 true] else [] := by
    intro peer
    rw [history_of_run hrun]
    by_cases hpeer : sampleDevice = peer
    · simp [sampleSessions, recordOf, hpeer, List.filterMap_cons]
    · simp [sampleSessions, recordOf, hpeer, List.filterMap_cons]
  have hall : ∀ peer, Delivered s peer := by
    intro peer
    rw [Delivered, hhistory]
    by_cases hpeer : sampleDevice = peer
    · rw [if_pos hpeer]
      rw [sampleDelivered] at hs
      split at hs
      · cases hs
      · next c hj =>
        simp only [Bool.and_eq_true, decide_eq_true_eq, List.isEmpty_iff] at hs
        obtain ⟨⟨⟨hsource, hwhole⟩, hflight⟩, hcursor⟩ := hs
        refine Or.inr ⟨1, c, hj, hsource.trans hpeer, hwhole, hflight, fun r hr => ?_⟩
        rw [hcursor]
        simp only [List.mem_cons, List.not_mem_nil, or_false] at hr
        rcases hr with rfl | rfl <;> decide
    · rw [if_neg hpeer]
      exact Or.inl rfl
  have hcurrent : ∀ peer r, (numbering "default").Current (s.history peer) r →
      r = syncedDirectory 2 9 true := by
    rintro peer r ⟨hmem, hmax⟩
    rw [hhistory] at hmem hmax
    split at hmem
    · next hpeer =>
      rw [if_pos hpeer] at hmax
      simp only [List.mem_cons, List.not_mem_nil, or_false] at hmem
      rcases hmem with rfl | rfl
      · have hle := hmax (syncedDirectory 2 9 true) (by simp) rfl
        exact absurd hle (by decide)
      · rfl
    · cases hmem
  have hrows := (rows_follow_peers hrun).2.2 hall "d" fun peer r hcur _ => by
    rw [hcurrent peer r hcur]
    decide +kernel
  refine ⟨s, hrun, ?_⟩
  split at hrows
  · exact absurd rfl (hrows sampleDevice (syncedDirectory 2 9 true) (by simp [hhistory]))
  · next row hrow =>
    obtain ⟨peer, r, hcur, -, hagrees, -⟩ := hrows
    rw [hcurrent peer r hcur] at hagrees
    exact ⟨row, hrow, hagrees⟩

end Sample

end Bep

end ASync
