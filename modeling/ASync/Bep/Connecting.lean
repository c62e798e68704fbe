import ASync.Core.Helpers.Sample
import ASync.Bep.Helpers.Messages
import ASync.Bep.Model.BlockExchangeConnectionHandler
/-!
# What `connect` has when it returns

The wait of `connect` ends as soon as the peer's cluster configuration is
assigned, which the pool's thread does before it goes through the
folders. What `connect` does afterwards is complete when it lists the
configuration's folders only after the last record that shares one was
put (`CaughtUp`); before that it may miss any of them.
-/

namespace ASync

namespace Bep

open ASync.Core BlockExchageProtos BlockExchangeConnectionHandler

section Connecting

variable [Guava] {name : Device → Option String} {message : ClusterConfig} {address : String}
variable {c₀ : ConfigurationService} {es : List ConnectingTurn} {s s' : Connecting}
variable {deviceId : Option String}

/-! ## Folder records -/

/-- A folder record lists this device. -/
def Lists (deviceId : Option String) (folder : Folder) : Prop :=
  ∃ device ∈ folder.devices, ∃ id, deviceId = some id ∧
    KeystoreHandler.hashDataToDeviceIdString device.id = .ok id

/-- The last of some records for a folder. -/
def lastOf (id : String) (folders : List Folder) : Option Folder :=
  (folders.filter fun folder => folder.id = id).getLast?

omit [Guava] in
theorem lastOf_append (id : String) (folders rest : List Folder) :
    lastOf id (folders ++ rest) = (lastOf id rest).or (lastOf id folders) := by
  rw [lastOf, List.filter_append, List.getLast?_append, lastOf, lastOf]

omit [Guava] in
theorem lastOf_concat (id : String) (folders : List Folder) (folder : Folder) :
    lastOf id (folders ++ [folder]) =
      if folder.id = id then some folder else lastOf id folders := by
  rw [lastOf_append]
  by_cases hid : folder.id = id
  · rw [if_pos hid, lastOf, List.filter_cons_of_pos (by simpa using hid)]
    rfl
  · rw [if_neg hid, lastOf, List.filter_cons_of_neg (by simpa using hid)]
    rfl

omit [Guava] in
theorem mem_of_lastOf {id : String} {folders : List Folder} {folder : Folder}
    (h : lastOf id folders = some folder) : folder ∈ folders :=
  (List.mem_filter.1 (List.mem_of_getLast? h)).1

omit [Guava] in
theorem exists_lastOf {folders : List Folder} {folder : Folder} (h : folder ∈ folders) :
    ∃ last, lastOf folder.id folders = some last := by
  have hmem : folder ∈ folders.filter fun f => f.id = folder.id :=
    List.mem_filter.2 ⟨h, by simp⟩
  exact ⟨_, List.getLast?_eq_some_getLast (List.ne_nil_of_mem hmem)⟩

theorem find_devicesById_from {devices : List Device} {table table' : Table String Device}
    (h : devices.foldlM (fun table device => do
      let id ← KeystoreHandler.hashDataToDeviceIdString device.id
      checkArgument (table.find id).isNone "Multiple entries with same key"
      return table.merge id device) table = .ok table') (id : String) :
    (table'.find id).isSome ↔ (table.find id).isSome ∨
      ∃ device ∈ devices, KeystoreHandler.hashDataToDeviceIdString device.id = .ok id := by
  induction devices generalizing table with
  | nil =>
    cases h
    simp
  | cons device devices ih =>
    rw [List.foldlM_cons] at h
    obtain ⟨table₁, hone, hrest⟩ := except_bind_eq_ok h
    obtain ⟨id', hid', hone⟩ := except_bind_eq_ok hone
    obtain ⟨_, _, hone⟩ := except_bind_eq_ok hone
    cases hone
    rw [ih hrest, Table.find_merge]
    by_cases hid : id = id'
    · rw [if_pos hid, hid]
      exact iff_of_true (.inl rfl) (.inr ⟨device, List.mem_cons_self, hid'⟩)
    · rw [if_neg hid, List.exists_mem_cons_iff, hid']
      have hne : (Except.ok id' : Except JavaException String) ≠ .ok id :=
        fun heq => hid (Except.ok.inj heq).symm
      simp only [hne, false_or]

/-- **What is read off a folder record**: its folder, shared when the
record lists this device. -/
theorem folderInfoOf_eq_ok {folder : Folder} {info : ClusterConfigFolderInfo}
    (h : folderInfoOf deviceId address folder = .ok info) :
    info.folder = folder.id ∧ (info.shared = true ↔ Lists deviceId folder) := by
  obtain ⟨devices, hdevices, h⟩ := except_bind_eq_ok h
  have hfind := find_devicesById_from hdevices
  unfold ClusterConfigFolderInfo.new at h
  split at h
  · cases h
  · cases h
    refine ⟨rfl, ?_⟩
    cases deviceId with
    | none =>
      refine iff_of_false Bool.false_ne_true ?_
      rintro ⟨_, _, id, hid, _⟩
      cases hid
    | some id =>
      show (devices.find id).isSome = true ↔ _
      rw [hfind id, Table.find_empty]
      constructor
      · rintro (hempty | ⟨device, hdevice, hid⟩)
        · cases hempty
        · exact ⟨device, hdevice, id, rfl, hid⟩
      · rintro ⟨device, hdevice, id', hid', hhash⟩
        cases hid'
        exact .inr ⟨device, hdevice, hhash⟩

/-! ## The configuration's folders -/

theorem mem_getFolderNames {c : ConfigurationService} {id : String} :
    id ∈ c.getFolderNames ↔ id ∈ c.folders := by
  rw [ConfigurationService.getFolderNames, Finset.mem_sort, Finmap.mem_keys]

theorem mem_getFolderNames_addFolders {c : ConfigurationService} {info : FolderInfo} {id : String} :
    id ∈ (c.edit (.addFolders [info])).getFolderNames ↔
      id = info.folder ∨ id ∈ c.getFolderNames := by
  rw [mem_getFolderNames, mem_getFolderNames]
  exact Finmap.mem_insert

omit [Guava] in
theorem folderInfo_new_folder {folder : String} {label : Option String} {info : FolderInfo}
    (h : FolderInfo.new folder label = .ok info) : info.folder = folder := by
  unfold FolderInfo.new checkNotNull at h
  cases hfolder : emptyToNull folder with
  | none =>
    rw [hfolder] at h
    cases h
  | some f =>
    rw [hfolder] at h
    cases h
    exact (emptyToNull_eq_some.1 hfolder).1.symm

/-! ## The pool's thread -/

/-- The records whose folder info was not put yet. -/
def PoolThread.pending (message : ClusterConfig) : PoolThread → List Folder
  | .received => message.folders
  | .folders rest => rest
  | .announcing _ folder rest => folder :: rest
  | .putting _ folder rest => folder :: rest
  | .addingPeers _ rest => rest
  | .processed => []
  | .failed rest => rest

/-- The record the thread is in, with what was read off it. -/
def PoolThread.current : PoolThread → Option (ClusterConfigFolderInfo × Folder)
  | .announcing info folder _ => some (info, folder)
  | .putting info folder _ => some (info, folder)
  | _ => none

/-- The folder about to be announced. -/
def PoolThread.announcing? : PoolThread → Option ClusterConfigFolderInfo
  | .announcing info _ _ => some info
  | _ => none

/-- **What the pool's thread has done** after the records `done`. -/
structure Registering (message : ClusterConfig) (address : String) (c₀ : ConfigurationService)
    (done : List Folder) (s : Connecting) : Prop where
  deviceId : s.handler.configuration.deviceId = c₀.deviceId
  peer : s.handler.address = address
  folders : message.folders = done ++ s.pool.pending message
  added : ∀ folder ∈ done, Lists c₀.deviceId folder →
    folder.id ∈ s.handler.configuration.getFolderNames
  announced : ∀ id ∈ s.handler.configuration.getFolderNames, id ∈ c₀.getFolderNames ∨
    ConnectionEvent.newFolderShared id ∈ s.handler.events ∨
    ∃ info, s.pool.announcing? = some info ∧ info.folder = id
  announcing : ∀ info, s.pool.announcing? = some info → info.shared = true
  current : ∀ info folder, s.pool.current = some (info, folder) →
    folderInfoOf c₀.deviceId address folder = .ok info ∧
      (info.shared = true → info.folder ∈ s.handler.configuration.getFolderNames)
  keyed : ∀ c, s.handler.clusterConfigInfo = some c →
    ∀ id info, c.folderInfoById.find id = some info → info.folder = id
  shared : ∀ c, s.handler.clusterConfigInfo = some c →
    ∀ id, (∃ info, c.folderInfoById.find id = some info ∧ info.shared = true) ↔
      ∃ folder, lastOf id done = some folder ∧ Lists c₀.deviceId folder

theorem Registering.initial :
    Registering message address c₀ [] (Connecting.initial address c₀) where
  deviceId := rfl
  peer := rfl
  folders := rfl
  added _ hfolder := nomatch hfolder
  announced _ hid := .inl hid
  announcing _ h := nomatch h
  current _ _ h := nomatch h
  keyed _ h := nomatch h
  shared _ h := nomatch h

/-- A step that leaves the pool's thread, and of what it writes the names
of the folders, their infos and the events posted. -/
theorem Registering.of_same {done : List Folder} (h : Registering message address c₀ done s)
    (hpool : s'.pool = s.pool) (hpeer : s'.handler.address = s.handler.address)
    (hdevice : s'.handler.configuration.deviceId = s.handler.configuration.deviceId)
    (hnames : s'.handler.configuration.getFolderNames = s.handler.configuration.getFolderNames)
    (hinfo : s'.handler.clusterConfigInfo = s.handler.clusterConfigInfo)
    (hevents : ∀ event ∈ s.handler.events, event ∈ s'.handler.events) :
    Registering message address c₀ done s' where
  deviceId := hdevice.trans h.deviceId
  peer := hpeer.trans h.peer
  folders := hpool ▸ h.folders
  added := hnames ▸ h.added
  announced id hid := by
    rw [hnames] at hid
    rw [hpool]
    exact (h.announced id hid).imp_right (Or.imp_left (hevents _))
  announcing := hpool ▸ h.announcing
  current := by
    rw [hpool, hnames]
    exact h.current
  keyed := hinfo ▸ h.keyed
  shared := hinfo ▸ h.shared

/-- The thread goes on between two records, or gives up. -/
theorem Registering.move {done : List Folder} (pool : PoolThread)
    (h : Registering message address c₀ done s) (hold : s.pool.announcing? = none)
    (hpending : pool.pending message = s.pool.pending message) (hcurrent : pool.current = none)
    (hannouncing : pool.announcing? = none) :
    Registering message address c₀ done { s with pool } where
  deviceId := h.deviceId
  peer := h.peer
  folders := h.folders.trans (congrArg (done ++ ·) hpending.symm)
  added := h.added
  announced id hid := by
    have hbefore := h.announced id hid
    rw [hold] at hbefore
    show _ ∨ _ ∨ ∃ info, pool.announcing? = some info ∧ _
    rw [hannouncing]
    exact hbefore
  announcing info hinfo := by
    rw [show pool.announcing? = some info from hinfo] at hannouncing
    cases hannouncing
  current info folder hinfo := by
    rw [show pool.current = some (info, folder) from hinfo] at hcurrent
    cases hcurrent
  keyed := h.keyed
  shared := h.shared

/-- The message is assigned, and nothing filled in. -/
theorem Registering.assign {done : List Folder} (h : Registering message address c₀ done s)
    (hpool : s.pool = .received) :
    Registering message address c₀ done { s with
      handler := { s.handler with clusterConfigInfo := some {} }
      pool := .folders message.folders } := by
  have hdone : done = [] := by
    have hfolders := h.folders
    rw [hpool, PoolThread.pending] at hfolders
    exact List.self_eq_append_left.1 hfolders
  have hmove : Registering message address c₀ done { s with pool := .folders message.folders } :=
    h.move _ (by rw [hpool]; rfl) (by rw [hpool]; rfl) rfl rfl
  refine { hmove with keyed := ?_, shared := ?_ }
  · rintro c hc id info hfind
    cases hc
    rw [Table.find_empty] at hfind
    cases hfind
  · rintro c hc id
    cases hc
    subst hdone
    refine iff_of_false ?_ ?_
    · rintro ⟨info, hfind, _⟩
      rw [Table.find_empty] at hfind
      cases hfind
    · rintro ⟨folder, hlast, _⟩
      cases hlast

/-- A record is looked at. -/
theorem Registering.look {done : List Folder} {folder : Folder} {rest : List Folder}
    (h : Registering message address c₀ done s) (hpool : s.pool = .folders (folder :: rest)) :
    Registering message address c₀ done (s.lookStep folder rest) := by
  have hnone : s.pool.announcing? = none := by rw [hpool]; rfl
  have hpending : s.pool.pending message = folder :: rest := by rw [hpool]; rfl
  have hfailed : Registering message address c₀ done { s with pool := .failed (folder :: rest) } :=
    h.move _ hnone hpending.symm rfl rfl
  have hannounced := h.announced
  rw [hnone] at hannounced
  dsimp only [Connecting.lookStep]
  split
  · exact hfailed
  · next info hinfo =>
    rw [h.deviceId, h.peer] at hinfo
    split
    · next hnew =>
      rw [Bool.and_eq_true, decide_eq_true_eq] at hnew
      split
      · next folderInfo hfolderInfo =>
        have hname := folderInfo_new_folder hfolderInfo
        refine { hfailed with added := ?_, announced := ?_, announcing := ?_, current := ?_ }
        · intro f hf hlists
          exact mem_getFolderNames_addFolders.2 (.inr (h.added f hf hlists))
        · intro id hid
          rcases mem_getFolderNames_addFolders.1 hid with rfl | hold
          · exact .inr (.inr ⟨info, rfl, hname.symm⟩)
          · exact (hannounced id hold).imp_right (Or.imp_right fun ⟨_, h', _⟩ => nomatch h')
        · intro info' hinfo'
          cases hinfo'
          exact hnew.1
        · intro info' folder' hcurrent
          cases hcurrent
          exact ⟨hinfo, fun _ => mem_getFolderNames_addFolders.2 (.inl hname.symm)⟩
      · exact hfailed
    · next hold =>
      refine { hfailed with current := ?_ }
      intro info' folder' hcurrent
      cases hcurrent
      refine ⟨hinfo, fun hshared => ?_⟩
      by_contra hnew
      exact hold (by rw [hshared, decide_eq_true hnew]; rfl)

/-- A new folder is announced. -/
theorem Registering.announce {done : List Folder} {info : ClusterConfigFolderInfo}
    {folder : Folder} {rest : List Folder} (h : Registering message address c₀ done s)
    (hpool : s.pool = .announcing info folder rest) :
    Registering message address c₀ done { s with
      handler := s.handler.post (.newFolderShared info.folder)
      pool := .putting info folder rest } := by
  have hfolders := h.folders
  have hannounced := h.announced
  have hcurrent := h.current
  rw [hpool] at hfolders hannounced hcurrent
  refine { h with folders := hfolders, announced := ?_, announcing := ?_, current := hcurrent }
  · intro id hid
    rcases hannounced id hid with hfirst | hposted | ⟨info', hinfo', rfl⟩
    · exact .inl hfirst
    · exact .inr (.inl (List.mem_append_left _ hposted))
    · cases hinfo'
      exact .inr (.inl (List.mem_append_right _ List.mem_cons_self))
  · intro info' hinfo'
    cases hinfo'

/-- A record's info is put. -/
theorem Registering.put {done : List Folder} {info : ClusterConfigFolderInfo}
    {folder : Folder} {rest : List Folder} (h : Registering message address c₀ done s)
    (hpool : s.pool = .putting info folder rest) :
    Registering message address c₀ (done ++ [folder]) { s with
      handler := { s.handler with
        clusterConfigInfo := s.handler.clusterConfigInfo.map fun c => c.putFolderInfo info }
      pool := .addingPeers folder rest } := by
  have hfolders := h.folders
  have hannounced := h.announced
  have hcurrent := h.current info folder
  rw [hpool] at hfolders hannounced hcurrent
  obtain ⟨hinfo, hname⟩ := hcurrent rfl
  obtain ⟨hid, hshared⟩ := folderInfoOf_eq_ok hinfo
  refine { h with folders := ?_, added := ?_, announced := hannounced, announcing := ?_,
                  current := ?_, keyed := ?_, shared := ?_ }
  · rw [List.append_assoc]
    exact hfolders
  · intro f hf hlists
    rcases List.mem_append.1 hf with hdone | hlast
    · exact h.added f hdone hlists
    · rw [List.mem_singleton.1 hlast] at hlists ⊢
      exact hid ▸ hname (hshared.2 hlists)
  · intro info' hinfo'
    cases hinfo'
  · intro info' folder' hcurrent
    cases hcurrent
  · intro c hc id info' hfind
    obtain ⟨c', hc', rfl⟩ := Option.map_eq_some_iff.1 hc
    rw [ClusterConfigInfo.putFolderInfo, Table.find_merge] at hfind
    split at hfind
    · next hkey =>
      cases hfind
      exact hkey.symm
    · exact h.keyed c' hc' id info' hfind
  · intro c hc id
    obtain ⟨c', hc', rfl⟩ := Option.map_eq_some_iff.1 hc
    rw [ClusterConfigInfo.putFolderInfo, Table.find_merge, lastOf_concat, hid]
    by_cases hkey : id = folder.id
    · rw [if_pos hkey, if_pos hkey.symm]
      constructor
      · rintro ⟨info', hsome, hshared'⟩
        cases hsome
        exact ⟨folder, rfl, hshared.1 hshared'⟩
      · rintro ⟨folder', hsome, hlists⟩
        cases hsome
        exact ⟨info, rfl, hshared.2 hlists⟩
    · rw [if_neg hkey, if_neg (Ne.symm hkey)]
      exact h.shared c' hc' id

/-- **A step of the pool's thread** puts at most one more record. -/
theorem Registering.process {done : List Folder} (h : Registering message address c₀ done s)
    (hstep : s.processStep name message = some s') :
    ∃ done', Registering message address c₀ done' s' := by
  unfold Connecting.processStep at hstep
  split at hstep
  · next hpool =>
    split at hstep
    · cases hstep
      exact ⟨done, h.assign hpool⟩
    · cases hstep
      exact ⟨done, h.move _ (by rw [hpool]; rfl) (by rw [hpool]; rfl) rfl rfl⟩
  · next hpool =>
    cases hstep
    have hmove : Registering message address c₀ done { s with pool := .processed } :=
      h.move _ (by rw [hpool]; rfl) (by rw [hpool]; rfl) rfl rfl
    exact ⟨done, hmove.of_same rfl rfl rfl rfl rfl fun _ => List.mem_append_left _⟩
  · next folder rest hpool =>
    cases hstep
    exact ⟨done, h.look hpool⟩
  · next hpool =>
    cases hstep
    exact ⟨done, h.announce hpool⟩
  · next info folder rest hpool =>
    cases hstep
    exact ⟨done ++ [folder], h.put hpool⟩
  · next folder rest hpool =>
    cases hstep
    have hnone : s.pool.announcing? = none := by rw [hpool]; rfl
    have hpending : s.pool.pending message = rest := by rw [hpool]; rfl
    refine ⟨done, ?_⟩
    split
    · exact (h.move (.folders rest) hnone hpending.symm rfl rfl).of_same rfl rfl rfl rfl rfl
        fun _ hevent => hevent
    · exact (h.move (.failed rest) hnone hpending.symm rfl rfl).of_same rfl rfl rfl rfl rfl
        fun _ hevent => hevent
  · cases hstep
  · cases hstep

/-- A folder about to be announced is that of a record left. -/
theorem Registering.announcing?_eq_none {done : List Folder}
    (h : Registering message address c₀ done s)
    (hpending : ∀ folder ∈ s.pool.pending message, ¬ Lists c₀.deviceId folder) :
    s.pool.announcing? = none := by
  cases hpool : s.pool with
  | announcing info folder rest =>
    have hshared := h.announcing info (by rw [hpool]; rfl)
    obtain ⟨hinfo, _⟩ := h.current info folder (by rw [hpool]; rfl)
    have hlists := (folderInfoOf_eq_ok hinfo).2.1 hshared
    exact absurd hlists (hpending folder (by rw [hpool]; exact List.mem_cons_self))
  | _ => rfl

/-! ## `connect` -/

/-- The folders `connect` has still to go through, once it listed them. -/
def ConnectThread.remaining : ConnectThread → Option (List String)
  | .sending folders => some folders
  | .returned => some []
  | _ => none

/-- **The condition**: the folders are listed only when no record is left
to be put that lists this device. -/
def CaughtUp (message : ClusterConfig) (c₀ : ConfigurationService) (s : Connecting)
    (turn : ConnectingTurn) : Prop :=
  turn = .connect → s.connect = .listing →
    ∀ folder ∈ s.pool.pending message, ¬ Lists c₀.deviceId folder

/-- The last record for a folder lists this device where any does. -/
def LastLists (message : ClusterConfig) (c₀ : ConfigurationService) : Prop :=
  ∀ folder ∈ message.folders, Lists c₀.deviceId folder →
    ∀ last, lastOf folder.id message.folders = some last → Lists c₀.deviceId last

/-- **What `connect` has done** once it listed the folders. -/
structure Sending (message : ClusterConfig) (c₀ : ConfigurationService)
    (s : Connecting) : Prop where
  pending : ∀ folders, s.connect.remaining = some folders →
    ∀ folder ∈ s.pool.pending message, ¬ Lists c₀.deviceId folder
  sent : ∀ folders, s.connect.remaining = some folders →
    ∀ folder ∈ message.folders, Lists c₀.deviceId folder →
      folder.id ∈ folders ∨ indexMessage folder.id ∈ s.handler.sent
  isSome : s.connect = .listing ∨ s.connect.remaining.isSome = true →
    s.handler.clusterConfigInfo.isSome = true

/-- A folder whose records were all put is shared when the last of them
lists this device. -/
theorem Registering.hasFolder {done : List Folder} (h : Registering message address c₀ done s)
    (hinfo : s.handler.clusterConfigInfo.isSome = true) {id : String} {folder : Folder}
    (hlast : lastOf id done = some folder) (hlists : Lists c₀.deviceId folder) :
    s.handler.hasFolder id = true := by
  obtain ⟨c, hc⟩ := Option.isSome_iff_exists.1 hinfo
  obtain ⟨info, hfind, hshared⟩ := (h.shared c hc id).2 ⟨folder, hlast, hlists⟩
  rw [BlockExchangeConnectionHandler.hasFolder, hc, Option.any_some, decide_eq_true_eq,
    ClusterConfigInfo.getSharedFolders, Multiset.mem_toFinset, Multiset.mem_map]
  refine ⟨⟨id, info⟩, Multiset.mem_filter.2 ⟨Finmap.mem_lookup_iff.1 hfind, hshared⟩, ?_⟩
  exact h.keyed c hc id info hfind

/-- Where no record is left that lists this device, every record that
does is one of a shared folder. -/
theorem Registering.hasFolder_of_pending {done : List Folder}
    (h : Registering message address c₀ done s) (hlast : LastLists message c₀)
    (hpending : ∀ folder ∈ s.pool.pending message, ¬ Lists c₀.deviceId folder)
    (hinfo : s.handler.clusterConfigInfo.isSome = true) {folder : Folder}
    (hfolder : folder ∈ message.folders) (hlists : Lists c₀.deviceId folder) :
    s.handler.hasFolder folder.id = true := by
  obtain ⟨last, hsome⟩ := exists_lastOf hfolder
  have hlistsLast := hlast folder hfolder hlists last hsome
  rw [h.folders] at hsome
  rw [lastOf_append] at hsome
  -- the last record lists this device, so it is none of those left
  cases hrest : lastOf folder.id (s.pool.pending message) with
  | some last' =>
    rw [hrest, Option.some_or] at hsome
    have hmem := mem_of_lastOf hrest
    rw [Option.some.inj hsome] at hmem
    exact absurd hlistsLast (hpending last hmem)
  | none =>
    rw [hrest, Option.none_or] at hsome
    exact h.hasFolder hinfo hsome hlistsLast

theorem Sending.initial : Sending message c₀ (Connecting.initial address c₀) where
  pending _ h := nomatch h
  sent _ h := nomatch h
  isSome h := by
    rcases h with h | h
    · cases h
    · cases h

/-- Going through the folders, or about to, needs the message assigned;
what was assigned stays. -/
theorem Sending.of_pool (h : Sending message c₀ s) (hconnect : s'.connect = s.connect)
    (hsent : s'.handler.sent = s.handler.sent)
    (hpending : ∀ folder ∈ s'.pool.pending message, folder ∈ s.pool.pending message)
    (hinfo : s.handler.clusterConfigInfo.isSome = true →
      s'.handler.clusterConfigInfo.isSome = true) : Sending message c₀ s' where
  pending folders hfolders folder hfolder :=
    h.pending folders (hconnect ▸ hfolders) folder (hpending folder hfolder)
  sent folders hfolders := by
    rw [hsent]
    exact h.sent folders (hconnect ▸ hfolders)
  isSome hsome := hinfo (h.isSome (hconnect ▸ hsome))

/-- Before the folders are listed there is nothing to show. -/
theorem Sending.of_remaining (hconnect : s.connect.remaining = none)
    (hlisting : s.connect = .listing → s.handler.clusterConfigInfo.isSome = true) :
    Sending message c₀ s where
  pending folders h := by
    rw [hconnect] at h
    cases h
  sent folders h := by
    rw [hconnect] at h
    cases h
  isSome h := by
    rw [hconnect] at h
    exact h.elim hlisting fun hsome => nomatch hsome

/-- The folders are listed. -/
theorem Sending.list {done : List Folder} (h : Sending message c₀ s)
    (hr : Registering message address c₀ done s) (hok : CaughtUp message c₀ s .connect)
    (hconnect : s.connect = .listing) :
    Sending message c₀ { s with connect := .sending s.handler.configuration.getFolderNames } where
  pending _ _ := hok rfl hconnect
  sent folders hfolders folder hfolder hlists := by
    cases hfolders
    rw [hr.folders] at hfolder
    rcases List.mem_append.1 hfolder with hdone | hpending
    · exact .inl (hr.added folder hdone hlists)
    · exact absurd hlists (hok rfl hconnect folder hpending)
  isSome _ := h.isSome (.inl hconnect)

/-- A folder the peer shares is sent an index, another one passed over. -/
theorem Sending.next {done : List Folder} {folder : String} {folders : List String}
    (h : Sending message c₀ s) (hr : Registering message address c₀ done s)
    (hlast : LastLists message c₀) (hconnect : s.connect = .sending (folder :: folders))
    {handler : BlockExchangeConnectionHandler}
    (hhandler : s.handler.hasFolder folder = false ∧ handler = s.handler ∨
      s.handler.sendIndexMessage folder = .ok handler) :
    Sending message c₀ { s with handler, connect := .sending folders } := by
  have hremaining : s.connect.remaining = some (folder :: folders) := by rw [hconnect]; rfl
  have hpending := h.pending _ hremaining
  have hinfo : s.handler.clusterConfigInfo.isSome = true :=
    h.isSome (.inr (by rw [hremaining]; rfl))
  have hassigned : handler.clusterConfigInfo = s.handler.clusterConfigInfo := by
    rcases hhandler with ⟨_, rfl⟩ | hsend
    · rfl
    · obtain ⟨_, _, hsend⟩ := except_bind_eq_ok hsend
      cases hsend
      rfl
  refine ⟨fun _ _ => hpending, fun _ hfolders f hf hlists => ?_, fun _ => hassigned ▸ hinfo⟩
  cases hfolders
  rcases h.sent _ hremaining f hf hlists with hmem | hsent
  · rcases List.mem_cons.1 hmem with hthis | hrest
    · have hhas := hr.hasFolder_of_pending hlast hpending hinfo hf hlists
      rcases hhandler with ⟨hnot, _⟩ | hsend
      · rw [hthis, hnot] at hhas
        cases hhas
      · obtain ⟨_, _, hsend⟩ := except_bind_eq_ok hsend
        cases hsend
        rw [hthis]
        exact .inr (List.mem_append_right _ List.mem_cons_self)
    · exact .inl hrest
  · rcases hhandler with ⟨_, rfl⟩ | hsend
    · exact .inr hsent
    · obtain ⟨_, _, hsend⟩ := except_bind_eq_ok hsend
      cases hsend
      exact .inr (List.mem_append_left _ hsent)

/-- **A step of `connect`** that meets the condition. -/
theorem Sending.connectStep {done : List Folder} (h : Sending message c₀ s)
    (hr : Registering message address c₀ done s) (hlast : LastLists message c₀)
    (hok : CaughtUp message c₀ s .connect) (hstep : s.connectStep = some s') :
    Sending message c₀ s' := by
  unfold Connecting.connectStep at hstep
  split at hstep
  · cases hstep
    split
    · exact .of_remaining rfl fun h' => nomatch h'
    · exact .of_remaining rfl fun h' => nomatch h'
  · cases hstep
    split
    · exact .of_remaining rfl fun h' => nomatch h'
    · exact .of_remaining rfl fun h' => nomatch h'
  · cases hstep
    exact .of_remaining rfl fun h' => nomatch h'
  · cases hstep
    split
    · exact .of_remaining rfl fun h' => nomatch h'
    · next hinfo =>
      refine .of_remaining rfl fun _ => ?_
      rw [Bool.not_eq_true, Option.isNone_eq_false_iff] at hinfo
      exact hinfo
  · next hconnect =>
    cases hstep
    exact h.list hr hok hconnect
  · next hconnect =>
    have hremaining : s.connect.remaining = some [] := by rw [hconnect]; rfl
    cases hstep
    split
    · exact .of_remaining rfl fun h' => nomatch h'
    · exact ⟨fun folders hf => h.pending folders (hremaining.trans hf),
        fun folders hf => h.sent folders (hremaining.trans hf),
        fun _ => h.isSome (.inr (by rw [hremaining]; rfl))⟩
  · next folder folders hconnect =>
    split at hstep
    · split at hstep
      · next handler hsend =>
        cases hstep
        exact h.next hr hlast hconnect (.inr hsend)
      · cases hstep
        exact .of_remaining rfl fun h' => nomatch h'
    · next hnot =>
      cases hstep
      exact h.next hr hlast hconnect (.inl ⟨Bool.not_eq_true _ ▸ hnot, rfl⟩)
  · cases hstep
  · cases hstep

/-! ## Runs -/

theorem lookStep_frame (message : ClusterConfig) (s : Connecting) (folder : Folder)
    (rest : List Folder) : (s.lookStep folder rest).connect = s.connect ∧
      (s.lookStep folder rest).handler.sent = s.handler.sent ∧
      (s.lookStep folder rest).pool.pending message = folder :: rest ∧
      (s.lookStep folder rest).handler.clusterConfigInfo = s.handler.clusterConfigInfo := by
  dsimp only [Connecting.lookStep]
  split
  · exact ⟨rfl, rfl, rfl, rfl⟩
  · split
    · split
      · exact ⟨rfl, rfl, rfl, rfl⟩
      · exact ⟨rfl, rfl, rfl, rfl⟩
    · exact ⟨rfl, rfl, rfl, rfl⟩

/-- A step of the pool's thread leaves `connect` and what it sent; no
record comes back, and the message stays assigned. -/
theorem Sending.process (h : Sending message c₀ s)
    (hstep : s.processStep name message = some s') : Sending message c₀ s' := by
  unfold Connecting.processStep at hstep
  split at hstep
  · next hpool =>
    split at hstep
    · cases hstep
      refine h.of_pool rfl rfl (fun folder hfolder => ?_) fun _ => rfl
      rw [hpool]
      exact hfolder
    · cases hstep
      refine h.of_pool rfl rfl (fun folder hfolder => ?_) fun hinfo => hinfo
      rw [hpool]
      exact hfolder
  · cases hstep
    exact h.of_pool rfl rfl (fun folder hfolder => nomatch hfolder) fun hinfo => hinfo
  · next folder rest hpool =>
    cases hstep
    obtain ⟨hconnect, hsent, hpending, hinfo⟩ := lookStep_frame message s folder rest
    refine h.of_pool hconnect hsent (fun f hf => ?_) fun hsome => hinfo ▸ hsome
    rw [hpool]
    exact hpending ▸ hf
  · next hpool =>
    cases hstep
    refine h.of_pool rfl rfl (fun folder hfolder => ?_) fun hinfo => hinfo
    rw [hpool]
    exact hfolder
  · next hpool =>
    cases hstep
    refine h.of_pool rfl rfl (fun folder hfolder => ?_) fun hinfo => ?_
    · rw [hpool]
      exact List.mem_cons_of_mem _ hfolder
    · rw [Option.isSome_map]
      exact hinfo
  · next folder rest hpool =>
    cases hstep
    refine h.of_pool rfl rfl (fun f hf => ?_) fun hinfo => hinfo
    rw [hpool]
    split at hf
    · exact hf
    · exact hf
  · cases hstep
  · cases hstep

/-- Closing leaves both threads where they are. -/
theorem close_frame (c : BlockExchangeConnectionHandler) :
    c.close.address = c.address ∧ c.close.configuration = c.configuration ∧
      c.close.clusterConfigInfo = c.clusterConfigInfo ∧ c.close.sent = c.sent ∧
      ∀ event ∈ c.events, event ∈ c.close.events := by
  unfold close
  split
  · exact ⟨rfl, rfl, rfl, rfl, fun _ h => h⟩
  · exact ⟨rfl, rfl, rfl, rfl, fun _ h => List.mem_append_left _ h⟩

/-- A step of `connect` leaves the pool's thread, and of the connection all
but what it sent. -/
theorem connectStep_frame (hstep : s.connectStep = some s') :
    s'.pool = s.pool ∧ s'.handler.address = s.handler.address ∧
      s'.handler.configuration = s.handler.configuration ∧
      s'.handler.clusterConfigInfo = s.handler.clusterConfigInfo ∧
      s'.handler.events = s.handler.events := by
  unfold Connecting.connectStep at hstep
  cases hconnect : s.connect with
  | testing | testingClosed | waiting | checking | listing =>
    rw [hconnect] at hstep
    cases hstep
    exact ⟨rfl, rfl, rfl, rfl, rfl⟩
  | sending folders =>
    rw [hconnect] at hstep
    cases folders with
    | nil =>
      cases hstep
      exact ⟨rfl, rfl, rfl, rfl, rfl⟩
    | cons folder folders =>
      dsimp only at hstep
      by_cases hhas : s.handler.hasFolder folder = true
      · rw [if_pos hhas] at hstep
        cases hsend : s.handler.sendIndexMessage folder with
        | ok handler =>
          rw [hsend] at hstep
          obtain ⟨_, _, hsent⟩ := except_bind_eq_ok hsend
          cases hsent
          cases hstep
          exact ⟨rfl, rfl, rfl, rfl, rfl⟩
        | error e =>
          rw [hsend] at hstep
          cases hstep
          exact ⟨rfl, rfl, rfl, rfl, rfl⟩
      · rw [if_neg hhas] at hstep
        cases hstep
        exact ⟨rfl, rfl, rfl, rfl, rfl⟩
  | returned | threw =>
    rw [hconnect] at hstep
    cases hstep

/-- **What holds in a run** that meets the condition. -/
theorem registering_of_run (hrun : (connecting name message address c₀).Run
      (fun _ s turn => CaughtUp message c₀ s turn) es s) (hlast : LastLists message c₀) :
    (∃ done, Registering message address c₀ done s) ∧ Sending message c₀ s := by
  refine hrun.invariant (I := fun _ s => (∃ done, Registering message address c₀ done s) ∧
    Sending message c₀ s) (fun _ hs => ?_) fun es s turn s' _ hinv hok hstep => ?_
  · rw [show _ = Connecting.initial address c₀ from hs]
    exact ⟨⟨[], .initial⟩, .initial⟩
  · obtain ⟨⟨done, hr⟩, hsending⟩ := hinv
    cases turn with
    | connect =>
      have hstep : s.connectStep = some s' := hstep
      obtain ⟨hpool, hpeer, hconfiguration, hinfo, hevents⟩ := connectStep_frame hstep
      refine ⟨⟨done, ?_⟩, hsending.connectStep hr hlast hok hstep⟩
      exact hr.of_same hpool hpeer (by rw [hconfiguration]) (by rw [hconfiguration]) hinfo
        (by rw [hevents]; exact fun _ h => h)
    | process =>
      have hstep : s.processStep name message = some s' := hstep
      exact ⟨hr.process hstep, hsending.process hstep⟩
    | close =>
      cases (hstep : some _ = some s')
      obtain ⟨hpeer, hconfiguration, hinfo, hsent, hevents⟩ := close_frame s.handler
      refine ⟨⟨done, hr.of_same rfl hpeer ?_ ?_ hinfo hevents⟩,
        hsending.of_pool rfl hsent (fun _ h => h) fun h => hinfo ▸ h⟩
      · exact congrArg ConfigurationService.deviceId hconfiguration
      · exact congrArg ConfigurationService.getFolderNames hconfiguration

/-- **When `connect` returns, it has what the message says**: for every
record that lists this device, its folder is shared, was sent an index,
and was announced if it is new. -/
theorem connected_of_run (hrun : (connecting name message address c₀).Run
      (fun _ s turn => CaughtUp message c₀ s turn) es s) (hlast : LastLists message c₀)
    (hreturned : s.connect = .returned) :
    ∀ folder ∈ message.folders, Lists c₀.deviceId folder →
      s.handler.hasFolder folder.id = true ∧ indexMessage folder.id ∈ s.handler.sent ∧
        (folder.id ∉ c₀.getFolderNames →
          ConnectionEvent.newFolderShared folder.id ∈ s.handler.events) := by
  intro folder hfolder hlists
  obtain ⟨⟨done, hr⟩, hsending⟩ := registering_of_run hrun hlast
  have hremaining : s.connect.remaining = some [] := by rw [hreturned]; rfl
  have hpending := hsending.pending _ hremaining
  have hinfo := hsending.isSome (.inr (by rw [hremaining]; rfl))
  refine ⟨hr.hasFolder_of_pending hlast hpending hinfo hfolder hlists, ?_, fun hnew => ?_⟩
  · exact (hsending.sent _ hremaining folder hfolder hlists).resolve_left List.not_mem_nil
  · have hmem := hr.folders ▸ hfolder
    rcases List.mem_append.1 hmem with hdone | hleft
    · rcases hr.announced _ (hr.added folder hdone hlists) with hold | hposted | hnext
      · exact absurd hold hnew
      · exact hposted
      · obtain ⟨info, hannouncing, _⟩ := hnext
        rw [hr.announcing?_eq_none hpending] at hannouncing
        cases hannouncing
    · exact absurd hlists (hpending folder hleft)

end Connecting

section Sample

attribute [local instance] Sample.guava

/-- This device has no folder yet. -/
def sampleConfiguration : ConfigurationService where
  deviceName := some "a-sync"
  deviceId := some sampleDevice
  keystore := none
  keystoreAlgo := none
  folders := ∅
  peers := ∅
  discoveryServers := []
  cache := "cache"
  temp := "temp"
  database := "database"
  configuration := none
  repositoryH2Config := none

/-- The peer shares a folder with this device. -/
def sampleClusterConfig : ClusterConfig := ⟨[⟨"default", "", [⟨Sample.zeroHash, none, none⟩]⟩]⟩

/-- The runs in which it does. -/
def sampleConnecting : Machine Connecting ConnectingTurn :=
  connecting (fun _ => none) sampleClusterConfig "peer" sampleConfiguration

/-- The states of such a run, whose steps all pass a test. -/
def sampleRun (test : Connecting → Bool) (turns : List ConnectingTurn) : Option Connecting :=
  turns.foldlM (fun s turn =>
    if test s then Connecting.step (fun _ => none) sampleClusterConfig s turn else none)
    (Connecting.initial "peer" sampleConfiguration)

/-- No record is left when the folders are listed. -/
def allPut (s : Connecting) : Bool :=
  s.connect ≠ .listing || (s.pool.pending sampleClusterConfig).isEmpty

theorem lists_sample {folder : Folder} (h : folder ∈ sampleClusterConfig.folders) :
    Lists sampleConfiguration.deviceId folder := by
  rw [List.mem_singleton.1 h]
  exact ⟨_, List.mem_cons_self, sampleDevice, rfl, hashDataToDeviceIdString_zero⟩

theorem lastLists_sample : LastLists sampleClusterConfig sampleConfiguration :=
  fun _ _ _ _ hlast => lists_sample (mem_of_lastOf hlast)

/-- The pool's thread is through with the message before `connect` goes on. -/
theorem connected_of_run_sample :
    ∃ s, sampleConnecting.Run (fun _ s turn => CaughtUp sampleClusterConfig sampleConfiguration s
        turn) (List.replicate 6 .process ++ List.replicate 5 .connect) s ∧
      s.connect = .returned ∧
      ∀ folder ∈ sampleClusterConfig.folders, Lists sampleConfiguration.deviceId folder →
        s.handler.hasFolder folder.id = true ∧ indexMessage folder.id ∈ s.handler.sent ∧
          (folder.id ∉ sampleConfiguration.getFolderNames →
            ConnectionEvent.newFolderShared folder.id ∈ s.handler.events) := by
  have hany : (sampleRun allPut (List.replicate 6 .process ++ List.replicate 5 .connect)).any
      (fun s => s.connect = .returned) = true := by
    decide +kernel
  obtain ⟨s, hsteps, hreturned⟩ := Machine.exists_run_of_any hany
  rw [decide_eq_true_eq] at hreturned
  have hrun : sampleConnecting.Run (fun _ s turn => CaughtUp sampleClusterConfig
      sampleConfiguration s turn) (List.replicate 6 .process ++ List.replicate 5 .connect) s := by
    refine hsteps.mono fun _ t _ hput _ hlisting folder hfolder => ?_
    have hempty : t.pool.pending sampleClusterConfig = [] := by
      rw [allPut, hlisting] at hput
      exact List.isEmpty_iff.1 hput
    rw [hempty] at hfolder
    cases hfolder
  exact ⟨s, hrun, hreturned, connected_of_run hrun lastLists_sample hreturned⟩

/-- **`connect` may return before a folder is looked at**, once the message
was assigned: the folder is not shared and was sent no index, and it is
added to the configuration and announced only afterwards. -/
theorem returned_before_registered :
    ∃ turns more s s', sampleConnecting.Reaches turns s ∧ s.connect = .returned ∧
      (∃ folder ∈ sampleClusterConfig.folders, Lists sampleConfiguration.deviceId folder ∧
        folder.id ∉ sampleConfiguration.getFolderNames ∧
        s.handler.hasFolder folder.id = false ∧ indexMessage folder.id ∉ s.handler.sent ∧
        ConnectionEvent.newFolderShared folder.id ∉ s.handler.events) ∧
      sampleConnecting.Reaches (turns ++ more) s' ∧
      ConnectionEvent.clusterConfigMessageProcessed sampleClusterConfig ∈ s'.handler.events ∧
      s'.handler.sent = [] := by
  have hany : (sampleRun (fun _ => true) (.process :: List.replicate 4 .connect)).any (fun s =>
      s.connect = .returned ∧ s.handler.hasFolder "default" = false ∧ s.handler.sent = [] ∧
        s.handler.events = []) = true := by
    decide +kernel
  have hafter : (sampleRun (fun _ => true) ((.process :: List.replicate 4 .connect) ++
      List.replicate 5 .process)).any (fun s => s.handler.sent = [] ∧
        ConnectionEvent.clusterConfigMessageProcessed sampleClusterConfig ∈ s.handler.events) =
          true := by
    decide +kernel
  obtain ⟨s, hsteps, hparts⟩ := Machine.exists_run_of_any hany
  obtain ⟨s', hsteps', hlater⟩ := Machine.exists_run_of_any hafter
  rw [decide_eq_true_eq] at hparts hlater
  obtain ⟨hreturned, hfolder, hsent, hevents⟩ := hparts
  have hnew : "default" ∉ sampleConfiguration.getFolderNames := by decide +kernel
  refine ⟨_, _, s, s', hsteps.reaches, hreturned,
    ⟨_, List.mem_cons_self, lists_sample List.mem_cons_self, hnew, hfolder, ?_, ?_⟩,
    hsteps'.reaches, hlater.2, hlater.1⟩
  · rw [hsent]
    exact List.not_mem_nil
  · rw [hevents]
    exact List.not_mem_nil

end Sample

end Bep

end ASync
