import ASync.Core.Helpers.Beans
import ASync.Core.Helpers.Sample
import ASync.Core.Model.ConfigurationService
/-!
# What survives a configuration's file

A configuration is exported field by field and read back field by field.
Device name, discovery servers, directories, folders and peers come back
as they were; the database's options are not exported, and a device id, an
algorithm or a keystore that is there but empty is taken for none
(`reload_same_iff`).
-/

namespace ASync

namespace Core

open JavaSystem

/-! ## Properties -/

section Properties

variable {p q : Properties} {key key' : String}

/-- The properties put win over those that were there. -/
theorem find_putAll (p q : Properties) (key : String) :
    (putAll p q).find key = (q.find key).or (p.find key) := by
  by_cases h : key ∈ q
  · obtain ⟨value, hvalue⟩ := Finmap.mem_iff.1 h
    rw [Table.find, putAll, Finmap.lookup_union_left h, Table.find, hvalue, Option.some_or]
  · rw [Table.find, putAll, Finmap.lookup_union_right h, Table.find, Finmap.lookup_eq_none.2 h,
      Option.none_or, Table.find]

namespace ConfigurationService

/-- Setting one property leaves the others. -/
theorem find_setUnlessBlank_of_ne (value : Option String) (h : key' ≠ key) :
    (setUnlessBlank p key value).find key' = p.find key' := by
  unfold setUnlessBlank
  split
  · rfl
  · exact Table.find_merge_of_ne h

/-- A blank value is not set, and what was there stays. -/
theorem find_setUnlessBlank (p : Properties) (key : String) (value : Option String) :
    (setUnlessBlank p key value).find key = if isBlank value then p.find key else value := by
  unfold setUnlessBlank
  split
  · rfl
  · next hvalue =>
    cases value with
    | none => exact absurd rfl hvalue
    | some s => exact Table.find_merge_self

/-- Setting one property leaves the others. -/
theorem find_setUnlessNull_of_ne (value : Option String) (h : key' ≠ key) :
    (setUnlessNull p key value).find key' = p.find key' := by
  cases value with
  | none => rfl
  | some s => exact Table.find_merge_of_ne h

/-- A value that is missing is not set. -/
theorem find_setUnlessNull (p : Properties) (key : String) (value : Option String) :
    (setUnlessNull p key value).find key = value.or (p.find key) := by
  cases value with
  | none => rfl
  | some s => exact Table.find_merge_self

/-- The class path has defaults for two of the keys. -/
theorem find_defaultProperties {key : String} (hservers : key ≠ DISCOVERY_SERVERS)
    (hrepository : key ≠ REPOSITORY_H2_CONFIG) (hrequired : key ≠ "keystore.required") :
    defaultProperties.find key = none := by
  rw [defaultProperties, Table.find_merge_of_ne hservers, Table.find_merge_of_ne hrepository,
    Table.find_merge_of_ne hrequired, Table.find_empty]

/-- A keystore comes back from its encoding, except an empty one. -/
theorem keystoreOf_encoded [Base64] [LawfulBase64] (keystore : Option Bytes) :
    keystoreOf (keystore.map base64Encode) = .ok (keystore.filter (· ≠ [])) := by
  cases keystore with
  | none => rfl
  | some bytes =>
    rw [keystoreOf, Option.map_some, Option.bind_some, emptyToNull]
    by_cases hempty : bytes = []
    · rw [if_pos ((LawfulBase64.base64Encode_eq_empty bytes).2 hempty), hempty]
      rfl
    · rw [if_neg fun h => hempty ((LawfulBase64.base64Encode_eq_empty bytes).1 h)]
      simp only [LawfulBase64.base64Decode_base64Encode]
      rw [Option.filter_some_pos (by simpa using hempty)]

/-- What is read back of a string that is exported unless it is blank. -/
def unlessBlank (value : Option String) : Option String := if isBlank value then none else value

/-- A text is kept by the export where it is missing or not blank. -/
theorem unlessBlank_eq_self_iff {value : Option String} :
    unlessBlank value = value ↔ value = none ∨ isBlank value = false := by
  unfold unlessBlank
  cases hblank : isBlank value with
  | true =>
    rw [if_pos rfl]
    constructor
    · intro h
      exact .inl h.symm
    · rintro (h | h)
      · exact h.symm
      · cases h
  | false => simp

/-- A keystore is kept by the export unless it is there and empty. -/
theorem filter_eq_self_iff {keystore : Option Bytes} :
    keystore.filter (· ≠ []) = keystore ↔ keystore ≠ some [] := by
  cases keystore with
  | none => simp
  | some bytes => simp [Option.filter]

/-- Beans come back from their JSON. -/
theorem beansOf_toJson {α : Type} [Gson (List α)] [LawfulGson (List α)] (beans : List α) :
    beansOf (some (toJson beans)) = beans := by
  rw [beansOf, LawfulGson.isBlank_toJson, Option.bind_some, LawfulGson.fromJson_toJson]
  rfl

end ConfigurationService

end Properties

/-! ## The discovery servers -/

section DiscoveryServers

/-- No part of a list that was split has the separator in it. -/
theorem notMem_of_mem_splitOn {α : Type} [DecidableEq α] {a : α} {xs part : List α}
    (h : part ∈ xs.splitOn a) : a ∉ part := by
  induction xs generalizing part with
  | nil =>
    rw [List.splitOn_nil, List.mem_singleton] at h
    rw [h]
    exact List.not_mem_nil
  | cons x xs ih =>
    rw [List.splitOn_cons_eq_if_modifyHead] at h
    by_cases hx : x = a
    · rw [if_pos (by simpa using hx), List.mem_cons] at h
      rcases h with rfl | hrest
      · exact List.not_mem_nil
      · exact ih hrest
    · rw [if_neg (by simpa using hx)] at h
      cases hsplit : xs.splitOn a with
      | nil => exact absurd hsplit (List.splitOn_ne_nil a xs)
      | cons first rest =>
        rw [hsplit, List.modifyHead_cons, List.mem_cons] at h
        rcases h with rfl | hrest
        · rw [List.mem_cons, not_or]
          exact ⟨fun heq => hx heq.symm, ih (hsplit ▸ List.mem_cons_self)⟩
        · exact ih (hsplit ▸ List.mem_cons_of_mem first hrest)

namespace ConfigurationService

/-- The parts of a value hold no comma, and the last is not empty. -/
theorem splitComma_parts (value : String) :
    (∀ part ∈ splitComma value, ',' ∉ part.toList) ∧
      ∀ hne : splitComma value ≠ [], (splitComma value).getLast hne ≠ "" := by
  constructor
  · intro part hpart
    have hall := (List.rdropWhile_prefix (· = "") _).subset hpart
    obtain ⟨letters, hletters, rfl⟩ := List.mem_map.1 hall
    rw [String.toList_ofList]
    exact notMem_of_mem_splitOn hletters
  · intro hne
    exact of_decide_eq_false (Bool.eq_false_iff.2 (List.rdropWhile_last_not (· = "") _ hne))

/-- Parts without commas come back from being joined, if the last is not
empty: Java's `split` drops empty parts at the end. -/
theorem splitComma_intercalate {parts : List String} (hne : parts ≠ [])
    (hparts : ∀ part ∈ parts, ',' ∉ part.toList) (hlast : parts.getLast hne ≠ "") :
    splitComma (",".intercalate parts) = parts := by
  have hsplit : (",".intercalate parts).toList.splitOn ',' = parts.map String.toList := by
    rw [String.toList_intercalate]
    refine List.splitOn_intercalate ',' (fun letters hletters => ?_) fun hnil => ?_
    · obtain ⟨part, hpart, rfl⟩ := List.mem_map.1 hletters
      exact hparts part hpart
    · exact hne (List.map_eq_nil_iff.1 hnil)
  have hback : (parts.map String.toList).map String.ofList = parts := by
    rw [List.map_map]
    exact List.map_id'' (fun part => String.ofList_toList) parts
  rw [splitComma, hsplit, hback, List.rdropWhile_eq_self_iff]
  intro _
  simpa using hlast

/-- **The discovery servers are read back.** -/
theorem discoveryServersOf_intercalate (property : Option String) :
    discoveryServersOf (some (",".intercalate (discoveryServersOf property))) =
      discoveryServersOf property := by
  cases hvalue : property.bind emptyToNull with
  | none =>
    have hservers : discoveryServersOf property = [] := by rw [discoveryServersOf, hvalue]
    rw [hservers]
    rfl
  | some value =>
    have hservers : discoveryServersOf property = splitComma value := by
      rw [discoveryServersOf, hvalue]
    rw [hservers]
    obtain ⟨hparts, hlast⟩ := splitComma_parts value
    by_cases hne : splitComma value = []
    · rw [hne]
      rfl
    · have hback := splitComma_intercalate hne hparts (hlast hne)
      -- an empty value has no parts
      have hnonempty : ",".intercalate (splitComma value) ≠ "" := by
        intro hempty
        rw [hempty] at hback
        exact hne (hback.symm.trans (by decide))
      rw [discoveryServersOf, Option.bind_some, emptyToNull, if_neg hnonempty]
      exact hback

end ConfigurationService

end DiscoveryServers

/-! ## Folders and peers -/

section Beans

/-- The value of a call of the constructor. -/
def FolderInfo.Built (info : FolderInfo) : Prop :=
  ∃ folder label, FolderInfo.new folder label = .ok info

/-- The label is there, so it is not replaced. -/
theorem FolderInfo.Built.new_eq {info : FolderInfo} (h : info.Built) :
    FolderInfo.new info.folder (some info.label) = .ok info := by
  obtain ⟨folder, label, hnew⟩ := h
  by_cases hfolder : folder = ""
  · rw [FolderInfo.new, hfolder] at hnew
    cases hnew
  · rw [FolderInfo.new, emptyToNull, if_neg hfolder] at hnew
    cases hnew
    have hlabel : (label.bind emptyToNull).getD folder ≠ "" := by
      cases hbind : label.bind emptyToNull with
      | none => exact hfolder
      | some value =>
        obtain ⟨s, _, hs⟩ := Option.bind_eq_some_iff.1 hbind
        obtain ⟨rfl, hne⟩ := emptyToNull_eq_some.1 hs
        exact hne
    rw [FolderInfo.new, emptyToNull, if_neg hfolder, Option.bind_some, emptyToNull, if_neg hlabel]
    rfl

/-- A device info that was built is built again as it is. -/
theorem DeviceInfo.new_eq [Guava] (info : DeviceInfo) :
    DeviceInfo.new info.deviceId (some info.name) = .ok info := by
  have hname : nameOr (some info.name) info.deviceId = info.name := by
    unfold nameOr
    split
    · next hblank => exact (info.name_eq hblank).symm
    · rfl
  unfold DeviceInfo.new
  split
  · exact congrArg Except.ok (DeviceInfo.ext rfl hname)
  · next e hinvalid =>
    rw [info.valid] at hinvalid
    cases hinvalid

namespace ConfigurationService

/-- Putting the beans of folders puts the folders. -/
theorem putFolders_eq {infos : List FolderInfo} (h : ∀ info ∈ infos, info.Built)
    (folders : Table String FolderInfo) :
    putFolders folders (infos.map folderConfig) = folders.mergeAll FolderInfo.folder infos := by
  induction infos generalizing folders with
  | nil => rfl
  | cons info infos ih =>
    have hnew : (checkNotNull (folderConfig info).folder "" >>= fun folder =>
        FolderInfo.new folder (folderConfig info).label) = .ok info :=
      (h info List.mem_cons_self).new_eq
    rw [List.map_cons, putFolders, hnew]
    exact ih (fun info' hinfo' => h info' (List.mem_cons_of_mem info hinfo')) _

/-- Each folder is under its name, and was built by the constructor. -/
def FoldersKeyed (folders : Table String FolderInfo) : Prop :=
  ∀ key info, folders.find key = some info → info.folder = key ∧ info.Built

/-- No folder is kept under a wrong name where there is none. -/
theorem foldersKeyed_empty : FoldersKeyed ∅ := by
  intro key info hfind
  rw [Table.find_empty] at hfind
  cases hfind

/-- A folder that was built is put under its own name. -/
theorem FoldersKeyed.merge {folders : Table String FolderInfo} {info : FolderInfo}
    (h : FoldersKeyed folders) (hinfo : info.Built) :
    FoldersKeyed (folders.merge info.folder info) := by
  intro key info' hfind
  rw [Table.find_merge] at hfind
  split at hfind
  · next hkey =>
    cases hfind
    exact ⟨hkey.symm, hinfo⟩
  · exact h key info' hfind

/-- Folders that are loaded are put under their own names. -/
theorem FoldersKeyed.putFolders {folders : Table String FolderInfo} (h : FoldersKeyed folders)
    (configs : List FolderConfig) : FoldersKeyed (putFolders folders configs) := by
  induction configs generalizing folders with
  | nil => exact h
  | cons config configs ih =>
    rw [ConfigurationService.putFolders]
    split
    · next info hnew =>
      obtain ⟨folder, _, hbuilt⟩ := except_bind_eq_ok hnew
      exact ih (h.merge ⟨folder, config.label, hbuilt⟩)
    · exact h

/-- Folders that are added are put under their own names. -/
theorem FoldersKeyed.addFolders {folders : Table String FolderInfo} (h : FoldersKeyed folders)
    {infos : List FolderInfo} (hinfos : ∀ info ∈ infos, info.Built) :
    FoldersKeyed (addFolders folders infos).2 := by
  unfold ConfigurationService.addFolders
  generalize false = added
  induction infos generalizing folders added with
  | nil => exact h
  | cons info infos ih =>
    rw [List.foldl_cons]
    exact ih (h.merge (hinfos info List.mem_cons_self))
      (fun info' hinfo' => hinfos info' (List.mem_cons_of_mem info hinfo')) _

section Peers

variable [Guava]

/-- Putting the beans of peers puts the peers. -/
theorem putPeers_eq (infos : List DeviceInfo) (peers : Table String DeviceInfo) :
    putPeers peers (infos.map deviceConfig) = peers.mergeAll DeviceInfo.deviceId infos := by
  induction infos generalizing peers with
  | nil => rfl
  | cons info infos ih =>
    have hnew : (checkNotNull (deviceConfig info).deviceId "" >>= fun id =>
        DeviceInfo.new id (deviceConfig info).name) = .ok info := info.new_eq
    rw [List.map_cons, putPeers, hnew]
    exact ih _

/-- Each peer is under its device id. -/
def PeersKeyed (peers : Table String DeviceInfo) : Prop :=
  ∀ key info, peers.find key = some info → info.deviceId = key

/-- No peer is kept under a wrong id where there is none. -/
theorem peersKeyed_empty : PeersKeyed ∅ := by
  intro key info hfind
  rw [Table.find_empty] at hfind
  cases hfind

/-- A peer is put under its own id. -/
theorem PeersKeyed.merge {peers : Table String DeviceInfo} (h : PeersKeyed peers)
    (info : DeviceInfo) : PeersKeyed (peers.merge info.deviceId info) := by
  intro key info' hfind
  rw [Table.find_merge] at hfind
  split at hfind
  · next hkey =>
    cases hfind
    exact hkey.symm
  · exact h key info' hfind

/-- Peers that are loaded are put under their own ids. -/
theorem PeersKeyed.putPeers {peers : Table String DeviceInfo} (h : PeersKeyed peers)
    (configs : List DeviceConfig) : PeersKeyed (putPeers peers configs) := by
  induction configs generalizing peers with
  | nil => exact h
  | cons config configs ih =>
    rw [ConfigurationService.putPeers]
    split
    · next info _ => exact ih (h.merge info)
    · exact h

/-- Peers that are added are put under their own ids. -/
theorem PeersKeyed.addPeers {peers : Table String DeviceInfo} (h : PeersKeyed peers)
    (infos : List DeviceInfo) : PeersKeyed (addPeers peers infos).2 := by
  unfold ConfigurationService.addPeers
  generalize false = added
  induction infos generalizing peers added with
  | nil => exact h
  | cons info infos ih =>
    rw [List.foldl_cons]
    exact ih (h.merge info) _

/-- Taking a peer away leaves the others where they are. -/
theorem PeersKeyed.delete {peers : Table String DeviceInfo} (h : PeersKeyed peers)
    (deviceId : String) : PeersKeyed (peers.delete deviceId) := by
  intro key info hfind
  by_cases hkey : key = deviceId
  · rw [hkey, Table.find_delete_self] at hfind
    cases hfind
  · rw [Table.find_delete_of_ne hkey] at hfind
    exact h key info hfind

end Peers

section Values

variable [JavaSystem] [LawfulJavaSystem]

/-- The values of a table are what it has under some key. -/
theorem mem_values {ρ : Type} {t : Table String ρ} {r : ρ} :
    r ∈ values t ↔ ∃ key, t.find key = some r := by
  rw [← Multiset.mem_coe, LawfulJavaSystem.coe_values, Multiset.mem_map]
  constructor
  · rintro ⟨⟨key, r⟩, hmem, rfl⟩
    exact ⟨key, Finmap.mem_lookup_iff.2 hmem⟩
  · rintro ⟨key, hfind⟩
    exact ⟨⟨key, r⟩, Finmap.mem_lookup_iff.1 hfind, rfl⟩

/-- **The values of a map, put into an empty one under their keys**, are
the map, in whatever order it lists them. -/
theorem mergeAll_values {ρ : Type} {t : Table String ρ} {key : ρ → String}
    (hkey : ∀ k r, t.find k = some r → key r = k) : Table.mergeAll ∅ key (values t) = t := by
  refine Table.mergeAll_eq hkey fun r => ?_
  rw [mem_values]
  constructor
  · rintro ⟨k, hfind⟩
    rw [hkey k r hfind, hfind]
  · intro hfind
    exact ⟨key r, hfind⟩

end Values

end ConfigurationService

end Beans

/-! ## Directories -/

section Directories

namespace ConfigurationService

variable [JavaSystem] {property : Option String} {parent child what path : String}

/-- The name of the device is never blank: the host's stands in for it. -/
theorem isBlank_deviceNameOf (property : Option String) :
    isBlank (deviceNameOf property) = false := by
  unfold deviceNameOf
  split
  · split
    · decide
    · next hhost =>
      rw [Bool.or_eq_true, not_or] at hhost
      simpa using hhost.1
  · next hname => simpa using hname

/-- A directory is the one given, or a default one below its parent, and it
can be written. -/
theorem directoryOf_eq_ok :
    directoryOf property parent child what = .ok path ↔
      path = (if isBlank property then newFile parent child else property.getD "") ∧
        isWritableDirectory path = true := by
  rw [directoryOf, checkArgument_bind_eq_ok]
  constructor
  · rintro ⟨hwritable, hpath⟩
    cases hpath
    exact ⟨rfl, hwritable⟩
  · rintro ⟨rfl, hwritable⟩
    exact ⟨hwritable, rfl⟩

/-- The loader's directory for temporary files, if it was given one. -/
theorem find_customProperties_temp (loader : Loader) :
    loader.customProperties.find TEMP = loader.temp.map getAbsolutePath := by
  rw [Loader.customProperties, find_setUnlessNull_of_ne _ (by decide),
    find_setUnlessNull_of_ne _ (by decide), find_setUnlessNull, Table.find_empty, Option.or_none]

/-- The loader's directory for the database. -/
theorem find_customProperties_database (loader : Loader) :
    loader.customProperties.find DATABASE = loader.database.map getAbsolutePath := by
  rw [Loader.customProperties, find_setUnlessNull_of_ne _ (by decide), find_setUnlessNull,
    find_setUnlessNull_of_ne _ (by decide), Table.find_empty, Option.or_none]

/-- The loader's directory for the cache. -/
theorem find_customProperties_cache (loader : Loader) :
    loader.customProperties.find CACHE = loader.cache.map getAbsolutePath := by
  rw [Loader.customProperties, find_setUnlessNull, find_setUnlessNull_of_ne _ (by decide),
    find_setUnlessNull_of_ne _ (by decide), Table.find_empty, Option.or_none]

/-- The loader sets no other property. -/
theorem find_customProperties_of_ne (loader : Loader) {key : String} (htemp : key ≠ TEMP)
    (hdatabase : key ≠ DATABASE) (hcache : key ≠ CACHE) :
    loader.customProperties.find key = none := by
  rw [Loader.customProperties, find_setUnlessNull_of_ne _ hcache,
    find_setUnlessNull_of_ne _ hdatabase, find_setUnlessNull_of_ne _ htemp, Table.find_empty]

/-- The properties a loader reads: its own come first, then the path of
the file, what the file has, and the defaults. -/
theorem find_propertiesOf (loader : Loader) (path : String) (content : Option Properties)
    (key : String) :
    (propertiesOf loader path content).find key = (loader.customProperties.find key).or
      (if key = CONFIGURATION then some (getAbsolutePath path)
        else ((content.getD ∅).find key).or (defaultProperties.find key)) := by
  rw [propertiesOf, find_putAll, Table.find_merge, find_putAll]

/-- A directory that can be used, and is the one the loader was given, if
it was given one. -/
structure Usable (custom : Option String) (path : String) : Prop where
  isWritable : isWritableDirectory path = true
  eq_custom : ∀ file, custom = some file → path = getAbsolutePath file

variable [LawfulJavaSystem]

/-- An absolute path is read back as it is. -/
theorem directoryOf_getAbsolutePath (parent child what : String)
    (hwritable : isWritableDirectory path = true) :
    directoryOf (some (getAbsolutePath path)) parent child what = .ok (getAbsolutePath path) := by
  rw [directoryOf_eq_ok, LawfulJavaSystem.isBlank_getAbsolutePath,
    LawfulJavaSystem.isWritableDirectory_getAbsolutePath]
  exact ⟨rfl, hwritable⟩

/-- The directory the loader was given comes before that of the file. -/
theorem usable_of_directoryOf {custom rest : Option String}
    (h : directoryOf ((custom.map getAbsolutePath).or rest) parent child what = .ok path) :
    Usable custom path := by
  rw [directoryOf_eq_ok] at h
  refine ⟨h.2, ?_⟩
  rintro file rfl
  rw [h.1, Option.map_some, Option.some_or, LawfulJavaSystem.isBlank_getAbsolutePath]
  rfl

/-- The loader's own directory, if it has one, is the one in use. -/
theorem directoryOf_reloaded {custom custom' : Option String}
    {directory : String} (husable : Usable custom directory)
    (hcustom : custom' = custom ∨ custom' = none) (parent child what : String) :
    directoryOf ((custom'.map getAbsolutePath).or (some (getAbsolutePath directory)))
      parent child what = .ok (getAbsolutePath directory) := by
  have hfind : (custom'.map getAbsolutePath).or (some (getAbsolutePath directory)) =
      some (getAbsolutePath directory) := by
    cases custom' with
    | none => rfl
    | some file =>
      rcases hcustom with hsame | hnone
      · rw [husable.eq_custom file hsame.symm, LawfulJavaSystem.getAbsolutePath_getAbsolutePath]
        rfl
      · cases hnone
  rw [hfind]
  exact directoryOf_getAbsolutePath parent child what husable.isWritable

end ConfigurationService

end Directories

/-! ## Loading -/

section Loading

variable [Guava] [JavaSystem]

namespace ConfigurationService

/-- What every configuration of a loader has, however it was edited. -/
structure Loaded (loader : Loader) (c : ConfigurationService) : Prop where
  deviceName : isBlank c.deviceName = false
  folders : FoldersKeyed c.folders
  peers : PeersKeyed c.peers
  discoveryServers : ∃ property, c.discoveryServers = discoveryServersOf property
  cache : Usable loader.cache c.cache
  temp : Usable loader.temp c.temp
  database : Usable loader.database c.database

variable {loader : Loader} {c : ConfigurationService}

/-- What an editor is given: a device name that is not blank, else `null`
or what is not blank, and no empty keystore; folders come from their
constructor. -/
def Edit.Given : Edit → Prop
  | .setKeystore keystore => keystore ≠ some []
  | .setKeystoreAlgo keystoreAlgo => keystoreAlgo = none ∨ isBlank keystoreAlgo = false
  | .setDeviceName deviceName => isBlank deviceName = false
  | .setDeviceId deviceId => deviceId = none ∨ isBlank deviceId = false
  | .setFolders folderList => ∀ info ∈ folderList, info.Built
  | .addFolders newFolders => ∀ info ∈ newFolders, info.Built
  | _ => True

/-- An edit leaves a configuration such as a loader makes. -/
theorem Loaded.edit (h : Loaded loader c) {e : Edit} (he : e.Given) : Loaded loader (c.edit e) := by
  cases e with
  | setDeviceName deviceName => exact { h with deviceName := he }
  | setFolders folderList => exact { h with folders := foldersKeyed_empty.addFolders he }
  | addFolders newFolders => exact { h with folders := h.folders.addFolders he }
  | setPeers peers => exact { h with peers := peersKeyed_empty.addPeers peers }
  | addPeers peers => exact { h with peers := h.peers.addPeers peers }
  | removePeer deviceId => exact { h with peers := h.peers.delete deviceId }
  | _ => exact { h with }

/-- Any edits, one after the other, leave such a configuration. -/
theorem Loaded.edits (h : Loaded loader c) {edits : List Edit} (hedits : ∀ e ∈ edits, e.Given) :
    Loaded loader (edits.foldl ConfigurationService.edit c) := by
  induction edits generalizing c with
  | nil => exact h
  | cons e edits ih =>
    rw [List.foldl_cons]
    exact ih (h.edit (hedits e List.mem_cons_self)) fun e' he' =>
      hedits e' (List.mem_cons_of_mem e he')

variable [Base64] [Gson (List FolderConfig)] [Gson (List DeviceConfig)]

/-- What a loader makes is such a configuration. -/
theorem loaded_of_loadFrom [LawfulJavaSystem] {path : String} {content : Option Properties}
    (h : loadFrom loader path content = .ok c) : Loaded loader c := by
  rw [loadFrom, ofProperties] at h
  obtain ⟨keystore, _, h⟩ := except_bind_eq_ok h
  obtain ⟨cache, hcache, h⟩ := except_bind_eq_ok h
  obtain ⟨temp, htemp, h⟩ := except_bind_eq_ok h
  obtain ⟨database, hdatabase, h⟩ := except_bind_eq_ok h
  cases h
  rw [find_propertiesOf, find_customProperties_cache] at hcache
  rw [find_propertiesOf, find_customProperties_temp] at htemp
  rw [find_propertiesOf, find_customProperties_database] at hdatabase
  exact ⟨isBlank_deviceNameOf _, foldersKeyed_empty.putFolders _, peersKeyed_empty.putPeers _,
    ⟨_, rfl⟩, usable_of_directoryOf hcache, usable_of_directoryOf htemp,
    usable_of_directoryOf hdatabase⟩

/-! ### What is exported -/

section Exported

/-- The name of the device is exported unless it is blank. -/
theorem find_exported_deviceName (c : ConfigurationService) :
    c.exported.find DEVICE_NAME = unlessBlank c.deviceName := by
  simp (disch := decide) only [exported, Table.find_merge_of_ne, find_setUnlessBlank_of_ne,
    find_setUnlessNull_of_ne, find_setUnlessBlank, Table.find_empty, unlessBlank]

/-- The device id is exported unless it is blank. -/
theorem find_exported_deviceId (c : ConfigurationService) :
    c.exported.find DEVICE_ID = unlessBlank c.deviceId := by
  simp (disch := decide) only [exported, Table.find_merge_of_ne, find_setUnlessBlank_of_ne,
    find_setUnlessNull_of_ne, find_setUnlessBlank, Table.find_empty, unlessBlank]

/-- The folders are exported as beans. -/
theorem find_exported_folders (c : ConfigurationService) :
    c.exported.find FOLDERS = some (toJson ((values c.folders).map folderConfig)) := by
  simp (disch := decide) only [exported, Table.find_merge_of_ne, find_setUnlessBlank_of_ne,
    find_setUnlessNull_of_ne, Table.find_merge_self]

/-- The peers are exported as beans. -/
theorem find_exported_peers (c : ConfigurationService) :
    c.exported.find PEERS = some (toJson ((values c.peers).map deviceConfig)) := by
  simp (disch := decide) only [exported, Table.find_merge_of_ne, find_setUnlessBlank_of_ne,
    find_setUnlessNull_of_ne, Table.find_merge_self]

/-- The directory of the database is exported as an absolute path. -/
theorem find_exported_database (c : ConfigurationService) :
    c.exported.find DATABASE = some (getAbsolutePath c.database) := by
  simp (disch := decide) only [exported, Table.find_merge_of_ne, find_setUnlessBlank_of_ne,
    find_setUnlessNull_of_ne, Table.find_merge_self]

/-- The directory of temporary files is exported as an absolute path. -/
theorem find_exported_temp (c : ConfigurationService) :
    c.exported.find TEMP = some (getAbsolutePath c.temp) := by
  simp (disch := decide) only [exported, Table.find_merge_of_ne, find_setUnlessBlank_of_ne,
    find_setUnlessNull_of_ne, Table.find_merge_self]

/-- The directory of the cache is exported as an absolute path. -/
theorem find_exported_cache (c : ConfigurationService) :
    c.exported.find CACHE = some (getAbsolutePath c.cache) := by
  simp (disch := decide) only [exported, Table.find_merge_of_ne, find_setUnlessBlank_of_ne,
    find_setUnlessNull_of_ne, Table.find_merge_self]

/-- The keystore is exported in base64. -/
theorem find_exported_keystore (c : ConfigurationService) :
    c.exported.find KEYSTORE = c.keystore.map base64Encode := by
  simp (disch := decide) only [exported, Table.find_merge_of_ne, find_setUnlessBlank_of_ne,
    find_setUnlessNull, Table.find_empty, Option.or_none]

/-- The keystore's type is exported unless it is blank. -/
theorem find_exported_keystoreAlgo (c : ConfigurationService) :
    c.exported.find KEYSTORE_ALGO = unlessBlank c.keystoreAlgo := by
  simp (disch := decide) only [exported, Table.find_merge_of_ne, find_setUnlessBlank_of_ne,
    find_setUnlessNull_of_ne, find_setUnlessBlank, Table.find_empty, unlessBlank]

/-- The discovery servers are exported joined by commas. -/
theorem find_exported_discoveryServers (c : ConfigurationService) :
    c.exported.find DISCOVERY_SERVERS = some (",".intercalate c.discoveryServers) := by
  simp only [exported, Table.find_merge_self]

/-- The options of the database are left out. -/
theorem find_exported_repositoryH2Config (c : ConfigurationService) :
    c.exported.find REPOSITORY_H2_CONFIG = none := by
  simp (disch := decide) only [exported, Table.find_merge_of_ne, find_setUnlessBlank_of_ne,
    find_setUnlessNull_of_ne, Table.find_empty]

end Exported

/-! ### Reading back -/

/-- What becomes of a configuration that is written to a file and read
from it. -/
def reloaded (path : String) (c : ConfigurationService) : ConfigurationService :=
  { c with
    deviceId := unlessBlank c.deviceId
    keystore := c.keystore.filter (· ≠ [])
    keystoreAlgo := unlessBlank c.keystoreAlgo
    cache := getAbsolutePath c.cache
    temp := getAbsolutePath c.temp
    database := getAbsolutePath c.database
    configuration := some (getAbsolutePath path)
    repositoryH2Config := defaultProperties.find REPOSITORY_H2_CONFIG }

variable [LawfulBase64] [LawfulJavaSystem] [LawfulGson (List FolderConfig)]
variable [LawfulGson (List DeviceConfig)]

omit [Base64] [Gson (List FolderConfig)] [Gson (List DeviceConfig)] [LawfulBase64]
  [LawfulJavaSystem] [LawfulGson (List FolderConfig)] [LawfulGson (List DeviceConfig)] in
/-- The name of the device comes back. -/
theorem Loaded.deviceNameOf_eq (h : Loaded loader c) :
    deviceNameOf (unlessBlank c.deviceName) = c.deviceName := by
  have hname : unlessBlank c.deviceName = c.deviceName := by
    rw [unlessBlank, h.deviceName]
    exact if_neg Bool.false_ne_true
  rw [hname, deviceNameOf, h.deviceName]
  exact if_neg Bool.false_ne_true

omit [Base64] [Gson (List DeviceConfig)] [LawfulBase64] [LawfulGson (List DeviceConfig)] in
/-- The folders come back. -/
theorem Loaded.putFolders_eq (h : Loaded loader c) :
    putFolders ∅ (beansOf (some (toJson ((values c.folders).map folderConfig)))) = c.folders := by
  rw [beansOf_toJson, ConfigurationService.putFolders_eq]
  · exact mergeAll_values fun key info hfind => (h.folders key info hfind).1
  · intro info hinfo
    obtain ⟨key, hfind⟩ := mem_values.1 hinfo
    exact (h.folders key info hfind).2

omit [Base64] [Gson (List FolderConfig)] [LawfulBase64] [LawfulGson (List FolderConfig)] in
/-- The peers come back. -/
theorem Loaded.putPeers_eq (h : Loaded loader c) :
    putPeers ∅ (beansOf (some (toJson ((values c.peers).map deviceConfig)))) = c.peers := by
  rw [beansOf_toJson, ConfigurationService.putPeers_eq]
  exact mergeAll_values h.peers

/-- **What is written is read back** by the same loader, or one without
directories of its own. -/
theorem loadFrom_writeTo (h : Loaded loader c) {loader' : Loader}
    (hloader : loader' = loader ∨ loader' = {}) (path : String) :
    loadFrom loader' path (some c.writeTo) = .ok (c.reloaded path) := by
  -- a key the loader does not set is that of the file, or of the defaults
  have hfind : ∀ key, key ≠ TEMP → key ≠ DATABASE → key ≠ CACHE → key ≠ CONFIGURATION →
      (propertiesOf loader' path (some c.writeTo)).find key =
        (c.exported.find key).or (defaultProperties.find key) := by
    intro key htemp hdatabase hcache hconfiguration
    rw [find_propertiesOf, find_customProperties_of_ne loader' htemp hdatabase hcache,
      if_neg hconfiguration]
    rfl
  have hkeystore : keystoreOf ((propertiesOf loader' path (some c.writeTo)).find KEYSTORE) =
      .ok (c.keystore.filter (· ≠ [])) := by
    rw [hfind _ (by decide) (by decide) (by decide) (by decide), find_exported_keystore,
      find_defaultProperties (by decide) (by decide) (by decide), Option.or_none,
      keystoreOf_encoded]
  -- the three directories
  have hof : ∀ custom : Loader → Option String, custom {} = none →
      custom loader' = custom loader ∨ custom loader' = none := by
    intro custom hnone
    rcases hloader with rfl | rfl
    · exact .inl rfl
    · exact .inr hnone
  have hcache : directoryOf ((propertiesOf loader' path (some c.writeTo)).find CACHE) tmpdir
      "a_sync_client_cache" "cache" = .ok (getAbsolutePath c.cache) := by
    have hfile : ((some c.writeTo).getD ∅).find CACHE = some (getAbsolutePath c.cache) :=
      find_exported_cache c
    rw [find_propertiesOf, find_customProperties_cache, if_neg (by decide), hfile, Option.some_or]
    exact directoryOf_reloaded h.cache (hof Loader.cache rfl) _ _ _
  have htemp : directoryOf ((propertiesOf loader' path (some c.writeTo)).find TEMP) tmpdir
      "a_sync_client_temp" "temp" = .ok (getAbsolutePath c.temp) := by
    have hfile : ((some c.writeTo).getD ∅).find TEMP = some (getAbsolutePath c.temp) :=
      find_exported_temp c
    rw [find_propertiesOf, find_customProperties_temp, if_neg (by decide), hfile, Option.some_or]
    exact directoryOf_reloaded h.temp (hof Loader.temp rfl) _ _ _
  have hdatabase : directoryOf ((propertiesOf loader' path (some c.writeTo)).find DATABASE)
      userHome ".config/sclient/db" "database" = .ok (getAbsolutePath c.database) := by
    have hfile : ((some c.writeTo).getD ∅).find DATABASE = some (getAbsolutePath c.database) :=
      find_exported_database c
    rw [find_propertiesOf, find_customProperties_database, if_neg (by decide), hfile,
      Option.some_or]
    exact directoryOf_reloaded h.database (hof Loader.database rfl) _ _ _
  -- the fields that are read as they are
  have hnone : ∀ key, key ≠ DISCOVERY_SERVERS → key ≠ REPOSITORY_H2_CONFIG →
      key ≠ "keystore.required" → defaultProperties.find key = none :=
    fun key hservers hrepository hrequired => find_defaultProperties hservers hrepository hrequired
  have hconfiguration : (propertiesOf loader' path (some c.writeTo)).find CONFIGURATION =
      some (getAbsolutePath path) := by
    rw [find_propertiesOf, find_customProperties_of_ne loader' (by decide) (by decide) (by decide),
      if_pos rfl, Option.none_or]
  have hpath : (if isBlank (some (getAbsolutePath path)) then none
      else some (getAbsolutePath path)) = some (getAbsolutePath path) := by
    rw [LawfulJavaSystem.isBlank_getAbsolutePath]
    exact if_neg Bool.false_ne_true
  have hservers : discoveryServersOf (some (",".intercalate c.discoveryServers)) =
      c.discoveryServers := by
    obtain ⟨property, hproperty⟩ := h.discoveryServers
    rw [hproperty, discoveryServersOf_intercalate]
  rw [loadFrom, ofProperties, hkeystore, hcache, htemp, hdatabase]
  simp (disch := decide) only [hfind, hnone, hconfiguration, hpath, find_exported_deviceName,
    find_exported_deviceId, find_exported_folders, find_exported_peers, find_exported_keystoreAlgo,
    find_exported_discoveryServers, find_exported_repositoryH2Config, Option.or_none,
    Option.some_or, Option.none_or, h.deviceNameOf_eq, h.putFolders_eq, h.putPeers_eq, hservers]
  rfl

/-- **A configuration comes back**: the same name, id, keystore, algorithm,
discovery servers, directories, database options, folders and peers. -/
structure Same (c c' : ConfigurationService) : Prop where
  deviceName : c'.deviceName = c.deviceName
  deviceId : c'.deviceId = c.deviceId
  keystore : c'.keystore = c.keystore
  keystoreAlgo : c'.keystoreAlgo = c.keystoreAlgo
  discoveryServers : c'.discoveryServers = c.discoveryServers
  cache : getAbsolutePath c'.cache = getAbsolutePath c.cache
  temp : getAbsolutePath c'.temp = getAbsolutePath c.temp
  database : getAbsolutePath c'.database = getAbsolutePath c.database
  repositoryH2Config : c'.repositoryH2Config = c.repositoryH2Config
  folders : c'.folders = c.folders
  peers : c'.peers = c.peers

/-- The database's options are the default ones, and neither the id nor
the algorithm nor the keystore is there but blank. -/
structure Kept (c : ConfigurationService) : Prop where
  repositoryH2Config : c.repositoryH2Config = defaultProperties.find REPOSITORY_H2_CONFIG
  deviceId : c.deviceId = none ∨ isBlank c.deviceId = false
  keystoreAlgo : c.keystoreAlgo = none ∨ isBlank c.keystoreAlgo = false
  keystore : c.keystore ≠ some []

omit [Base64] [LawfulBase64] [Gson (List FolderConfig)] [LawfulGson (List FolderConfig)]
  [Gson (List DeviceConfig)] [LawfulGson (List DeviceConfig)] in
/-- A configuration that is written and loaded again is the same exactly
where the export keeps every field. -/
theorem same_reloaded_iff (path : String) : c.Same (c.reloaded path) ↔ c.Kept := by
  constructor
  · intro h
    exact ⟨h.repositoryH2Config.symm, unlessBlank_eq_self_iff.1 h.deviceId,
      unlessBlank_eq_self_iff.1 h.keystoreAlgo, filter_eq_self_iff.1 h.keystore⟩
  · intro h
    exact ⟨rfl, unlessBlank_eq_self_iff.2 h.deviceId, filter_eq_self_iff.2 h.keystore,
      unlessBlank_eq_self_iff.2 h.keystoreAlgo, rfl,
      LawfulJavaSystem.getAbsolutePath_getAbsolutePath _,
      LawfulJavaSystem.getAbsolutePath_getAbsolutePath _,
      LawfulJavaSystem.getAbsolutePath_getAbsolutePath _, h.repositoryH2Config.symm, rfl, rfl⟩

/-- **Writing a configuration and reading it back**: it comes back exactly
when the database's options are the default ones and no id, algorithm or
keystore is there but blank. -/
theorem reload_same_iff {path : String} {content : Properties}
    (h : loadFrom loader path (some content) = .ok c) {edits : List Edit}
    (hedits : ∀ e ∈ edits, e.Given) {loader' : Loader} (hloader : loader' = loader ∨ loader' = {})
    (path' : String) :
    (∃ c', loadFrom loader' path' (some (edits.foldl edit c).writeTo) = .ok c' ∧
        (edits.foldl edit c).Same c') ↔ (edits.foldl edit c).Kept := by
  have hback := loadFrom_writeTo ((loaded_of_loadFrom h).edits hedits) hloader path'
  rw [← same_reloaded_iff path', hback]
  constructor
  · rintro ⟨c', hc', hsame⟩
    cases hc'
    exact hsame
  · intro hsame
    exact ⟨_, rfl, hsame⟩

end ConfigurationService

end Loading

/-! ## Sample runs -/

section Sample

/-- The numbers of a text's characters. -/
def codes (s : String) : List ℕ := s.toList.map Char.toNat

def ofCodes (numbers : List ℕ) : String := String.ofList (numbers.map Char.ofNat)

/-- A text comes back from the codes of its characters. -/
theorem ofCodes_codes (s : String) : ofCodes (codes s) = s := by
  have hback : (s.toList.map Char.toNat).map Char.ofNat = s.toList := by
    rw [List.map_map]
    exact List.map_id'' (fun c => Char.ofNat_toNat c) s.toList
  rw [ofCodes, codes, hback, String.ofList_toList]

/-- A text that may be missing comes back from its codes. -/
theorem map_ofCodes_map_codes (s : Option String) : (s.map codes).map ofCodes = s := by
  cases s with
  | none => rfl
  | some s => exact congrArg some (ofCodes_codes s)

@[reducible] def encodableFolderConfig : Encodable FolderConfig :=
  Encodable.ofLeftInverse (fun config => (config.folder.map codes, config.label.map codes))
    (fun code => ⟨code.1.map ofCodes, code.2.map ofCodes⟩) fun _ =>
      congrArg₂ FolderConfig.mk (map_ofCodes_map_codes _) (map_ofCodes_map_codes _)

@[reducible] def encodableDeviceConfig : Encodable DeviceConfig :=
  Encodable.ofLeftInverse (fun config => (config.deviceId.map codes, config.name.map codes))
    (fun code => ⟨code.1.map ofCodes, code.2.map ofCodes⟩) fun _ =>
      congrArg₂ DeviceConfig.mk (map_ofCodes_map_codes _) (map_ofCodes_map_codes _)

/-- A brace and as many blanks as a number says. -/
def unary (n : ℕ) : String := String.ofList ('\x7b' :: List.replicate n ' ')

/-- A text that starts with a brace is not blank. -/
theorem isBlank_of_toList {s : String} {rest : List Char} (h : s.toList = '\x7b' :: rest) :
    isBlank (some s) = false := by
  rw [isBlank, h, List.all_cons]
  exact Bool.and_eq_false_imp.2 fun hbrace => absurd hbrace (by decide)

/-- The text of a list of beans, with that of the beans themselves. -/
def beansText (name body : String) : String := "\x7b\"" ++ name ++ "\":[" ++ body ++ "]\x7d"

/-- The sample's text of beans, letter by letter. -/
theorem beansText_toList (name body : String) : (beansText name body).toList =
    '\x7b' :: '"' :: (name.toList ++ "\":[".toList ++ body.toList ++ "]\x7d".toList) := by
  rw [beansText, String.toList_append, String.toList_append, String.toList_append,
    String.toList_append]
  rfl

/-- A number's text is not one of beans. -/
theorem unary_ne_beansText (n : ℕ) (name body : String) : unary n ≠ beansText name body := by
  intro h
  have hlist := congrArg String.toList h
  rw [unary, String.toList_ofList, beansText_toList] at hlist
  cases n with
  | zero => cases hlist
  | succ n =>
    rw [List.replicate_succ] at hlist
    exact absurd (List.cons.inj (List.cons.inj hlist).2).1 (by decide)

/-- Texts of beans differ where the beans' own texts do. -/
theorem beansText_inj {name body body' : String} (h : beansText name body = beansText name body') :
    body = body' := by
  have hlist := congrArg String.toList h
  rw [beansText_toList, beansText_toList] at hlist
  have htail := List.append_cancel_right (List.cons.inj (List.cons.inj hlist).2).2
  exact String.toList_inj.1 (List.append_cancel_left htail)

/-- Gson on lists of beans: the texts of the empty list and of the list of
one bean are the real ones, the others are numbers, so a run on this
instance is one of the program where no other list is configured. -/
@[reducible] def gson (α : Type) [Encodable α] [DecidableEq α] (name : String) (bean : α)
    (body : String) : Gson (List α) where
  toJson beans :=
    if beans = [] then beansText name ""
    else if beans = [bean] then beansText name body
    else unary (Encodable.encode beans)
  fromJson text :=
    if text = beansText name "" then some []
    else if text = beansText name body then some [bean]
    else Encodable.decode (text.toList.length - 1)

/-- The sample's JSON can be read back. -/
theorem lawfulGson (α : Type) [Encodable α] [DecidableEq α] (name : String) (bean : α)
    {body : String} (hbody : body ≠ "") : @LawfulGson (List α) (gson α name bean body) := by
  let _ := gson α name bean body
  refine ⟨fun beans => ?_, fun beans => ?_⟩
  · by_cases hempty : beans = []
    · have htext : toJson beans = beansText name "" := if_pos hempty
      rw [htext, hempty]
      exact if_pos rfl
    by_cases hbean : beans = [bean]
    · have htext : toJson beans = beansText name body := (if_neg hempty).trans (if_pos hbean)
      rw [htext, hbean]
      exact (if_neg fun h => hbody (beansText_inj h)).trans (if_pos rfl)
    · have htext : toJson beans = unary (Encodable.encode beans) :=
        (if_neg hempty).trans (if_neg hbean)
      rw [htext]
      refine (if_neg (unary_ne_beansText _ name "")).trans ?_
      refine (if_neg (unary_ne_beansText _ name body)).trans ?_
      rw [unary, String.toList_ofList, List.length_cons, List.length_replicate,
        Nat.add_sub_cancel, Encodable.encodek]
  · by_cases hempty : beans = []
    · have htext : toJson beans = beansText name "" := if_pos hempty
      rw [htext]
      exact isBlank_of_toList (beansText_toList name "")
    by_cases hbean : beans = [bean]
    · have htext : toJson beans = beansText name body := (if_neg hempty).trans (if_pos hbean)
      rw [htext]
      exact isBlank_of_toList (beansText_toList name body)
    · have htext : toJson beans = unary (Encodable.encode beans) :=
        (if_neg hempty).trans (if_neg hbean)
      rw [htext]
      exact isBlank_of_toList (by rw [unary, String.toList_ofList])

/-- A partial map that is defined on every element is a map. -/
theorem filterMap_eq_map_of_mem {α β : Type} {f : α → Option β} {g : α → β} (s : Multiset α)
    (h : ∀ a ∈ s, f a = some (g a)) : s.filterMap f = s.map g := by
  induction s using Multiset.induction_on with
  | empty => rfl
  | cons a s ih =>
    rw [Multiset.filterMap_cons_some f a s (h a (Multiset.mem_cons_self a s)), Multiset.map_cons,
      ih fun b hb => h b (Multiset.mem_cons_of_mem hb)]

/-- The order of names is transitive. -/
theorem isTrans_le : IsTrans String (· ≤ ·) := inferInstance

/-- The order of names is antisymmetric. -/
theorem antisymm_le : Std.Antisymm (α := String) (· ≤ ·) := inferInstance

attribute [local instance] isTrans_le antisymm_le in
/-- Every directory is writable; a hash map lists its values by their keys. -/
@[reducible] def javaSystem : JavaSystem where
  hostName := none
  tmpdir := "/tmp"
  userHome := "/root"
  newFile parent child := parent ++ "/" ++ child
  getAbsolutePath path := if path.toList.head? = some '/' then path else "/" ++ path
  isWritableDirectory _ := true
  values t := (t.keys.sort (· ≤ ·)).filterMap t.find

attribute [local instance] javaSystem

/-- An absolute path begins with a separator. -/
theorem head_getAbsolutePath (path : String) :
    (getAbsolutePath path).toList.head? = some '/' := by
  show (if _ then path else "/" ++ path).toList.head? = some '/'
  split
  · next habsolute => exact habsolute
  · rw [String.toList_append]
    rfl

/-- Making an absolute path absolute changes nothing. -/
theorem lawfulJavaSystem : LawfulJavaSystem where
  getAbsolutePath_getAbsolutePath path := if_pos (head_getAbsolutePath path)
  isWritableDirectory_getAbsolutePath _ := rfl
  isBlank_getAbsolutePath path := by
    rw [isBlank, ← Bool.not_eq_true, List.all_eq_true]
    intro hall
    have hslash := hall '/' (List.mem_of_head? (head_getAbsolutePath path))
    exact absurd hslash (by decide)
  coe_values t := by
    have hcoe : ((values t : List _) : Multiset _) =
        Multiset.filterMap t.find (t.keys.sort (· ≤ ·) : Multiset String) :=
      (Multiset.filterMap_coe _ _).symm
    rw [hcoe, Finset.sort_eq]
    show Multiset.filterMap t.find (t.entries.map Sigma.fst) = _
    rw [Multiset.filterMap_map]
    exact filterMap_eq_map_of_mem t.entries fun e he => Finmap.mem_lookup_iff.2 he

/-- Base16 for base64, so a run on this instance is one of the program
where there is no keystore. -/
@[reducible] def base64 : Base64 where
  base64Encode := Sample.hexEncode
  base64Decode s := Sample.hexBytes s.toList

attribute [local instance] base64

/-- The sample's encoding can be decoded. -/
theorem lawfulBase64 : LawfulBase64 where
  base64Decode_base64Encode := Sample.hexBytes_hexEncode
  base64Encode_eq_empty bytes := by
    constructor
    · intro h
      have hback := Sample.hexBytes_hexEncode bytes
      rw [show Sample.hexEncode bytes = "" from h] at hback
      exact (Option.some.inj hback).symm
    · rintro rfl
      rfl

attribute [local instance] Sample.guavaOfBase32 lawfulJavaSystem lawfulBase64

/-- The id of the peer that is configured. -/
def samplePeerId : String := "AAAAAAA-AAAAAAA-AAAAAAA-AAAAAAA-AAAAAAA-AAAAAAA-AAAAAAA-AAAAAAA"

def photosBody : String := "\x7b\"folder\":\"photos\",\"label\":\"Photos\"\x7d"

def laptopBody : String :=
  "\x7b\"deviceId\":\"" ++ samplePeerId ++ "\",\"name\":\"laptop\"\x7d"

@[reducible] def gsonOfFolders : Gson (List FolderConfig) :=
  @gson FolderConfig encodableFolderConfig _ "folders" ⟨some "photos", some "Photos"⟩ photosBody

@[reducible] def gsonOfPeers : Gson (List DeviceConfig) :=
  @gson DeviceConfig encodableDeviceConfig _ "devices" ⟨some samplePeerId, some "laptop"⟩ laptopBody

attribute [local instance] gsonOfFolders gsonOfPeers

/-- The sample's JSON of folders can be read back. -/
theorem lawfulGsonOfFolders : LawfulGson (List FolderConfig) :=
  @lawfulGson FolderConfig encodableFolderConfig _ "folders" _ photosBody (by decide)

/-- The sample's JSON of peers can be read back. -/
theorem lawfulGsonOfPeers : LawfulGson (List DeviceConfig) :=
  @lawfulGson DeviceConfig encodableDeviceConfig _ "devices" _ laptopBody (by decide)

attribute [local instance] lawfulGsonOfFolders lawfulGsonOfPeers

namespace ConfigurationService

/-- A file with a name and the discovery servers. -/
def sampleContent : Properties :=
  ((∅ : Properties).merge DEVICE_NAME "a-sync").merge DISCOVERY_SERVERS "first,,third,"

/-- A file with options for the database. -/
def sampleOptions : Properties := (∅ : Properties).merge REPOSITORY_H2_CONFIG ";CACHE_SIZE=4096"

def photosFolder : FolderInfo := ⟨"photos", "Photos"⟩

/-- The peer's device id is valid. -/
theorem validateDeviceId_samplePeerId :
    KeystoreHandler.validateDeviceId samplePeerId = .ok () := by decide +kernel

def laptopPeer : DeviceInfo where
  deviceId := samplePeerId
  name := "laptop"
  valid := validateDeviceId_samplePeerId
  name_eq hblank := absurd hblank (by decide)

/-- An id is set, and no keystore; a folder and a peer are added. -/
def sampleEdits : List Edit :=
  [.setDeviceId (some "id"), .setKeystore none, .addFolders [photosFolder], .addPeers [laptopPeer]]

/-- The sample's edits give what their builders check. -/
theorem sampleEdits_given : ∀ e ∈ sampleEdits, e.Given := by
  have hfolders : ∀ info ∈ [photosFolder], info.Built := by
    intro info hinfo
    rw [List.mem_singleton.1 hinfo]
    exact ⟨"photos", some "Photos", rfl⟩
  refine List.forall_mem_cons.2 ⟨.inr (by decide), List.forall_mem_cons.2 ⟨nofun, ?_⟩⟩
  exact List.forall_mem_cons.2 ⟨hfolders, List.forall_mem_singleton.2 trivial⟩

/-- The file is loaded, with defaults for what it does not give. -/
theorem loadFrom_sampleContent :
    (loadFrom {} "config" (some sampleContent)).toOption.map
      (fun c => (c.repositoryH2Config, c.keystoreAlgo)) =
        some (defaultProperties.find REPOSITORY_H2_CONFIG, none) := by
  decide +kernel

/-- What was edited comes back: the folder and the peer are there. -/
theorem reload_same_iff_sample :
    ∃ c c', loadFrom {} "config" (some sampleContent) = .ok c ∧
      loadFrom {} "other" (some (sampleEdits.foldl edit c).writeTo) = .ok c' ∧
      (sampleEdits.foldl edit c).Same c' ∧ c'.folders.find "photos" = some photosFolder ∧
      c'.peers.find samplePeerId = some laptopPeer := by
  have hfields := loadFrom_sampleContent
  cases hload : loadFrom {} "config" (some sampleContent) with
  | error e =>
    rw [hload] at hfields
    cases hfields
  | ok c =>
    rw [hload] at hfields
    have hfields := Option.some.inj hfields
    have hid : isBlank (some "id") = false := by decide
    have hkept : (sampleEdits.foldl edit c).Kept :=
      ⟨congrArg Prod.fst hfields, .inr hid, .inl (congrArg Prod.snd hfields), nofun⟩
    obtain ⟨c', hc', hsame⟩ :=
      (reload_same_iff hload sampleEdits_given (.inl rfl) "other").2 hkept
    refine ⟨c, c', rfl, hc', hsame, ?_, ?_⟩
    · rw [hsame.folders]
      exact Table.find_merge_self ..
    · rw [hsame.peers]
      exact Table.find_merge_self ..

/-- The options of the database that the file has are lost: the file that
is written has none, and the defaults take their place. -/
theorem repositoryH2Config_lost :
    ∃ c, loadFrom {} "config" (some sampleOptions) = .ok c ∧
      ¬∃ c', loadFrom {} "config" (some c.writeTo) = .ok c' ∧ c.Same c' := by
  have hoptions : (loadFrom {} "config" (some sampleOptions)).toOption.map
      ConfigurationService.repositoryH2Config = some (some ";CACHE_SIZE=4096") := by
    decide +kernel
  cases hload : loadFrom {} "config" (some sampleOptions) with
  | error e =>
    rw [hload] at hoptions
    cases hoptions
  | ok c =>
    rw [hload] at hoptions
    refine ⟨c, rfl, ?_⟩
    rintro ⟨c', hc', hsame⟩
    rw [loadFrom_writeTo (loaded_of_loadFrom hload) (.inl rfl) "config"] at hc'
    cases hc'
    have hkept := ((same_reloaded_iff "config").1 hsame).repositoryH2Config
    rw [Option.some.inj hoptions] at hkept
    exact absurd hkept (by decide +kernel)

end ConfigurationService

end Sample

end Core

end ASync
