import ASync.Common.Table
import ASync.Core.Model.Beans
import ASync.Core.Model.KeystoreHandler
/-!
# The configuration

A configuration is read from properties, changed through its editor and
written back as properties. A file is what `Properties.load` reads from
it; folders and peers are JSON texts within a property.
-/

namespace ASync

namespace Core

/-- A `java.util.Properties`. -/
abbrev Properties := Table String String

/-- Entries of `q` replace those of `p`. -/
def putAll (p q : Properties) : Properties := q ∪ p

/-- `Character.isWhitespace`. -/
def isWhitespace (c : Char) : Bool :=
  let n := c.toNat
  (0x9 ≤ n && n ≤ 0xD) || (0x1C ≤ n && n ≤ 0x20) || n = 0x1680 || (0x2000 ≤ n && n ≤ 0x2006) ||
    (0x2008 ≤ n && n ≤ 0x200A) || n = 0x2028 || n = 0x2029 || n = 0x205F || n = 0x3000

/-- `StringUtils.isBlank`, where `none` is `null`. -/
def isBlank : Option String → Bool
  | none => true
  | some s => s.toList.all isWhitespace

/-! ## What the configuration takes from elsewhere -/

/-- `BaseEncoding.base64()`; `decode` refuses what is not base64. -/
class Base64 where
  base64Encode : Bytes → String
  base64Decode : String → Option Bytes

export Base64 (base64Encode base64Decode)

/-- Base64 decodes what it encoded, and encodes nothing only as nothing. -/
class LawfulBase64 [Base64] : Prop where
  base64Decode_base64Encode : ∀ bytes, base64Decode (base64Encode bytes) = some bytes
  base64Encode_eq_empty : ∀ bytes, base64Encode bytes = "" ↔ bytes = []

/-- Gson on a class of beans; `fromJson` gives `none` where it throws, or
the list it reads is `null`. -/
class Gson (α : Type) where
  toJson : α → String
  fromJson : String → Option α

export Gson (toJson fromJson)

/-- Gson reads what it wrote, which is never blank. -/
class LawfulGson (α : Type) [Gson α] : Prop where
  fromJson_toJson : ∀ a : α, fromJson (toJson a) = some a
  isBlank_toJson : ∀ a : α, isBlank (some (toJson a)) = false

/-- The machine the program runs on: its names, its files by their paths,
and the order in which a hash map lists its values. -/
class JavaSystem where
  /-- `InetAddress.getLocalHost().getHostName()`, unless it throws. -/
  hostName : Option String
  tmpdir : String
  userHome : String
  /-- `new File(parent, child)`. -/
  newFile : String → String → String
  getAbsolutePath : String → String
  /-- `isDirectory` and `canWrite`, once `mkdirs` was called. -/
  isWritableDirectory : String → Bool
  values {ρ : Type} : Table String ρ → List ρ

open JavaSystem

/-- An absolute path is that of the same file, and not blank; a hash map
lists each of its values once. -/
class LawfulJavaSystem [JavaSystem] : Prop where
  getAbsolutePath_getAbsolutePath : ∀ path : String,
    getAbsolutePath (getAbsolutePath path) = getAbsolutePath path
  isWritableDirectory_getAbsolutePath : ∀ path : String,
    isWritableDirectory (getAbsolutePath path) = isWritableDirectory path
  isBlank_getAbsolutePath : ∀ path : String, isBlank (some (getAbsolutePath path)) = false
  coe_values : ∀ {ρ : Type} (t : Table String ρ),
    (values t : Multiset ρ) = t.entries.map Sigma.snd

/-! ## Beans -/

section Beans

variable [Guava]

/-- The name a device without one is given. -/
def shortName (deviceId : String) : String := String.ofList (deviceId.toList.take 7)

/-- A device: a valid id, and a name that is not blank unless the short
one is. -/
@[ext]
structure DeviceInfo where
  deviceId : String
  name : String
  valid : KeystoreHandler.validateDeviceId deviceId = .ok ()
  name_eq : isBlank (some name) = true → name = shortName deviceId

/-- The name the constructor gives. -/
def nameOr (name : Option String) (deviceId : String) : String :=
  if isBlank name then shortName deviceId else name.getD ""

omit [Guava] in
theorem nameOr_eq (name : Option String) (deviceId : String)
    (h : isBlank (some (nameOr name deviceId)) = true) :
    nameOr name deviceId = shortName deviceId := by
  unfold nameOr at h ⊢
  split
  · rfl
  · next hname =>
    rw [if_neg hname] at h
    cases name with
    | none => exact absurd rfl hname
    | some s => exact absurd h hname

/-- The constructor of `DeviceInfo`. -/
def DeviceInfo.new (deviceId : String) (name : Option String) : Except JavaException DeviceInfo :=
  match hvalid : KeystoreHandler.validateDeviceId deviceId with
  | .ok () => .ok ⟨deviceId, nameOr name deviceId, hvalid, nameOr_eq name deviceId⟩
  | .error e => .error e

end Beans

/-- A folder as the file holds it. -/
structure FolderConfig where
  folder : Option String
  label : Option String
  deriving DecidableEq

/-- A peer as the file holds it. -/
structure DeviceConfig where
  deviceId : Option String
  name : Option String
  deriving DecidableEq

/-! ## The configuration -/

section Configuration

variable [Guava] [Base64] [Gson (List FolderConfig)] [Gson (List DeviceConfig)] [JavaSystem]

/-- The strings are nullable; the directories are kept by their paths. -/
structure ConfigurationService where
  deviceName : Option String
  deviceId : Option String
  keystore : Option Bytes
  keystoreAlgo : Option String
  folders : Table String FolderInfo
  peers : Table String DeviceInfo
  discoveryServers : List String
  cache : String
  temp : String
  database : String
  configuration : Option String
  repositoryH2Config : Option String

namespace ConfigurationService

def DEVICE_NAME : String := "devicename"
def FOLDERS : String := "folders"
def PEERS : String := "peers"
def DATABASE : String := "database"
def TEMP : String := "temp"
def CACHE : String := "cache"
def KEYSTORE : String := "keystore"
def DEVICE_ID : String := "deviceid"
def KEYSTORE_ALGO : String := "keystorealgo"
def DISCOVERY_SERVERS : String := "discoveryserver"
def CONFIGURATION : String := "configuration"
def REPOSITORY_H2_CONFIG : String := "repository.h2.dboptions"

/-! ### The constructor -/

/-- A blank device name falls back on the host's, and that on a fixed one. -/
def deviceNameOf (property : Option String) : Option String :=
  if isBlank property then
    if isBlank hostName || hostName = some "localhost" then some "s-client" else hostName
  else property

/-- The folders of the list up to the first that is malformed. -/
def putFolders : Table String FolderInfo → List FolderConfig → Table String FolderInfo
  | folders, [] => folders
  | folders, config :: configs =>
    match checkNotNull config.folder "" >>= fun folder => FolderInfo.new folder config.label with
    | .ok info => putFolders (folders.merge info.folder info) configs
    | .error _ => folders

/-- The peers of the list up to the first that is malformed. -/
def putPeers : Table String DeviceInfo → List DeviceConfig → Table String DeviceInfo
  | peers, [] => peers
  | peers, config :: configs =>
    match checkNotNull config.deviceId "" >>= fun id => DeviceInfo.new id config.name with
    | .ok info => putPeers (peers.merge info.deviceId info) configs
    | .error _ => peers

/-- A list of beans: empty where the property is blank or cannot be read. -/
def beansOf {α : Type} [Gson (List α)] (property : Option String) : List α :=
  if isBlank property then [] else (property.bind fromJson).getD []

def keystoreOf (property : Option String) : Except JavaException (Option Bytes) :=
  match property.bind emptyToNull with
  | none => .ok none
  | some value =>
    match base64Decode value with
    | some bytes => .ok (some bytes)
    | none => .error (.illegalArgument "DecodingException")

/-- A directory, which falls back on one below a directory of the system
and must be writable. -/
def directoryOf (property : Option String) (parent child what : String) :
    Except JavaException String := do
  let path := if isBlank property then newFile parent child else property.getD ""
  checkArgument (isWritableDirectory path) ("invalid " ++ what ++ " dir = " ++ path)
  return path

/-- `String.split(",")`, which drops the empty parts at the end. -/
def splitComma (value : String) : List String :=
  ((value.toList.splitOn ',').map String.ofList).rdropWhile (· = "")

def discoveryServersOf (property : Option String) : List String :=
  match property.bind emptyToNull with
  | none => []
  | some value => splitComma value

def ofProperties (properties : Properties) : Except JavaException ConfigurationService := do
  let keystore ← keystoreOf (properties.find KEYSTORE)
  let cache ← directoryOf (properties.find CACHE) tmpdir "a_sync_client_cache" "cache"
  let temp ← directoryOf (properties.find TEMP) tmpdir "a_sync_client_temp" "temp"
  let database ← directoryOf (properties.find DATABASE) userHome ".config/sclient/db" "database"
  let configuration := properties.find CONFIGURATION
  return {
    deviceName := deviceNameOf (properties.find DEVICE_NAME)
    deviceId := properties.find DEVICE_ID
    keystore
    keystoreAlgo := properties.find KEYSTORE_ALGO
    folders := putFolders ∅ (beansOf (properties.find FOLDERS))
    peers := putPeers ∅ (beansOf (properties.find PEERS))
    discoveryServers := discoveryServersOf (properties.find DISCOVERY_SERVERS)
    cache, temp, database
    configuration := if isBlank configuration then none else configuration
    repositoryH2Config := properties.find REPOSITORY_H2_CONFIG }

/-! ### Export -/

def setUnlessBlank (p : Properties) (key : String) (value : Option String) : Properties :=
  if isBlank value then p else p.merge key (value.getD "")

def setUnlessNull (p : Properties) (key : String) (value : Option String) : Properties :=
  value.elim p fun value => p.merge key value

def folderConfig (info : FolderInfo) : FolderConfig := ⟨some info.folder, some info.label⟩

def deviceConfig (info : DeviceInfo) : DeviceConfig := ⟨some info.deviceId, some info.name⟩

/-- `export`. -/
def exported (c : ConfigurationService) : Properties :=
  let p := setUnlessBlank ∅ DEVICE_NAME c.deviceName
  let p := setUnlessBlank p DEVICE_ID c.deviceId
  let p := p.merge FOLDERS (toJson ((values c.folders).map folderConfig))
  let p := p.merge PEERS (toJson ((values c.peers).map deviceConfig))
  let p := p.merge DATABASE (getAbsolutePath c.database)
  let p := p.merge TEMP (getAbsolutePath c.temp)
  let p := p.merge CACHE (getAbsolutePath c.cache)
  let p := setUnlessNull p KEYSTORE (c.keystore.map base64Encode)
  let p := setUnlessBlank p KEYSTORE_ALGO c.keystoreAlgo
  p.merge DISCOVERY_SERVERS (",".intercalate c.discoveryServers)

/-! ### The editor -/

/-- An operation of the `Editor`. -/
inductive Edit
  | setKeystore (keystore : Option Bytes)
  | setKeystoreAlgo (keystoreAlgo : Option String)
  | setDeviceName (deviceName : Option String)
  | setDeviceId (deviceId : Option String)
  | setFolders (folderList : List FolderInfo)
  | addFolders (newFolders : List FolderInfo)
  | setPeers (peers : List DeviceInfo)
  | addPeers (peers : List DeviceInfo)
  | removePeer (deviceId : String)

/-- The folders put into the map, and whether one of them is new. -/
def addFolders (folders : Table String FolderInfo) (newFolders : List FolderInfo) :
    Bool × Table String FolderInfo :=
  newFolders.foldl (fun (added, folders) info =>
    (added || (folders.find info.folder).isNone, folders.merge info.folder info)) (false, folders)

/-- The peers put into the map, and whether one of them is new. -/
def addPeers (peers : Table String DeviceInfo) (newPeers : List DeviceInfo) :
    Bool × Table String DeviceInfo :=
  newPeers.foldl (fun (added, peers) info =>
    (added || (peers.find info.deviceId).isNone, peers.merge info.deviceId info)) (false, peers)

def edit (c : ConfigurationService) : Edit → ConfigurationService
  | .setKeystore keystore => { c with keystore }
  | .setKeystoreAlgo keystoreAlgo => { c with keystoreAlgo }
  | .setDeviceName deviceName => { c with deviceName }
  | .setDeviceId deviceId => { c with deviceId }
  | .setFolders folderList => { c with folders := (addFolders ∅ folderList).2 }
  | .addFolders newFolders => { c with folders := (addFolders c.folders newFolders).2 }
  | .setPeers peers => { c with peers := (addPeers ∅ peers).2 }
  | .addPeers peers => { c with peers := (addPeers c.peers peers).2 }
  | .removePeer deviceId => { c with peers := c.peers.delete deviceId }

/-- `getFolderNames`, a copy in the order of the names. -/
def getFolderNames (c : ConfigurationService) : List String := c.folders.keys.sort (· ≤ ·)

/-! ### Loading and writing -/

/-- What `default.properties` on the class path holds. -/
def defaultProperties : Properties :=
  (((∅ : Properties).merge "keystore.required" "true").merge REPOSITORY_H2_CONFIG
    ";TRACE_LEVEL_FILE=0;TRACE_LEVEL_SYSTEM_OUT=0;FILE_LOCK=FS;PAGE_SIZE=1024;CACHE_SIZE=8192;"
    ).merge DISCOVERY_SERVERS
      ("discovery-v4-2.syncthing.net,discovery-v4-3.syncthing.net,discovery-v4-4.syncthing.net," ++
        "discovery-v6-2.syncthing.net,discovery-v6-3.syncthing.net,discovery-v6-4.syncthing.net")

/-- The directories a loader was given. -/
structure Loader where
  temp : Option String := none
  database : Option String := none
  cache : Option String := none

def Loader.customProperties (loader : Loader) : Properties :=
  let p := setUnlessNull ∅ TEMP (loader.temp.map getAbsolutePath)
  let p := setUnlessNull p DATABASE (loader.database.map getAbsolutePath)
  setUnlessNull p CACHE (loader.cache.map getAbsolutePath)

/-- The properties of the class path, those of the file, whose content is
`none` where it cannot be read, and its path, and those of the loader. -/
def propertiesOf (loader : Loader) (path : String) (content : Option Properties) : Properties :=
  let properties := (putAll defaultProperties (content.getD ∅)).merge CONFIGURATION
    (getAbsolutePath path)
  putAll properties loader.customProperties

/-- `loadFrom` of the file at a path. -/
def loadFrom (loader : Loader) (path : String) (content : Option Properties) :
    Except JavaException ConfigurationService :=
  ofProperties (propertiesOf loader path content)

/-- The content `writeTo` gives a file. -/
def writeTo (c : ConfigurationService) : Properties := c.exported

end ConfigurationService

end Configuration

end Core

end ASync
