import ASync.Common.Run
import ASync.Core.Model.ConfigurationService
import ASync.Bep.Model.Protos
/-!
# Connecting to a peer

The end of `connect`, from the wait for the peer's cluster configuration
on, beside the thread of the pool that processes that message. Each
access of one of them to what both share is a step, and any thread may
close the connection in between.
-/

namespace ASync

namespace Bep

open ASync.Core BlockExchageProtos

namespace BlockExchangeConnectionHandler

/-! ## What the peer says of its folders -/

/-- A folder of the peer: whether the peer's record of it lists the peer,
and whether it lists this device. -/
structure ClusterConfigFolderInfo where
  folder : String
  label : String
  announced : Bool
  shared : Bool
  folder_ne : folder ≠ ""

/-- The constructor of `ClusterConfigFolderInfo`. -/
def ClusterConfigFolderInfo.new (folder label : String) (announced shared : Bool) :
    Except JavaException ClusterConfigFolderInfo :=
  if hfolder : folder = "" then .error (.nullPointer "")
  else .ok ⟨folder, (emptyToNull label).getD folder, announced, shared, hfolder⟩

structure ClusterConfigInfo where
  folderInfoById : Table String ClusterConfigFolderInfo := ∅

namespace ClusterConfigInfo

def putFolderInfo (c : ClusterConfigInfo) (folderInfo : ClusterConfigFolderInfo) :
    ClusterConfigInfo :=
  ⟨c.folderInfoById.merge folderInfo.folder folderInfo⟩

def getSharedFolders (c : ClusterConfigInfo) : Finset String :=
  ((c.folderInfoById.entries.filter fun e => e.2.shared).map fun e => e.2.folder).toFinset

end ClusterConfigInfo

end BlockExchangeConnectionHandler

open BlockExchangeConnectionHandler

variable [Guava]

/-! ## The connection -/

/-- What the connection's event bus carries. -/
inductive ConnectionEvent
  | newFolderShared (folder : String)
  | clusterConfigMessageProcessed (message : ClusterConfig)
  | connectionClosed
  deriving DecidableEq

/-- A connection, with the events it posted and the index messages it
sent. -/
structure BlockExchangeConnectionHandler where
  /-- The device id of the peer's address. -/
  address : String
  configuration : ConfigurationService
  clusterConfigInfo : Option ClusterConfigInfo := none
  isClosed : Bool := false
  events : List ConnectionEvent := []
  sent : List IndexUpdate := []

namespace BlockExchangeConnectionHandler

variable (c : BlockExchangeConnectionHandler)

def post (event : ConnectionEvent) : BlockExchangeConnectionHandler :=
  { c with events := c.events ++ [event] }

def hasFolder (folder : String) : Bool :=
  c.clusterConfigInfo.any fun info => decide (folder ∈ info.getSharedFolders)

/-- The index message `connect` sends: it has no record. -/
def indexMessage (folder : String) : IndexUpdate := ⟨folder, []⟩

/-- A closed connection refuses to send. -/
def sendIndexMessage (folder : String) : Except JavaException BlockExchangeConnectionHandler := do
  checkArgument (!c.isClosed) "connection closed"
  return { c with sent := c.sent ++ [indexMessage folder] }

def close : BlockExchangeConnectionHandler :=
  if c.isClosed then c else { c with isClosed := true }.post .connectionClosed

/-! ## The cluster configuration -/

/-- `Maps.uniqueIndex` of the devices of a folder by their ids. -/
def devicesById (devices : List Device) : Except JavaException (Table String Device) :=
  devices.foldlM (fun table device => do
    let id ← KeystoreHandler.hashDataToDeviceIdString device.id
    checkArgument (table.find id).isNone "Multiple entries with same key"
    return table.merge id device) ∅

/-- What a folder record says of its folder. -/
def folderInfoOf (deviceId : Option String) (address : String) (folder : Folder) :
    Except JavaException ClusterConfigFolderInfo := do
  let devices ← devicesById folder.devices
  let otherDevice := devices.find address
  let ourDevice := deviceId.bind devices.find
  ClusterConfigFolderInfo.new folder.id folder.label otherDevice.isSome ourDevice.isSome

/-- The devices of a folder record as peers, up to the first that cannot
be built, and whether there is none such. The name is that of the record,
where it has one. -/
def peersOf (name : Device → Option String) (deviceId : Option String) :
    List Device → List DeviceInfo × Bool
  | [] => ([], true)
  | device :: devices =>
    match KeystoreHandler.hashDataToDeviceIdString device.id >>= fun id =>
        DeviceInfo.new id (name device) with
    | .ok info =>
      let (infos, built) := peersOf name deviceId devices
      (if some info.deviceId = deviceId then infos else info :: infos, built)
    | .error _ => ([], false)

end BlockExchangeConnectionHandler

/-! ## The threads -/

/-- Where `connect` is. The loop's condition reads a field and then the
other. -/
inductive ConnectThread
  | testing
  | testingClosed
  | waiting
  | checking
  | listing
  | sending (folders : List String)
  | returned
  | threw
  deriving DecidableEq

/-- Where the thread of the pool is in the message: a folder record is
looked at and its folder added to the configuration, a new folder
announced, its info put, its peers added. -/
inductive PoolThread
  | received
  | folders (rest : List Folder)
  | announcing (info : ClusterConfigFolderInfo) (folder : Folder) (rest : List Folder)
  | putting (info : ClusterConfigFolderInfo) (folder : Folder) (rest : List Folder)
  | addingPeers (folder : Folder) (rest : List Folder)
  | processed
  | failed (rest : List Folder)

structure Connecting where
  handler : BlockExchangeConnectionHandler
  connect : ConnectThread
  pool : PoolThread

/-- The thread that takes a step. -/
inductive ConnectingTurn
  | connect
  | process
  | close
  deriving DecidableEq

namespace Connecting

/-- A step of `connect`. It may be woken from its wait at any time. -/
def connectStep (s : Connecting) : Option Connecting :=
  match s.connect with
  | .testing =>
    some { s with
      connect := if s.handler.clusterConfigInfo.isNone then .testingClosed else .checking }
  | .testingClosed => some { s with connect := if s.handler.isClosed then .checking else .waiting }
  | .waiting => some { s with connect := .testing }
  | .checking =>
    some { s with connect := if s.handler.clusterConfigInfo.isNone then .threw else .listing }
  | .listing => some { s with connect := .sending s.handler.configuration.getFolderNames }
  | .sending [] => some { s with connect := if s.handler.isClosed then .threw else .returned }
  | .sending (folder :: folders) =>
    if s.handler.hasFolder folder then
      match s.handler.sendIndexMessage folder with
      | .ok handler => some { s with handler, connect := .sending folders }
      | .error _ => some { s with connect := .threw }
    else some { s with connect := .sending folders }
  | .returned => none
  | .threw => none

/-- A folder record is looked at. -/
def lookStep (s : Connecting) (folder : Folder) (rest : List Folder) : Connecting :=
  let c := s.handler.configuration
  match folderInfoOf c.deviceId s.handler.address folder with
  | .error _ => { s with pool := .failed (folder :: rest) }
  | .ok info =>
    if info.shared && decide (info.folder ∉ c.getFolderNames) then
      match FolderInfo.new info.folder (some info.label) with
      | .ok folderInfo =>
        { s with
          handler := { s.handler with configuration := c.edit (.addFolders [folderInfo]) }
          pool := .announcing info folder rest }
      | .error _ => { s with pool := .failed (folder :: rest) }
    else { s with pool := .putting info folder rest }

/-- A step of the pool's thread on the message. -/
def processStep (name : Device → Option String) (message : ClusterConfig) (s : Connecting) :
    Option Connecting :=
  match s.pool with
  | .received =>
    if s.handler.clusterConfigInfo.isNone then
      some { s with
        handler := { s.handler with clusterConfigInfo := some {} }
        pool := .folders message.folders }
    else some { s with pool := .failed message.folders }
  | .folders [] =>
    some { s with
      handler := s.handler.post (.clusterConfigMessageProcessed message)
      pool := .processed }
  | .folders (folder :: rest) => some (s.lookStep folder rest)
  | .announcing info folder rest =>
    some { s with
      handler := s.handler.post (.newFolderShared info.folder)
      pool := .putting info folder rest }
  | .putting info folder rest =>
    some { s with
      handler := { s.handler with
        clusterConfigInfo := s.handler.clusterConfigInfo.map fun c => c.putFolderInfo info }
      pool := .addingPeers folder rest }
  | .addingPeers folder rest =>
    let c := s.handler.configuration
    let (infos, built) := peersOf name c.deviceId folder.devices
    some { s with
      handler := { s.handler with configuration := c.edit (.addPeers infos) }
      pool := if built then .folders rest else .failed rest }
  | .processed => none
  | .failed _ => none

/-- An exception in the pool's thread closes the connection from another
one, as anything else may. -/
def step (name : Device → Option String) (message : ClusterConfig) (s : Connecting) :
    ConnectingTurn → Option Connecting
  | .connect => s.connectStep
  | .process => s.processStep name message
  | .close => some { s with handler := s.handler.close }

/-- `connect` has started the listener, and the message is received. -/
def initial (address : String) (configuration : ConfigurationService) : Connecting where
  handler := { address, configuration }
  connect := .testing
  pool := .received

end Connecting

/-- The runs in which the peer's cluster configuration is `message`. -/
def connecting (name : Device → Option String) (message : ClusterConfig) (address : String)
    (configuration : ConfigurationService) : Machine Connecting ConnectingTurn :=
  Machine.ofStep (Connecting.initial address configuration) (Connecting.step name message)

end Bep

end ASync
