import ASync.Core.Model.DeviceAddress
/-!
# Connections to peers

The client asks a supplier for the addresses at which devices may be
reached, connects to each in turn, and looks for a device that shares a
folder. A connection is made by `openConnection`, or was put back into the
pool. A handler that fails to connect closes itself and is not among those
of the client.
-/

namespace ASync

namespace Client

open ASync.Core

/-- What comes of `connect`: an exception, or a connection to a device that
shares folders. One at which the device shares a folder anew is closed and
made again. -/
inductive Connecting
  | fails (ex : JavaException)
  | connects (sharedFolders : List String)
  | sharesNewFolder (sharedFolders : List String) (next : Connecting)

/-- A connection, and the folders its device shares. -/
structure ConnectionHandler where
  address : DeviceAddress
  sharedFolders : List String
  deriving DecidableEq, Repr

/-- The connections that were made are numbered; those that are not closed
are open. -/
structure SyncthingClient where
  handlers : List ConnectionHandler := []
  closed : List ℕ := []
  connections : List ℕ := []
  pool : List ℕ := []
  closed_lt : ∀ id ∈ closed, id < handlers.length
  pool_lt : ∀ id ∈ pool, id < handlers.length

namespace SyncthingClient

variable {client : SyncthingClient}

theorem lt_length_append {ids : List ℕ} {handlers : List ConnectionHandler}
    (h : ∀ id ∈ ids, id < handlers.length) (handler : ConnectionHandler) :
    ∀ id ∈ ids, id < (handlers ++ [handler]).length := by
  intro id hid
  have hlt := h id hid
  rw [List.length_append, List.length_singleton]
  omega

theorem closed_cons_lt {id : ℕ} (hid : id < client.handlers.length) :
    ∀ id' ∈ id :: client.closed, id' < client.handlers.length := by
  intro id' hmem
  rcases List.mem_cons.1 hmem with rfl | hmem
  · exact hid
  · exact client.closed_lt id' hmem

theorem pool_lt_of_subset {pool : List ℕ} (h : pool ⊆ client.pool) :
    ∀ id ∈ pool, id < client.handlers.length := fun id hid => client.pool_lt id (h hid)

/-- A connection is made. -/
def connect (client : SyncthingClient) (deviceAddress : DeviceAddress)
    (sharedFolders : List String) : SyncthingClient where
  handlers := client.handlers ++ [⟨deviceAddress, sharedFolders⟩]
  closed := client.closed
  connections := client.connections ++ [client.handlers.length]
  pool := client.pool
  closed_lt := lt_length_append client.closed_lt _
  pool_lt := lt_length_append client.pool_lt _

/-- `close` of a connection, and the handler of its event. -/
def close (client : SyncthingClient) (id : ℕ) : SyncthingClient :=
  if h : id < client.handlers.length ∧ id ∉ client.closed then
    { client with
      closed := id :: client.closed
      connections := client.connections.erase id
      pool := client.pool.erase id
      closed_lt := closed_cons_lt h.1
      pool_lt := pool_lt_of_subset List.erase_subset }
  else client

/-- The connection was made to the address. -/
def isAt (client : SyncthingClient) (deviceAddress : DeviceAddress) (id : ℕ) : Bool :=
  client.handlers[id]?.any fun handler => deviceAddress.equals handler.address

def hasFolder (client : SyncthingClient) (id : ℕ) (folder : String) : Bool :=
  client.handlers[id]?.any fun handler => folder ∈ handler.sharedFolders

/-- The first connection of the pool to an address that is not closed, and
what is left of the pool. -/
def find (client : SyncthingClient) (deviceAddress : DeviceAddress) : List ℕ → Option ℕ × List ℕ
  | [] => (none, [])
  | id :: pool =>
    if client.isAt deviceAddress id then
      if id ∈ client.closed then client.find deviceAddress pool else (some id, pool)
    else
      let (found, rest) := client.find deviceAddress pool
      (found, id :: rest)

theorem find_subset (client : SyncthingClient) (deviceAddress : DeviceAddress) (pool : List ℕ) :
    (client.find deviceAddress pool).2 ⊆ pool := by
  induction pool with
  | nil => exact List.Subset.refl _
  | cons id pool ih =>
    unfold find
    split
    · split
      · exact List.subset_cons_of_subset id ih
      · exact List.subset_cons_self id pool
    · exact List.cons_subset_cons id ih

def borrowFromPool (deviceAddress : DeviceAddress) (client : SyncthingClient) :
    Option ℕ × SyncthingClient :=
  ((client.find deviceAddress client.pool).1,
    { client with
      pool := (client.find deviceAddress client.pool).2
      pool_lt := pool_lt_of_subset (client.find_subset deviceAddress client.pool) })

def openConnection (deviceAddress : DeviceAddress) :
    Connecting → EStateM JavaException SyncthingClient ℕ
  | .fails ex => throw ex
  | .connects sharedFolders =>
    modifyGet fun client => (client.handlers.length, client.connect deviceAddress sharedFolders)
  | .sharesNewFolder sharedFolders next => do
    modify fun client => (client.connect deviceAddress sharedFolders).close client.handlers.length
    openConnection deviceAddress next

def getConnection (deviceAddress : DeviceAddress) (connecting : Connecting) :
    EStateM JavaException SyncthingClient ℕ := do
  match ← modifyGet (borrowFromPool deviceAddress) with
  | some id => return id
  | none => openConnection deviceAddress connecting

end SyncthingClient

/-! ## Addresses -/

/-- An address the supplier yields, and what comes of connecting to it then. -/
structure Yielded where
  deviceAddress : DeviceAddress
  connecting : Connecting

/-- The iterator of a `DeviceAddressSupplier`. It takes an address from the
queue when it is asked whether there is one. -/
structure AddressIterator where
  hasNext : Option Bool := none
  next : Option Yielded := none

/-- `hasNext`, with what it leaves of the queue. -/
def AddressIterator.getHasNext (iterator : AddressIterator) (queue : List Yielded) :
    Bool × AddressIterator × List Yielded :=
  match iterator.hasNext with
  | some hasNext => (hasNext, iterator, queue)
  | none => (queue.head?.isSome, ⟨some queue.head?.isSome, queue.head?⟩, queue.tail)

/-- `next`, where there is one. -/
def AddressIterator.getNext (iterator : AddressIterator) (queue : List Yielded) :
    Option Yielded × AddressIterator × List Yielded :=
  match iterator.getHasNext queue with
  | (true, iterator, queue) => (iterator.next, ⟨none, none⟩, queue)
  | (false, iterator, queue) => (none, iterator, queue)

/-- A supplier of connections: the addresses that are yet to come, the
devices it has connected to, and each address with its connection. -/
structure PeerConnections where
  client : SyncthingClient
  deviceAddresses : List Yielded
  deviceIds : List String := []
  acquired : List (DeviceAddress × ℕ) := []

namespace PeerConnections

/-- The loop of the supplier's `get`, `none` where `fuel` rounds did not get
to its end. -/
def getNext : ℕ → AddressIterator → PeerConnections → Option (Option ℕ × PeerConnections)
  | 0, _, _ => none
  | fuel + 1, iterator, s =>
    match iterator.getNext s.deviceAddresses with
    | (none, _, deviceAddresses) => some (none, { s with deviceAddresses })
    | (some ⟨deviceAddress, connecting⟩, iterator, deviceAddresses) =>
      if deviceAddress.deviceId ∈ s.deviceIds then getNext fuel iterator { s with deviceAddresses }
      else
        match (SyncthingClient.getConnection deviceAddress connecting).run s.client with
        | .ok id client =>
          some (some id, { s with
            client, deviceAddresses
            deviceIds := deviceAddress.deviceId :: s.deviceIds
            acquired := s.acquired ++ [(deviceAddress, id)] })
        | .error _ client => getNext fuel iterator { s with client, deviceAddresses }

/-- `getPeerConnectionsSupplierSafe`'s `get`. -/
def getSafe (fuel : ℕ) (s : PeerConnections) : Option (Option ℕ × PeerConnections) :=
  getNext fuel {} s

/-- `getPeerConnectionsSupplier`'s `get`. -/
def get (fuel : ℕ) (s : PeerConnections) : Option (Except JavaException ℕ × PeerConnections) :=
  match s.getSafe fuel with
  | none => none
  | some (none, s) => some (.error (.nullPointer "unable to aquire connection"), s)
  | some (some id, s) => some (.ok id, s)

/-- The loop of `getConnectionForFolder`, `none` where `fuel` rounds did not
get to its end. -/
def getForFolder (folder : String) : ℕ → PeerConnections → Option
    (Except JavaException ℕ × PeerConnections)
  | 0, _ => none
  | fuel + 1, s =>
    match s.get (fuel + 1) with
    | none => none
    | some (.error ex, s) => some (.error ex, s)
    | some (.ok id, s) =>
      if s.client.hasFolder id folder then some (.ok id, s)
      else getForFolder folder fuel { s with client := s.client.close id }

end PeerConnections

/-- `getConnectionForFolder`, with a supplier that yields some addresses and
then `null`. -/
def getConnectionForFolder (fuel : ℕ) (client : SyncthingClient) (deviceAddresses : List Yielded)
    (folder : String) : Option (Except JavaException ℕ × PeerConnections) :=
  PeerConnections.getForFolder folder fuel { client, deviceAddresses }

end Client

end ASync
