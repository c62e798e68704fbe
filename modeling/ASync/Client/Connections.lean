import ASync.Client.Model.SyncthingClient
import ASync.Common.Effect
/-!
# The search for a device that shares a folder

The supplier connects to each device once, at the first of its addresses
that answers (`getNext_cases`). So the search asks these connections for
the folder one after another, returns the first that shares it and closes
those before it (`connection_is_first_sharing`).
-/

namespace ASync

namespace Client

open ASync.Core

/-- The folders shared over the connection that is made in the end. -/
def Connecting.sharedFolders : Connecting → Option (List String)
  | .fails _ => none
  | .connects sharedFolders => some sharedFolders
  | .sharesNewFolder _ next => next.sharedFolders

section Connections

variable {client client' client'' : SyncthingClient} {deviceAddress address : DeviceAddress}
variable {connecting : Connecting} {y : Yielded} {ys : List Yielded} {folder : String} {id fuel : ℕ}
variable {folders : List String} {ids : List ℕ} {result : Option ℕ}

namespace SyncthingClient

def IsOpen (client : SyncthingClient) (id : ℕ) : Prop :=
  id < client.handlers.length ∧ id ∉ client.closed

/-- An open connection to an address. -/
def openAt (client : SyncthingClient) (deviceAddress : DeviceAddress) (id : ℕ) : Bool :=
  client.isAt deviceAddress id && decide (id ∉ client.closed)

/-- The connections of the pool to an address that are open. -/
def idle (client : SyncthingClient) (deviceAddress : DeviceAddress) : List ℕ :=
  client.pool.filter (client.openAt deviceAddress)

/-- What the connection to an address is to, if one is got: one of the pool,
or a new one. -/
def reached (client : SyncthingClient) (y : Yielded) : Option (DeviceAddress × List String) :=
  match (client.idle y.deviceAddress).head? with
  | some id => client.handlers[id]?.map fun handler => (y.deviceAddress, handler.sharedFolders)
  | none => y.connecting.sharedFolders.map (y.deviceAddress, ·)

/-- Of each device, the first address at which it is reached. -/
def firstReached (client : SyncthingClient) (ys : List Yielded) :
    List (DeviceAddress × List String) :=
  (ys.filterMap client.reached).eraseDupsBy fun a b => a.1.deviceId = b.1.deviceId

/-- Connections may have been made and closed; one that was not open before
is the result. -/
structure Opened (client client' : SyncthingClient) (result : Option ℕ) : Prop where
  handlers : client.handlers <+: client'.handlers
  closed : client.closed ⊆ client'.closed
  before : ∀ id, client'.IsOpen id → result ≠ some id → client.IsOpen id

theorem Opened.refl (client : SyncthingClient) (result : Option ℕ) : Opened client client result :=
  ⟨List.prefix_refl _, List.Subset.refl _, fun _ h _ => h⟩

theorem Opened.trans (h : Opened client client' none) (h' : Opened client' client'' result) :
    Opened client client'' result := by
  refine ⟨h.handlers.trans h'.handlers, List.Subset.trans h.closed h'.closed,
    fun id hopen hne => ?_⟩
  have hopen' : client'.IsOpen id := h'.before id hopen hne
  exact h.before id hopen' (Option.some_ne_none id).symm

/-! ## Single changes -/

theorem getElem?_of_handlers (h : client.handlers <+: client'.handlers)
    (hid : id < client.handlers.length) : client'.handlers[id]? = client.handlers[id]? := by
  obtain ⟨more, hmore⟩ := h
  rw [← hmore, List.getElem?_append_left hid]

theorem isAt_of_handlers (h : client.handlers <+: client'.handlers)
    (hid : id < client.handlers.length) :
    client'.isAt deviceAddress id = client.isAt deviceAddress id := by
  unfold isAt
  rw [getElem?_of_handlers h hid]

theorem isAt_mono (h : client.handlers <+: client'.handlers)
    (hat : client.isAt deviceAddress id = true) : client'.isAt deviceAddress id = true := by
  have hid : id < client.handlers.length := by
    obtain ⟨handler, hhandler, -⟩ := (Option.any_eq_true ..).1 hat
    exact (List.getElem?_eq_some_iff.1 hhandler).1
  rw [isAt_of_handlers h hid]
  exact hat

/-- A connection is to one device. -/
theorem deviceId_of_isAt (h : client.isAt deviceAddress id = true)
    (h' : client.isAt address id = true) : deviceAddress.deviceId = address.deviceId := by
  obtain ⟨handler, hhandler, hequals⟩ := (Option.any_eq_true ..).1 h
  obtain ⟨handler', hhandler', hequals'⟩ := (Option.any_eq_true ..).1 h'
  obtain rfl := Option.some.inj (hhandler.symm.trans hhandler')
  have hdevice := (of_decide_eq_true hequals).1
  have hdevice' := (of_decide_eq_true hequals').1
  exact hdevice.trans hdevice'.symm

theorem opened_connect : Opened client (client.connect deviceAddress folders)
    (some client.handlers.length) := by
  refine ⟨List.prefix_append _ _, List.Subset.refl _, fun id hopen hne => ?_⟩
  obtain ⟨hlt, hclosed⟩ := hopen
  have hid : id ≠ client.handlers.length := fun heq => hne (congrArg some heq.symm)
  have hlt' : id < client.handlers.length + 1 := by
    rwa [connect, List.length_append, List.length_singleton] at hlt
  exact ⟨by omega, hclosed⟩

theorem idle_connect : (client.connect deviceAddress folders).idle address =
    client.idle address := by
  refine List.filter_congr fun id hid => ?_
  unfold openAt
  rw [isAt_of_handlers (List.prefix_append _ _) (client.pool_lt id hid)]
  rfl

theorem closed_close (hid : id < client.handlers.length) : id ∈ (client.close id).closed := by
  unfold close
  split
  · exact List.mem_cons_self
  · next h => exact Decidable.not_not.1 fun hclosed => h ⟨hid, hclosed⟩

theorem handlers_close : (client.close id).handlers = client.handlers := by
  unfold close
  split
  · rfl
  · rfl

/-- Once a connection is closed, it need not be the result. -/
theorem Opened.close (h : Opened client client' (some id)) (hid : id < client'.handlers.length) :
    Opened client (client'.close id) none := by
  have hclosed : client'.closed ⊆ (client'.close id).closed := by
    unfold SyncthingClient.close
    split
    · exact List.subset_cons_self _ _
    · exact List.Subset.refl _
  refine ⟨?_, List.Subset.trans h.closed hclosed, fun id' hopen _ => ?_⟩
  · rw [handlers_close]
    exact h.handlers
  · obtain ⟨hlt, hne⟩ := hopen
    rw [handlers_close] at hlt
    have hid' : id ≠ id' := by
      rintro rfl
      exact hne (closed_close hid)
    exact h.before id' ⟨hlt, fun hmem => hne (hclosed hmem)⟩ fun heq => hid' (Option.some.inj heq)

/-- A connection that is closed is missing in the pool only where it was. -/
theorem idle_close (h : id ∈ client.pool → client.isAt address id = false) :
    (client.close id).idle address = client.idle address := by
  unfold SyncthingClient.close
  split
  · have hopen : ∀ id' ∈ client.pool.erase id,
        (client.isAt address id' && decide (id' ∉ id :: client.closed)) =
          client.openAt address id' := by
      intro id' hid'
      unfold openAt
      by_cases heq : id' = id
      · rw [heq] at hid' ⊢
        rw [h (List.mem_of_mem_erase hid')]
        rfl
      · simp only [List.mem_cons, heq, false_or]
    have hfilter := List.filter_congr hopen
    refine hfilter.trans ?_
    rw [← List.erase_filter]
    refine List.erase_of_not_mem fun hmem => ?_
    obtain ⟨hpool, hat⟩ := List.mem_filter.1 hmem
    rw [openAt, h hpool] at hat
    cases hat
  · rfl

/-! ## A connection -/

/-- **What is borrowed** is the first open connection to the address; what
is taken out of the pool besides is closed. -/
theorem fst_find (pool : List ℕ) : (client.find deviceAddress pool).1 =
    (pool.filter (client.openAt deviceAddress)).head? := by
  induction pool with
  | nil => rfl
  | cons id pool ih =>
    unfold find
    split
    · next hat =>
      split
      · next hclosed =>
        rw [List.filter_cons_of_neg (by simp [openAt, hclosed]), ih]
      · next hclosed =>
        rw [List.filter_cons_of_pos (by simp [openAt, hat, hclosed])]
        rfl
    · next hat =>
      rw [List.filter_cons_of_neg (by simp [openAt, hat])]
      exact ih

/-- Connections to other addresses stay, all if none is found. -/
theorem snd_find (pool : List ℕ) (h : (client.find deviceAddress pool).1 = none ∨
    deviceAddress.deviceId ≠ address.deviceId) :
    (client.find deviceAddress pool).2.filter (client.openAt address) =
      pool.filter (client.openAt address) := by
  induction pool with
  | nil => rfl
  | cons id pool ih =>
    unfold find at h ⊢
    split at h
    · next hat =>
      rw [if_pos hat]
      split at h
      · next hclosed =>
        rw [if_pos hclosed, List.filter_cons_of_neg (by simp [openAt, hclosed])]
        exact ih h
      · next hclosed =>
        rw [if_neg hclosed]
        have hne : deviceAddress.deviceId ≠ address.deviceId := by
          rcases h with h | h
          · cases h
          · exact h
        have haddress : client.isAt address id = false :=
          Bool.eq_false_iff.2 fun hat' => hne (deviceId_of_isAt hat hat')
        rw [List.filter_cons_of_neg (by simp [openAt, haddress])]
    · next hat =>
      rw [if_neg hat]
      have hrest := ih h
      by_cases hopen : client.openAt address id = true
      · rw [List.filter_cons_of_pos hopen, List.filter_cons_of_pos hopen, hrest]
      · rw [List.filter_cons_of_neg hopen, List.filter_cons_of_neg hopen, hrest]

/-- A connection made to an address: the only one that is left open, and not
one of the pool. -/
structure Made (client client' : SyncthingClient) (deviceAddress : DeviceAddress)
    (folders : List String) (id : ℕ) : Prop where
  opened : Opened client client' (some id)
  isOpen : client'.IsOpen id
  handler : ∃ handler, client'.handlers[id]? = some handler ∧
    deviceAddress.equals handler.address = true ∧
    handler.sharedFolders = folders

theorem Made.isAt (h : Made client client' deviceAddress folders id) :
    client'.isAt deviceAddress id = true := by
  obtain ⟨handler, hhandler, hequals, -⟩ := h.handler
  rw [SyncthingClient.isAt, hhandler]
  exact hequals

theorem Made.hasFolder (h : Made client client' deviceAddress folders id) :
    client'.hasFolder id folder = decide (folder ∈ folders) := by
  obtain ⟨handler, hhandler, -, rfl⟩ := h.handler
  rw [SyncthingClient.hasFolder, hhandler]
  rfl

theorem Made.trans (h : Opened client client' none)
    (h' : Made client' client'' deviceAddress folders id) :
    Made client client'' deviceAddress folders id := ⟨h.trans h'.opened, h'.isOpen, h'.handler⟩

/-- A connection that was made is closed to be made again. -/
theorem reopened (client : SyncthingClient) (deviceAddress : DeviceAddress)
    (folders : List String) :
    Opened client ((client.connect deviceAddress folders).close client.handlers.length) none ∧
      ∀ address,
        ((client.connect deviceAddress folders).close client.handlers.length).idle address =
        client.idle address := by
  have hlt : client.handlers.length < (client.connect deviceAddress folders).handlers.length := by
    rw [connect, List.length_append, List.length_singleton]
    omega
  refine ⟨opened_connect.close hlt, fun address => ?_⟩
  rw [idle_close, idle_connect]
  intro hpool
  have hlt := client.pool_lt _ hpool
  omega

/-- **A new connection** is got when the last attempt succeeds. -/
theorem run_openConnection (deviceAddress : DeviceAddress) (connecting : Connecting)
    (client : SyncthingClient) : (connecting.sharedFolders = none ∧ ∃ ex client',
      (openConnection deviceAddress connecting).run client = .error ex client' ∧
      Opened client client' none ∧ ∀ address, client'.idle address = client.idle address) ∨
    ∃ folders id client', connecting.sharedFolders = some folders ∧
      (openConnection deviceAddress connecting).run client = .ok id client' ∧
      Made client client' deviceAddress folders id ∧
      ∀ address, client'.idle address = client.idle address := by
  induction connecting generalizing client with
  | fails ex => exact Or.inl ⟨rfl, ex, client, rfl, Opened.refl client none, fun _ => rfl⟩
  | connects folders =>
    refine Or.inr ⟨folders, client.handlers.length, client.connect deviceAddress folders, rfl, rfl,
      ⟨opened_connect, ?_, ?_⟩, fun _ => idle_connect⟩
    · refine ⟨?_, fun hclosed => ?_⟩
      · rw [connect, List.length_append, List.length_singleton]
        omega
      · have hlt := client.closed_lt _ hclosed
        omega
    · exact ⟨⟨deviceAddress, folders⟩, List.getElem?_concat_length,
        by simp [DeviceAddress.equals], rfl⟩
  | sharesNewFolder folders next ih =>
    obtain ⟨hopened, hidle⟩ := reopened client deviceAddress folders
    rcases ih ((client.connect deviceAddress folders).close client.handlers.length) with
      ⟨hnone, ex, client', hrun, hopened', hidle'⟩ | ⟨folders', id, client', hsome, hrun,
        hmade, hidle'⟩
    · exact Or.inl ⟨hnone, ex, client', hrun, hopened.trans hopened', fun address =>
        (hidle' address).trans (hidle address)⟩
    · exact Or.inr ⟨folders', id, client', hsome, hrun, hmade.trans hopened, fun address =>
        (hidle' address).trans (hidle address)⟩

/-- What the others of a client come to is as before. -/
theorem reached_congr (h : Opened client client' result) (hidle : client'.idle y.deviceAddress =
    client.idle y.deviceAddress) : client'.reached y = client.reached y := by
  unfold reached
  rw [hidle]
  split
  · next id hid =>
    have hpool : id ∈ client.pool := (List.mem_filter.1 (List.mem_of_mem_head? hid)).1
    rw [getElem?_of_handlers h.handlers (client.pool_lt id hpool)]
  · rfl

theorem run_getConnection_of_borrow {found : Option ℕ}
    (h : borrowFromPool deviceAddress client = (found, client')) :
    (getConnection deviceAddress connecting).run client =
      match found with
      | some id => .ok id client'
      | none => (openConnection deviceAddress connecting).run client' := by
  have hmodify : (modifyGet (borrowFromPool deviceAddress) :
      EStateM JavaException SyncthingClient (Option ℕ)).run client = .ok found client' := by
    change EStateM.Result.ok (borrowFromPool deviceAddress client).1
      (borrowFromPool deviceAddress client).2 = _
    rw [h]
  rw [getConnection, Effect.run_bind_of_ok hmodify]
  cases found with
  | some id => rfl
  | none => rfl

/-- **`getConnection`** gets a connection exactly when the address is
reached. What it changes of the pool concerns this device only. -/
theorem run_getConnection (y : Yielded) (client : SyncthingClient) :
    (client.reached y = none ∧ ∃ ex client',
      (getConnection y.deviceAddress y.connecting).run client = .error ex client' ∧
      Opened client client' none ∧ ∀ address, client'.idle address = client.idle address) ∨
    ∃ folders id client', client.reached y = some (y.deviceAddress, folders) ∧
      (getConnection y.deviceAddress y.connecting).run client = .ok id client' ∧
      Made client client' y.deviceAddress folders id ∧
      ∀ address, y.deviceAddress.deviceId ≠ address.deviceId →
        client'.idle address = client.idle address := by
  have hfound : (borrowFromPool y.deviceAddress client).1 = (client.idle y.deviceAddress).head? :=
    fst_find client.pool
  have hrest : ∀ address, (borrowFromPool y.deviceAddress client).1 = none ∨
      y.deviceAddress.deviceId ≠ address.deviceId →
      (borrowFromPool y.deviceAddress client).2.idle address = client.idle address :=
    fun address => snd_find client.pool
  have hopened : ∀ result, Opened client (borrowFromPool y.deviceAddress client).2 result :=
    fun result => ⟨List.prefix_refl _, List.Subset.refl _, fun _ hopen _ => hopen⟩
  rcases hborrow : borrowFromPool y.deviceAddress client with ⟨found, client₁⟩
  rw [hborrow] at hfound hrest hopened
  rcases found with _ | id
  · -- the pool has none for the device, so `openConnection` is called
    have hrun : (getConnection y.deviceAddress y.connecting).run client =
        (openConnection y.deviceAddress y.connecting).run client₁ :=
          run_getConnection_of_borrow hborrow
    have hreached : client.reached y = y.connecting.sharedFolders.map (y.deviceAddress, ·) := by
      unfold reached
      rw [← hfound]
    have hidle : ∀ address, client₁.idle address = client.idle address := fun address =>
      hrest address (Or.inl rfl)
    rw [hrun, hreached]
    rcases run_openConnection y.deviceAddress y.connecting client₁ with
      ⟨hnone, ex, client', hrun', hopened', hidle'⟩ | ⟨folders, id, client', hsome, hrun',
        hmade, hidle'⟩
    · exact Or.inl ⟨by rw [hnone]; rfl, ex, client', hrun', (hopened none).trans hopened',
        fun address => (hidle' address).trans (hidle address)⟩
    · exact Or.inr ⟨folders, id, client', by rw [hsome]; rfl, hrun', hmade.trans (hopened none),
        fun address _ => (hidle' address).trans (hidle address)⟩
  · -- one of the pool is handed out, which is open
    have hmem : id ∈ client.idle y.deviceAddress := List.mem_of_mem_head? hfound.symm
    obtain ⟨hpool, hat⟩ := List.mem_filter.1 hmem
    obtain ⟨hat, hclosed⟩ := Bool.and_eq_true_iff.1 hat
    obtain ⟨handler, hhandler, hequals⟩ := (Option.any_eq_true ..).1 hat
    have hclient : client₁.handlers = client.handlers ∧ client₁.closed = client.closed := by
      have hsnd : client₁ = (borrowFromPool y.deviceAddress client).2 := by rw [hborrow]
      rw [hsnd]
      exact ⟨rfl, rfl⟩
    have hopen : client₁.IsOpen id := by
      rw [IsOpen, hclient.1, hclient.2]
      exact ⟨client.pool_lt id hpool, of_decide_eq_true hclosed⟩
    refine Or.inr ⟨handler.sharedFolders, id, client₁, ?_, run_getConnection_of_borrow hborrow,
      ⟨hopened _, hopen, handler, ?_, hequals, rfl⟩, fun address hne => hrest address (Or.inr hne)⟩
    · unfold reached
      rw [← hfound]
      simp only [hhandler, Option.map_some]
    · rw [hclient.1]
      exact hhandler

end SyncthingClient

/-! ## The supplier -/

namespace PeerConnections

open SyncthingClient

variable {s s' : PeerConnections}

/-- The addresses of devices to which there is no connection yet. -/
def others (s : PeerConnections) : List Yielded :=
  s.deviceAddresses.filter fun y => y.deviceAddress.deviceId ∉ s.deviceIds

/-- The connections the supplier has yet to give. -/
def remaining (s : PeerConnections) : List (DeviceAddress × List String) :=
  s.client.firstReached s.others

/-- A connection the supplier gives. -/
structure Got (s s' : PeerConnections) (id : ℕ) (deviceAddress : DeviceAddress)
    (folders : List String) : Prop where
  made : Made s.client s'.client deviceAddress folders id
  remaining : s.remaining = (deviceAddress, folders) :: s'.remaining
  deviceIds : s'.deviceIds = deviceAddress.deviceId :: s.deviceIds
  new : deviceAddress.deviceId ∉ s.deviceIds
  acquired : s'.acquired = s.acquired ++ [(deviceAddress, id)]
  fewer : s'.deviceAddresses.length < s.deviceAddresses.length

/-- The supplier has no more to give. -/
structure Exhausted (s s' : PeerConnections) : Prop where
  opened : Opened s.client s'.client none
  remaining : s.remaining = []
  acquired : s'.acquired = s.acquired

theorem reached_deviceAddress {client : SyncthingClient} {y : Yielded}
    {x : DeviceAddress × List String}
    (h : client.reached y = some x) : x.1 = y.deviceAddress := by
  unfold reached at h
  split at h
  · obtain ⟨handler, -, rfl⟩ := Option.map_eq_some_iff.1 h
    rfl
  · obtain ⟨folders, -, rfl⟩ := Option.map_eq_some_iff.1 h
    rfl

/-- What is reached at the addresses of others is as before. -/
theorem firstReached_congr {ys : List Yielded}
    (h : ∀ y ∈ ys, client'.reached y = client.reached y) :
    client'.firstReached ys = client.firstReached ys := by
  unfold firstReached
  rw [List.filterMap_congr h]

/-- At the other addresses of a device nothing is reached first. -/
theorem firstReached_cons {x : DeviceAddress × List String} (h : client.reached y = some x) :
    client.firstReached (y :: ys) =
      x :: client.firstReached (ys.filter fun y' => y'.deviceAddress.deviceId ≠
        y.deviceAddress.deviceId) := by
  unfold firstReached
  rw [List.filterMap_cons_some h, List.eraseDupsBy_cons, List.filter_filterMap,
    List.filterMap_filter]
  refine congrArg (fun rest => x :: List.eraseDupsBy _ rest) (List.filterMap_congr fun y' _ => ?_)
  rcases hreached : client.reached y' with _ | x'
  · simp
  · have hx := reached_deviceAddress h
    have hx' := reached_deviceAddress hreached
    simp only [hx, hx', Option.filter_some, decide_not]
    by_cases hid : y'.deviceAddress.deviceId = y.deviceAddress.deviceId
    · simp [hid]
    · simp [hid]

/-- An address is taken from the queue and no connection is got. -/
structure Skips (s s' : PeerConnections) : Prop where
  opened : Opened s.client s'.client none
  remaining : s.remaining = s'.remaining
  deviceIds : s'.deviceIds = s.deviceIds
  acquired : s'.acquired = s.acquired
  fewer : s'.deviceAddresses.length < s.deviceAddresses.length

theorem Exhausted.of_skips {s₁ : PeerConnections} (h : Skips s s₁) (h' : Exhausted s₁ s') :
    Exhausted s s' :=
  ⟨h.opened.trans h'.opened, h.remaining.trans h'.remaining, h'.acquired.trans h.acquired⟩

theorem Got.of_skips {s₁ : PeerConnections} (h : Skips s s₁)
    (h' : Got s₁ s' id deviceAddress folders) : Got s s' id deviceAddress folders where
  made := h'.made.trans h.opened
  remaining := h.remaining.trans h'.remaining
  deviceIds := by rw [h'.deviceIds, h.deviceIds]
  new := h.deviceIds ▸ h'.new
  acquired := by rw [h'.acquired, h.acquired]
  fewer := h'.fewer.trans h.fewer

/-- What a new iterator answers first. -/
theorem getNext_nil : AddressIterator.getNext {} [] = (none, ⟨some false, none⟩, []) := rfl

theorem getNext_cons : AddressIterator.getNext {} (y :: ys) = (some y, {}, ys) := rfl

/-- One address of a device that was connected to before. -/
theorem skips_visited (hqueue : s.deviceAddresses = y :: ys)
    (hvisited : y.deviceAddress.deviceId ∈ s.deviceIds) :
    Skips s { s with deviceAddresses := ys } where
  opened := Opened.refl _ _
  remaining := by
    unfold remaining others
    rw [hqueue, List.filter_cons_of_neg (by simpa using hvisited)]
  deviceIds := rfl
  acquired := rfl
  fewer := by
    rw [hqueue]
    exact Nat.lt_succ_self _

/-- One at which the device is not reached. -/
theorem skips_failed (hqueue : s.deviceAddresses = y :: ys)
    (hvisited : y.deviceAddress.deviceId ∉ s.deviceIds) (hreached : s.client.reached y = none)
    (hopened : Opened s.client client' none) (hidle : ∀ address,
      client'.idle address = s.client.idle address) :
    Skips s { s with client := client', deviceAddresses := ys } where
  opened := hopened
  remaining := by
    unfold remaining others
    rw [hqueue, List.filter_cons_of_pos (by simpa using hvisited),
      firstReached_congr fun y' _ => reached_congr hopened (hidle y'.deviceAddress)]
    unfold firstReached
    rw [List.filterMap_cons_none hreached]
  deviceIds := rfl
  acquired := rfl
  fewer := by
    rw [hqueue]
    exact Nat.lt_succ_self _

/-- One at which it is. -/
theorem got_connection (hqueue : s.deviceAddresses = y :: ys)
    (hvisited : y.deviceAddress.deviceId ∉ s.deviceIds)
    (hreached : s.client.reached y = some (y.deviceAddress, folders))
    (hmade : Made s.client client' y.deviceAddress folders id)
    (hidle : ∀ address, y.deviceAddress.deviceId ≠ address.deviceId →
      client'.idle address = s.client.idle address) :
    Got s ⟨client', ys, y.deviceAddress.deviceId :: s.deviceIds,
      s.acquired ++ [(y.deviceAddress, id)]⟩ id
      y.deviceAddress folders where
  made := hmade
  remaining := by
    unfold remaining others
    rw [hqueue, List.filter_cons_of_pos (by simpa using hvisited), firstReached_cons hreached,
      List.filter_filter]
    refine congrArg _ ?_
    have hothers :
        (ys.filter fun y' => decide (y'.deviceAddress.deviceId ≠ y.deviceAddress.deviceId) &&
        decide (y'.deviceAddress.deviceId ∉ s.deviceIds)) =
        ys.filter fun y' => y'.deviceAddress.deviceId ∉ y.deviceAddress.deviceId :: s.deviceIds :=
      List.filter_congr fun y' _ => by
        rw [← Bool.decide_and]
        exact decide_eq_decide.2 (by rw [List.mem_cons, not_or])
    rw [hothers]
    refine (firstReached_congr fun y' hy' => reached_congr hmade.opened
      (hidle y'.deviceAddress ?_)).symm
    have hne := of_decide_eq_true (List.mem_filter.1 hy').2
    exact fun heq => hne (heq ▸ List.mem_cons_self)
  deviceIds := rfl
  new := hvisited
  acquired := rfl
  fewer := by
    rw [hqueue]
    exact Nat.lt_succ_self _

/-- **The supplier** gives the next of the connections it has yet to give.
The induction is on the addresses it passes over. -/
theorem getNext_cases (h : s.deviceAddresses.length < fuel) :
    (∃ s', getNext fuel {} s = some (none, s') ∧ Exhausted s s') ∨
      ∃ s' id deviceAddress folders, getNext fuel {} s = some (some id, s') ∧
        Got s s' id deviceAddress folders := by
  induction fuel generalizing s with
  | zero => omega
  | succ fuel ih =>
    have hagain : ∀ s₁, Skips s s₁ → getNext (fuel + 1) {} s = getNext fuel {} s₁ →
        (∃ s', getNext (fuel + 1) {} s = some (none, s') ∧ Exhausted s s') ∨
          ∃ s' id deviceAddress folders, getNext (fuel + 1) {} s = some (some id, s') ∧
            Got s s' id deviceAddress folders := by
      intro s₁ hskips heq
      have hfewer := hskips.fewer
      rw [heq]
      rcases ih (by omega : s₁.deviceAddresses.length < fuel) with
        ⟨s', hnext, hexhausted⟩ | ⟨s', id, deviceAddress, folders, hnext, hgot⟩
      · exact Or.inl ⟨s', hnext, hexhausted.of_skips hskips⟩
      · exact Or.inr ⟨s', id, deviceAddress, folders, hnext, hgot.of_skips hskips⟩
    rcases hqueue : s.deviceAddresses with _ | ⟨y, ys⟩
    · refine Or.inl ⟨{ s with deviceAddresses := [] }, ?_, Opened.refl _ _, ?_, rfl⟩
      · rw [getNext, hqueue, getNext_nil]
      · unfold remaining others
        rw [hqueue]
        rfl
    · by_cases hvisited : y.deviceAddress.deviceId ∈ s.deviceIds
      · refine hagain _ (skips_visited hqueue hvisited) ?_
        rw [getNext, hqueue, getNext_cons]
        exact if_pos hvisited
      · rcases run_getConnection y s.client with
          ⟨hreached, ex, client', hrun, hopened, hidle⟩ | ⟨folders, id, client', hreached, hrun,
            hmade, hidle⟩
        · refine hagain _ (skips_failed hqueue hvisited hreached hopened hidle) ?_
          rw [getNext, hqueue, getNext_cons]
          simp only [if_neg hvisited, hrun]
        · refine Or.inr ⟨_, id, y.deviceAddress, folders, ?_,
            got_connection hqueue hvisited hreached hmade hidle⟩
          rw [getNext, hqueue, getNext_cons]
          simp only [if_neg hvisited, hrun]

/-! ## The search -/

/-- What a search for a folder comes to: the first connection to a device
that shares it, one connection to a device at most, and all others closed. -/
structure Answered (client : SyncthingClient) (ys : List Yielded) (folder : String)
    (result : Except JavaException ℕ) (s : PeerConnections) : Prop where
  found : match (client.firstReached ys).find? fun x => folder ∈ x.2 with
    | some (deviceAddress, folders) =>
      ∃ id, result = .ok id ∧ Made client s.client deviceAddress folders id
    | none => result = .error (.nullPointer "unable to aquire connection")
  once : (s.acquired.map fun a => a.1.deviceId).Nodup
  closed : ∀ a ∈ s.acquired, s.client.isAt a.1 a.2 = true ∧
    (result = .ok a.2 ∨ a.2 ∈ s.client.closed)
  before : ∀ id, s.client.IsOpen id → result ≠ .ok id → client.IsOpen id

/-- The connections that were got so far do not share the folder, and are
closed. -/
structure Searched (client : SyncthingClient) (ys : List Yielded) (folder : String)
    (s : PeerConnections) : Prop where
  opened : Opened client s.client none
  find : (client.firstReached ys).find? (fun x => folder ∈ x.2) =
    s.remaining.find? fun x => folder ∈ x.2
  devices : s.acquired.map (fun a => a.1.deviceId) = s.deviceIds.reverse
  distinct : s.deviceIds.Nodup
  closed : ∀ a ∈ s.acquired, s.client.isAt a.1 a.2 = true ∧ a.2 ∈ s.client.closed

/-- With the connection that comes next, each device has one. -/
theorem Searched.once (h : Searched client ys folder s) (hgot : Got s s' id deviceAddress folders) :
    s'.acquired.map (fun a => a.1.deviceId) = s'.deviceIds.reverse ∧ s'.deviceIds.Nodup := by
  constructor
  · rw [hgot.acquired, hgot.deviceIds, List.map_append, h.devices, List.reverse_cons]
    rfl
  · rw [hgot.deviceIds]
    exact List.nodup_cons.2 ⟨hgot.new, h.distinct⟩

theorem Searched.acquired (h : Searched client ys folder s)
    (hgot : Got s s' id deviceAddress folders) :
    ∀ a ∈ s'.acquired, s'.client.isAt a.1 a.2 = true ∧ (a.2 = id ∨ a.2 ∈ s'.client.closed) := by
  intro a ha
  rw [hgot.acquired] at ha
  rcases List.mem_append.1 ha with hold | hnew
  · obtain ⟨hat, hclosed⟩ := h.closed a hold
    exact ⟨isAt_mono hgot.made.opened.handlers hat, Or.inr (hgot.made.opened.closed hclosed)⟩
  · obtain rfl := List.mem_singleton.1 hnew
    exact ⟨hgot.made.isAt, Or.inl rfl⟩

/-- The next connection shares the folder. -/
theorem Searched.answered (h : Searched client ys folder s)
    (hgot : Got s s' id deviceAddress folders)
    (hfolder : folder ∈ folders) : Answered client ys folder (.ok id) s' where
  found := by
    have hfirst : ((deviceAddress, folders) :: s'.remaining).find? (fun x => folder ∈ x.2) =
        some (deviceAddress, folders) := List.find?_cons_of_pos (by simpa using hfolder)
    rw [h.find, hgot.remaining, hfirst]
    exact ⟨id, rfl, hgot.made.trans h.opened⟩
  once := by
    obtain ⟨hdevices, hdistinct⟩ := h.once hgot
    rw [hdevices]
    exact List.nodup_reverse.2 hdistinct
  closed := by
    intro a ha
    obtain ⟨hat, hid⟩ := h.acquired hgot a ha
    exact ⟨hat, hid.imp_left fun heq => congrArg Except.ok heq.symm⟩
  before := by
    intro id' hopen hne
    exact (h.opened.trans hgot.made.opened).before id' hopen fun heq =>
      hne (congrArg Except.ok (Option.some.inj heq))

/-- It does not, and is closed. What is yet to come stays: it is of other
devices. -/
theorem Searched.step (h : Searched client ys folder s) (hgot : Got s s' id deviceAddress folders)
    (hfolder : folder ∉ folders) :
      Searched client ys folder { s' with client := s'.client.close id } := by
  have hlt : id < s'.client.handlers.length := hgot.made.isOpen.1
  have hclose : Opened s'.client (s'.client.close id) none := (Opened.refl _ _).close hlt
  have hremaining : PeerConnections.remaining { s' with client := s'.client.close id } =
      s'.remaining := by
    refine firstReached_congr fun y hy => reached_congr hclose (idle_close fun _ => ?_)
    have hother := of_decide_eq_true (List.mem_filter.1 hy).2
    rw [hgot.deviceIds] at hother
    refine Bool.eq_false_iff.2 fun hat => hother ?_
    rw [deviceId_of_isAt hat hgot.made.isAt]
    exact List.mem_cons_self
  obtain ⟨hdevices, hdistinct⟩ := h.once hgot
  refine ⟨(h.opened.trans hgot.made.opened).close hlt, ?_, hdevices, hdistinct, fun a ha => ?_⟩
  · rw [h.find, hgot.remaining, hremaining,
      List.find?_cons_of_neg (by simpa using hfolder)]
  · obtain ⟨hat, hid⟩ := h.acquired hgot a ha
    refine ⟨isAt_mono hclose.handlers hat, ?_⟩
    rcases hid with heq | hclosed
    · rw [heq]
      exact closed_close hlt
    · exact hclose.closed hclosed

/-- No device is left. -/
theorem Searched.exhausted (h : Searched client ys folder s) (hexhausted : Exhausted s s') :
    Answered client ys folder (.error (.nullPointer "unable to aquire connection")) s' where
  found := by
    rw [h.find, hexhausted.remaining]
    rfl
  once := by
    rw [hexhausted.acquired, h.devices]
    exact List.nodup_reverse.2 h.distinct
  closed := by
    intro a ha
    rw [hexhausted.acquired] at ha
    obtain ⟨hat, hclosed⟩ := h.closed a ha
    exact ⟨isAt_mono hexhausted.opened.handlers hat, Or.inr (hexhausted.opened.closed hclosed)⟩
  before := fun id hopen _ => (h.opened.trans hexhausted.opened).before id hopen
    (Option.some_ne_none id).symm

/-- The search goes on until the folder is found or no device is left. The
induction is on the addresses the supplier has yet to yield. -/
theorem Searched.getForFolder (h : Searched client ys folder s)
    (hfuel : s.deviceAddresses.length < fuel) :
    ∃ result s', getForFolder folder fuel s = some (result, s') ∧
      Answered client ys folder result s' := by
  induction fuel generalizing s with
  | zero => omega
  | succ fuel ih =>
    rcases getNext_cases hfuel with ⟨s', hnext, hexhausted⟩ | ⟨s', id, deviceAddress, folders,
      hnext, hgot⟩
    · refine ⟨_, s', ?_, h.exhausted hexhausted⟩
      simp only [PeerConnections.getForFolder, get, getSafe, hnext]
    · have hfolder : s'.client.hasFolder id folder = decide (folder ∈ folders) :=
        hgot.made.hasFolder
      by_cases hmem : folder ∈ folders
      · refine ⟨_, s', ?_, h.answered hgot hmem⟩
        simp only [PeerConnections.getForFolder, get, getSafe, hnext, hfolder,
          decide_eq_true hmem, if_true]
      · have hfewer := hgot.fewer
        obtain ⟨result, s'', hrest, hanswered⟩ := ih (h.step hgot hmem)
          (by omega : s'.deviceAddresses.length < fuel)
        refine ⟨result, s'', ?_, hanswered⟩
        simp only [PeerConnections.getForFolder, get, getSafe, hnext, hfolder, decide_eq_false hmem,
          Bool.false_eq_true, if_false]
        exact hrest

theorem searched_nil (client : SyncthingClient) (ys : List Yielded) (folder : String) :
    Searched client ys folder { client, deviceAddresses := ys } where
  opened := Opened.refl _ _
  find := by
    unfold remaining others
    rw [List.filter_eq_self.2 fun _ _ => decide_eq_true List.not_mem_nil]
  devices := rfl
  distinct := List.nodup_nil
  closed := fun a ha => (List.not_mem_nil ha).elim

end PeerConnections

/-- **The search for a folder ends.** It returns the connection to the
first device that shares it, in the order in which devices are first
reached, or throws where none does; of each device it gets one connection
at most, and only that which it returns is left open. -/
theorem connection_is_first_sharing (client : SyncthingClient) (ys : List Yielded) (folder : String)
    (h : ys.length < fuel) : ∃ result s', getConnectionForFolder fuel client ys folder =
      some (result, s') ∧
      PeerConnections.Answered client ys folder result s' :=
  (PeerConnections.searched_nil client ys folder).getForFolder h

namespace Sample

def newClient : SyncthingClient where
  closed_lt := List.forall_mem_nil _
  pool_lt := List.forall_mem_nil _

/-- One device that is reached at its second address and does not share the
folder, and one that does. -/
def twoDevices : List Yielded :=
  [⟨⟨"ABCDEFG", "tcp://10.0.0.1:22000", 1⟩, .fails (.runtime "Connection refused")⟩,
    ⟨⟨"ABCDEFG", "tcp://10.0.0.2:22000", 2⟩, .connects ["music"]⟩,
    ⟨⟨"ABCDEFG", "tcp://10.0.0.1:22000", 1⟩, .connects ["photos"]⟩,
    ⟨⟨"HIJKLMN", "tcp://10.0.0.3:22000", 3⟩, .sharesNewFolder [] (.connects ["photos"])⟩]

end Sample

theorem connection_is_first_sharing_sample :
    ∃ s', getConnectionForFolder 5 Sample.newClient Sample.twoDevices "photos" = some (.ok 2, s') ∧
      PeerConnections.Answered Sample.newClient Sample.twoDevices "photos" (.ok 2) s' := by
  obtain ⟨result, s', hrun, hanswered⟩ :=
    connection_is_first_sharing Sample.newClient Sample.twoDevices
    "photos" (by decide : Sample.twoDevices.length < 5)
  have hresult :
      (getConnectionForFolder 5 Sample.newClient Sample.twoDevices "photos").map Prod.fst =
      some (.ok 2) := rfl
  rw [hrun] at hresult
  obtain rfl := Option.some.inj hresult
  exact ⟨s', hrun, hanswered⟩

/-- **Two connections to one device are made** where it shares a folder
anew: the first of them is closed, and another one is opened for it. -/
theorem restart_connects_twice :
    ∃ s', getConnectionForFolder 2 Sample.newClient
        [⟨⟨"HIJKLMN", "tcp://10.0.0.3:22000", 3⟩,
          .sharesNewFolder [] (.connects ["photos"])⟩] "photos" =
          some (.ok 1, s') ∧
      s'.client.handlers.map (fun handler => handler.address.deviceId) = ["HIJKLMN", "HIJKLMN"] ∧
      s'.client.closed = [0] :=
  ⟨_, rfl, rfl, rfl⟩

end Connections

end Client

end ASync
