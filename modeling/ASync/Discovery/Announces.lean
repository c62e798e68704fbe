import ASync.Core.Helpers.Sample
import ASync.Discovery.Model.LocalDiscorveryHandler
/-!
# Which local peers are reported as new

The handler has the addresses of a device's latest announce, as far as
its buffer took the datagrams (`getDeviceAddresses_of_reaches`). It reports
the device as new when it had addresses, not when it was unknown: so an
announce is handled as it should be exactly when the one before it was
without addresses, and the first of a device never is
(`announce_right_iff`). A datagram that is longer than the buffer is cut
short, and mostly lost.
-/

namespace ASync

namespace Discovery

open ASync.Core

section Announces

/-! ## A multimap -/

namespace Multimap

variable {α : Type} {map : Multimap α} {key key' : String} {values : List α}

/-- A key that is deleted has no values. -/
theorem valuesOf_delete_self : valuesOf (map.delete key) key = ∅ := by
  unfold valuesOf
  rw [Table.find_delete_self]
  rfl

/-- Deleting a key leaves the values of the others. -/
theorem valuesOf_delete_of_ne (h : key' ≠ key) :
    valuesOf (map.delete key) key' = map.valuesOf key' := by
  unfold valuesOf
  rw [Table.find_delete_of_ne h]

variable [DecidableEq α]

/-- Values that are put come beside those there were. -/
theorem valuesOf_putAll_self : (map.putAll key values).valuesOf key =
    map.valuesOf key ∪ values.toFinset := by
  unfold putAll
  split
  · next hnil =>
    rw [hnil, List.toFinset_nil, Finset.union_empty]
  · rw [valuesOf, Table.find_merge_self]
    rfl

/-- Putting values leaves those of other keys. -/
theorem valuesOf_putAll_of_ne (h : key' ≠ key) :
    (map.putAll key values).valuesOf key' = map.valuesOf key' := by
  unfold putAll
  split
  · rfl
  · rw [valuesOf, Table.find_merge_of_ne h]
    rfl

end Multimap

/-! ## One announce -/

namespace LocalDiscorveryHandler

open Multimap

variable {h h' : LocalDiscorveryHandler} {ds : List DatagramPacket} {d : DatagramPacket}
variable {ownId deviceId other : String} {deviceAddresses : List DeviceAddress}

/-- Whether a step has reported the device as new. -/
def Reported (h h' : LocalDiscorveryHandler) (deviceId : String) : Prop :=
  .newLocalPeer deviceId ∈ h'.posted.drop h.posted.length

instance (h h' : LocalDiscorveryHandler) (deviceId : String) : Decidable (Reported h h' deviceId) :=
  inferInstanceAs (Decidable (_ ∈ _))

/-- **After an announce** its addresses are those of the device, and the
records of the others are as before. -/
theorem getDeviceAddresses_announce :
    (h.announce deviceId deviceAddresses).getDeviceAddresses other =
    if other = deviceId then deviceAddresses.toFinset else h.getDeviceAddresses other := by
  unfold getDeviceAddresses
  split
  · next hid =>
    rw [hid]
    refine valuesOf_putAll_self.trans ?_
    rw [valuesOf_delete_self, Finset.empty_union]
  · next hid => exact (valuesOf_putAll_of_ne hid).trans (valuesOf_delete_of_ne hid)

/-- **It reports** a device that had addresses, and no other. -/
theorem reported_announce_iff : Reported h (h.announce deviceId deviceAddresses) other ↔
    other = deviceId ∧ h.getDeviceAddresses deviceId ≠ ∅ := by
  have hposted : (h.announce deviceId deviceAddresses).posted =
      h.posted ++ (.messageReceived deviceId deviceAddresses ::
        if h.getDeviceAddresses deviceId = ∅ then [] else [.newLocalPeer deviceId]) := by
    by_cases hempty : h.getDeviceAddresses deviceId = ∅
    · rw [if_pos hempty]
      change h.posted ++ _ ++ (if (!decide (h.getDeviceAddresses deviceId = ∅)) =
        true then _ else _) = _
      rw [decide_eq_true hempty, List.append_assoc]
      rfl
    · rw [if_neg hempty]
      change h.posted ++ _ ++ (if (!decide (h.getDeviceAddresses deviceId = ∅)) =
        true then _ else _) = _
      rw [decide_eq_false hempty, List.append_assoc]
      rfl
  unfold Reported
  rw [hposted, List.drop_left]
  split
  · next hempty =>
    refine iff_of_false (fun hmem => ?_) fun hand => hand.2 hempty
    cases List.mem_singleton.1 hmem
  · next hne =>
    constructor
    · intro hmem
      rcases List.mem_cons.1 hmem with heq | hmem
      · cases heq
      · exact ⟨LocalDiscoveryEvent.newLocalPeer.inj (List.mem_singleton.1 hmem), hne⟩
    · rintro ⟨rfl, -⟩
      exact List.mem_cons_of_mem _ List.mem_cons_self

/-! ## Runs -/

variable [Guava] [Protobuf LocalDiscoveryProtos.Announce]

/-- The announces of other devices among some datagrams, in order. -/
def announces (ownId : String) (ds : List DatagramPacket) : List (String × List DeviceAddress) :=
  (ds.filterMap fun d => (announced d).toOption).filter fun a => a.1 ≠ ownId

/-- The addresses of the latest announce of a device. -/
def latest (ownId deviceId : String) (ds : List DatagramPacket) : Option (List DeviceAddress) :=
  (((announces ownId ds).filter fun a => a.1 = deviceId).getLast?).map Prod.snd

/-- An announce of another device is recorded. -/
theorem receive_of_announced (hread : announced d.received = .ok (deviceId, deviceAddresses))
    (hother : deviceId ≠ h.deviceId) : h.receive d = h.announce deviceId deviceAddresses := by
  unfold receive
  rw [hread]
  exact if_neg hother

/-- Any other datagram is passed over. -/
theorem receive_of_not_announced (hnot : ∀ deviceId deviceAddresses,
    announced d.received = .ok (deviceId, deviceAddresses) → deviceId = h.deviceId) :
    h.receive d = h := by
  unfold receive
  split
  · next deviceId deviceAddresses hread => rw [if_pos (hnot deviceId deviceAddresses hread)]
  · rfl

/-- What was heard of a device: the addresses of its latest announce among
the datagrams as they were received. -/
def heard (ownId deviceId : String) (ds : List DatagramPacket) : List DeviceAddress :=
  (latest ownId deviceId (ds.map DatagramPacket.received)).getD []

/-- An announce of another device is one more. -/
theorem announces_concat (hread : announced d = .ok (deviceId, deviceAddresses))
    (hother : deviceId ≠ ownId) :
    announces ownId (ds ++ [d]) = announces ownId ds ++ [(deviceId, deviceAddresses)] := by
  have hsome : (announced d).toOption = some (deviceId, deviceAddresses) := by
    rw [hread]
    rfl
  unfold announces
  rw [List.filterMap_append, List.filter_append]
  refine congrArg _ ?_
  simp only [List.filterMap_cons, hsome, List.filterMap_nil]
  rw [List.filter_cons_of_pos (by simpa using hother), List.filter_nil]

/-- A datagram that is no announce of another device is none. -/
theorem announces_concat_of_not (hnot : ∀ deviceId deviceAddresses,
    announced d = .ok (deviceId, deviceAddresses) → deviceId = ownId) :
    announces ownId (ds ++ [d]) = announces ownId ds := by
  unfold announces
  rw [List.filterMap_append, List.filter_append]
  refine List.append_right_eq_self.2 (List.filter_eq_nil_iff.2 fun a ha => ?_)
  obtain ⟨d', hd', hread⟩ := List.mem_filterMap.1 ha
  rw [List.mem_singleton.1 hd'] at hread
  rcases hannounced : announced d with e | a'
  · rw [hannounced] at hread
    cases hread
  · rw [hannounced] at hread
    obtain rfl := Option.some.inj hread
    simp only [hnot _ _ hannounced, ne_eq, not_true_eq_false, decide_false, Bool.false_eq_true,
      not_false_eq_true]

/-- The last announce of a device counts. -/
theorem latest_concat (hread : announced d = .ok (deviceId, deviceAddresses))
    (hother : deviceId ≠ ownId) :
    latest ownId other (ds ++ [d]) = if other = deviceId then some deviceAddresses
      else latest ownId other ds := by
  unfold latest
  rw [announces_concat hread hother, List.filter_append]
  split
  · next hid =>
    rw [List.filter_cons_of_pos (by simpa using hid.symm), List.filter_nil, List.getLast?_append]
    rfl
  · next hid =>
    rw [List.filter_cons_of_neg (by simpa using Ne.symm hid), List.filter_nil, List.append_nil]

/-- An announce is heard in the place of the one before. -/
theorem heard_concat (hread : announced d.received = .ok (deviceId, deviceAddresses))
    (hother : deviceId ≠ ownId) :
    heard ownId other (ds ++ [d]) = if other = deviceId then deviceAddresses
      else heard ownId other ds := by
  unfold heard
  rw [List.map_append, List.map_singleton, latest_concat hread hother]
  split
  · rfl
  · rfl

/-- A datagram that is no announce of another device changes nothing that
was heard. -/
theorem heard_concat_of_not (hnot : ∀ deviceId deviceAddresses,
    announced d.received = .ok (deviceId, deviceAddresses) → deviceId = ownId) :
    heard ownId other (ds ++ [d]) = heard ownId other ds := by
  unfold heard latest
  rw [List.map_append, List.map_singleton, announces_concat_of_not hnot]

/-- **The records** are those of the latest announces heard. -/
theorem getDeviceAddresses_of_reaches (hrun : (listening ownId).Reaches ds h) :
    h.deviceId = ownId ∧ ∀ deviceId, h.getDeviceAddresses deviceId =
      (heard ownId deviceId ds).toFinset := by
  refine hrun.invariant (I := fun ds h => h.deviceId = ownId ∧
    ∀ deviceId, h.getDeviceAddresses deviceId = (heard ownId deviceId ds).toFinset) ?_ ?_
  · rintro h rfl
    refine ⟨rfl, fun deviceId => ?_⟩
    unfold getDeviceAddresses valuesOf
    rw [Table.find_empty]
    rfl
  · rintro ds h d h' - ⟨hown, hrecords⟩ - hstep
    obtain rfl := Option.some.inj hstep
    by_cases hannounce : ∃ deviceId deviceAddresses,
        announced d.received = .ok (deviceId, deviceAddresses) ∧ deviceId ≠ h.deviceId
    · obtain ⟨deviceId, deviceAddresses, hread, hother⟩ := hannounce
      rw [receive_of_announced hread hother]
      refine ⟨hown, fun other => ?_⟩
      rw [getDeviceAddresses_announce, heard_concat hread (hown ▸ hother)]
      split
      · rfl
      · exact hrecords other
    · have hnot : ∀ deviceId deviceAddresses,
          announced d.received = .ok (deviceId, deviceAddresses) →
          deviceId = h.deviceId := fun deviceId deviceAddresses hread =>
        Decidable.not_not.1 fun hother => hannounce ⟨deviceId, deviceAddresses, hread, hother⟩
      rw [receive_of_not_announced hnot]
      refine ⟨hown, fun other => ?_⟩
      rw [hrecords other, heard_concat_of_not (hown ▸ hnot)]

/-! ## When an announce is handled as it should be -/

/-- An announce is handled as it should be: its device is reported exactly
where it is the first of the device, its addresses are recorded, and those
of the others are as before. -/
structure IsRight (ownId : String) (ds : List DatagramPacket) (h h' : LocalDiscorveryHandler)
    (deviceId : String) (deviceAddresses : List DeviceAddress) : Prop where
  reported_iff : ∀ other, Reported h h' other ↔ other = deviceId ∧ latest ownId other ds = none
  addresses : h'.getDeviceAddresses deviceId = deviceAddresses.toFinset
  others : ∀ other, other ≠ deviceId → h'.getDeviceAddresses other = h.getDeviceAddresses other

/-- The device was announced before, and these addresses are what was heard
of it. -/
def Repeats (ownId : String) (ds : List DatagramPacket) (deviceId : String)
    (deviceAddresses : List DeviceAddress) : Prop :=
  latest ownId deviceId ds ≠ none ∧ (heard ownId deviceId ds).toFinset = deviceAddresses.toFinset

/-- What is read of the announce, as received, has its addresses, and
addresses were heard of the device before exactly if it was not announced;
or what is read changes nothing, and nothing is to be changed. -/
def ReadsRight (ownId : String) (ds : List DatagramPacket) (d : DatagramPacket) (deviceId : String)
    (deviceAddresses : List DeviceAddress) : Prop :=
  match announced d.received with
  | .ok (readId, readAddresses) =>
    if readId = ownId then Repeats ownId ds deviceId deviceAddresses
    else if readId = deviceId then
      readAddresses.toFinset = deviceAddresses.toFinset ∧
        (heard ownId deviceId ds ≠ [] ↔ latest ownId deviceId ds = none)
    else readAddresses = [] ∧ heard ownId readId ds = [] ∧ Repeats ownId ds deviceId deviceAddresses
  | .error _ => Repeats ownId ds deviceId deviceAddresses

/-- A datagram that is passed over is right where it has nothing new. -/
theorem isRight_self_iff (hrecords : ∀ deviceId,
    h.getDeviceAddresses deviceId = (heard ownId deviceId ds).toFinset) :
    IsRight ownId ds h h deviceId deviceAddresses ↔ Repeats ownId ds deviceId deviceAddresses := by
  have hnone : ∀ other, ¬ Reported h h other := by
    intro other hreported
    rw [Reported, List.drop_length] at hreported
    cases hreported
  constructor
  · intro hright
    exact ⟨fun hnew => hnone deviceId ((hright.reported_iff deviceId).2 ⟨rfl, hnew⟩),
      (hrecords deviceId).symm.trans hright.addresses⟩
  · rintro ⟨hknown, hsame⟩
    refine ⟨fun other => iff_of_false (hnone other) ?_, (hrecords deviceId).trans hsame,
      fun _ _ => rfl⟩
    rintro ⟨rfl, hnew⟩
    exact hknown hnew

/-- A repeated announce is reported where the device had been heard. -/
theorem reported_announce_iff_heard (hrecords : ∀ deviceId,
    h.getDeviceAddresses deviceId = (heard ownId deviceId ds).toFinset) {readId : String}
    {readAddresses : List DeviceAddress} :
    Reported h (h.announce readId readAddresses) other ↔
      other = readId ∧ heard ownId readId ds ≠ [] := by
  rw [reported_announce_iff, hrecords, Ne, List.toFinset_eq_empty_iff]

/-- An announce of the device itself is right where it is read in full, and
the device is reported exactly if it is new. -/
theorem isRight_announce_iff (hrecords : ∀ deviceId,
    h.getDeviceAddresses deviceId = (heard ownId deviceId ds).toFinset)
    {readAddresses : List DeviceAddress} :
    IsRight ownId ds h (h.announce deviceId readAddresses) deviceId deviceAddresses ↔
      readAddresses.toFinset = deviceAddresses.toFinset ∧
        (heard ownId deviceId ds ≠ [] ↔ latest ownId deviceId ds = none) := by
  have haddresses : (h.announce deviceId readAddresses).getDeviceAddresses deviceId =
      readAddresses.toFinset := by rw [getDeviceAddresses_announce, if_pos rfl]
  constructor
  · intro hright
    refine ⟨haddresses.symm.trans hright.addresses, ?_⟩
    have hiff := hright.reported_iff deviceId
    rw [reported_announce_iff_heard hrecords] at hiff
    simpa using hiff
  · rintro ⟨hsame, hiff⟩
    refine ⟨fun other => ?_, haddresses.trans hsame, fun other hne => ?_⟩
    · rw [reported_announce_iff_heard hrecords]
      constructor
      · rintro ⟨rfl, hne⟩
        exact ⟨rfl, hiff.1 hne⟩
      · rintro ⟨rfl, hnone⟩
        exact ⟨rfl, hiff.2 hnone⟩
    · rw [getDeviceAddresses_announce, if_neg hne]

/-- What is read as an announce of another device is right where it changes
nothing. -/
theorem isRight_announce_other_iff (hrecords : ∀ deviceId,
    h.getDeviceAddresses deviceId = (heard ownId deviceId ds).toFinset) {readId : String}
    {readAddresses : List DeviceAddress} (hne : readId ≠ deviceId) :
    IsRight ownId ds h (h.announce readId readAddresses) deviceId deviceAddresses ↔
      readAddresses = [] ∧ heard ownId readId ds = [] ∧
      Repeats ownId ds deviceId deviceAddresses := by
  have hkept : (h.announce readId readAddresses).getDeviceAddresses deviceId =
      (heard ownId deviceId ds).toFinset := by
    rw [getDeviceAddresses_announce, if_neg hne.symm, hrecords]
  have hread : (h.announce readId readAddresses).getDeviceAddresses readId =
      readAddresses.toFinset := by rw [getDeviceAddresses_announce, if_pos rfl]
  constructor
  · intro hright
    have hheard : heard ownId readId ds = [] := by
      by_contra hsome
      exact hne ((hright.reported_iff readId).1
        ((reported_announce_iff_heard hrecords).2 ⟨rfl, hsome⟩)).1
    refine ⟨?_, hheard, fun hnone => ?_, hkept.symm.trans hright.addresses⟩
    · have hsame := hright.others readId hne
      rw [hread, hrecords, hheard, List.toFinset_nil] at hsame
      exact List.toFinset_eq_empty_iff _ |>.1 hsame
    · have hreported := (hright.reported_iff deviceId).2 ⟨rfl, hnone⟩
      exact hne ((reported_announce_iff_heard hrecords).1 hreported).1.symm
  · rintro ⟨rfl, hheard, hknown, hsame⟩
    refine ⟨fun other => iff_of_false ?_ ?_, hkept.trans hsame, fun other _ => ?_⟩
    · intro hreported
      exact ((reported_announce_iff_heard hrecords).1 hreported).2 hheard
    · rintro ⟨rfl, hnone⟩
      exact hknown hnone
    · rw [getDeviceAddresses_announce]
      split
      · next heq => rw [heq, hrecords, hheard]
      · rfl

omit [Guava] [Protobuf LocalDiscoveryProtos.Announce] in
/-- A datagram that fits the buffer is received as it is. -/
theorem received_of_fits (hfits : d.data.length ≤ incomingBufferSize) : d.received = d := by
  unfold DatagramPacket.received
  rw [List.take_of_length_le hfits]

/-- Where all fit, what was heard is the last announce. -/
theorem heard_of_fits (hfits : ∀ d ∈ ds, d.data.length ≤ incomingBufferSize) :
    heard ownId deviceId ds = (latest ownId deviceId ds).getD [] := by
  have hsame : ds.map DatagramPacket.received = ds := by
    rw [List.map_congr_left fun d hd => received_of_fits (hfits d hd), List.map_id']
  rw [heard, hsame]

/-- **When an announce is handled as it should be**: when it is read in
full, and addresses were heard of its device exactly if it was not
announced before, or it has nothing new. Where every datagram fits the
buffer: when the announce before it was without addresses. -/
theorem announce_right_iff {h' : LocalDiscorveryHandler} (hrun : (listening ownId).Reaches ds h)
    (hread : announced d = .ok (deviceId, deviceAddresses)) (hother : deviceId ≠ ownId)
    (hstep : (listening ownId).step h d h') :
    (IsRight ownId ds h h' deviceId deviceAddresses ↔
      ReadsRight ownId ds d deviceId deviceAddresses) ∧
      ((∀ d' ∈ ds ++ [d], d'.data.length ≤ incomingBufferSize) →
        (IsRight ownId ds h h' deviceId deviceAddresses ↔ latest ownId deviceId ds = some [])) := by
  obtain ⟨hown, hrecords⟩ := getDeviceAddresses_of_reaches hrun
  obtain rfl := Option.some.inj hstep
  have hright : IsRight ownId ds h (h.receive d) deviceId deviceAddresses ↔
      ReadsRight ownId ds d deviceId deviceAddresses := by
    unfold ReadsRight receive
    rcases announced d.received with ex | ⟨readId, readAddresses⟩
    · exact isRight_self_iff hrecords
    · dsimp only
      rw [hown]
      by_cases hself : readId = ownId
      · rw [if_pos hself, if_pos hself]
        exact isRight_self_iff hrecords
      · rw [if_neg hself, if_neg hself]
        by_cases hsame : readId = deviceId
        · rw [if_pos hsame, hsame]
          exact isRight_announce_iff hrecords
        · rw [if_neg hsame]
          exact isRight_announce_other_iff hrecords hsame
  refine ⟨hright, fun hfits => hright.trans ?_⟩
  have hreceived : announced d.received = .ok (deviceId, deviceAddresses) := by
    rw [received_of_fits (hfits d (List.mem_append_right _ (List.mem_singleton_self d))), hread]
  unfold ReadsRight
  rw [hreceived]
  dsimp only
  rw [if_neg hother, if_pos rfl, heard_of_fits fun d' hd' => hfits d' (List.mem_append_left _ hd')]
  rcases latest ownId deviceId ds with _ | _ | ⟨a, as⟩
  · simp
  · simp
  · simp

end LocalDiscorveryHandler

end Announces

/-! ## Sample announces -/

section Sample

open LocalDiscorveryHandler

attribute [local instance] Sample.guavaOfBase32

/-- An announce serialised: the id, and an address if there is one. -/
def bytesOfAnnounce (announce : LocalDiscoveryProtos.Announce) : Bytes :=
  [0x0a, 0x20] ++ announce.id ++ announce.addresses.flatMap fun address =>
    [0x12, UInt8.ofNat address.length] ++ getBytes address

def emptyAnnounce : LocalDiscoveryProtos.Announce := { id := Sample.zeroHash }

def oneAddress : LocalDiscoveryProtos.Announce :=
  { id := Sample.zeroHash, addresses := ["tcp://:22000"] }

/-- The parser, where it reads one of the two. -/
@[reducible] def announceProtobuf : Protobuf LocalDiscoveryProtos.Announce where
  toByteArray := bytesOfAnnounce
  parseFrom bytes :=
    if bytes = bytesOfAnnounce emptyAnnounce then some emptyAnnounce
    else if bytes = bytesOfAnnounce oneAddress then some oneAddress
    else none

attribute [local instance] announceProtobuf

def packetOf (announce : LocalDiscoveryProtos.Announce) : DatagramPacket where
  hostAddress := "10.0.0.2"
  data := [0x2e, 0xa7, 0xd9, 0x0b] ++ bytesOfAnnounce announce

def announcingId : String := "AAAAAAA-AAAAAAA-AAAAAAA-AAAAAAA-AAAAAAA-AAAAAAA-AAAAAAA-AAAAAAA"

/-- The sample's datagram announces one address. -/
theorem announced_oneAddress : announced (packetOf oneAddress) =
    .ok (announcingId, [{ deviceId := announcingId, address := "tcp://10.0.0.2:22000" }]) := by
  decide +kernel

/-- The device that sends it has an id. -/
theorem announcingId_ne : announcingId ≠ "" := by decide

/-- The handler of a device that has no id yet. -/
def newHandler : LocalDiscorveryHandler := { deviceId := "" }

/-- An announce is right after one without addresses. -/
theorem announce_right_iff_sample :
    IsRight "" [packetOf emptyAnnounce] (newHandler.receive (packetOf emptyAnnounce))
      ((newHandler.receive (packetOf emptyAnnounce)).receive (packetOf oneAddress)) announcingId
      [{ deviceId := announcingId, address := "tcp://10.0.0.2:22000" }] := by
  have hstart : (listening "").Reaches [] newHandler := Machine.Run.start rfl
  have hrun : (listening "").Reaches [packetOf emptyAnnounce]
      (newHandler.receive (packetOf emptyAnnounce)) :=
    hstart.step trivial rfl
  have hright := (announce_right_iff hrun announced_oneAddress announcingId_ne rfl).2
  exact (hright (by decide +kernel)).2 (by decide +kernel)

/-- **The first announce of a device is not reported**, and the second is. -/
theorem first_announce_is_not_reported :
    (listening "").Reaches [packetOf oneAddress] (newHandler.receive (packetOf oneAddress)) ∧
      announced (packetOf oneAddress) =
        .ok (announcingId, [{ deviceId := announcingId, address := "tcp://10.0.0.2:22000" }]) ∧
      ¬ Reported newHandler (newHandler.receive (packetOf oneAddress)) announcingId ∧
      Reported (newHandler.receive (packetOf oneAddress))
        ((newHandler.receive (packetOf oneAddress)).receive (packetOf oneAddress))
          announcingId := by
  have hstart : (listening "").Reaches [] newHandler := Machine.Run.start rfl
  exact ⟨hstart.step trivial rfl, announced_oneAddress, by decide +kernel, by decide +kernel⟩

end Sample

end Discovery

end ASync
