import ASync.Discovery.Model.AddressRanker
/-!
# What the ranker makes of a list of addresses

The addresses that answer come out, each once, and so do the HTTP relays
they name: those of devices first, then those of relays, then those of
HTTP relays, and among the addresses of a kind the quickest first. Behind
it is that a connection is made within its timeout or not at all, and that
the base scores are further apart than that.
-/

namespace ASync

namespace Discovery

open ASync.Core AddressRanker

variable {α : Type} {network : Network α} {a b x y : DeviceAddress}
variable {res list : List DeviceAddress}

/-! ## A set of addresses -/

/-- Two addresses are equal by device and address; scores do not count. -/
theorem equals_iff : a.equals b = true ↔ a.deviceId = b.deviceId ∧ a.address = b.address :=
  decide_eq_true_iff

/-- An address is equal to itself. -/
theorem equals_self (a : DeviceAddress) : a.equals a = true := equals_iff.2 ⟨rfl, rfl⟩

/-- Being equal goes both ways. -/
theorem equals_comm : a.equals b = b.equals a := by
  rw [Bool.eq_iff_iff, equals_iff, equals_iff]
  exact and_congr eq_comm eq_comm

/-- No two addresses are equal. -/
def Distinct (res : List DeviceAddress) : Prop := res.Pairwise fun a b => a.equals b = false

/-- An address is added once. -/
theorem distinct_add (h : Distinct res) (a : DeviceAddress) :
    Distinct (addDeviceAddress res a) := by
  rw [addDeviceAddress]
  split_ifs with hany
  · exact h
  · refine List.pairwise_append.2 ⟨h, List.pairwise_singleton .., fun b hb c hc => ?_⟩
    rw [List.mem_singleton.1 hc, equals_comm]
    by_contra heq
    exact hany (List.any_eq_true.2 ⟨b, hb, by simpa using heq⟩)

/-- What was added is there, or equal to what was there before. -/
theorem exists_mem_add (res : List DeviceAddress) (a : DeviceAddress) :
    ∃ y ∈ addDeviceAddress res a, a.equals y = true := by
  rw [addDeviceAddress]
  split_ifs with hany
  · obtain ⟨y, hy, heq⟩ := List.any_eq_true.1 hany
    exact ⟨y, hy, heq⟩
  · exact ⟨a, List.mem_append_right _ (List.mem_singleton_self a), equals_self a⟩

/-- Adding an address takes none away. -/
theorem subset_add (res : List DeviceAddress) (a : DeviceAddress) :
    res ⊆ addDeviceAddress res a := by
  rw [addDeviceAddress]
  split_ifs
  · exact List.Subset.refl _
  · exact List.subset_append_left ..

/-- Adding an address brings no other. -/
theorem mem_add (h : x ∈ addDeviceAddress res a) : x ∈ res ∨ x = a := by
  rw [addDeviceAddress] at h
  split_ifs at h
  · exact .inl h
  · exact (List.mem_append.1 h).imp_right List.mem_singleton.1

/-! ## Preparing the list -/

/-- One round of the loop: the HTTP relay an address names, and the
address. -/
def addBoth (network : Network α) (res : List DeviceAddress) (a : DeviceAddress) :
    List DeviceAddress :=
  addDeviceAddress ((httpRelayAddress network a).elim res (addDeviceAddress res)) a

/-- Each address is added in turn, with the one it yields. -/
theorem preprocessDeviceAddresses_eq (list : List DeviceAddress) :
    preprocessDeviceAddresses network list = list.foldl (addBoth network) [] := rfl

/-- An address, or the HTTP relay it names. -/
def Yields (network : Network α) (a x : DeviceAddress) : Prop :=
  x = a ∨ httpRelayAddress network a = some x

/-- The two are added once each. -/
theorem distinct_addBoth (h : Distinct res) (a : DeviceAddress) :
    Distinct (addBoth network res a) := by
  rw [addBoth]
  rcases httpRelayAddress network a with _ | relay
  · exact distinct_add h a
  · exact distinct_add (distinct_add h relay) a

/-- The two take none away. -/
theorem subset_addBoth (res : List DeviceAddress) (a : DeviceAddress) :
    res ⊆ addBoth network res a := by
  rw [addBoth]
  rcases httpRelayAddress network a with _ | relay
  · exact subset_add res a
  · exact List.Subset.trans (subset_add res relay) (subset_add _ a)

/-- They bring no other. -/
theorem mem_addBoth (h : x ∈ addBoth network res a) : x ∈ res ∨ Yields network a x := by
  rw [addBoth] at h
  rcases mem_add h with hmem | rfl
  · rcases hrelay : httpRelayAddress network a with _ | relay
    · rw [hrelay] at hmem
      exact .inl hmem
    · rw [hrelay] at hmem
      rcases mem_add hmem with hold | rfl
      · exact .inl hold
      · exact .inr (.inr hrelay)
  · exact .inr (.inl rfl)

/-- What an address yields is there, as an equal one. -/
theorem exists_mem_addBoth (res : List DeviceAddress) (h : Yields network a x) :
    ∃ y ∈ addBoth network res a, x.equals y = true := by
  rcases h with rfl | hrelay
  · exact exists_mem_add _ x
  · obtain ⟨y, hy, heq⟩ := exists_mem_add res x
    refine ⟨y, ?_, heq⟩
    rw [addBoth, hrelay]
    exact subset_add _ a hy

variable (network) in
/-- The loop from where it stands: nothing is lost, what comes in is of the
list, and all of the list comes in. -/
theorem foldl_addBoth (list res : List DeviceAddress) (hres : Distinct res) :
    Distinct (list.foldl (addBoth network) res) ∧
    res ⊆ list.foldl (addBoth network) res ∧
    (∀ x ∈ list.foldl (addBoth network) res, x ∈ res ∨ ∃ a ∈ list, Yields network a x) ∧
    ∀ a ∈ list, ∀ x, Yields network a x →
      ∃ y ∈ list.foldl (addBoth network) res, x.equals y = true := by
  induction list generalizing res with
  | nil => exact ⟨hres, List.Subset.refl _, fun x hx => .inl hx, fun a ha => by cases ha⟩
  | cons b list ih =>
    obtain ⟨hdistinct, hsub, hfrom, hall⟩ := ih (addBoth network res b) (distinct_addBoth hres b)
    rw [List.foldl_cons]
    refine ⟨hdistinct, List.Subset.trans (subset_addBoth res b) hsub, fun x hx => ?_,
      fun a ha x hyields => ?_⟩
    · rcases hfrom x hx with hmem | ⟨a, ha, hyields⟩
      · rcases mem_addBoth hmem with hold | hyields
        · exact .inl hold
        · exact .inr ⟨b, List.mem_cons_self, hyields⟩
      · exact .inr ⟨a, List.mem_cons_of_mem b ha, hyields⟩
    · rcases List.mem_cons.1 ha with rfl | hrest
      · obtain ⟨y, hy, heq⟩ := exists_mem_addBoth res hyields
        exact ⟨y, hsub hy, heq⟩
      · exact hall a hrest x hyields

/-! ## Testing -/

/-- The kinds of addresses, in the order of preference. -/
def kind (a : DeviceAddress) : ℕ :=
  match DeviceAddress.getType a.address with
  | .TCP => 0
  | .RELAY => 1
  | .HTTP_RELAY | .HTTPS_RELAY => 2
  | .OTHER | .NULL => 3

/-- An address that is kept answered, and scores its ping and its type. -/
theorem testAndRankAddress_eq_some (h : testAndRankAddress network x = some a) :
    ∃ ping baseScore, BASE_SCORE_MAP (DeviceAddress.getType x.address) = some baseScore ∧
      0 ≤ ping ∧ (∃ socketAddress, ping = network.testTcpConnection socketAddress) ∧
      a = { x with score := ping + baseScore } := by
  rw [testAndRankAddress, Option.bind_eq_bind, Option.bind_eq_some_iff] at h
  obtain ⟨baseScore, hbase, h⟩ := h
  rw [Option.bind_eq_bind, Option.bind_eq_some_iff] at h
  obtain ⟨socketAddress, -, h⟩ := h
  dsimp only at h
  split_ifs at h with hping
  exact ⟨_, baseScore, hbase, not_lt.1 hping, ⟨socketAddress, rfl⟩, (Option.some.inj h).symm⟩

/-- Equal addresses have one outcome. -/
theorem await_congr (h : a.equals b = true) : await network a = await network b := by
  obtain ⟨hid, haddress⟩ := equals_iff.1 h
  rw [await, await, testAndRankAddress, testAndRankAddress, hid, haddress]

/-- An outcome is the address that was tested but for the score. -/
theorem equals_of_await (h : await network x = some a) : x.equals a = true := by
  rw [await] at h
  split_ifs at h
  obtain ⟨ping, baseScore, -, -, -, rfl⟩ := testAndRankAddress_eq_some h
  exact equals_iff.2 ⟨rfl, rfl⟩

/-- Connections take less than twice the timeout they are given. -/
def Network.IsQuick (network : Network α) : Prop :=
  ∀ socketAddress, network.testTcpConnection socketAddress < 2 * TCP_CONNECTION_TIMEOUT

/-- **The score tells the kind**: it lies between the base score of its
kind and that of the next. -/
theorem score_of_await (hquick : network.IsQuick) (h : await network x = some a) :
    (kind a = 0 ∧ 0 ≤ a.score ∧ a.score < 2000) ∨
    (kind a = 1 ∧ 2000 ≤ a.score ∧ a.score < 4000) ∨
    (kind a = 2 ∧ 2000000 ≤ a.score ∧ a.score < 2002000) := by
  rw [await] at h
  split_ifs at h
  obtain ⟨ping, baseScore, hbase, hpos, ⟨socketAddress, rfl⟩, rfl⟩ := testAndRankAddress_eq_some h
  have hlt := hquick socketAddress
  rw [TCP_CONNECTION_TIMEOUT] at hlt
  unfold kind
  dsimp only
  rcases htype : DeviceAddress.getType x.address with _ | _ | _ | _ | _ | _
  all_goals
    rw [htype, BASE_SCORE_MAP] at hbase
    simp only [TCP_CONNECTION_TIMEOUT, Option.some.injEq, reduceCtorEq] at hbase
  · refine .inl ⟨rfl, ?_⟩
    omega
  · refine .inr (.inl ⟨rfl, ?_⟩)
    omega
  · refine .inr (.inr ⟨rfl, ?_⟩)
    omega
  · refine .inr (.inr ⟨rfl, ?_⟩)
    omega

/-! ## The ranked list -/

/-- Those kept are the ones of the preprocessed list that answered. -/
theorem mem_testAndRank : a ∈ testAndRank network list ↔
    ∃ x ∈ preprocessDeviceAddresses network list, await network x = some a := by
  rw [testAndRank, Comparator.mem_sort, List.mem_filterMap]

/-- **Ranking**: what comes out are the addresses of the list that answer,
and the HTTP relays they name that do; no two are equal; all of them work;
and they stand in the order of their kinds, and among those of a kind in
the order of the time they took. -/
theorem testAndRank_ranks (hquick : network.IsQuick) (list : List DeviceAddress) :
    (∀ a, a ∈ testAndRank network list ↔
      ∃ b ∈ list, ∃ x, Yields network b x ∧ await network x = some a) ∧
    Distinct (testAndRank network list) ∧
    (∀ a ∈ testAndRank network list, a.isWorking = true) ∧
    (testAndRank network list).Pairwise fun a b =>
      kind a < kind b ∨ kind a = kind b ∧ a.score ≤ b.score := by
  obtain ⟨hdistinct, -, hfrom, hall⟩ := foldl_addBoth network list [] List.Pairwise.nil
  rw [← preprocessDeviceAddresses_eq] at hdistinct hfrom hall
  have hscore : ∀ a ∈ testAndRank network list, ∃ x, await network x = some a := by
    intro a ha
    obtain ⟨x, -, hx⟩ := mem_testAndRank.1 ha
    exact ⟨x, hx⟩
  refine ⟨fun a => ⟨fun ha => ?_, ?_⟩, ?_, fun a ha => ?_, ?_⟩
  · obtain ⟨x, hmem, hx⟩ := mem_testAndRank.1 ha
    rcases hfrom x hmem with hnil | ⟨b, hb, hyields⟩
    · cases hnil
    · exact ⟨b, hb, x, hyields, hx⟩
  · rintro ⟨b, hb, x, hyields, hx⟩
    obtain ⟨y, hy, heq⟩ := hall b hb x hyields
    exact mem_testAndRank.2 ⟨y, hy, (await_congr heq).symm.trans hx⟩
  · -- equal addresses come of equal addresses, which the list has once
    have hranked :
        Distinct ((preprocessDeviceAddresses network list).filterMap (await network)) := by
      refine List.Pairwise.filterMap _ ?_ hdistinct
      intro x y hxy a ha b hb
      obtain ⟨hida, hadda⟩ := equals_iff.1 (equals_of_await ha)
      obtain ⟨hidb, haddb⟩ := equals_iff.1 (equals_of_await hb)
      by_contra heq
      obtain ⟨hid, hadd⟩ := equals_iff.1 (by simpa using heq)
      have hequal := equals_iff.2 ⟨(hida.trans hid).trans hidb.symm,
        (hadda.trans hadd).trans haddb.symm⟩
      rw [hxy] at hequal
      cases hequal
    refine (Comparator.sort_perm _ _).symm.pairwise hranked ?_
    intro x y hxy
    rw [equals_comm]
    exact hxy
  · obtain ⟨x, hx⟩ := hscore a ha
    have hbounds := score_of_await hquick hx
    -- a quick network keeps every score below that of an address that does not work
    refine decide_eq_true ?_
    omega
  · have hsorted := Comparator.sorted_sort (Comparator.on compare DeviceAddress.score)
      ((preprocessDeviceAddresses network list).filterMap (await network))
    refine List.Pairwise.imp_of_mem (fun {a b} ha hb hle => ?_) hsorted
    obtain ⟨x, hx⟩ := hscore a ha
    obtain ⟨y, hy⟩ := hscore b hb
    have hle' : a.score ≤ b.score := Int.isLE_compare.1 hle
    have hbounds := score_of_await hquick hx
    -- each kind has a range of scores of its own
    have hbounds' := score_of_await hquick hy
    omega

/-- A network where two hosts answer, one of them the HTTP relay that the
address of the other names. -/
def sampleNetwork : Network ℕ where
  getUriParam address key :=
    if key = "httpUrl" ∧ address = "relay://a:1/?httpUrl=http://b:2" then some "http://b:2"
      else none
  getByName name := if name = "a" then some 1 else if name = "b" then some 2 else none
  testTcpConnection socketAddress := if socketAddress.2 = 9 then -1 else 5
  isLate _ _ := false

def sampleAddresses : List DeviceAddress :=
  [⟨"x", "relay://a:1/?httpUrl=http://b:2", 0⟩, ⟨"x", "tcp://b:9", 0⟩, ⟨"x", "tcp://b:3", 0⟩,
    ⟨"x", "tcp://b:3", 7⟩, ⟨"x", "quic://b:3", 0⟩]

/-- The sample's network answers in time. -/
theorem isQuick_sampleNetwork : sampleNetwork.IsQuick := by
  intro socketAddress
  change (if socketAddress.2 = 9 then -1 else 5) < 2 * TCP_CONNECTION_TIMEOUT
  rw [TCP_CONNECTION_TIMEOUT]
  split_ifs <;> omega

/-- A relay that can be reached over HTTP comes in twice. -/
theorem testAndRank_ranks_sample :
    (testAndRank sampleNetwork sampleAddresses).map (fun a => (a.address, a.score)) =
      [("tcp://b:3", 5), ("relay://a:1/?httpUrl=http://b:2", 2005),
        ("relay-http://b:2", 2000005)] ∧
    Distinct (testAndRank sampleNetwork sampleAddresses) ∧
    (testAndRank sampleNetwork sampleAddresses).Pairwise fun a b =>
      kind a < kind b ∨ kind a = kind b ∧ a.score ≤ b.score := by
  obtain ⟨-, hdistinct, -, hranked⟩ := testAndRank_ranks isQuick_sampleNetwork sampleAddresses
  exact ⟨by decide +kernel, hdistinct, hranked⟩

end Discovery

end ASync
