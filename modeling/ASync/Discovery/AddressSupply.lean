import ASync.Discovery.AddressRanking
import ASync.Discovery.Model.DiscoveryHandler
/-!
# What suppliers of addresses give

A supplier registers for events before it goes through the map, and a
thread changes the map before it posts the event. So whatever the order of
their steps, an address that works and is in the map has come to every
supplier that is made, or is on its way to it; unless the database failed
to take it once. And a supplier gives what it has in the order of the
scores.
-/

namespace ASync

namespace Discovery

open ASync.Core AddressRanker

variable {α : Type} {es : List (DiscoveryEvent α)} {event : DiscoveryEvent α}
variable {s s' : DiscoveryHandler} {j n : ℕ} {supplier : DeviceAddressSupplier}
variable {a b : DeviceAddress} {key : String × String} {p next : Processing}

/-! ## On the way to a supplier -/

/-- The thread has put the address into the map, and has yet to hand it to
the supplier. -/
def Processing.Holds (j : ℕ) (a : DeviceAddress) : Processing → Prop
  | .received _ | .filtered _ | .ranked _ => False
  | .updating b _ => b = a
  | .posting b subscribers _ => b = a ∧ j ∈ subscribers

/-- The address is on its way to the supplier. -/
def DiscoveryHandler.Carries (s : DiscoveryHandler) (j : ℕ) (a : DeviceAddress) : Prop :=
  ∃ p ∈ s.processing, p.Holds j a

/-- An event that goes to some suppliers is on its way to each of them. -/
theorem holds_postingTo {subscribers : List ℕ} {list : List DeviceAddress} (h : j ∈ subscribers) :
    (Processing.postingTo a subscribers list).Holds j a := by
  rw [Processing.postingTo, if_neg (List.ne_nil_of_mem h)]
  exact ⟨rfl, h⟩

/-- A thread moves on, and still holds what it held. -/
theorem exists_holds_set {processing : List Processing} (hn : processing[n]? = some p)
    (hkeep : p.Holds j a → next.Holds j a) (h : ∃ q ∈ processing, q.Holds j a) :
    ∃ q ∈ processing.set n next, q.Holds j a := by
  obtain ⟨hlt, hp⟩ := List.getElem?_eq_some_iff.1 hn
  obtain ⟨q, hq, hholds⟩ := h
  obtain ⟨i, hi, rfl⟩ := List.getElem_of_mem hq
  by_cases hin : i = n
  · subst hin
    rw [hp] at hholds
    exact ⟨next, List.mem_set hlt next, hkeep hholds⟩
  · refine ⟨processing[i], List.mem_of_getElem? (i := i) ?_, hholds⟩
    rw [List.getElem?_set_ne (Ne.symm hin), List.getElem?_eq_getElem hi]

/-! ## Nothing is missed -/

/-- The supplier has the address, had it, or is to get it; or the database
did not take it. -/
def Reached (s : DiscoveryHandler) (j : ℕ) (supplier : DeviceAddressSupplier) (a : DeviceAddress) :
    Prop :=
  a ∈ supplier.deviceAddressQueue ∨ a ∈ supplier.polled ∨ s.Carries j a ∨ a ∈ s.failed

/-- The supplier has begun to go through the map, and is not closed. -/
def SupplierStage.hasBegun : SupplierStage → Bool
  | .loading _ _ _ | .ready => true
  | _ => false

/-- The supplier goes through the map, and has taken the address or is to
come to its key. -/
def SupplierStage.Expects (key : String × String) (a : DeviceAddress) : SupplierStage → Prop
  | .loading _ keys taken => key ∈ keys ∨ a ∈ taken
  | _ => False

/-- Every supplier that has begun is reached by every address that works,
or is to come to it in the map. -/
def DiscoveryHandler.Supplies (s : DiscoveryHandler) : Prop :=
  ∀ j supplier, s.suppliers[j]? = some supplier → supplier.stage.hasBegun = true →
    ∀ key a, s.deviceAddressMap.find key = some a → a.isWorking = true →
      supplier.stage.Expects key a ∨ Reached s j supplier a

/-- A thread moves on, with the map and the suppliers as they are. -/
theorem supplies_proceed (h : s.Supplies) (hn : s.processing[n]? = some p)
    (hkeep : ∀ j supplier, s.suppliers[j]? = some supplier → supplier.stage.hasBegun = true →
      ∀ a, p.Holds j a → next.Holds j a) : (s.proceed n next).Supplies := by
  intro j supplier hj hbegun key a hfind hworking
  rcases h j supplier hj hbegun key a hfind hworking
    with hexpects | hq | hpolled | hcarries | hfailed
  · exact .inl hexpects
  · exact .inr (.inl hq)
  · exact .inr (.inr (.inl hpolled))
  · exact .inr (.inr (.inr (.inl (exists_holds_set hn (hkeep j supplier hj hbegun a) hcarries))))
  · exact .inr (.inr (.inr (.inr hfailed)))

theorem supplies_put {list : List DeviceAddress} (h : s.Supplies)
    (hn : s.processing[n]? = some (.ranked (b :: list))) (modCount : ℕ) :
    DiscoveryHandler.Supplies { s.proceed n (.updating b list) with
      deviceAddressMap := s.deviceAddressMap.merge (keyOf b) b, modCount } := by
  intro j supplier hj hbegun key a hfind hworking
  dsimp only at hfind
  rw [Table.find_merge] at hfind
  split_ifs at hfind with hkey
  · -- the thread holds what it has put
    cases hfind
    obtain ⟨hlt, -⟩ := List.getElem?_eq_some_iff.1 hn
    exact .inr (.inr (.inr (.inl ⟨.updating b list, List.mem_set hlt _, rfl⟩)))
  · exact (supplies_proceed h hn fun _ _ _ _ _ hholds => False.elim hholds) j supplier hj hbegun key
      a hfind hworking

theorem mem_subscribers (hj : s.suppliers[j]? = some supplier) (hopen : supplier.stage ≠ .closed) :
    j ∈ s.subscribers := by
  obtain ⟨hlt, -⟩ := List.getElem?_eq_some_iff.1 hj
  refine List.mem_filter.2 ⟨List.mem_range.2 hlt, ?_⟩
  rw [hj]
  simpa using hopen

/-- **The event goes to every supplier that is registered.** -/
theorem supplies_post {list : List DeviceAddress} (h : s.Supplies)
    (hn : s.processing[n]? = some (.updating b list)) :
    (s.proceed n (.postingTo b s.subscribers list)).Supplies := by
  refine supplies_proceed h hn fun j supplier hj hbegun a hholds => ?_
  rw [← show b = a from hholds]
  refine holds_postingTo (mem_subscribers hj fun hclosed => ?_)
  rw [hclosed] at hbegun
  cases hbegun

/-- Suppliers that are not the one that changes are where they were. -/
theorem getElem?_setSupplier (j' : ℕ) (new : DeviceAddressSupplier) :
    (s.setSupplier j' new).suppliers[j]? =
      if j' = j ∧ j < s.suppliers.length then some new else
        if j' = j then none else s.suppliers[j]? := by
  rw [DiscoveryHandler.setSupplier, List.getElem?_set]
  by_cases heq : j' = j
  · subst heq
    by_cases hlt : j' < s.suppliers.length <;> simp [hlt]
  · simp [heq]

/-- **One supplier changes**, so that what had reached it still has. -/
theorem supplies_setSupplier {new : DeviceAddressSupplier} (h : s.Supplies)
    (hnew : new.stage.hasBegun = true → ∀ key a, s.deviceAddressMap.find key = some a →
      a.isWorking = true → new.stage.Expects key a ∨ Reached s j new a) :
    (s.setSupplier j new).Supplies := by
  intro i supplier hi hbegun key a hfind hworking
  rw [getElem?_setSupplier] at hi
  split_ifs at hi with hij hne
  · cases hi
    obtain ⟨rfl, -⟩ := hij
    exact hnew hbegun key a hfind hworking
  · exact h i supplier hi hbegun key a hfind hworking

/-- The database does not take the address, and the thread stops. -/
theorem supplies_updateFails {list : List DeviceAddress} (h : s.Supplies)
    (hn : s.processing[n]? = some (.updating b list)) :
    DiscoveryHandler.Supplies { s.proceed n (.ranked []) with failed := s.failed ++ [b] } := by
  intro j supplier hj hbegun key a hfind hworking
  rcases h j supplier hj hbegun key a hfind hworking
    with hexpects | hq | hpolled | hcarries | hfailed
  · exact .inl hexpects
  · exact .inr (.inl hq)
  · exact .inr (.inr (.inl hpolled))
  · by_cases hab : b = a
    · exact .inr (.inr (.inr (.inr (List.mem_append_right _ (List.mem_singleton.2 hab.symm)))))
    · -- another thread holds it
      exact .inr
        (.inr (.inr (.inl (exists_holds_set hn (fun hholds => absurd hholds hab) hcarries))))
  · exact .inr (.inr (.inr (.inr (List.mem_append_left _ hfailed))))

theorem handleNew_eq (supplier : DeviceAddressSupplier) (hworking : b.isWorking = true) :
    supplier.handleNewDeviceAddressAcquired b =
      { supplier with deviceAddressQueue := b ::ₘ supplier.deviceAddressQueue } := if_pos hworking

theorem stage_handleNew (supplier : DeviceAddressSupplier) (b : DeviceAddress) :
    (supplier.handleNewDeviceAddressAcquired b).stage = supplier.stage := by
  rw [DeviceAddressSupplier.handleNewDeviceAddressAcquired]
  split_ifs <;> rfl

theorem polled_handleNew (supplier : DeviceAddressSupplier) (b : DeviceAddress) :
    (supplier.handleNewDeviceAddressAcquired b).polled = supplier.polled := by
  rw [DeviceAddressSupplier.handleNewDeviceAddressAcquired]
  split_ifs <;> rfl

/-- What the queue has after an event: what it had, and the address where
it works. -/
theorem mem_handleNew : a ∈ (supplier.handleNewDeviceAddressAcquired b).deviceAddressQueue ↔
    (a = b ∧ b.isWorking = true) ∨ a ∈ supplier.deviceAddressQueue := by
  by_cases hworking : b.isWorking = true
  · rw [handleNew_eq supplier hworking, Multiset.mem_cons]
    simp [hworking]
  · rw [DeviceAddressSupplier.handleNewDeviceAddressAcquired, if_neg hworking]
    simp [hworking]

/-- A supplier whose lock is free expects nothing of the map. -/
theorem not_expects {stage : SupplierStage} (hfree : stage.isLocked = false) :
    ¬ stage.Expects key a := by
  intro hexpects
  cases stage with
  | loading => cases hfree
  | registered | ready | failed | closed => exact hexpects

/-- **The event comes to one supplier**, and is still on its way to the
others. -/
theorem supplies_handle {i : ℕ} {subscribers : List ℕ} {list : List DeviceAddress}
    (h : s.Supplies) (hn : s.processing[n]? = some (.posting b subscribers list))
    (hi : s.suppliers[i]? = some supplier) (hfree : supplier.stage.isLocked = false) :
    ((s.setSupplier i (supplier.handleNewDeviceAddressAcquired b)).proceed n
      (.postingTo b (subscribers.erase i) list)).Supplies := by
  intro j new hj hbegun key a hfind hworking
  change (s.setSupplier i _).suppliers[j]? = some new at hj
  rw [getElem?_setSupplier] at hj
  split_ifs at hj with hij hne
  · obtain ⟨rfl, -⟩ := hij
    cases hj
    rw [stage_handleNew] at hbegun
    rcases h i supplier hi hbegun key a hfind hworking
      with hexpects | hq | hpolled | hcarries | hfailed
    · exact absurd hexpects (not_expects hfree)
    · exact .inr (.inl (mem_handleNew.2 (.inr hq)))
    · exact .inr (.inr (.inl (by rw [polled_handleNew]; exact hpolled)))
    · by_cases hab : b = a
      · exact .inr (.inl (mem_handleNew.2 (.inl ⟨hab.symm, hab ▸ hworking⟩)))
      · -- another thread holds it
        exact .inr (.inr (.inr (.inl
          (exists_holds_set hn (fun hholds => absurd hholds.1 hab) hcarries))))
    · exact .inr (.inr (.inr (.inr hfailed)))
  · have hji : j ≠ i := Ne.symm hne
    rcases h j new hj hbegun key a hfind hworking with hexpects | hq | hpolled | hcarries | hfailed
    · exact .inl hexpects
    · exact .inr (.inl hq)
    · exact .inr (.inr (.inl hpolled))
    · refine .inr (.inr (.inr (.inl (exists_holds_set hn (fun hholds => ?_) hcarries))))
      obtain ⟨rfl, hmem⟩ := hholds
      exact holds_postingTo ((List.mem_erase_of_ne hji).2 hmem)
    · exact .inr (.inr (.inr (.inr hfailed)))

theorem mem_workingAt : a ∈ s.workingAt key ↔
    s.deviceAddressMap.find key = some a ∧ a.isWorking = true := by
  rw [DiscoveryHandler.workingAt]
  rcases s.deviceAddressMap.find key with _ | b
  · simp
  · by_cases hworking : b.isWorking = true
    · simp only [hworking, if_true, Multiset.mem_singleton, Option.some.injEq]
      constructor
      · rintro rfl
        exact ⟨rfl, hworking⟩
      · rintro ⟨rfl, -⟩
        rfl
    · dsimp only
      rw [if_neg hworking]
      refine iff_of_false (Multiset.notMem_zero a) ?_
      rintro ⟨hab, ha⟩
      rw [Option.some.inj hab] at hworking
      exact hworking ha

/-- A supplier that begins expects every key of the map. -/
theorem supplies_load {keys : List (String × String)} (h : s.Supplies)
    (hkeys : keys.toFinset = s.deviceAddressMap.keys) :
    (s.setSupplier j { supplier with stage := .loading s.modCount keys 0 }).Supplies := by
  refine supplies_setSupplier h fun _ key a hfind _ => .inl (.inl ?_)
  rw [← List.mem_toFinset, hkeys, Finmap.mem_keys, Finmap.mem_iff]
  exact ⟨a, hfind⟩

/-- **Going through the map** misses nothing, whatever was put meanwhile. -/
theorem supplies_next {new : DeviceAddressSupplier} (h : s.Supplies)
    (hj : s.suppliers[j]? = some supplier) (hnext : s.nextOf supplier = some new) :
    (s.setSupplier j new).Supplies := by
  refine supplies_setSupplier h fun hbegun key a hfind hworking => ?_
  rw [DiscoveryHandler.nextOf] at hnext
  rcases hstage : supplier.stage with _ | ⟨modCount, _ | ⟨key', keys⟩, taken⟩ | _ | _ | _
  all_goals rw [hstage] at hnext
  · cases hnext
  · have hreached := h j supplier hj (by rw [hstage]; rfl) key a hfind hworking
    rw [hstage] at hreached
    cases hnext
    refine .inr ?_
    rcases hreached with (hkey | htaken) | hq | hrest
    · cases hkey
    · exact .inl (Multiset.mem_add.2 (.inr htaken))
    · exact .inl (Multiset.mem_add.2 (.inl hq))
    · exact .inr hrest
  · have hreached := h j supplier hj (by rw [hstage]; rfl) key a hfind hworking
    rw [hstage] at hreached
    dsimp only at hnext
    split_ifs at hnext with hcount
    · cases hnext
      rcases hreached with (hkey | htaken) | hrest
      · rcases List.mem_cons.1 hkey with rfl | hkey
        · exact .inl (.inr (Multiset.mem_add.2 (.inr (mem_workingAt.2 ⟨hfind, hworking⟩))))
        · exact .inl (.inl hkey)
      · exact .inl (.inr (Multiset.mem_add.2 (.inl htaken)))
      · exact .inr hrest
    · cases hnext
      cases hbegun
  · cases hnext
  · cases hnext
  · cases hnext

theorem poll_eq_some {new : DeviceAddressSupplier} (h : supplier.poll b = some new) :
    b ∈ supplier.deviceAddressQueue ∧ (∀ a ∈ supplier.deviceAddressQueue, b.score ≤ a.score) ∧
    new = { supplier with
      deviceAddressQueue := supplier.deviceAddressQueue.erase b
      polled := supplier.polled ++ [b] } := by
  rw [DeviceAddressSupplier.poll] at h
  split_ifs at h with hcond
  exact ⟨hcond.1, hcond.2, (Option.some.inj h).symm⟩

/-- What is polled goes from the queue to what was polled. -/
theorem reached_poll {new : DeviceAddressSupplier} (hpoll : supplier.poll b = some new)
    (h : Reached s j supplier a) : Reached s j new a := by
  obtain ⟨-, -, rfl⟩ := poll_eq_some hpoll
  rcases h with hq | hpolled | hrest
  · by_cases hab : a = b
    · exact .inr (.inl (List.mem_append_right _ (List.mem_singleton.2 hab)))
    · exact .inl ((Multiset.mem_erase_of_ne hab).2 hq)
  · exact .inr (.inl (List.mem_append_left _ hpolled))
  · exact .inr (.inr hrest)

/-! ## One step -/

/-- **What a step is**: it leaves the map and the suppliers, or a thread
moves on, or one supplier changes. -/
inductive Stepped (s : DiscoveryHandler) : DiscoveryEvent α → DiscoveryHandler → Prop
  | process (list : List DeviceAddress) : s.isClosed = false →
      Stepped s (.processDeviceAddressBg list) { s with
        processing := s.processing ++ [.received list] }
  | discard (list : List DeviceAddress) : Stepped s (.processDeviceAddressBg list) s
  | filter {n : ℕ} (peers : List String) {list : List DeviceAddress} :
      s.processing[n]? = some (.received list) →
      Stepped s (.filter n peers) (s.proceed n (.filtered (s.unprocessed peers list)))
  | rank {n : ℕ} (network : Network α) {list : List DeviceAddress} :
      s.processing[n]? = some (.filtered list) →
      Stepped s (.rank n network) (s.proceed n (.ranked (testAndRank network list)))
  | put {n : ℕ} {b : DeviceAddress} {list : List DeviceAddress} :
      s.processing[n]? = some (.ranked (b :: list)) →
      Stepped s (.put n) { s.proceed n (.updating b list) with
        deviceAddressMap := s.deviceAddressMap.merge (keyOf b) b
        modCount := if (s.deviceAddressMap.find (keyOf b)).isSome then s.modCount
          else s.modCount + 1 }
  | post {n : ℕ} {b : DeviceAddress} {list : List DeviceAddress} :
      s.processing[n]? = some (.updating b list) →
      Stepped s (.post n) (s.proceed n (.postingTo b s.subscribers list))
  | updateFails {n : ℕ} {b : DeviceAddress} {list : List DeviceAddress} :
      s.processing[n]? = some (.updating b list) →
      Stepped s (.updateFails n) { s.proceed n (.ranked []) with failed := s.failed ++ [b] }
  | handle {n i : ℕ} {b : DeviceAddress} {subscribers : List ℕ} {list : List DeviceAddress}
      {supplier : DeviceAddressSupplier} :
      s.processing[n]? = some (.posting b subscribers list) →
      s.suppliers[i]? = some supplier → supplier.stage.isLocked = false →
      Stepped s (.handle n i) ((s.setSupplier i
        (supplier.handleNewDeviceAddressAcquired b)).proceed n
          (.postingTo b (subscribers.erase i) list))
  | make : Stepped s .newDeviceAddressSupplier { s with suppliers := s.suppliers ++ [{}] }
  | load {j : ℕ} {keys : List (String × String)} {supplier : DeviceAddressSupplier} :
      s.suppliers[j]? = some supplier → keys.toFinset = s.deviceAddressMap.keys →
      Stepped s (.load j keys) (s.setSupplier j { supplier with
        stage := .loading s.modCount keys 0 })
  | next {j : ℕ} {supplier new : DeviceAddressSupplier} :
      s.suppliers[j]? = some supplier → s.nextOf supplier = some new →
      Stepped s (.next j) (s.setSupplier j new)
  | poll {j : ℕ} {b : DeviceAddress} {supplier new : DeviceAddressSupplier} :
      s.suppliers[j]? = some supplier → supplier.poll b = some new →
      Stepped s (.getDeviceAddress j b) (s.setSupplier j new)
  | closeSupplier {j : ℕ} {supplier : DeviceAddressSupplier} :
      s.suppliers[j]? = some supplier →
      Stepped s (.closeSupplier j) (s.setSupplier j { supplier with stage := .closed })
  | close : Stepped s .close { s with isClosed := true }

theorem stepped_of_step (hstep : s.step event = some s') : Stepped s event s' := by
  -- each step of a thread can be taken at one of its stages only
  cases event with
  | processDeviceAddressBg list =>
    rw [DiscoveryHandler.step] at hstep
    split_ifs at hstep with hclosed
    · cases hstep
      exact .discard list
    · cases hstep
      exact .process list (by simpa using hclosed)
  | filter n peers =>
    rw [DiscoveryHandler.step, Option.bind_eq_bind, Option.bind_eq_some_iff] at hstep
    obtain ⟨p, hn, hstep⟩ := hstep
    cases p <;> cases hstep
    exact .filter peers hn
  | rank n network =>
    rw [DiscoveryHandler.step, Option.bind_eq_bind, Option.bind_eq_some_iff] at hstep
    obtain ⟨p, hn, hstep⟩ := hstep
    cases p <;> cases hstep
    exact .rank network hn
  | put n =>
    rw [DiscoveryHandler.step, Option.bind_eq_bind, Option.bind_eq_some_iff] at hstep
    obtain ⟨p, hn, hstep⟩ := hstep
    rcases p with _ | _ | ⟨_ | ⟨b, list⟩⟩ | _ | _ <;> cases hstep
    exact .put hn
  | post n =>
    rw [DiscoveryHandler.step, Option.bind_eq_bind, Option.bind_eq_some_iff] at hstep
    obtain ⟨p, hn, hstep⟩ := hstep
    cases p <;> cases hstep
    exact .post hn
  | updateFails n =>
    rw [DiscoveryHandler.step, Option.bind_eq_bind, Option.bind_eq_some_iff] at hstep
    obtain ⟨p, hn, hstep⟩ := hstep
    cases p <;> cases hstep
    exact .updateFails hn
  | handle n i =>
    rw [DiscoveryHandler.step, Option.bind_eq_bind, Option.bind_eq_some_iff] at hstep
    obtain ⟨p, hn, hstep⟩ := hstep
    rcases p with _ | _ | _ | _ | ⟨b, subscribers, list⟩
    · cases hstep
    · cases hstep
    · cases hstep
    · cases hstep
    · rw [DiscoveryHandler.processingStep, Option.bind_eq_bind, Option.bind_eq_some_iff] at hstep
      obtain ⟨supplier, hi, hstep⟩ := hstep
      split_ifs at hstep with hcond
      cases hstep
      exact .handle hn hi hcond.2
  | newDeviceAddressSupplier =>
    cases hstep
    exact .make
  | load j keys =>
    rw [DiscoveryHandler.step, Option.bind_eq_bind, Option.bind_eq_some_iff] at hstep
    obtain ⟨supplier, hj, hstep⟩ := hstep
    split_ifs at hstep with hcond
    cases hstep
    exact .load hj hcond.2.2
  | next j =>
    rw [DiscoveryHandler.step, Option.bind_eq_bind, Option.bind_eq_some_iff] at hstep
    obtain ⟨supplier, hj, hstep⟩ := hstep
    rw [Option.bind_eq_some_iff] at hstep
    obtain ⟨new, hnext, hstep⟩ := hstep
    cases hstep
    exact .next hj hnext
  | getDeviceAddress j b =>
    rw [DiscoveryHandler.step, Option.bind_eq_bind, Option.bind_eq_some_iff] at hstep
    obtain ⟨supplier, hj, hstep⟩ := hstep
    split_ifs at hstep with hstage
    rw [Option.bind_eq_some_iff] at hstep
    obtain ⟨new, hpoll, hstep⟩ := hstep
    cases hstep
    exact .poll hj hpoll
  | closeSupplier j =>
    rw [DiscoveryHandler.step, Option.bind_eq_bind, Option.bind_eq_some_iff] at hstep
    obtain ⟨supplier, hj, hstep⟩ := hstep
    split_ifs at hstep with hstage
    cases hstep
    exact .closeSupplier hj
  | close =>
    cases hstep
    exact .close

/-- A supplier that keeps its stage and loses nothing. -/
theorem supplies_of_reached {new : DeviceAddressSupplier} (h : s.Supplies)
    (hj : s.suppliers[j]? = some supplier) (hstage : new.stage = supplier.stage)
    (hkeep : ∀ a, Reached s j supplier a → Reached s j new a) : (s.setSupplier j new).Supplies := by
  refine supplies_setSupplier h fun hbegun key a hfind hworking => ?_
  rw [hstage] at hbegun ⊢
  exact (h j supplier hj hbegun key a hfind hworking).imp_right (hkeep a)

theorem stage_poll {new : DeviceAddressSupplier} (hpoll : supplier.poll b = some new) :
    new.stage = supplier.stage := by
  obtain ⟨-, -, rfl⟩ := poll_eq_some hpoll
  rfl

/-- **Every step keeps every supplier supplied.** -/
theorem supplies_step (h : s.Supplies) (hstep : s.step event = some s') : s'.Supplies := by
  have hstepped := stepped_of_step hstep
  cases hstepped with
  | process list _ =>
    intro j supplier hj hbegun key a hfind hworking
    rcases h j supplier hj hbegun key a hfind hworking with
      hexpects | hq | hpolled | ⟨p, hp, hholds⟩ | hfailed
    · exact .inl hexpects
    · exact .inr (.inl hq)
    · exact .inr (.inr (.inl hpolled))
    · exact .inr (.inr (.inr (.inl ⟨p, List.mem_append_left _ hp, hholds⟩)))
    · exact .inr (.inr (.inr (.inr hfailed)))
  | discard list =>
    exact h
  | filter peers hn =>
    exact supplies_proceed h hn fun _ _ _ _ _ hholds => False.elim hholds
  | rank network hn =>
    exact supplies_proceed h hn fun _ _ _ _ _ hholds => False.elim hholds
  | put hn =>
    exact supplies_put h hn _
  | post hn =>
    exact supplies_post h hn
  | updateFails hn =>
    exact supplies_updateFails h hn
  | handle hn hi hfree =>
    exact supplies_handle h hn hi hfree
  | make =>
    intro j supplier hj hbegun key a hfind hworking
    dsimp only at hj
    rw [List.getElem?_append] at hj
    split_ifs at hj with hlt
    · exact h j supplier hj hbegun key a hfind hworking
    · -- the new supplier has not begun
      have hmem := List.mem_of_getElem? hj
      rw [List.mem_singleton.1 hmem] at hbegun
      cases hbegun
  | load hj hkeys =>
    exact supplies_load h hkeys
  | next hj hnext =>
    exact supplies_next h hj hnext
  | poll hj hpoll =>
    exact supplies_of_reached h hj (stage_poll hpoll) fun a hreached => reached_poll hpoll hreached
  | closeSupplier hj =>
    refine supplies_setSupplier h fun hbegun => ?_
    cases hbegun
  | close =>
    exact h

theorem supplies_of_run (h : (discovering α).Reaches es s) : s.Supplies := by
  refine h.invariant (I := fun _ s => s.Supplies) ?_
    fun _ _ _ _ _ hs _ hstep => supplies_step hs hstep
  rintro _ rfl j supplier hj
  cases hj

/-- **No supplier misses an address**: an address that is in the map and
works is in the queue of a supplier that is made and not closed, or was
polled from it, or is on its way to it; or the database failed to take it
once. -/
theorem suppliers_miss_nothing (h : (discovering α).Reaches es s)
    (hj : s.suppliers[j]? = some supplier) (hready : supplier.stage = .ready)
    (hfind : s.deviceAddressMap.find key = some a) (hworking : a.isWorking = true) :
    a ∈ supplier.deviceAddressQueue ∨ a ∈ supplier.polled ∨ s.Carries j a ∨ a ∈ s.failed := by
  rcases supplies_of_run h j supplier hj (by rw [hready]; rfl) key a hfind hworking with
    hexpects | hreached
  · rw [hready] at hexpects
    exact hexpects.elim
  · exact hreached

/-! ## What is supplied -/

/-- The device was a peer when a list was filtered. -/
def Vetted (es : List (DiscoveryEvent α)) (a : DeviceAddress) : Prop :=
  ∃ n peers, DiscoveryEvent.filter n peers ∈ es ∧ a.deviceId ∈ peers

/-- The addresses a thread has, once it has filtered its list. -/
def Processing.addresses : Processing → List DeviceAddress
  | .received _ => []
  | .filtered list | .ranked list => list
  | .updating b list | .posting b _ list => b :: list

theorem addresses_postingTo (b : DeviceAddress) (subscribers : List ℕ) (list : List DeviceAddress) :
    (Processing.postingTo b subscribers list).addresses ⊆ b :: list := by
  rw [Processing.postingTo]
  split_ifs
  · exact List.subset_cons_self b list
  · exact List.Subset.refl _

/-- The addresses a supplier took of the map so far, while it goes through
it. -/
def SupplierStage.taken : SupplierStage → Multiset DeviceAddress
  | .loading _ _ taken => taken
  | _ => 0

/-- The address is with the supplier, or was polled from it. -/
def DeviceAddressSupplier.Has (supplier : DeviceAddressSupplier) (a : DeviceAddress) : Prop :=
  a ∈ supplier.deviceAddressQueue ∨ a ∈ supplier.polled ∨ a ∈ supplier.stage.taken

/-- Going through the map a supplier gets addresses of it that work. -/
theorem has_of_nextOf {new : DeviceAddressSupplier} (hnext : s.nextOf supplier = some new)
    (h : new.Has a) : supplier.Has a ∨ ∃ key, s.deviceAddressMap.find key = some a ∧
    a.isWorking = true := by
  rw [DiscoveryHandler.nextOf] at hnext
  rcases hstage : supplier.stage with _ | ⟨modCount, _ | ⟨key, keys⟩, taken⟩ | _ | _ | _
  all_goals rw [hstage] at hnext
  · cases hnext
  · cases hnext
    rcases h with hq | hpolled | htaken
    · refine .inl ((Multiset.mem_add.1 hq).imp_right fun htaken => .inr ?_)
      rw [hstage]
      exact htaken
    · exact .inl (.inr (.inl hpolled))
    · cases htaken
  · dsimp only at hnext
    split_ifs at hnext with hcount
    · cases hnext
      rcases h with hq | hpolled | htaken
      · exact .inl (.inl hq)
      · exact .inl (.inr (.inl hpolled))
      · rcases Multiset.mem_add.1 htaken with htaken | hnew
        · refine .inl (.inr (.inr ?_))
          rw [hstage]
          exact htaken
        · exact .inr ⟨key, mem_workingAt.1 hnew⟩
    · cases hnext
      rcases h with hq | hpolled | htaken
      · exact .inl (.inl hq)
      · exact .inl (.inr (.inl hpolled))
      · cases htaken
  · cases hnext
  · cases hnext
  · cases hnext

/-- What is in the map, with a thread or with a supplier is of a peer, and
suppliers have only addresses that work. -/
structure DiscoveryHandler.Genuine (es : List (DiscoveryEvent α))
    (s : DiscoveryHandler) : Prop where
  processing : ∀ p ∈ s.processing, ∀ a ∈ p.addresses, Vetted es a
  map : ∀ key a, s.deviceAddressMap.find key = some a → Vetted es a
  supplied : ∀ supplier ∈ s.suppliers, ∀ a, supplier.Has a → a.isWorking = true ∧ Vetted es a

theorem Vetted.append (h : Vetted es a) (more : List (DiscoveryEvent α)) :
    Vetted (es ++ more) a := by
  obtain ⟨n, peers, hmem, hpeer⟩ := h
  exact ⟨n, peers, List.mem_append_left more hmem, hpeer⟩

theorem genuine_append (h : s.Genuine es) (more : List (DiscoveryEvent α)) :
    s.Genuine (es ++ more) where
  processing p hp a ha := (h.processing p hp a ha).append more
  map key a hfind := (h.map key a hfind).append more
  supplied supplier hs a ha := (h.supplied supplier hs a ha).imp_right fun hv => hv.append more

variable (next) in
/-- A thread moves on with addresses of peers. -/
theorem genuine_proceed (h : s.Genuine es) (hnext : ∀ a ∈ next.addresses, Vetted es a) (n : ℕ) :
    (s.proceed n next).Genuine es := by
  refine ⟨fun p hp => ?_, h.map, h.supplied⟩
  rcases List.mem_or_eq_of_mem_set hp with hold | rfl
  · exact h.processing p hold
  · exact hnext

theorem genuine_setSupplier {new : DeviceAddressSupplier} (h : s.Genuine es)
    (hnew : ∀ a, new.Has a → a.isWorking = true ∧ Vetted es a) (j : ℕ) :
      (s.setSupplier j new).Genuine es := by
  refine ⟨h.processing, h.map, fun supplier hs => ?_⟩
  rcases List.mem_or_eq_of_mem_set hs with hold | rfl
  · exact h.supplied supplier hold
  · exact hnew

/-- Ranking changes no device. -/
theorem exists_of_mem_testAndRank {network : Network α} {list : List DeviceAddress}
    (h : a ∈ testAndRank network list) : ∃ b ∈ list, b.deviceId = a.deviceId := by
  obtain ⟨x, hmem, hx⟩ := mem_testAndRank.1 h
  have hid := (equals_iff.1 (equals_of_await hx)).1
  obtain ⟨-, -, hfrom, -⟩ := foldl_addBoth network list [] List.Pairwise.nil
  rcases hfrom x hmem with hnil | ⟨b, hb, rfl | hrelay⟩
  · cases hnil
  · exact ⟨_, hb, hid⟩
  · rw [httpRelayAddress] at hrelay
    split_ifs at hrelay
    obtain ⟨httpUrl, -, rfl⟩ := Option.map_eq_some_iff.1 hrelay
    exact ⟨b, hb, hid⟩

theorem genuine_step (h : s.Genuine es) (hstep : s.step event = some s') :
    s'.Genuine (es ++ [event]) := by
  have h' := genuine_append h [event]
  have hstepped := stepped_of_step hstep
  cases hstepped with
  | process list _ =>
    refine ⟨fun p hp => ?_, h'.map, h'.supplied⟩
    rcases List.mem_append.1 hp with hold | hnew
    · exact h'.processing p hold
    · rw [List.mem_singleton.1 hnew]
      intro a ha
      cases ha
  | discard list =>
    exact h'
  | filter peers hn =>
    -- only addresses of the peers are kept
    refine genuine_proceed _ h' (fun a ha => ?_) _
    obtain ⟨-, hkept⟩ := List.mem_filter.1 ha
    refine ⟨_, peers, List.mem_append_right _ (List.mem_singleton_self _), ?_⟩
    exact of_decide_eq_true (Bool.and_eq_true_iff.1 hkept).1
  | rank network hn =>
    -- a ranked address has the device id of one of the list
    refine genuine_proceed _ h' (fun a ha => ?_) _
    obtain ⟨b, hb, hid⟩ := exists_of_mem_testAndRank ha
    obtain ⟨n, peers, hmem, hpeer⟩ := h'.processing _ (List.mem_of_getElem? hn) b hb
    exact ⟨n, peers, hmem, hid ▸ hpeer⟩
  | put hn =>
    have hold := h'.processing _ (List.mem_of_getElem? hn)
    refine ⟨(genuine_proceed (.updating _ _) h' hold _).processing,
      fun key a hfind => ?_, h'.supplied⟩
    dsimp only at hfind
    -- the map gains the address that was put, and keeps the others
    rw [Table.find_merge] at hfind
    split_ifs at hfind
    · cases hfind
      exact hold _ List.mem_cons_self
    · exact h'.map key a hfind
  | post hn =>
    refine genuine_proceed _ h' (fun a ha => ?_) _
    exact h'.processing _ (List.mem_of_getElem? hn) a (addresses_postingTo _ _ _ ha)
  | updateFails hn =>
    exact ⟨(genuine_proceed (.ranked []) h' (fun a ha => by cases ha) _).processing,
      h'.map, h'.supplied⟩
  | handle hn hi _ =>
    have hold := h'.processing _ (List.mem_of_getElem? hn)
    refine genuine_proceed _ (genuine_setSupplier h' (fun a ha => ?_) _)
      (fun a ha => hold a (addresses_postingTo _ _ _ ha)) _
    have hsupplier := h'.supplied _ (List.mem_of_getElem? hi) a
    -- the queue of the supplier may gain the address that was posted
    rcases ha with hq | hpolled | htaken
    · rcases mem_handleNew.1 hq with ⟨rfl, hworking⟩ | hq
      · exact ⟨hworking, hold _ List.mem_cons_self⟩
      · exact hsupplier (.inl hq)
    · rw [polled_handleNew] at hpolled
      exact hsupplier (.inr (.inl hpolled))
    · rw [stage_handleNew] at htaken
      exact hsupplier (.inr (.inr htaken))
  | make =>
    refine ⟨h'.processing, h'.map, fun supplier hs a ha => ?_⟩
    rcases List.mem_append.1 hs with hold | hnew
    · exact h'.supplied supplier hold a ha
    · rw [List.mem_singleton.1 hnew] at ha
      rcases ha with hq | hpolled | htaken
      · cases hq
      · cases hpolled
      · cases htaken
  | load hj _ =>
    refine genuine_setSupplier h' (fun a ha => ?_) _
    have hsupplier := h'.supplied _ (List.mem_of_getElem? hj) a
    rcases ha with hq | hpolled | htaken
    · exact hsupplier (.inl hq)
    · exact hsupplier (.inr (.inl hpolled))
    · cases htaken
  | next hj hnext =>
    -- an address taken up by `next` was carried, or stands in the map
    refine genuine_setSupplier h' (fun a ha => ?_) _
    rcases has_of_nextOf hnext ha with hhad | ⟨key, hfind, hworking⟩
    · exact h'.supplied _ (List.mem_of_getElem? hj) a hhad
    · exact ⟨hworking, h'.map key a hfind⟩
  | poll hj hpoll =>
    refine genuine_setSupplier h' (fun a ha => ?_) _
    obtain ⟨hmem, -, rfl⟩ := poll_eq_some hpoll
    have hsupplier := h'.supplied _ (List.mem_of_getElem? hj)
    rcases ha with hq | hpolled | htaken
    · exact hsupplier a (.inl (Multiset.mem_of_mem_erase hq))
    · rcases List.mem_append.1 hpolled with hold | hnew
      · exact hsupplier a (.inr (.inl hold))
      · rw [List.mem_singleton.1 hnew]
        exact hsupplier _ (.inl hmem)
    · exact hsupplier a (.inr (.inr htaken))
  | closeSupplier hj =>
    refine genuine_setSupplier h' (fun a ha => ?_) _
    have hsupplier := h'.supplied _ (List.mem_of_getElem? hj) a
    rcases ha with hq | hpolled | htaken
    · exact hsupplier (.inl hq)
    · exact hsupplier (.inr (.inl hpolled))
    · cases htaken
  | close =>
    exact ⟨h'.processing, h'.map, h'.supplied⟩

theorem genuine_of_run (h : (discovering α).Reaches es s) : s.Genuine es := by
  refine h.invariant ?_ fun _ _ _ _ _ hs _ hstep => genuine_step hs hstep
  rintro _ rfl
  refine ⟨fun p hp => ?_, fun key a hfind => ?_, fun supplier hs => ?_⟩
  · cases hp
  · rw [show (DiscoveryHandler.deviceAddressMap {}) = ∅ from rfl, Table.find_empty] at hfind
    cases hfind
  · cases hs

/-- **An open supplier gives the best address there is**: what it gives works and
is of a device that was a peer; and an address of the map that works and
has a lower score was given by it before, or is on its way to it, or was
not taken by the database. -/
theorem suppliers_give_the_best (h : (discovering α).Reaches es s)
    (hj : s.suppliers[j]? = some supplier) (hready : supplier.stage = .ready)
    (hstep : s.step (.getDeviceAddress j b : DiscoveryEvent α) = some s') :
    (b.isWorking = true ∧ Vetted es b) ∧
    ∀ key a, s.deviceAddressMap.find key = some a → a.isWorking = true → a.score < b.score →
      a ∈ supplier.polled ∨ s.Carries j a ∨ a ∈ s.failed := by
  rcases stepped_of_step hstep with _ | _ | _ | _ | _ | _ | _ | _ | _ | _ | _ | ⟨hj', hpoll⟩ | _ | _
  rw [hj] at hj'
  cases hj'
  obtain ⟨hmem, hleast, -⟩ := poll_eq_some hpoll
  refine ⟨(genuine_of_run h).supplied supplier (List.mem_of_getElem? hj) b (.inl hmem), ?_⟩
  intro key a hfind hworking hlt
  rcases suppliers_miss_nothing h hj hready hfind hworking with hq | hrest
  · have hle := hleast a hq
    omega
  · exact hrest

/-- A list is ranked, and its first address put into the map. A supplier is
made, and goes through the map before the address is posted to it. The
second address is put into the map. -/
def sampleDiscovery : List (DiscoveryEvent ℕ) :=
  [.processDeviceAddressBg sampleAddresses, .filter 0 ["x"], .rank 0 sampleNetwork, .put 0,
    .newDeviceAddressSupplier, .load 0 [("x", "tcp://b:3")], .next 0, .next 0, .post 0, .handle 0 0,
    .put 0]

def sampleAddress : DeviceAddress := ⟨"x", "tcp://b:3", 5⟩

/-- The first address is in the map, and may be polled. -/
def samplePolls (s : DiscoveryHandler) : Bool :=
  decide (s.deviceAddressMap.find (keyOf sampleAddress) = some sampleAddress) &&
    s.suppliers[0]?.any (fun supplier => decide (supplier.stage = .ready)) &&
      (s.step (.getDeviceAddress 0 sampleAddress : DiscoveryEvent ℕ)).isSome

theorem exists_sampleDiscovery : ∃ s supplier, (discovering ℕ).Reaches sampleDiscovery s ∧
    s.suppliers[0]? = some supplier ∧ supplier.stage = .ready ∧
    s.deviceAddressMap.find (keyOf sampleAddress) = some sampleAddress ∧
    ∃ s', s.step (.getDeviceAddress 0 sampleAddress : DiscoveryEvent ℕ) = some s' := by
  obtain ⟨s, hrun, hs⟩ : ∃ s, (discovering ℕ).Run (fun _ _ _ => true = true) sampleDiscovery s ∧
      samplePolls s = true := Machine.exists_run_of_any (by decide +kernel)
  rw [samplePolls, Bool.and_eq_true, Bool.and_eq_true, decide_eq_true_eq] at hs
  obtain ⟨⟨hfind, hsupplier⟩, hstep⟩ := hs
  obtain ⟨supplier, hj, hready⟩ := (Option.any_eq_true ..).1 hsupplier
  exact ⟨s, supplier, hrun.reaches, hj, of_decide_eq_true hready, hfind,
    Option.isSome_iff_exists.1 hstep⟩

theorem suppliers_miss_nothing_sample : ∃ s supplier,
    (discovering ℕ).Reaches sampleDiscovery s ∧ s.suppliers[0]? = some supplier ∧
    (sampleAddress ∈ supplier.deviceAddressQueue ∨ sampleAddress ∈ supplier.polled ∨
      s.Carries 0 sampleAddress ∨ sampleAddress ∈ s.failed) := by
  obtain ⟨s, supplier, hrun, hj, hready, hfind, -⟩ := exists_sampleDiscovery
  exact ⟨s, supplier, hrun, hj, suppliers_miss_nothing hrun hj hready hfind (by decide)⟩

theorem suppliers_give_the_best_sample : ∃ s supplier,
    (discovering ℕ).Reaches sampleDiscovery s ∧ s.suppliers[0]? = some supplier ∧
    Vetted sampleDiscovery sampleAddress ∧
    ∀ key a, s.deviceAddressMap.find key = some a → a.isWorking = true → a.score < 5 →
      a ∈ supplier.polled ∨ s.Carries 0 a ∨ a ∈ s.failed := by
  obtain ⟨s, supplier, hrun, hj, hready, -, s', hstep⟩ := exists_sampleDiscovery
  obtain ⟨⟨-, hvetted⟩, hbest⟩ := suppliers_give_the_best hrun hj hready hstep
  exact ⟨s, supplier, hrun, hj, hvetted, hbest⟩

end Discovery

end ASync
