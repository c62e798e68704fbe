import ASync.Client.Model.DevicesHandler
import ASync.Common.Threads
import ASync.Core.Helpers.Sample
/-!
# Whether dates of devices go back

A put replaces a whole record, by a copy of the one its thread read. So it
takes back what others have put in between, except for the date it sets
itself. Dates never go back in a run in which each put finds the dates it
does not set as its thread read them, and none that is later than the date
it sets (`stats_kept_of_run`); any other put takes one back
(`notBefore_step_iff`).
-/

namespace ASync

namespace Client

open ASync.Core

section DeviceStats

/-- The dates of the record a put is a copy of. -/
def StatsPut.readActive (put : StatsPut) : ℕ := put.read.elim 0 DeviceStats.lastActive

def StatsPut.readSeen (put : StatsPut) : ℕ := put.read.elim 0 DeviceStats.lastSeen

theorem dates_of_new {deviceId : String} {name : Option String} {stats : DeviceStats}
    (h : DeviceStats.new deviceId name = .ok stats) :
    stats.deviceId = deviceId ∧ stats.lastActive = 0 ∧ stats.lastSeen = 0 := by
  unfold DeviceStats.new at h
  split at h
  · cases h
  · split at h
    · cases h
    · obtain rfl := Except.ok.inj h
      exact ⟨rfl, rfl, rfl⟩

variable [Guava]

namespace DevicesHandler

variable {s s' : DevicesHandler} {e : DevicesEvent} {es : List DevicesEvent} {op : StatsOp}
variable {put : StatsPut} {stats : DeviceStats} {i : ℕ} {thread : StatsThread} {ops : List StatsOp}
variable {peers : List DeviceInfo} {values : List DeviceStats} {deviceId : String}

/-! ## Dates -/

/-- The date stored for a device, that of a new record where there is none. -/
def lastActive (s : DevicesHandler) (deviceId : String) : ℕ :=
  (s.deviceStatsMap.find deviceId).elim 0 DeviceStats.lastActive

def lastSeen (s : DevicesHandler) (deviceId : String) : ℕ :=
  (s.deviceStatsMap.find deviceId).elim 0 DeviceStats.lastSeen

/-- No date has gone back. -/
def NotBefore (s s' : DevicesHandler) : Prop :=
  ∀ deviceId, s.lastActive deviceId ≤ s'.lastActive deviceId ∧
    s.lastSeen deviceId ≤ s'.lastSeen deviceId

/-- Nothing that was put has been taken back. -/
def Kept (s : DevicesHandler) : Prop :=
  ∀ thread ∈ s.threads, ∀ put ∈ thread.puts,
    put.stats.lastActive ≤ s.lastActive put.stats.deviceId ∧
      put.stats.lastSeen ≤ s.lastSeen put.stats.deviceId

/-- The record a thread is about to put. -/
def nextPut (s : DevicesHandler) (i : ℕ) : Option StatsPut :=
  match s.threads[i]?.bind fun thread => thread.ops.head? with
  | some (.put put) => some put
  | _ => none

/-- A put finds each date it does not set as its thread read it, and the
date it sets not later. -/
def Undisturbed (s : DevicesHandler) : DevicesEvent → Prop
  | .run i _ _ => ∀ put ∈ s.nextPut i,
      (if put.change = .active then s.lastActive put.stats.deviceId ≤ put.stats.lastActive
        else s.lastActive put.stats.deviceId = put.readActive) ∧
      if put.change = .received then s.lastSeen put.stats.deviceId ≤ put.stats.lastSeen
        else s.lastSeen put.stats.deviceId = put.readSeen
  | _ => True

instance (s : DevicesHandler) (e : DevicesEvent) : Decidable (s.Undisturbed e) := by
  unfold Undisturbed
  cases e <;> infer_instance

/-- What an operation works with was read from the map, and changed by
what it is for. -/
def Reads (s : DevicesHandler) : StatsOp → Prop
  | .build _ stats =>
    stats.lastActive ≤ s.lastActive stats.deviceId ∧ stats.lastSeen ≤ s.lastSeen stats.deviceId
  | .put put =>
    (put.readActive ≤ s.lastActive put.stats.deviceId ∧
      put.readSeen ≤ s.lastSeen put.stats.deviceId) ∧
    (put.change ≠ .active → put.stats.lastActive = put.readActive) ∧
    (put.change ≠ .received → put.stats.lastSeen = put.readSeen) ∧
    put.stats.lastActive ≤ s.now ∧ put.stats.lastSeen ≤ s.now
  | _ => True

structure Sound (s : DevicesHandler) : Prop where
  keyed : ∀ deviceId stats, s.deviceStatsMap.find deviceId = some stats → stats.deviceId = deviceId
  past : ∀ deviceId, s.lastActive deviceId ≤ s.now ∧ s.lastSeen deviceId ≤ s.now
  reads : ∀ thread ∈ s.threads, ∀ op ∈ thread.ops, s.Reads op
  kept : s.Kept

theorem NotBefore.of_map_eq (h : s'.deviceStatsMap = s.deviceStatsMap) : s.NotBefore s' := by
  intro deviceId
  unfold lastActive lastSeen
  rw [h]
  exact ⟨le_refl _, le_refl _⟩

/-- What was read stays behind what is stored. -/
theorem Reads.mono (h : s.Reads op) (hdates : s.NotBefore s') (hnow : s.now ≤ s'.now) :
    s'.Reads op := by
  unfold Reads at h ⊢
  split
  · next stats =>
    exact ⟨h.1.trans (hdates _).1, h.2.trans (hdates _).2⟩
  · next put =>
    obtain ⟨⟨hactive, hseen⟩, hkeptActive, hkeptSeen, hpastActive, hpastSeen⟩ := h
    exact ⟨⟨hactive.trans (hdates _).1, hseen.trans (hdates _).2⟩, hkeptActive, hkeptSeen,
      hpastActive.trans hnow, hpastSeen.trans hnow⟩
  · trivial

theorem Kept.mono (h : s.Kept) (hdates : s.NotBefore s') (hthreads : s'.threads = s.threads) :
    s'.Kept := by
  intro thread hthread put hput
  rw [hthreads] at hthread
  obtain ⟨hactive, hseen⟩ := h thread hthread put hput
  exact ⟨hactive.trans (hdates _).1, hseen.trans (hdates _).2⟩

/-! ## One operation -/

/-- A copy has the dates of its record, or the present. -/
theorem reads_changed {change : StatsChange} {copy : DeviceStats} (hpast : ∀ deviceId,
    s.lastActive deviceId ≤ s.now ∧ s.lastSeen deviceId ≤ s.now) (h : s.Reads (.build change stats))
    (hcopy : changed s.now stats change = some copy) :
      s.Reads (.put ⟨change, some stats, copy⟩) := by
  obtain ⟨hactive, hseen⟩ := h
  have hnow := hpast stats.deviceId
  unfold changed at hcopy
  split at hcopy
  · obtain rfl := Option.some.inj hcopy
    exact ⟨⟨hactive, hseen⟩, fun _ => rfl, fun _ => rfl, hactive.trans hnow.1, hseen.trans hnow.2⟩
  · obtain rfl := Option.some.inj hcopy
    exact ⟨⟨hactive, hseen⟩, fun hne => absurd rfl hne, fun _ => rfl, le_refl _, hseen.trans hnow.2⟩
  · obtain rfl := Option.some.inj hcopy
    exact ⟨⟨hactive, hseen⟩, fun _ => rfl, fun hne => absurd rfl hne,
      hactive.trans hnow.1, le_refl _⟩
  · split at hcopy
    · obtain rfl := Option.some.inj hcopy
      exact ⟨⟨hactive, hseen⟩, fun _ => rfl, fun _ => rfl, hactive.trans hnow.1, hseen.trans hnow.2⟩
    · cases hcopy

/-- A record that is made has no date. -/
theorem reads_new {name : Option String} (h : DeviceStats.new deviceId name = .ok stats) :
    s.Reads (.put ⟨.created, none, stats⟩) ∧ ∀ change, s.Reads (.build change stats) := by
  obtain ⟨-, hactive, hseen⟩ := dates_of_new h
  unfold Reads StatsPut.readActive StatsPut.readSeen
  simp only [hactive, hseen, Option.elim_none, Nat.zero_le, implies_true, and_self]

/-- A stored record is stored with its dates. -/
theorem Sound.reads_build (h : s.Sound) (hfind : s.deviceStatsMap.find deviceId = some stats)
    (change : StatsChange) : s.Reads (.build change stats) := by
  have hstored : s.deviceStatsMap.find stats.deviceId = some stats := by
    rw [h.keyed deviceId stats hfind, hfind]
  have hactive : s.lastActive stats.deviceId = stats.lastActive := by
    unfold lastActive
    rw [hstored]
    rfl
  have hseen : s.lastSeen stats.deviceId = stats.lastSeen := by
    unfold lastSeen
    rw [hstored]
    rfl
  exact ⟨hactive.ge, hseen.ge⟩

/-- **What follows from an operation** works with what was read. -/
theorem Sound.reads_next {more : List StatsOp} (h : s.Sound) (hop : s.Reads op)
    (hvalues : op = .values → (values : Multiset DeviceStats) =
      s.deviceStatsMap.entries.map Sigma.snd)
    (hnext : s.next peers values op = some more) : ∀ op' ∈ more, s.Reads op' := by
  unfold next at hnext
  intro op' hop'
  split at hnext
  · obtain rfl := Option.some.inj hnext
    obtain ⟨peer, -, rfl⟩ := List.mem_map.1 hop'
    trivial
  · split at hnext
    · obtain rfl := Option.some.inj hnext
      cases hop'
    · split at hnext
      · next stats hnew =>
        obtain rfl := Option.some.inj hnext
        rw [List.mem_singleton.1 hop']
        exact (reads_new hnew).1
      · cases hnext
  · split at hnext
    · next stats hfind =>
      obtain rfl := Option.some.inj hnext
      rw [List.mem_singleton.1 hop']
      exact h.reads_build hfind _
    · split at hnext
      · next stats hnew =>
        obtain rfl := Option.some.inj hnext
        rcases List.mem_cons.1 hop' with rfl | hop'
        · exact (reads_new hnew).1
        · rw [List.mem_singleton.1 hop']
          exact (reads_new hnew).2 _
      · cases hnext
  · split at hnext
    · next copy hcopy =>
      obtain rfl := Option.some.inj hnext
      rw [List.mem_singleton.1 hop']
      exact reads_changed h.past hop hcopy
    · obtain rfl := Option.some.inj hnext
      cases hop'
  · obtain rfl := Option.some.inj hnext
    cases hop'
  · obtain rfl := Option.some.inj hnext
    obtain ⟨stats, hstats, rfl⟩ := List.mem_map.1 hop'
    -- each value is an entry of the map, and reads as the map does
    have hmem : stats ∈ (values : Multiset DeviceStats) := Multiset.mem_coe.2 hstats
    rw [hvalues rfl] at hmem
    obtain ⟨⟨deviceId, stats'⟩, hentry, rfl⟩ := Multiset.mem_map.1 hmem
    have hfind : s.deviceStatsMap.find deviceId = some stats' := Finmap.mem_lookup_iff.2 hentry
    exact h.reads_build hfind _

/-! ## One step -/

/-- The dates after a put. -/
theorem lastActive_merge {threads : List StatsThread} :
    ({ s with
      deviceStatsMap := s.deviceStatsMap.merge stats.deviceId stats
      threads } : DevicesHandler).lastActive deviceId =
      if deviceId = stats.deviceId then stats.lastActive else s.lastActive deviceId := by
  unfold lastActive
  rw [Table.find_merge]
  split
  · rfl
  · rfl

theorem lastSeen_merge {threads : List StatsThread} :
    ({ s with
      deviceStatsMap := s.deviceStatsMap.merge stats.deviceId stats
      threads } : DevicesHandler).lastSeen deviceId =
      if deviceId = stats.deviceId then stats.lastSeen else s.lastSeen deviceId := by
  unfold lastSeen
  rw [Table.find_merge]
  split
  · rfl
  · rfl

/-- A put takes nothing back exactly when the dates of its device are not
later than those it puts. -/
theorem notBefore_merge_iff {threads : List StatsThread} :
    s.NotBefore { s with
      deviceStatsMap := s.deviceStatsMap.merge stats.deviceId stats
      threads } ↔
      s.lastActive stats.deviceId ≤ stats.lastActive ∧
        s.lastSeen stats.deviceId ≤ stats.lastSeen := by
  unfold NotBefore
  simp only [lastActive_merge, lastSeen_merge]
  constructor
  · intro h
    have hdevice := h stats.deviceId
    rwa [if_pos rfl, if_pos rfl] at hdevice
  · intro h deviceId
    by_cases hid : deviceId = stats.deviceId
    · rw [if_pos hid, if_pos hid, hid]
      exact h
    · rw [if_neg hid, if_neg hid]
      exact ⟨le_refl _, le_refl _⟩

/-- For a put that read its record from the map, that is what others leave
alone. -/
theorem Reads.undisturbed_iff (h : s.Reads (.put put)) :
    (s.lastActive put.stats.deviceId ≤ put.stats.lastActive ∧
      s.lastSeen put.stats.deviceId ≤ put.stats.lastSeen) ↔
      (if put.change = .active then s.lastActive put.stats.deviceId ≤ put.stats.lastActive
        else s.lastActive put.stats.deviceId = put.readActive) ∧
      if put.change = .received then s.lastSeen put.stats.deviceId ≤ put.stats.lastSeen
        else s.lastSeen put.stats.deviceId = put.readSeen := by
  obtain ⟨⟨hactive, hseen⟩, hkeptActive, hkeptSeen, -, -⟩ := h
  refine and_congr ?_ ?_
  · split
    · exact Iff.rfl
    · next hchange =>
      have hkept := hkeptActive hchange
      omega
  · split
    · exact Iff.rfl
    · next hchange =>
      have hkept := hkeptSeen hchange
      omega

/-- An operation other than a put leaves the map alone. -/
theorem ran_of_ne (h : ∀ put, op ≠ .put put) : s.ran i thread op ops peers values =
    { s with
      threads := s.threads.set i ⟨((s.next peers values op).map (· ++ ops)).getD [],
        thread.puts⟩ } := by
  unfold ran
  split
  · next put => exact absurd rfl (h put)
  · rfl

theorem nextPut_eq_some (hi : s.threads[i]? = some thread) (hops : thread.ops = op :: ops)
    (hput : s.nextPut i = some put) : op = .put put := by
  unfold nextPut at hput
  rw [hi, Option.bind_some, hops, List.head?_cons] at hput
  split at hput
  · next put' hop =>
    obtain rfl := Option.some.inj hput
    exact Option.some.inj hop
  · cases hput

theorem forall_mem_nextPut {P : StatsPut → Prop} (hi : s.threads[i]? = some thread)
    (hops : thread.ops = .put put :: ops) : (∀ put ∈ s.nextPut i, P put) ↔ P put := by
  have hnext : s.nextPut i = some put := by
    unfold nextPut
    rw [hi, Option.bind_some, hops, List.head?_cons]
  rw [hnext]
  exact ⟨fun h => h put rfl, fun h put' hput' => Option.some.inj hput' ▸ h⟩

theorem Sound.notBefore_step_iff (h : s.Sound) (hstep : devicesHandling.step s e s') :
    s.NotBefore s' ↔ s.Undisturbed e := by
  cases e with
  | handleDeviceAddressActiveEvent =>
    exact iff_of_true (NotBefore.of_map_eq (by rw [hstep])) trivial
  | handleDeviceAddressReceivedEvent =>
    exact iff_of_true (NotBefore.of_map_eq (by rw [hstep])) trivial
  | check => exact iff_of_true (NotBefore.of_map_eq (by rw [hstep])) trivial
  | tick => exact iff_of_true (NotBefore.of_map_eq (by rw [hstep])) trivial
  | run i peers values =>
    obtain ⟨thread, op, ops, hi, hops, -, rfl⟩ := hstep
    by_cases hput : ∃ put, op = .put put
    · obtain ⟨put, rfl⟩ := hput
      have hreads : s.Reads (.put put) := h.reads thread (List.mem_of_getElem? hi) _
        (by rw [hops]; exact List.mem_cons_self)
      have hundisturbed : s.Undisturbed (.run i peers values) ↔ _ := forall_mem_nextPut hi hops
      rw [hundisturbed]
      exact notBefore_merge_iff.trans hreads.undisturbed_iff
    · have hne : ∀ put, op ≠ .put put := fun put heq => hput ⟨put, heq⟩
      refine iff_of_true (NotBefore.of_map_eq (by rw [ran_of_ne hne])) fun put hput' => ?_
      exact absurd (nextPut_eq_some hi hops hput') (hne put)

/-- A thread that begins has read nothing yet. -/
theorem Sound.started (h : s.Sound) (hops : ∀ op ∈ ops, s.Reads op) :
    Sound { s with threads := s.threads ++ [⟨ops, []⟩] } := by
  refine ⟨h.keyed, h.past, fun thread hthread op hop => ?_, fun thread hthread put hput => ?_⟩
  · rcases List.mem_append.1 hthread with hold | hnew
    · exact h.reads thread hold op hop
    · rw [List.mem_singleton.1 hnew] at hop
      exact hops op hop
  · rcases List.mem_append.1 hthread with hold | hnew
    · exact h.kept thread hold put hput
    · rw [List.mem_singleton.1 hnew] at hput
      cases hput

/-- A thread goes on with other operations. -/
theorem Sound.resume {more : List StatsOp} (h : s.Sound) (hi : s.threads[i]? = some thread)
    (hmore : ∀ op ∈ more, s.Reads op) :
    Sound { s with threads := s.threads.set i ⟨more, thread.puts⟩ } := by
  refine ⟨h.keyed, h.past, Threads.forall_mem_set h.reads hmore, ?_⟩
  exact Threads.forall_mem_set h.kept (h.kept thread (List.mem_of_getElem? hi))

/-- **A put** that takes nothing back. -/
theorem Sound.store (h : s.Sound) (hi : s.threads[i]? = some thread)
    (hops : thread.ops = .put put :: ops)
    (hdates : s.NotBefore (s.ran i thread (.put put) ops peers values)) :
    (s.ran i thread (.put put) ops peers values).Sound := by
  have hmem := List.mem_of_getElem? hi
  have hreads : s.Reads (.put put) := h.reads thread hmem _ (by rw [hops]; exact List.mem_cons_self)
  obtain ⟨-, -, -, hpastActive, hpastSeen⟩ := hreads
  refine ⟨fun deviceId stats hfind => ?_, fun deviceId => ?_, ?_, ?_⟩
  · change (s.deviceStatsMap.merge put.stats.deviceId put.stats).find deviceId = some stats at hfind
    rw [Table.find_merge] at hfind
    split at hfind
    · next hid =>
      obtain rfl := Option.some.inj hfind
      exact hid.symm
    · exact h.keyed deviceId stats hfind
  · have hactive : (s.ran i thread (.put put) ops peers values).lastActive deviceId = _ :=
      lastActive_merge
    have hseen : (s.ran i thread (.put put) ops peers values).lastSeen deviceId = _ :=
      lastSeen_merge
    rw [hactive, hseen]
    split
    · exact ⟨hpastActive, hpastSeen⟩
    · exact h.past deviceId
  · refine Threads.forall_mem_set (fun t ht op hop =>
      (h.reads t ht op hop).mono hdates (le_refl _)) ?_
    intro op hop
    exact (h.reads thread hmem op (by rw [hops]; exact List.mem_cons_of_mem _ hop)).mono
      hdates (le_refl _)
  · -- no date goes back, so the earlier puts stay kept
    have hold : ∀ t ∈ s.threads, ∀ p ∈ t.puts,
        p.stats.lastActive ≤ (s.ran i thread (.put put) ops peers values).lastActive
          p.stats.deviceId ∧
          p.stats.lastSeen ≤ (s.ran i thread (.put put) ops peers values).lastSeen
            p.stats.deviceId := by
      intro t ht p hp
      obtain ⟨hactive, hseen⟩ := h.kept t ht p hp
      exact ⟨hactive.trans (hdates _).1, hseen.trans (hdates _).2⟩
    refine Threads.forall_mem_set hold fun p hp => ?_
    rcases List.mem_append.1 hp with hbefore | hnew
    · exact hold thread hmem p hbefore
    · rw [List.mem_singleton.1 hnew]
      have hactive :
          (s.ran i thread (.put put) ops peers values).lastActive put.stats.deviceId = _ :=
        lastActive_merge
      have hseen : (s.ran i thread (.put put) ops peers values).lastSeen put.stats.deviceId = _ :=
        lastSeen_merge
      rw [hactive, hseen, if_pos rfl, if_pos rfl]
      exact ⟨le_refl _, le_refl _⟩

theorem Sound.step (h : s.Sound) (hundisturbed : s.Undisturbed e)
    (hstep : devicesHandling.step s e s') : s'.Sound := by
  have hdates := (h.notBefore_step_iff hstep).2 hundisturbed
  cases e with
  | handleDeviceAddressActiveEvent =>
    rw [hstep]
    refine h.started fun op hop => ?_
    rcases List.mem_cons.1 hop with rfl | hop
    · trivial
    · rw [List.mem_singleton.1 hop]
      trivial
  | handleDeviceAddressReceivedEvent =>
    rw [hstep]
    refine h.started fun op hop => ?_
    obtain ⟨deviceAddress, -, hop⟩ := List.mem_flatMap.1 hop
    rcases List.mem_cons.1 hop with rfl | hop
    · trivial
    · rw [List.mem_singleton.1 hop]
      trivial
  | check =>
    rw [hstep]
    refine h.started fun op hop => ?_
    rw [List.mem_singleton.1 hop]
    trivial
  | tick =>
    have hnow : s.now ≤ s'.now := by
      rw [hstep]
      exact Nat.le_add_right _ _
    have hthreads : s'.threads = s.threads := by rw [hstep]
    refine ⟨?_, fun deviceId => ?_, fun thread hthread op hop => ?_, h.kept.mono hdates hthreads⟩
    · rw [hstep]
      exact h.keyed
    · obtain ⟨hactive, hseen⟩ := h.past deviceId
      rw [hstep] at hnow ⊢
      exact ⟨hactive.trans hnow, hseen.trans hnow⟩
    · rw [hthreads] at hthread
      exact (h.reads thread hthread op hop).mono hdates hnow
  | run _ peers values =>
    obtain ⟨thread, op, ops, hi, hops, hvalues, rfl⟩ := hstep
    -- only a put changes the map; any other operation adds to what the thread does
    by_cases hput : ∃ put, op = .put put
    · obtain ⟨put, rfl⟩ := hput
      exact h.store hi hops hdates
    · have hne : ∀ put, op ≠ .put put := fun put heq => hput ⟨put, heq⟩
      have hmem := List.mem_of_getElem? hi
      have hop : s.Reads op := h.reads thread hmem op (by rw [hops]; exact List.mem_cons_self)
      rw [ran_of_ne hne]
      refine h.resume hi fun op' hop' => ?_
      rcases hnext : s.next peers values op with _ | more
      · rw [hnext] at hop'
        cases hop'
      · rw [hnext] at hop'
        rcases List.mem_append.1 hop' with hmore | hrest
        · exact h.reads_next hop hvalues hnext op' hmore
        · exact h.reads thread hmem op' (by rw [hops]; exact List.mem_cons_of_mem _ hrest)

/-! ## Runs -/

/-- A new handler has no dates. -/
theorem dates_of_load {map map' : Table String DeviceStats}
    (h : ∀ deviceId stats, map.find deviceId = some stats →
      stats.deviceId = deviceId ∧ stats.lastActive = 0 ∧ stats.lastSeen = 0)
    (hload : loadDevicesFromConfiguration map peers = .ok map') :
    ∀ deviceId stats, map'.find deviceId = some stats →
      stats.deviceId = deviceId ∧ stats.lastActive = 0 ∧ stats.lastSeen = 0 := by
  induction peers generalizing map with
  | nil =>
    obtain rfl := Except.ok.inj hload
    exact h
  | cons peer peers ih =>
    unfold loadDevicesFromConfiguration at hload
    split at hload
    · exact ih h hload
    · rcases hnew : DeviceStats.new peer.deviceId (some peer.name) with e | made
      · rw [hnew] at hload
        cases hload
      · rw [hnew] at hload
        refine ih (fun deviceId stats hfind => ?_) hload
        rw [Table.find_merge] at hfind
        split at hfind
        · next hid =>
          obtain rfl := Option.some.inj hfind
          exact ⟨hid.symm, (dates_of_new hnew).2⟩
        · exact h deviceId stats hfind

theorem sound_of_run (h : devicesHandling.Run (fun _ s e => s.Undisturbed e) es s) : s.Sound := by
  refine h.invariant (I := fun _ s => s.Sound) ?_ fun _ _ _ _ _ hI hundisturbed hstep =>
    hI.step hundisturbed hstep
  rintro s ⟨⟨peers, hload⟩, hthreads⟩
  have hdates := dates_of_load (fun deviceId stats hfind => by
    rw [Table.find_empty] at hfind
    cases hfind) hload
  refine ⟨fun deviceId stats hfind => (hdates deviceId stats hfind).1, fun deviceId => ?_, ?_, ?_⟩
  · unfold lastActive lastSeen
    rcases hfind : s.deviceStatsMap.find deviceId with _ | stats
    · exact ⟨Nat.zero_le _, Nat.zero_le _⟩
    · obtain ⟨-, hactive, hseen⟩ := hdates deviceId stats hfind
      rw [Option.elim_some, Option.elim_some, hactive, hseen]
      exact ⟨Nat.zero_le _, Nat.zero_le _⟩
  · rw [hthreads]
    exact fun thread hthread => (by cases hthread)
  · intro thread hthread
    rw [hthreads] at hthread
    cases hthread

/-- **Dates never go back**, and nothing that was put is taken back, in a
run in which others leave a record alone between a thread's read and its
put, save for an earlier date of the kind the thread sets. -/
theorem stats_kept_of_run (h : devicesHandling.Run (fun _ s e => s.Undisturbed e) es s) :
    s.Kept ∧ ∀ e s', s.Undisturbed e → devicesHandling.step s e s' → s.NotBefore s' :=
  ⟨(sound_of_run h).kept, fun _ _ hundisturbed hstep =>
    ((sound_of_run h).notBefore_step_iff hstep).2 hundisturbed⟩

/-- **In no other run**: the next step takes no date back exactly when it
is such a step. -/
theorem notBefore_step_iff (h : devicesHandling.Run (fun _ s e => s.Undisturbed e) es s)
    (hstep : devicesHandling.step s e s') : s.NotBefore s' ↔ s.Undisturbed e :=
  (sound_of_run h).notBefore_step_iff hstep

end DevicesHandler

end DeviceStats

/-! ## Sample runs -/

section Sample

attribute [local instance] ASync.Sample.guava

namespace DevicesHandler

theorem start_sample : devicesHandling.start { now := 1000 } := ⟨⟨[], rfl⟩, rfl⟩

def sampleAddress : DeviceAddress :=
  { deviceId := "ABCDEFG", address := "tcp://10.0.0.1:22000", score := 1 }

/-- A step that takes no copy of the map. -/
def replay (s : DevicesHandler) : DevicesEvent → Option DevicesHandler
  | .handleDeviceAddressActiveEvent deviceAddress =>
    some { s with threads := s.threads ++
      [⟨[.loadDevices, .get .active deviceAddress.deviceId], []⟩] }
  | .handleDeviceAddressReceivedEvent deviceAddresses =>
    some { s with threads := s.threads ++ [⟨(deviceAddresses.filter (·.isWorking)).flatMap
      fun deviceAddress => [.loadDevices, .get .received deviceAddress.deviceId], []⟩] }
  | .check => none
  | .tick milliseconds => some { s with now := s.now + milliseconds }
  | .run i peers values =>
    match s.threads[i]? with
    | none => none
    | some thread =>
      match thread.ops with
      | [] => none
      | .values :: _ => none
      | op :: ops => some (s.ran i thread op ops peers values)

theorem step_of_replay {s s' : DevicesHandler} {e : DevicesEvent} (h : s.replay e = some s') :
    devicesHandling.step s e s' := by
  unfold replay at h
  split at h
  · exact (Option.some.inj h).symm
  · exact (Option.some.inj h).symm
  · cases h
  · exact (Option.some.inj h).symm
  · split at h
    · cases h
    · next thread hi =>
      split at h
      · cases h
      · cases h
      · next op ops hne hops =>
        exact ⟨thread, op, ops, hi, hops, fun hvalues => absurd hvalues hne,
          (Option.some.inj h).symm⟩

def otherAddress : DeviceAddress :=
  { deviceId := "HIJKLMN", address := "tcp://10.0.0.2:22000", score := 1 }

/-- A device becomes active twice at once: the second thread reads the
record before the first has put its own, and puts a later date. Another
device is seen meanwhile. -/
def activeEvents : List DevicesEvent :=
  [.handleDeviceAddressActiveEvent sampleAddress, .handleDeviceAddressActiveEvent sampleAddress,
    .handleDeviceAddressReceivedEvent [otherAddress], .run 0 [] [], .run 0 [] [], .run 0 [] [],
    .run 1 [] [], .run 1 [] [], .run 2 [] [], .run 2 [] [], .run 2 [] [], .tick 5, .run 0 [] [],
    .run 2 [] [], .tick 2, .run 1 [] [], .run 0 [] [], .run 2 [] [], .run 1 [] []]

/-- It becomes active, and is seen by a thread that has read its record before. -/
def seenEvents : List DevicesEvent :=
  [.handleDeviceAddressActiveEvent sampleAddress, .run 0 [] [], .run 0 [] [], .run 0 [] [],
    .handleDeviceAddressReceivedEvent [sampleAddress], .run 1 [] [], .run 1 [] [], .tick 5,
      .run 0 [] [],
    .run 0 [] [], .run 1 [] [], .run 1 [] []]

theorem stats_kept_of_run_sample :
    ∃ s, devicesHandling.Run (fun _ s e => s.Undisturbed e) activeEvents s ∧
      s.lastActive "ABCDEFG" = 1007 ∧ s.lastSeen "HIJKLMN" = 1005 ∧
      s.Kept ∧ ∀ e s', s.Undisturbed e → devicesHandling.step s e s' → s.NotBefore s' := by
  have hany :
      (activeEvents.foldlM (fun s e => if decide (s.Undisturbed e) then s.replay e else none)
      ({ now := 1000 } : DevicesHandler)).any (fun s =>
        s.lastActive "ABCDEFG" = 1007 ∧ s.lastSeen "HIJKLMN" = 1005) = true := by
    decide +kernel
  obtain ⟨s, hsteps, hlast⟩ :=
    Machine.exists_run_of_foldlM start_sample (fun _ _ _ => step_of_replay) hany
  obtain ⟨hactive, hseen⟩ := of_decide_eq_true hlast
  have hrun := hsteps.mono fun _ s e h => of_decide_eq_true h
  exact ⟨s, hrun, hactive, hseen, stats_kept_of_run hrun⟩

/-- **A date goes back**: a handler has set the last activity and returned,
and another puts the record it had read before. -/
theorem activity_is_taken_back :
    ∃ s, devicesHandling.Reaches seenEvents s ∧ s.lastActive "ABCDEFG" = 0 ∧ ¬ s.Kept := by
  have hany : (seenEvents.foldlM (fun s e => if true then s.replay e else none)
      ({ now := 1000 } : DevicesHandler)).any (fun s => s.lastActive "ABCDEFG" = 0 &&
        s.threads.any fun thread => thread.puts.any fun put =>
          put.stats.deviceId = "ABCDEFG" && put.stats.lastActive = 1005) = true := by
    decide +kernel
  obtain ⟨s, hsteps, hlast⟩ :=
    Machine.exists_run_of_foldlM start_sample (fun _ _ _ => step_of_replay) hany
  obtain ⟨hactive, hputs⟩ := Bool.and_eq_true_iff.1 hlast
  obtain ⟨thread, hthread, hany'⟩ := List.any_eq_true.1 hputs
  obtain ⟨put, hput, hset⟩ := List.any_eq_true.1 hany'
  obtain ⟨hid, hdate⟩ := Bool.and_eq_true_iff.1 hset
  have hzero : s.lastActive "ABCDEFG" = 0 := of_decide_eq_true hactive
  refine ⟨s, hsteps.reaches, hzero, fun hkept => ?_⟩
  -- its own thread has put the date
  have hle := (hkept thread hthread put hput).1
  rw [of_decide_eq_true hid, hzero, of_decide_eq_true hdate] at hle
  omega

end DevicesHandler

end Sample

end Client

end ASync
