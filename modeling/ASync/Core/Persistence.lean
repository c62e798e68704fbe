import ASync.Common.Threads
import ASync.Core.Configuration
import ASync.Core.Model.Persisting
/-!
# Whether edits reach the file

Once a persist call began, the edits made before it are due in the file.
While they are not there the flag is set, or a thread is on its way to put
them there (`Secured`). Only writing the file can end that: it may fail,
or put an older export over a newer one. In a run in which neither happens
with nobody on the way, no edit is lost (`persisted_of_run`).
-/

namespace ASync

namespace Core

namespace Persisting

open ConfigurationService

section Persisting

variable [Guava] {c : ConfigurationService} {s s' : Persisting} {es : List PersistEvent}
variable {e : PersistEvent} {content : Option Properties} {thread : PersistThread} {i : ℕ}
variable {outcome : WriteOutcome}

/-! ## What is due -/

/-- The configuration after the edits of some events. -/
def edited (c : ConfigurationService) (es : List PersistEvent) : ConfigurationService :=
  es.foldl (fun c e =>
    match e with
    | .edit edit => c.edit edit
    | _ => c) c

def isEdit : PersistEvent → Bool
  | .edit _ => true
  | _ => false

/-- A persist call begins. -/
def isPersist : PersistEvent → Bool
  | .persistNow => true
  | .persistLater => true
  | _ => false

/-- The number of edits made. -/
def edits (es : List PersistEvent) : ℕ := es.countP isEdit

/-- The number of edits made before the latest persist call began. -/
def due (es : List PersistEvent) : ℕ := edits (es.rdropWhile fun e => !isPersist e)

/-- The thread takes a step. -/
def isRunOf (i : ℕ) : PersistEvent → Bool
  | .run j _ => decide (j = i)
  | _ => false

/-- The events up to the latest step of a thread. -/
def upTo (es : List PersistEvent) (i : ℕ) : List PersistEvent :=
  es.rdropWhile fun e => !isRunOf i e

/-- A thread that is to write what is due: it has yet to set the flag, or
to take the snapshot, or it took its snapshot, in its latest step, after
the edits that are due. -/
def IsToWrite (es : List PersistEvent) (i : ℕ) : PersistThread → Prop
  | .persistNow => True
  | .persistLater => True
  | .submitting => False
  | .storing _ .called => False
  | .storing _ .cleared => True
  | .storing _ (.exported _) => due es ≤ edits (upTo es i)
  | .storing _ .returned => False

/-- A thread that writes the file succeeds, and took its snapshot after
the edits that are due; or the flag is set; or another thread is to
write. -/
def Covers (es : List PersistEvent) (s : Persisting) : PersistEvent → Prop
  | .run i outcome =>
    ∀ executor properties, s.threads[i]? = some (.storing executor (.exported properties)) →
      (outcome = .stored ∧ due es ≤ edits (upTo es i)) ∨ s.isDirty = true ∨
        ∃ j ≠ i, ∃ thread, s.threads[j]? = some thread ∧ IsToWrite es j thread
  | _ => True

theorem upTo_concat (hrun : isRunOf i e = false) : upTo (es ++ [e]) i = upTo es i := by
  unfold upTo
  rw [List.rdropWhile_concat_pos _ _ _ (by rw [hrun]; rfl)]

theorem upTo_concat_run : upTo (es ++ [.run i outcome]) i = es ++ [.run i outcome] := by
  unfold upTo
  rw [List.rdropWhile_concat_neg _ _ _ (by simp [isRunOf])]

theorem edited_concat (c : ConfigurationService) (es : List PersistEvent) (e : PersistEvent) :
    edited c (es ++ [e]) = edited (edited c es) [e] := List.foldl_append

theorem due_concat (hpersist : isPersist e = false) : due (es ++ [e]) = due es := by
  unfold due
  rw [List.rdropWhile_concat_pos _ _ _ (by rw [hpersist]; rfl)]

/-- What is due was made. -/
theorem due_le_edits (es : List PersistEvent) : due es ≤ edits es :=
  (List.rdropWhile_prefix (fun e => !isPersist e) es).sublist.countP_le

section Exports

variable [Base64] [Gson (List FolderConfig)] [Gson (List DeviceConfig)] [JavaSystem]

/-- Some content is the export of a configuration that had every edit
made before a persist call began. -/
def Includes (c : ConfigurationService) (es : List PersistEvent)
    (content : Option Properties) : Prop :=
  ∃ es₁, es₁ <+: es ∧ content = some (edited c es₁).exported ∧ due es ≤ edits es₁

/-- An export of the present is never short. -/
theorem includes_exported (c : ConfigurationService) (es : List PersistEvent) :
    Includes c es (some (edited c es).exported) :=
  ⟨es, List.prefix_rfl, rfl, due_le_edits es⟩

/-- What is not short stays so until a persist call begins. -/
theorem Includes.concat (h : Includes c es content) (hpersist : isPersist e = false) :
    Includes c (es ++ [e]) content := by
  obtain ⟨es₁, hprefix, hcontent, hdue⟩ := h
  refine ⟨es₁, hprefix.trans (List.prefix_append _ _), hcontent, ?_⟩
  rw [due_concat hpersist]
  exact hdue

/-- A thread that only runs makes no difference. -/
theorem includes_concat_run : Includes c (es ++ [.run i outcome]) content ↔
    Includes c es content := by
  refine ⟨?_, fun h => h.concat rfl⟩
  rintro ⟨es₁, hprefix, hcontent, hdue⟩
  rw [due_concat rfl] at hdue
  rcases List.prefix_concat_iff.1 hprefix with rfl | hprefix
  · refine ⟨es, List.prefix_rfl, ?_, due_le_edits es⟩
    rw [hcontent, edited_concat]
    rfl
  · exact ⟨es₁, hprefix, hcontent, hdue⟩

/-! ## On the way to the file -/

/-- A thread is to write what is due, or to see to it. -/
def Promises (c : ConfigurationService) (es : List PersistEvent) : PersistThread → Prop
  | .persistNow => True
  | .persistLater => True
  | .submitting => False
  | .storing _ .called => False
  | .storing _ .cleared => True
  | .storing _ (.exported properties) => Includes c es (some properties)
  | .storing _ .returned => False

/-- What is due is in the file, or on the way to it. -/
def Secured (c : ConfigurationService) (es : List PersistEvent) (s : Persisting) : Prop :=
  Includes c es s.file ∨ s.isDirty = true ∨ ∃ thread ∈ s.threads, Promises c es thread

/-- A thread that writes the file leaves what is due in it, or to the flag
or another thread. -/
def Leaves (c : ConfigurationService) (es : List PersistEvent) (s : Persisting) :
    PersistEvent → Prop
  | .run i outcome =>
    ∀ executor properties, s.threads[i]? = some (.storing executor (.exported properties)) →
      Includes c es (outcome.left properties) ∨ s.isDirty = true ∨
        Threads.Another (Promises c es) s.threads i
  | _ => True

theorem Promises.concat (h : Promises c es thread) (hpersist : isPersist e = false) :
    Promises c (es ++ [e]) thread := by
  unfold Promises at h ⊢
  split
  · trivial
  · trivial
  · exact h
  · exact h
  · trivial
  · exact h.concat hpersist
  · exact h

theorem promises_concat_run : Promises c (es ++ [.run i outcome]) thread ↔
    Promises c es thread := by
  refine ⟨fun h => ?_, fun h => h.concat rfl⟩
  unfold Promises at h ⊢
  split
  · trivial
  · trivial
  · exact h
  · exact h
  · trivial
  · exact includes_concat_run.1 h
  · exact h

/-! ## One step -/

theorem memory_step (h : (persisting c).step s e s') (hmemory : s.memory = edited c es) :
    s'.memory = edited c (es ++ [e]) := by
  rw [edited_concat, ← hmemory]
  cases e with
  | edit =>
    rw [h]
    rfl
  | persistNow =>
    rw [h]
    rfl
  | persistLater =>
    rw [h]
    rfl
  | run i outcome =>
    obtain ⟨thread, -, -, rfl⟩ := h
    change (s.ran i outcome thread).memory = s.memory
    unfold ran storeConfiguration
    split
    · rfl
    · rfl
    · rfl
    · split
      · split
        · split
          · rfl
          · rfl
        · rfl
      · rfl
      · rfl
      · rfl

/-- A thread that begins to persist sees to what is due. -/
theorem secured_of_begun (hs' : s' = { s with threads := s.threads ++ [thread] })
    (hthread : Promises c es thread) : Secured c es s' := by
  rw [hs']
  exact Or.inr (Or.inr ⟨thread, List.mem_append_right _ (List.mem_singleton.2 rfl), hthread⟩)

/-- A thread that promised nothing moves on, and touches neither the flag
nor the file. -/
theorem Secured.moved {moved : PersistThread} (h : Secured c es s)
    (hi : s.threads[i]? = some thread)
    (hnot : ¬ Promises c es thread) : Secured c es (s.moved i moved) :=
  h.imp_right fun hrest => hrest.imp_right fun hpromise =>
    Threads.exists_mem_set_of_not hi hnot hpromise moved

/-- A thread that moves on promises what is due. -/
theorem secured_moved {moved : PersistThread} (hi : s.threads[i]? = some thread)
    (hmoved : Promises c es moved) : Secured c es (s.moved i moved) :=
  Or.inr (Or.inr (Threads.exists_mem_set_self hi hmoved))

/-- **A thread runs on** and what is due stays secured, exactly when it
leaves it so where it writes the file. -/
theorem Secured.ran_iff (h : Secured c es s) (hmemory : s.memory = edited c es)
    (hi : s.threads[i]? = some thread) :
    Secured c es (s.ran i outcome thread) ↔ Leaves c es s (.run i outcome) := by
  -- a thread that does not write the file
  have hother : (∀ executor properties, thread ≠ .storing executor (.exported properties)) →
      Leaves c es s (.run i outcome) := by
    intro hne executor properties hwrites
    exact absurd (Option.some.inj (hi.symm.trans hwrites)) (hne executor properties)
  rcases thread with _ | _ | _ | ⟨executor, store⟩
  · exact iff_of_true (Or.inr (Or.inl rfl)) (hother nofun)
  · exact iff_of_true (Or.inr (Or.inl rfl)) (hother nofun)
  · refine iff_of_true (h.imp_right fun hrest => hrest.imp_right fun hpromise => ?_) (hother nofun)
    obtain ⟨t, ht, hpromises⟩ :=
      Threads.exists_mem_set_of_not hi id hpromise (.storing false .returned)
    exact ⟨t, List.mem_append_left _ ht, hpromises⟩
  · rcases store with _ | _ | properties | _
    · refine iff_of_true ?_ (hother nofun)
      change Secured c es (if s.memory.configuration.isSome = true then
        if s.isDirty = true then _ else _ else _)
      split
      · split
        · exact Or.inr (Or.inr (Threads.exists_mem_set_self hi (by trivial)))
        · exact h.moved hi id
      · exact h.moved hi id
    · refine iff_of_true (secured_moved hi ?_) (hother nofun)
      change Includes c es (some s.memory.exported)
      rw [hmemory]
      exact includes_exported c es
    · have hset : (∃ t ∈ s.threads.set i (.storing executor .returned), Promises c es t) ↔
          Threads.Another (Promises c es) s.threads i :=
        ⟨fun hmem => Threads.another_of_exists_mem_set id hmem,
          fun hanother => Threads.exists_mem_set_of_ne hanother _⟩
      have hsecured : Secured c es (s.ran i outcome (.storing executor (.exported properties))) ↔
          Includes c es (outcome.left properties) ∨ s.isDirty = true ∨
            Threads.Another (Promises c es) s.threads i :=
        or_congr_right (or_congr_right hset)
      rw [hsecured]
      refine ⟨fun hleft executor' properties' hwrites => ?_,
        fun hleaves => hleaves executor properties hi⟩
      obtain ⟨rfl, hproperties⟩ :=
        PersistThread.storing.inj (Option.some.inj (hi.symm.trans hwrites))
      obtain rfl := StoreConfiguration.exported.inj hproperties
      exact hleft
    · exact iff_of_true h (hother nofun)

theorem secured_concat_run : Secured c (es ++ [.run i outcome]) s ↔ Secured c es s := by
  unfold Secured
  simp only [includes_concat_run, promises_concat_run]

theorem Secured.step_iff (h : Secured c es s) (hmemory : s.memory = edited c es)
    (hstep : (persisting c).step s e s') : Secured c (es ++ [e]) s' ↔ Leaves c es s e := by
  cases e with
  | edit =>
    refine iff_of_true ?_ trivial
    rw [hstep]
    refine h.imp (fun hfile => hfile.concat rfl) fun hrest => hrest.imp_right ?_
    rintro ⟨thread, hthread, hpromises⟩
    exact ⟨thread, hthread, hpromises.concat rfl⟩
  | persistNow => exact iff_of_true (secured_of_begun hstep trivial) trivial
  | persistLater => exact iff_of_true (secured_of_begun hstep trivial) trivial
  | run =>
    obtain ⟨thread, hi, -, rfl⟩ := hstep
    rw [secured_concat_run]
    exact h.ran_iff hmemory hi

/-! ## Snapshots -/

/-- A snapshot is of the configuration as it was at the latest step of its
thread. -/
def Snapshots (c : ConfigurationService) (es : List PersistEvent) (s : Persisting) : Prop :=
  ∀ i executor properties, s.threads[i]? = some (.storing executor (.exported properties)) →
    properties = (edited c (upTo es i)).exported

/-- Taken after the edits that are due, it includes them. -/
theorem includes_of_upTo {properties : Properties}
    (h : properties = (edited c (upTo es i)).exported)
    (hdue : due es ≤ edits (upTo es i)) : Includes c es (some properties) :=
  ⟨upTo es i, List.rdropWhile_prefix _ es, congrArg some h, hdue⟩

theorem Snapshots.promises (h : Snapshots c es s) (hi : s.threads[i]? = some thread)
    (hwrites : IsToWrite es i thread) : Promises c es thread := by
  rcases thread with _ | _ | _ | ⟨executor, _ | _ | properties | _⟩
  · trivial
  · trivial
  · exact hwrites
  · exact hwrites
  · trivial
  · exact includes_of_upTo (h i executor properties hi) hwrites
  · exact hwrites

/-- **Where a write covers what is due** it leaves it in the file, or to
the flag or another thread. -/
theorem Snapshots.leaves (h : Snapshots c es s) (hcovers : Covers es s e) : Leaves c es s e := by
  cases e with
  | edit => trivial
  | persistNow => trivial
  | persistLater => trivial
  | run i =>
    intro executor properties hi
    rcases hcovers executor properties hi with ⟨rfl, hdue⟩ | hdirty | ⟨j, hne, thread, hj, hwrites⟩
    · exact Or.inl (includes_of_upTo (h i executor properties hi) hdue)
    · exact Or.inr (Or.inl hdirty)
    · exact Or.inr (Or.inr ⟨j, hne, thread, hj, h.promises hj hwrites⟩)

/-- A thread that begins to persist has no snapshot. -/
theorem Snapshots.begun (h : Snapshots c es s) (hs' : s'.threads = s.threads ++ [thread])
    (hthread : ∀ executor properties, thread ≠ .storing executor (.exported properties))
    (hrun : ∀ i, isRunOf i e = false) : Snapshots c (es ++ [e]) s' := by
  intro i executor properties hi
  rw [hs', List.getElem?_append] at hi
  rw [upTo_concat (hrun i)]
  split at hi
  · exact h i executor properties hi
  · exact absurd (List.mem_singleton.1 (List.mem_of_getElem? hi)).symm (hthread executor properties)

/-- The thread that runs takes a snapshot now, if it has one after that. -/
theorem Snapshots.moved (h : Snapshots c es s) (moved : PersistThread) {more : List PersistThread}
    (hs' : s'.threads = s.threads.set i moved ++ more)
    (hmore : ∀ thread ∈ more, ∀ executor properties,
      thread ≠ .storing executor (.exported properties))
    (hmoved : ∀ executor properties, moved = .storing executor (.exported properties) →
      properties = (edited c es).exported) : Snapshots c (es ++ [.run i outcome]) s' := by
  intro j executor properties hj
  rw [hs', List.getElem?_append] at hj
  split at hj
  · by_cases hij : i = j
    · subst hij
      rw [upTo_concat_run, edited_concat]
      obtain ⟨hlt, hget⟩ := List.getElem?_eq_some_iff.1 hj
      rw [List.getElem_set_self] at hget
      exact hmoved executor properties hget
    · rw [upTo_concat (show isRunOf j (.run i outcome) = false from decide_eq_false hij)]
      rw [List.getElem?_set_ne hij] at hj
      exact h j executor properties hj
  · exact absurd rfl (hmore _ (List.mem_of_getElem? hj) executor properties)

theorem Snapshots.step (h : Snapshots c es s) (hmemory : s.memory = edited c es)
    (hstep : (persisting c).step s e s') : Snapshots c (es ++ [e]) s' := by
  cases e with
  | edit =>
    intro i executor properties hi
    rw [hstep] at hi
    rw [upTo_concat rfl]
    exact h i executor properties hi
  | persistNow =>
    rw [hstep]
    exact h.begun rfl nofun fun _ => rfl
  | persistLater =>
    rw [hstep]
    exact h.begun rfl nofun fun _ => rfl
  | run i outcome =>
    obtain ⟨thread, hi, -, rfl⟩ := hstep
    -- a thread that takes no snapshot
    have hset : ∀ moved {s' : Persisting}, s'.threads = s.threads.set i moved →
        (∀ executor properties, moved ≠ .storing executor (.exported properties)) →
          Snapshots c (es ++ [.run i outcome]) s' :=
      fun moved _ hs' hmoved => h.moved moved (hs'.trans (List.append_nil _).symm)
        (List.forall_mem_nil _)
        fun executor properties heq => absurd heq (hmoved executor properties)
    rcases thread with _ | _ | _ | ⟨executor, _ | _ | properties | _⟩
    · exact hset _ rfl nofun
    · exact hset _ rfl nofun
    · refine h.moved (.storing false .returned) rfl (fun thread hthread => ?_)
        fun executor properties heq => by cases heq
      rw [List.mem_singleton.1 hthread]
      exact nofun
    · change Snapshots c _ (if s.memory.configuration.isSome = true then
        if s.isDirty = true then _ else _ else _)
      split
      · split
        · exact hset _ rfl nofun
        · exact hset _ rfl nofun
      · exact hset _ rfl nofun
    · refine h.moved (.storing executor (.exported s.memory.exported))
        (List.append_nil _).symm (List.forall_mem_nil _) fun executor' properties' heq => ?_
      obtain ⟨-, heq⟩ := PersistThread.storing.inj heq
      rw [← StoreConfiguration.exported.inj heq, hmemory]
    · exact hset _ rfl nofun
    · -- a thread that is done stays where it is
      refine hset (.storing executor .returned) ?_ nofun
      obtain ⟨hlt, hget⟩ := List.getElem?_eq_some_iff.1 hi
      change s.threads = _
      rw [← hget]
      exact (List.set_getElem_self hlt).symm

/-! ## Runs -/

/-- Nobody began to persist. -/
def Untouched (es : List PersistEvent) (s : Persisting) : Prop :=
  (∀ e ∈ es, isPersist e = false) ∧ s.threads = []

theorem Untouched.step (h : Untouched es s) (hstep : (persisting c).step s e s') :
    Untouched (es ++ [e]) s' ∨ Secured c (es ++ [e]) s' := by
  cases e with
  | edit =>
    refine Or.inl ⟨fun e he => ?_, ?_⟩
    · rcases List.mem_append.1 he with hold | hnew
      · exact h.1 e hold
      · rw [List.mem_singleton.1 hnew]
        rfl
    · rw [hstep]
      exact h.2
  | persistNow => exact Or.inr (secured_of_begun hstep trivial)
  | persistLater => exact Or.inr (secured_of_begun hstep trivial)
  | run =>
    obtain ⟨thread, hi, -, -⟩ := hstep
    rw [h.2] at hi
    cases hi

theorem secured_or_untouched_of_run (h : (persisting c).Run Covers es s) :
    s.memory = edited c es ∧ Snapshots c es s ∧ (Untouched es s ∨ Secured c es s) := by
  refine h.invariant (I := fun es s => s.memory = edited c es ∧ Snapshots c es s ∧
    (Untouched es s ∨ Secured c es s)) ?_ ?_
  · rintro s ⟨hmemory, -, hthreads⟩
    refine ⟨hmemory, fun i executor properties hi => ?_,
      Or.inl ⟨fun e he => (by cases he), hthreads⟩⟩
    rw [hthreads] at hi
    cases hi
  · rintro es s e s' - ⟨hmemory, hsnapshots, hinv⟩ hcovers hstep
    refine ⟨memory_step hstep hmemory, hsnapshots.step hmemory hstep, ?_⟩
    rcases hinv with huntouched | hsecured
    · exact huntouched.step hstep
    · exact Or.inr ((hsecured.step_iff hmemory hstep).2 (hsnapshots.leaves hcovers))

theorem Idle.not_promises (h : s.Idle) : ¬ ∃ thread ∈ s.threads, Promises c es thread := by
  rintro ⟨thread, hthread, hpromises⟩
  obtain ⟨executor, rfl⟩ := h thread hthread
  exact hpromises

/-- **No edit is lost** in a run in which no write fails, and none puts an
older snapshot than is due into the file, unless the flag is set or
another thread is to write. -/
theorem persisted_of_run (h : (persisting c).Run Covers es s) (hidle : s.Idle)
    (hpersist : ∃ e ∈ es, isPersist e = true) : s.isDirty = true ∨ Includes c es s.file := by
  obtain ⟨-, -, ⟨hnone, -⟩ | hsecured⟩ := secured_or_untouched_of_run h
  · obtain ⟨e, he, hbegan⟩ := hpersist
    rw [hnone e he] at hbegan
    cases hbegan
  · rcases hsecured with hfile | hdirty | hpromises
    · exact Or.inr hfile
    · exact Or.inl hdirty
    · exact absurd hpromises hidle.not_promises

end Exports

end Persisting

/-! ## Sample runs -/

section Sample

attribute [local instance] javaSystem base64 gsonOfFolders gsonOfPeers Sample.guavaOfBase32

/-- A configuration with a file. -/
def sampleConfiguration : ConfigurationService where
  deviceName := some "a-sync"
  deviceId := none
  keystore := none
  keystoreAlgo := none
  folders := ∅
  peers := ∅
  discoveryServers := []
  cache := "/cache"
  temp := "/temp"
  database := "/database"
  configuration := some "/config"
  repositoryH2Config := none

def firstEdit : PersistEvent := .edit (.setDeviceId (some "first"))

def secondEdit : PersistEvent := .edit (.setDeviceId (some "second"))

/-- An edit is persisted, and written in some way. -/
def oneCall (outcome : WriteOutcome) : List PersistEvent :=
  [firstEdit, .persistNow, .run 0 .stored, .run 0 .stored, .run 0 .stored, .run 0 outcome]

/-- The state before the file is written. -/
def exportedOnce : Persisting where
  memory := edited sampleConfiguration [firstEdit]
  file := none
  threads := [.storing false (.exported (edited sampleConfiguration [firstEdit]).exported)]

theorem mayRun_of_ne {s : Persisting} {i : ℕ} {thread : PersistThread}
    (h : ∀ store, thread ≠ .storing true store) : s.MayRun i thread :=
  fun store heq => absurd heq (h store)

/-- A step of a thread that covers what is due. -/
theorem run_ran {s s' : Persisting} {es : List PersistEvent} {thread : PersistThread} (i : ℕ)
    (outcome : WriteOutcome) (h : (persisting sampleConfiguration).Run Covers es s)
    (hi : s.threads[i]? = some thread) (hcaller : ∀ store, thread ≠ .storing true store)
    (hcovers : Covers es s (.run i outcome)) (hs' : s' = s.ran i outcome thread) :
    (persisting sampleConfiguration).Run Covers (es ++ [.run i outcome]) s' :=
  h.step hcovers ⟨thread, hi, mayRun_of_ne hcaller, hs'⟩

/-- A thread that does not write the file covers what is due. -/
theorem covers_of_ne {s : Persisting} {es : List PersistEvent} {thread : PersistThread} {i : ℕ}
    {outcome : WriteOutcome} (hi : s.threads[i]? = some thread)
    (hne : ∀ executor properties, thread ≠ .storing executor (.exported properties)) :
    Covers es s (.run i outcome) := fun executor properties hexported =>
  absurd (Option.some.inj (hi.symm.trans hexported)) (hne executor properties)

theorem run_exportedOnce : (persisting sampleConfiguration).Run Covers
    [firstEdit, .persistNow, .run 0 .stored, .run 0 .stored, .run 0 .stored] exportedOnce := by
  have hstart : (persisting sampleConfiguration).Run Covers []
      { memory := sampleConfiguration, file := none } := Machine.Run.start ⟨rfl, rfl, rfl⟩
  have hedit : (persisting sampleConfiguration).step { memory := sampleConfiguration, file := none }
      firstEdit { memory := edited sampleConfiguration [firstEdit], file := none } := rfl
  have hbegin : (persisting sampleConfiguration).step
      { memory := edited sampleConfiguration [firstEdit], file := none } .persistNow
      { memory := edited sampleConfiguration [firstEdit]
        file := none
        threads := [.persistNow] } := rfl
  have hbegun := (hstart.step (by trivial) hedit).step (by trivial) hbegin
  have hcalled := run_ran 0 .stored hbegun rfl nofun (covers_of_ne rfl nofun) rfl
  have hcleared := run_ran 0 .stored hcalled rfl nofun (covers_of_ne rfl nofun) rfl
  exact run_ran 0 .stored hcleared rfl nofun (covers_of_ne rfl nofun) rfl

/-- A second edit is made and its persist call begins before the first is
written, which fails; the second call runs through. -/
def handedOver : List PersistEvent :=
  [firstEdit, .persistNow, .run 0 .stored, .run 0 .stored, .run 0 .stored, secondEdit, .persistNow,
    .run 0 (.failed none), .run 1 .stored, .run 1 .stored, .run 1 .stored, .run 1 .stored]

/-- The state before the first call writes. -/
def bothBegun : Persisting where
  memory := edited sampleConfiguration [firstEdit, secondEdit]
  file := none
  threads := [.storing false (.exported (edited sampleConfiguration [firstEdit]).exported),
    .persistNow]

theorem run_bothBegun : (persisting sampleConfiguration).Run Covers
    [firstEdit, .persistNow, .run 0 .stored, .run 0 .stored, .run 0 .stored, secondEdit,
      .persistNow]
      bothBegun := by
  have hedit : (persisting sampleConfiguration).step exportedOnce secondEdit
      { exportedOnce with memory := edited sampleConfiguration [firstEdit, secondEdit] } := rfl
  have hbegin : (persisting sampleConfiguration).step
      { exportedOnce with memory := edited sampleConfiguration [firstEdit, secondEdit] } .persistNow
      bothBegun := rfl
  exact (run_exportedOnce.step (by trivial) hedit).step (by trivial) hbegin

/-- The file is written with both edits, though the first write failed. -/
theorem persisted_of_run_sample :
    ∃ s, (persisting sampleConfiguration).Run Covers handedOver s ∧ s.file.isSome = true ∧
      s.isDirty = false ∧ (s.isDirty = true ∨ Includes sampleConfiguration handedOver s.file) := by
  -- the first write fails, and the second call has yet to set the flag
  have hfailed := run_ran 0 (.failed none) run_bothBegun rfl nofun
    (fun _ _ _ => Or.inr (Or.inr ⟨1, Nat.one_ne_zero, .persistNow, rfl, trivial⟩)) rfl
  have hcalled := run_ran 1 .stored hfailed rfl nofun (covers_of_ne rfl nofun) rfl
  have hcleared := run_ran 1 .stored hcalled rfl nofun (covers_of_ne rfl nofun) rfl
  have hexported := run_ran 1 .stored hcleared rfl nofun (covers_of_ne rfl nofun) rfl
  have hrun := run_ran 1 .stored hexported rfl nofun
    (fun _ _ _ => Or.inl ⟨rfl, by decide⟩) rfl
  refine ⟨_, hrun, rfl, rfl, persisted_of_run hrun ?_
    ⟨.persistNow, List.mem_cons_of_mem _ List.mem_cons_self, rfl⟩⟩
  intro thread hthread
  rcases List.mem_cons.1 hthread with rfl | hthread
  · exact ⟨false, rfl⟩
  · exact ⟨false, List.mem_singleton.1 hthread⟩

/-- A second edit is made and persisted between the export of the first and
its write. -/
def overlapping : List PersistEvent :=
  [firstEdit, .persistNow, .run 0 .stored, .run 0 .stored, .run 0 .stored, secondEdit, .persistNow,
    .run 1 .stored, .run 1 .stored, .run 1 .stored, .run 1 .stored, .run 0 .stored]

theorem deviceId_of_includes {es : List PersistEvent} {properties : Properties} {deviceId : String}
    (hlast : ∀ es₁ ∈ es.inits, due es ≤ edits es₁ →
      (edited sampleConfiguration es₁).deviceId = some deviceId)
    (hblank : isBlank (some deviceId) = false)
      (h : Includes sampleConfiguration es (some properties)) :
    properties.find DEVICE_ID = some deviceId := by
  obtain ⟨es₁, hprefix, hcontent, hdue⟩ := h
  rw [Option.some.inj hcontent, find_exported_deviceId,
    hlast es₁ ((List.mem_inits _ _).2 hprefix) hdue]
  exact unlessBlank_eq_self_iff.2 (Or.inr hblank)

/-- A step of a thread in a run of any kind. -/
theorem reaches_ran {s s' : Persisting} {es : List PersistEvent} {thread : PersistThread} (i : ℕ)
    (outcome : WriteOutcome) (h : (persisting sampleConfiguration).Reaches es s)
    (hi : s.threads[i]? = some thread) (hcaller : ∀ store, thread ≠ .storing true store)
    (hs' : s' = s.ran i outcome thread) :
    (persisting sampleConfiguration).Reaches (es ++ [.run i outcome]) s' :=
  h.step trivial ⟨thread, hi, mayRun_of_ne hcaller, hs'⟩

/-- The state at the end: the export of the first call is in the file. -/
def overwritten : Persisting where
  memory := edited sampleConfiguration [firstEdit, secondEdit]
  file := some (edited sampleConfiguration [firstEdit]).exported
  threads := [.storing false .returned, .storing false .returned]

theorem reaches_overwritten : (persisting sampleConfiguration).Reaches overlapping overwritten := by
  -- the second call runs through, and then the first goes on
  have hcalled := reaches_ran 1 .stored run_bothBegun.reaches rfl nofun rfl
  have hcleared := reaches_ran 1 .stored hcalled rfl nofun rfl
  have hexported := reaches_ran 1 .stored hcleared rfl nofun rfl
  have hwritten := reaches_ran 1 .stored hexported rfl nofun rfl
  exact reaches_ran 0 .stored hwritten rfl nofun rfl

/-- **An edit is lost** where writing the file fails, and where an older
export is written after a newer one: nobody persists any more, the flag is
clear, and the file does not have the edit. -/
theorem edit_is_lost :
    (∃ s, (persisting sampleConfiguration).Reaches (oneCall (.failed none)) s ∧ s.Idle ∧
      s.isDirty = false ∧ ¬ Includes sampleConfiguration (oneCall (.failed none)) s.file) ∧
    ∃ s, (persisting sampleConfiguration).Reaches overlapping s ∧ s.Idle ∧ s.isDirty = false ∧
      ¬ Includes sampleConfiguration overlapping s.file := by
  refine ⟨⟨_, reaches_ran 0 _ run_exportedOnce.reaches rfl nofun rfl, ?_, rfl, ?_⟩,
    overwritten, reaches_overwritten, ?_, rfl, fun hincludes => ?_⟩
  · intro thread hthread
    exact ⟨false, List.mem_singleton.1 hthread⟩
  · rintro ⟨es₁, -, hcontent, -⟩
    cases hcontent
  · intro thread hthread
    rcases List.mem_cons.1 hthread with rfl | hthread
    · exact ⟨false, rfl⟩
    · exact ⟨false, List.mem_singleton.1 hthread⟩
  · have hsecond : (edited sampleConfiguration [firstEdit]).exported.find DEVICE_ID =
        some "second" :=
      deviceId_of_includes (by decide) (by decide) hincludes
    rw [find_exported_deviceId] at hsecond
    exact absurd hsecond (by decide)

end Sample

end Persisting

end Core

end ASync
