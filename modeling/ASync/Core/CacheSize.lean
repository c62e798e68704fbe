import ASync.Common.LoadingCache
import ASync.Core.Helpers.Sample
import ASync.Core.Model.BlockCaches
/-!
# The size of the cache directory

A cleanup deletes half of the files by number, and runs when the estimate
of one cache says so. So the directory stays within its limit as long as
each cleanup frees enough, and each write that passes the limit is seen to
pass it by the cache it is for (`bounded_of_run`); no further
(`bounded_step_iff`). The estimate of a cache does not know what the
others wrote.
-/

namespace ASync

namespace Core

namespace BlockCaches

variable {s s' : BlockCaches} {files : Table String CacheFile} {listing : List String}
variable {code : String} {data : Bytes} {now size : ℤ} {e : BlockCacheEvent}
variable {es : List BlockCacheEvent}

/-! ## Sizes -/

theorem share_nonneg (files : Table String CacheFile) (code : String) :
    0 ≤ files.share (fun _ file => file.length) code := by
  unfold Table.share
  rcases files.find code with _ | file
  · exact le_refl 0
  · exact file.length_nonneg

/-- Deleting a file makes the directory no larger. -/
theorem sizeOfDirectory_delete_le : sizeOfDirectory
    (files.delete code) ≤ sizeOfDirectory files := by
  unfold sizeOfDirectory
  rw [Table.sum_delete]
  have hshare := share_nonneg files code
  omega

/-- A file that was not there adds its length. -/
theorem sizeOfDirectory_merge (h : files.find code = none) (file : CacheFile) :
    sizeOfDirectory (files.merge code file) = sizeOfDirectory files + file.length :=
  Table.sum_merge_of_find_none _ h

/-- Touching a file does not change its length. -/
theorem sizeOfDirectory_touched :
    sizeOfDirectory (files.merge code (.touched (files.find code) now)) =
      sizeOfDirectory files := by
  unfold sizeOfDirectory
  rw [Table.sum_merge, Table.share]
  rcases files.find code with _ | file
  · exact (add_zero _).trans (sub_zero _)
  · exact sub_add_cancel _ _

/-! ## Cleaning up -/

/-- When a file of the directory was modified. -/
def modifiedAt (files : Table String CacheFile) (code : String) : ℤ :=
  (files.find code).elim 0 CacheFile.lastModified

/-- One file was modified before another one, or at the same time and is
listed before it. -/
def IsBefore (files : Table String CacheFile) (listing : List String)
    (code other : String) : Prop :=
  modifiedAt files code < modifiedAt files other ∨
    (modifiedAt files code = modifiedAt files other ∧ [code, other].Sublist listing)

instance (files : Table String CacheFile) (listing : List String) (code other : String) :
    Decidable (IsBefore files listing code other) := inferInstanceAs (Decidable (_ ∨ _))

/-- **The least recently modified half** of a directory: the files with
less than half of the files, rounded down, before them. -/
def leastRecentHalf (files : Table String CacheFile) (listing : List String) : List String :=
  listing.filter fun code =>
    decide (listing.countP (fun other => IsBefore files listing other code) < listing.length / 2)

/-- What these have together. -/
def leastRecentSize (files : Table String CacheFile) (listing : List String) : ℤ :=
  ((leastRecentHalf files listing).map (files.share fun _ file => file.length)).sum

theorem leastRecentSize_nonneg (files : Table String CacheFile) (listing : List String) :
    0 ≤ leastRecentSize files listing := by
  refine List.sum_nonneg fun length hlength => ?_
  obtain ⟨code, -, rfl⟩ := List.mem_map.1 hlength
  exact share_nonneg files code

theorem Lists.nodup_oldest (h : Lists files listing) : (oldest files listing).Nodup := by
  unfold oldest
  exact ((Comparator.sort_perm _ listing).nodup_iff.2 h.nodup).sublist (List.take_sublist _ _)

/-- **A cleanup deletes the least recently modified half.** -/
theorem Lists.oldest_perm (h : Lists files listing) :
    (oldest files listing).Perm (leastRecentHalf files listing) := by
  have hnodup : (leastRecentHalf files listing).Nodup := h.nodup.filter _
  refine (List.perm_ext_iff_of_nodup h.nodup_oldest hnodup).2 fun code => ?_
  rw [leastRecentHalf, List.mem_filter, decide_eq_true_eq]
  have hbefore : ∀ other, decide (IsBefore files listing other code) = true ↔
      compare (modifiedAt files other) (modifiedAt files code) = .lt ∨
        (compare (modifiedAt files other) (modifiedAt files code) = .eq ∧
          [other, code].Sublist listing) := by
    intro other
    rw [decide_eq_true_eq, IsBefore, compare_lt_iff_lt, compare_eq_iff_eq]
  constructor
  · intro hmem
    have hcode : code ∈ listing :=
      Comparator.mem_sort.1 ((List.take_sublist _ _).subset (show code ∈ List.take _ _ from hmem))
    exact ⟨hcode, (Comparator.mem_take_sort_iff h.nodup hcode fun other _ => hbefore other).1 hmem⟩
  · rintro ⟨hcode, hfew⟩
    exact (Comparator.mem_take_sort_iff h.nodup hcode fun other _ => hbefore other).2 hfew

/-- **What a cleanup leaves.** -/
theorem sizeOfDirectory_runCleanup (h : Lists files listing) :
    sizeOfDirectory (runCleanup files listing size).1 =
      if size > MAX_SIZE then sizeOfDirectory files - leastRecentSize files listing
      else sizeOfDirectory files := by
  unfold runCleanup
  split
  · rw [leastRecentSize, ← (h.oldest_perm.map _).sum_eq]
    exact Table.sum_deleteAll _ h.nodup_oldest
  · rfl

/-! ## The limit -/

/-- The directory is within its limit, once a cache was constructed. -/
def Bounded (s : BlockCaches) : Prop := s.sizes ≠ [] → sizeOfDirectory s.files ≤ MAX_SIZE

/-- The least recently modified half of what a constructor finds has what
is over the limit; and where a write passes the limit, the estimate of its
cache passes it too, and that half of the files has what is over. -/
def Relieves (s : BlockCaches) : BlockCacheEvent → Prop
  | .construct listing => sizeOfDirectory s.files - MAX_SIZE ≤ leastRecentSize s.files listing
  | .runTask false now listing => ∀ cache code data queue,
      s.writerThread = .write cache code data :: queue → s.entry code = none →
      MAX_SIZE < sizeOfDirectory s.files + data.length →
      MAX_SIZE < s.sizes.getD cache 0 + data.length ∧
        sizeOfDirectory s.files + data.length - MAX_SIZE ≤
          leastRecentSize (s.written code data now).files listing
  | _ => True

theorem find_of_entry (h : s.entry code = none) : s.files.find code = none := by
  unfold entry at h
  split at h
  · cases h
  · exact Option.map_eq_none_iff.1 h

theorem sizeOfDirectory_written (h : s.entry code = none) :
    sizeOfDirectory (s.written code data now).files = sizeOfDirectory s.files + data.length :=
  sizeOfDirectory_merge (find_of_entry h) _

theorem Bounded.deleteQuietly (h : s.Bounded) (code : String) : (s.deleteQuietly code).Bounded := by
  unfold BlockCaches.deleteQuietly
  split
  · intro _
    exact (by decide : (0 : ℤ) ≤ MAX_SIZE)
  · intro hsizes
    exact sizeOfDirectory_delete_le.trans (h hsizes)

/-- **A constructor** keeps the limit, whatever was in the directory,
exactly when what it deletes has what was over. -/
theorem bounded_newFileBlockCache_iff (h : Lists s.files listing) :
    (s.newFileBlockCache listing).Bounded ↔
      sizeOfDirectory s.files - MAX_SIZE ≤ leastRecentSize s.files listing := by
  have hsizes : (s.newFileBlockCache listing).sizes ≠ [] := List.concat_ne_nil _ _
  have hfiles : sizeOfDirectory (s.newFileBlockCache listing).files =
      if sizeOfDirectory s.files > MAX_SIZE then sizeOfDirectory s.files - leastRecentSize
        s.files listing
      else sizeOfDirectory s.files := sizeOfDirectory_runCleanup h
  have hhalf := leastRecentSize_nonneg s.files listing
  unfold Bounded
  rw [forall_prop_of_true hsizes, hfiles]
  split
  · omega
  · omega

theorem writeTask_of_none {cache : ℕ} (hentry : s.entry code = none) :
    s.writeTask cache code data false now listing =
      { s.written code data now with
        files := (runCleanup (s.written code data now).files listing
          (s.sizes.getD cache 0 + data.length)).1
        sizes := s.sizes.set cache (runCleanup (s.written code data now).files listing
          (s.sizes.getD cache 0 + data.length)).2 } := by
  unfold writeTask
  rw [hentry]
  rfl

/-- What the directory has after a write of a block that was not there. -/
theorem sizeOfDirectory_writeTask {cache : ℕ} (hentry : s.entry code = none)
    (h : Lists (s.written code data now).files listing) :
    sizeOfDirectory (s.writeTask cache code data false now listing).files =
      if s.sizes.getD cache 0 + data.length > MAX_SIZE then
        sizeOfDirectory s.files + data.length - leastRecentSize
          (s.written code data now).files listing
      else sizeOfDirectory s.files + data.length := by
  have hwritten : sizeOfDirectory (s.written code data now).files =
      sizeOfDirectory s.files + data.length := sizeOfDirectory_written hentry
  rw [writeTask_of_none hentry, ← hwritten]
  exact sizeOfDirectory_runCleanup h

/-- **A write** of a block that was not there keeps the limit exactly when
it does not pass it, or its cache notices and what is deleted has what is
over. -/
theorem bounded_writeTask_iff {cache : ℕ} (hsizes : s.sizes ≠ []) (hentry : s.entry code = none)
    (h : Lists (s.written code data now).files listing) :
    (s.writeTask cache code data false now listing).Bounded ↔
      (MAX_SIZE < sizeOfDirectory s.files + data.length →
        MAX_SIZE < s.sizes.getD cache 0 + data.length ∧
          sizeOfDirectory s.files + data.length - MAX_SIZE ≤
            leastRecentSize (s.written code data now).files listing) := by
  have hset : (s.writeTask cache code data false now listing).sizes ≠ [] := by
    rw [writeTask_of_none hentry]
    exact fun hnil => hsizes ((List.set_eq_nil_iff _ _).1 hnil)
  have hfiles : sizeOfDirectory (s.writeTask cache code data false now listing).files = _ :=
    sizeOfDirectory_writeTask hentry h
  have hhalf := leastRecentSize_nonneg (s.written code data now).files listing
  unfold Bounded
  rw [forall_prop_of_true hset, hfiles]
  split
  · constructor
    · intro hle hover
      exact ⟨by omega, by omega⟩
    · intro hclean
      by_cases hover : MAX_SIZE < sizeOfDirectory s.files + data.length
      · have hexcess := (hclean hover).2
        omega
      · omega
  · constructor
    · intro hle hover
      omega
    · intro hclean
      by_contra hover
      exact absurd (hclean (not_le.1 hover)).1 (by assumption)

/-! ## Runs -/

/-- Tasks are submitted by caches that were constructed. -/
def Started (s : BlockCaches) : Prop := s.writerThread ≠ [] → s.sizes ≠ []

theorem sizes_writeTask_ne {cache : ℕ} {fails : Bool} (h : s.sizes ≠ []) :
    (s.writeTask cache code data fails now listing).sizes ≠ [] := by
  unfold writeTask
  split
  · split
    · unfold BlockCaches.deleteQuietly
      split
      · exact h
      · exact h
    · exact fun hnil => h ((List.set_eq_nil_iff _ _).1 hnil)
  · exact h

theorem sizes_runTask_ne {fails : Bool} (h : s.sizes ≠ []) (task : DirectoryTask) :
    (s.runTask fails now listing task).sizes ≠ [] := by
  unfold runTask
  split
  · split
    · exact h
    · exact h
  · exact sizes_writeTask_ne h
  · exact h

theorem writeTask_of_entry {cache : ℕ} {fails : Bool} {content : Option Bytes}
    (h : s.entry code = some content) : s.writeTask cache code data fails now listing = s := by
  unfold writeTask
  rw [h]
  rfl

/-- A task that fails writes nothing. -/
theorem Bounded.runTask_of_fails (h : s.Bounded) (task : DirectoryTask) :
    (s.runTask true now listing task).Bounded := by
  unfold runTask
  split
  · exact h
  · unfold writeTask
    split
    · exact h.deleteQuietly _
    · exact h
  · exact fun _ => (by decide : (0 : ℤ) ≤ MAX_SIZE)

/-- A task that does not fail, taken off the queue. -/
theorem Bounded.runTask_iff {task : DirectoryTask} {queue : List DirectoryTask} (h : s.Bounded)
    (hsizes : s.sizes ≠ []) (hqueue : s.writerThread = task :: queue)
    (hlists : ∀ cache code data, task = .write cache code data → s.entry code = none →
      Lists (s.written code data now).files listing) :
    (({ s with writerThread := queue } : BlockCaches).runTask false now listing task).Bounded ↔
      s.Relieves (.runTask false now listing) := by
  have hkept : Bounded { s with writerThread := queue } := h
  -- what a task other than a write of a new block has to do with the condition
  have hvacuous : (∀ cache code data, task = .write cache code data → s.entry code ≠ none) →
      s.Relieves (.runTask false now listing) := by
    intro hnot cache code data queue' hwrite hnone
    rw [hqueue] at hwrite
    exact absurd hnone (hnot cache code data (List.cons.inj hwrite).1)
  rcases task with code | ⟨cache, code, data⟩ | _
  · refine iff_of_true (fun hne => ?_) (hvacuous nofun)
    exact sizeOfDirectory_touched.le.trans (h hne)
  · rcases hentry : s.entry code with _ | content
    · change (BlockCaches.writeTask { s with writerThread := queue } cache code data false now
        listing).Bounded ↔ _
      have hwritten := hlists cache code data rfl hentry
      refine (bounded_writeTask_iff (s := { s with writerThread := queue }) hsizes hentry
        hwritten).trans
        ⟨fun hclean _ _ _ _ hwrite _ => ?_, fun hall => ?_⟩
      · rw [hqueue] at hwrite
        obtain ⟨rfl, rfl, rfl⟩ := DirectoryTask.write.inj (List.cons.inj hwrite).1
        exact hclean
      · exact hall cache code data queue hqueue hentry
    · have hsame :
          ({ s with writerThread := queue } : BlockCaches).writeTask cache code data false now
          listing = { s with writerThread := queue } := writeTask_of_entry hentry
      refine iff_of_true ?_ (hvacuous fun _ _ _ hwrite => ?_)
      · change (BlockCaches.writeTask { s with writerThread := queue } cache code data false now
          listing).Bounded
        rw [hsame]
        exact hkept
      · obtain ⟨rfl, rfl, rfl⟩ := DirectoryTask.write.inj hwrite
        rw [hentry]
        exact nofun
  · exact iff_of_true (fun _ => (by decide : (0 : ℤ) ≤ MAX_SIZE)) (hvacuous nofun)

section Steps

variable [Guava]

theorem sizes_pullFile (s : BlockCaches) (code : String) (shouldCheck : Bool) :
    (s.pullFile code shouldCheck).2.sizes = s.sizes := by
  have hdelete : (s.deleteQuietly code).sizes = s.sizes := by
    unfold BlockCaches.deleteQuietly
    split
    · rfl
    · rfl
  unfold pullFile
  split
  · rfl
  · exact hdelete
  · split
    · exact hdelete
    · rfl

/-- Pulling writes nothing. -/
theorem Bounded.pullFile (h : s.Bounded) (code : String) (shouldCheck : Bool) :
    (s.pullFile code shouldCheck).2.Bounded := by
  unfold BlockCaches.pullFile
  split
  · exact h
  · exact h.deleteQuietly code
  · split
    · exact h.deleteQuietly code
    · exact h

theorem Started.step (h : s.Started) (hstep : blockCaching.step s e s') : s'.Started := by
  have hvalid : ∀ {cache : ℕ}, cache < s.sizes.length → s.sizes ≠ [] := by
    intro cache hlt hnil
    rw [hnil, List.length_nil] at hlt
    omega
  intro _
  cases e with
  | construct listing =>
    obtain ⟨-, rfl⟩ := hstep
    exact List.concat_ne_nil _ _
  | pull cache code shouldCheck =>
    obtain ⟨hlt, -, rfl⟩ := hstep
    rw [sizes_pullFile]
    exact hvalid hlt
  | push cache code data =>
    obtain ⟨hlt, -, rfl⟩ := hstep
    exact hvalid hlt
  | clear cache =>
    obtain ⟨hlt, rfl⟩ := hstep
    exact hvalid hlt
  | runTask fails now listing =>
    obtain ⟨task, queue, hqueue, -, rfl⟩ := hstep
    have hsizes : s.sizes ≠ [] := h (by rw [hqueue]; exact List.cons_ne_nil _ _)
    exact sizes_runTask_ne (s := { s with writerThread := queue }) hsizes task

/-- **One step** leaves the directory within its limit exactly when a
cleanup it needs runs and frees enough. -/
theorem Bounded.step_iff (h : s.Bounded) (hstarted : s.Started) (hstep : blockCaching.step s e s') :
    s'.Bounded ↔ s.Relieves e := by
  cases e with
  | construct listing =>
    obtain ⟨hlists, rfl⟩ := hstep
    exact bounded_newFileBlockCache_iff hlists
  | pull cache code shouldCheck =>
    obtain ⟨-, -, rfl⟩ := hstep
    exact iff_of_true (h.pullFile code shouldCheck) trivial
  | push cache code data =>
    obtain ⟨-, -, rfl⟩ := hstep
    exact iff_of_true h trivial
  | clear cache =>
    obtain ⟨-, rfl⟩ := hstep
    exact iff_of_true h trivial
  | runTask fails now listing =>
    obtain ⟨task, queue, hqueue, hlists, rfl⟩ := hstep
    have hsizes : s.sizes ≠ [] := hstarted (by rw [hqueue]; exact List.cons_ne_nil _ _)
    cases fails with
    | true =>
      have hkept : Bounded { s with writerThread := queue } := h
      exact iff_of_true (hkept.runTask_of_fails task) trivial
    | false => exact h.runTask_iff hsizes hqueue hlists

theorem bounded_started_of_run (h : blockCaching.Run (fun _ s e => s.Relieves e) es s) :
    s.Bounded ∧ s.Started := by
  refine h.invariant (I := fun _ s => s.Bounded ∧ s.Started) ?_ ?_
  · rintro s ⟨hsizes, hqueue⟩
    exact ⟨fun hne => absurd hsizes hne, fun hne => absurd hqueue hne⟩
  · rintro es s e s' - ⟨hbounded, hstarted⟩ hrelieves hstep
    exact ⟨(hbounded.step_iff hstarted hstep).2 hrelieves, hstarted.step hstep⟩

/-- **The directory stays within its limit** in a run in which each
cleanup frees what is over it, and each write that passes it is seen to by
its cache. -/
theorem bounded_of_run (h : blockCaching.Run (fun _ s e => s.Relieves e) es s) : s.Bounded :=
  (bounded_started_of_run h).1

/-- **No other run stays within it**: the next step does exactly when it
is such a step. -/
theorem bounded_step_iff (h : blockCaching.Run (fun _ s e => s.Relieves e) es s)
    (hstep : blockCaching.step s e s') : s'.Bounded ↔ s.Relieves e :=
  (bounded_started_of_run h).1.step_iff (bounded_started_of_run h).2 hstep

end Steps

/-! ## One cache of them -/

section View

/-- The directory as a cache by itself sees it. -/
def view (s : BlockCaches) : FileBlockCache where
  dir := s.files.mapRows CacheFile.data

theorem entry_view (s : BlockCaches) (code : String) : s.view.entry code = s.entry code := by
  unfold FileBlockCache.entry entry view
  rw [Table.find_mapRows]

theorem deleteQuietly_view (s : BlockCaches) (code : String) :
    (s.view.deleteQuietly code).dir = (s.deleteQuietly code).view.dir := by
  unfold FileBlockCache.deleteQuietly BlockCaches.deleteQuietly
  split
  · rfl
  · refine Table.ext_find fun other => ?_
    unfold view
    rw [Table.find_mapRows]
    by_cases hcode : other = code
    · rw [hcode, Table.find_delete_self, Table.find_delete_self, Option.map_none]
    · rw [Table.find_delete_of_ne hcode, Table.find_delete_of_ne hcode, Table.find_mapRows]

/-- **Pulling a block** is the same for a cache among others. -/
theorem pullFile_view [Guava] (s : BlockCaches) (code : String) (shouldCheck : Bool) :
    (s.view.pullFile code shouldCheck).1 = (s.pullFile code shouldCheck).1 ∧
      (s.view.pullFile code shouldCheck).2.dir = (s.pullFile code shouldCheck).2.view.dir := by
  unfold FileBlockCache.pullFile BlockCaches.pullFile
  rw [entry_view]
  rcases s.entry code with _ | _ | data
  · exact ⟨rfl, rfl⟩
  · exact ⟨rfl, deleteQuietly_view s code⟩
  · by_cases hcheck : shouldCheck = true ∧ sha256Hex data ≠ code
    · simp only [if_pos hcheck]
      exact ⟨trivial, deleteQuietly_view s code⟩
    · simp only [if_neg hcheck]
      exact ⟨trivial, rfl⟩

end View

/-! ## Sample runs -/

section Sample

attribute [local instance] Sample.guavaOfLetters

theorem lists_empty : Lists ∅ [] := ⟨List.nodup_nil, fun code => by rw [Table.find_empty]; simp⟩

theorem Lists.merge {file : CacheFile} (h : Lists files listing) (hcode : code ∉ listing) :
    Lists (files.merge code file) (listing ++ [code]) := by
  refine ⟨List.nodup_append_comm.1 (List.nodup_cons.2 ⟨hcode, h.nodup⟩), fun other => ?_⟩
  rw [Table.find_merge, List.mem_append, List.mem_singleton, h.mem_iff]
  by_cases heq : other = code
  · simp [heq]
  · simp [heq]

/-- A write the cache sees no need to clean up after. -/
theorem writeTask_of_le {cache : ℕ} (hentry : s.entry code = none)
    (hle : s.sizes.getD cache 0 + data.length ≤ MAX_SIZE) :
    s.writeTask cache code data false now listing =
      { s.written code data now with
        sizes := s.sizes.set cache (s.sizes.getD cache 0 + data.length) } := by
  have hcleanup : runCleanup (s.written code data now).files listing
      (s.sizes.getD cache 0 + data.length) =
        ((s.written code data now).files, s.sizes.getD cache 0 + data.length) :=
          if_neg (not_lt.2 hle)
  rw [writeTask_of_none hentry, hcleanup]

theorem lists_one {file : CacheFile} : Lists ((∅ : Table String CacheFile).merge "A" file) ["A"] :=
  lists_empty.merge (List.not_mem_nil)

theorem step_construct {sizes : List ℤ} : blockCaching.step { files := ∅, sizes } (.construct [])
    { files := ∅, sizes := sizes ++ [0] } := ⟨lists_empty, rfl⟩

/-- A write, of a block within the limit, of a cache that wrote nothing yet. -/
theorem step_write {cache : ℕ} {queue : List DirectoryTask} (hentry : s.entry code = none)
    (hqueue : s.writerThread = .write cache code data :: queue)
    (hlists : Lists (s.files.merge code (.of data now)) listing)
    (hsize : s.sizes.getD cache 0 = 0) (hle : (data.length : ℤ) ≤ MAX_SIZE)
    (hs' : s' = {
      files := s.files.merge code (.of data now)
      sizes := s.sizes.set cache data.length
      writerThread := queue }) : blockCaching.step s (.runTask false now listing) s' := by
  refine ⟨_, queue, hqueue, fun cache' code' data' heq _ => ?_, ?_⟩
  · obtain ⟨rfl, rfl, rfl⟩ := DirectoryTask.write.inj heq
    exact hlists
  · have hwrite :
        ({ s with writerThread := queue } : BlockCaches).writeTask cache code data false now
        listing = { ({ s with writerThread := queue } : BlockCaches).written code data now with
          sizes := s.sizes.set cache (s.sizes.getD cache 0 + data.length) } :=
      writeTask_of_le hentry (by rw [hsize, zero_add]; exact hle)
    rw [hsize, zero_add] at hwrite
    exact hs'.trans hwrite.symm

theorem isFileName_A : IsFileName "A" := by
  unfold IsFileName
  decide

theorem isFileName_B : IsFileName "B" := by
  unfold IsFileName
  decide

/-- One cache is constructed on an empty directory, and writes two blocks. -/
def ownWrites (a b : Bytes) : List BlockCacheEvent :=
  [.construct [], .push 0 "A" a, .push 0 "B" b, .runTask false 0 ["A"], .runTask false 1 ["A", "B"]]

/-- The directory with both blocks. -/
def bothFiles (a b : Bytes) : Table String CacheFile :=
  ((∅ : Table String CacheFile).merge "A" (.of a 0)).merge "B" (.of b 1)

/-- The first of them was modified first. -/
theorem leastRecentSize_bothFiles (a b : Bytes) :
    leastRecentSize (bothFiles a b) ["A", "B"] = a.length := by
  have hhalf : leastRecentHalf (bothFiles a b) ["A", "B"] = ["A"] := by rfl
  rw [leastRecentSize, hhalf]
  exact Int.add_zero _

theorem lists_bothFiles (a b : Bytes) : Lists (bothFiles a b) ["A", "B"] :=
  lists_one.merge (by decide)

/-- The second block passes the limit, and its write is followed by a
cleanup that deletes the first. -/
theorem run_ownWrites {a b : Bytes} (ha : (a.length : ℤ) ≤ MAX_SIZE)
    (hb : (b.length : ℤ) ≤ MAX_SIZE)
    (hover : MAX_SIZE < a.length + b.length) :
    ∃ s, blockCaching.Run (fun _ s e => s.Relieves e) (ownWrites a b) s ∧
      sizeOfDirectory s.files = b.length := by
  have hstart : blockCaching.Run (fun _ s e => s.Relieves e) [] { files := ∅ } :=
    Machine.Run.start ⟨rfl, rfl⟩
  have hempty : ({ files := ∅ } : BlockCaches).Relieves (.construct []) :=
    (by decide +kernel : sizeOfDirectory ∅ - MAX_SIZE ≤ leastRecentSize ∅ [])
  have hconstruct : blockCaching.step { files := ∅ } (.construct []) { files := ∅, sizes := [0] } :=
    step_construct
  have hfirst : blockCaching.step { files := ∅, sizes := [0] } (.push 0 "A" a)
      { files := ∅, sizes := [0], writerThread := [.write 0 "A" a] } :=
        ⟨Nat.zero_lt_one, isFileName_A, rfl⟩
  have hsecond : blockCaching.step { files := ∅, sizes := [0], writerThread := [.write 0 "A" a] }
      (.push 0 "B" b)
      { files := ∅, sizes := [0], writerThread := [.write 0 "A" a, .write 0 "B" b] } :=
    ⟨Nat.zero_lt_one, isFileName_B, rfl⟩
  have hwriteA : blockCaching.step
      { files := ∅, sizes := [0], writerThread := [.write 0 "A" a, .write 0 "B" b] }
      (.runTask false 0 ["A"])
      { files := (∅ : Table String CacheFile).merge "A" (.of a 0)
        sizes := [(a.length : ℤ)]
        writerThread := [.write 0 "B" b] } :=
    step_write rfl rfl lists_one rfl ha rfl
  -- the first write stays under the limit
  have hfits : ({ files := ∅, sizes := [0], writerThread := [.write 0 "A" a, .write 0 "B" b] } :
      BlockCaches).Relieves (.runTask false 0 ["A"]) := by
    intro cache code data queue hqueue _ hpasses
    obtain ⟨rfl, rfl, rfl⟩ := DirectoryTask.write.inj (List.cons.inj hqueue).1
    have hzero : sizeOfDirectory ∅ = 0 := rfl
    dsimp only at hpasses
    omega
  have hrun :=
    ((((hstart.step hempty hconstruct).step (by trivial) hfirst).step (by trivial) hsecond).step
    hfits hwriteA)
  have hone : sizeOfDirectory ((∅ : Table String CacheFile).merge "A" (.of a 0)) = a.length :=
    (sizeOfDirectory_merge (by rfl) _).trans (Int.zero_add _)
  refine ⟨_, hrun.step (fun cache code data queue hqueue _ _ => ?_)
    ⟨_, [], rfl, fun cache code data heq _ => ?_, rfl⟩, ?_⟩
  · obtain ⟨rfl, rfl, rfl⟩ := DirectoryTask.write.inj (List.cons.inj hqueue).1
    refine ⟨hover, ?_⟩
    change sizeOfDirectory ((∅ : Table String CacheFile).merge "A" (.of a 0)) + b.length
      - MAX_SIZE ≤
      leastRecentSize (bothFiles a b) ["A", "B"]
    rw [leastRecentSize_bothFiles, hone]
    omega
  · obtain ⟨rfl, rfl, rfl⟩ := DirectoryTask.write.inj heq
    exact lists_bothFiles a b
  · -- the cleanup after the second deletes the first block only
    have hwritten : sizeOfDirectory (BlockCaches.writeTask
        { files := (∅ : Table String CacheFile).merge "A" (.of a 0), sizes := [(a.length : ℤ)] }
        0 "B" b false 1 ["A", "B"]).files = _ :=
      sizeOfDirectory_writeTask rfl (lists_bothFiles a b)
    refine hwritten.trans ((if_pos hover).trans ?_)
    change sizeOfDirectory ((∅ : Table String CacheFile).merge "A" (.of a 0)) + b.length -
      leastRecentSize (bothFiles a b) ["A", "B"] = b.length
    rw [leastRecentSize_bothFiles, hone]
    omega

theorem length_block (byte : UInt8) :
    ((List.replicate (30 * 1024 * 1024) byte).length : ℤ) = 30 * 1024 * 1024 := by
  rw [List.length_replicate]
  rfl

/-- **A cleanup makes room**: the second block passes the limit, which the
cache sees, and the first block is deleted. -/
theorem bounded_of_run_sample : ∃ s, blockCaching.Run (fun _ s e => s.Relieves e)
    (ownWrites (List.replicate (30 * 1024 * 1024) 0) (List.replicate (30 * 1024 * 1024) 1)) s ∧
      sizeOfDirectory s.files = 30 * 1024 * 1024 ∧ s.Bounded := by
  have hle : (30 * 1024 * 1024 : ℤ) ≤ MAX_SIZE := by decide
  have hover : MAX_SIZE < (30 * 1024 * 1024 : ℤ) + 30 * 1024 * 1024 := by decide
  rw [← length_block 0] at hover
  obtain ⟨s, hrun, hsize⟩ :=
    run_ownWrites ((length_block 0).trans_le hle) ((length_block 1).trans_le hle)
    (hover.trans_eq (congrArg _ ((length_block 0).trans (length_block 1).symm)))
  exact ⟨s, hrun, hsize.trans (length_block 1), bounded_of_run hrun⟩

/-- Two caches are constructed on an empty directory, and write a block each. -/
def twoWrites (a b : Bytes) : List BlockCacheEvent :=
  [.construct [], .construct [], .push 0 "A" a, .push 1 "B" b, .runTask false 0 ["A"],
    .runTask false 1 ["A", "B"]]

theorem reaches_twoWrites {a b : Bytes} (ha : (a.length : ℤ) ≤ MAX_SIZE)
    (hb : (b.length : ℤ) ≤ MAX_SIZE) : blockCaching.Reaches (twoWrites a b)
      { files := ((∅ : Table String CacheFile).merge "A" (.of a 0)).merge "B" (.of b 1)
        sizes := [(a.length : ℤ), (b.length : ℤ)] } := by
  have hstart : blockCaching.Reaches [] { files := ∅ } := Machine.Run.start ⟨rfl, rfl⟩
  have hfirst : blockCaching.step { files := ∅, sizes := [0, 0] } (.push 0 "A" a)
      { files := ∅, sizes := [0, 0], writerThread := [.write 0 "A" a] } :=
        ⟨Nat.zero_lt_two, isFileName_A, rfl⟩
  have hsecond : blockCaching.step { files := ∅, sizes := [0, 0], writerThread := [.write 0 "A" a] }
      (.push 1 "B" b)
      { files := ∅, sizes := [0, 0], writerThread := [.write 0 "A" a, .write 1 "B" b] } :=
    ⟨Nat.one_lt_two, isFileName_B, rfl⟩
  have hwriteA : blockCaching.step
      { files := ∅, sizes := [0, 0], writerThread := [.write 0 "A" a, .write 1 "B" b] }
      (.runTask false 0 ["A"])
      { files := (∅ : Table String CacheFile).merge "A" (.of a 0)
        sizes := [(a.length : ℤ), 0]
        writerThread := [.write 1 "B" b] } :=
    step_write rfl rfl lists_one rfl ha rfl
  have hwriteB : blockCaching.step
      { files := (∅ : Table String CacheFile).merge "A" (.of a 0)
        sizes := [(a.length : ℤ), 0]
        writerThread := [.write 1 "B" b] }
      (.runTask false 1 ["A", "B"])
      { files := ((∅ : Table String CacheFile).merge "A" (.of a 0)).merge "B" (.of b 1)
        sizes := [(a.length : ℤ), (b.length : ℤ)] } :=
    step_write rfl rfl (lists_one.merge (by decide)) rfl hb rfl
  exact (((((hstart.step trivial step_construct).step trivial step_construct).step trivial
    hfirst).step
    trivial hsecond).step trivial hwriteA).step trivial hwriteB

/-- **Two caches pass the limit together**: each has written thirty
mebibytes and estimates as much, and the directory has sixty. -/
theorem two_caches_pass_limit :
    ∃ s, blockCaching.Reaches
        (twoWrites (List.replicate (30 * 1024 * 1024) 0) (List.replicate (30 * 1024 * 1024) 1)) s ∧
      s.writerThread = [] ∧ s.sizes = [30 * 1024 * 1024, 30 * 1024 * 1024] ∧
      sizeOfDirectory s.files = 60 * 1024 * 1024 ∧ MAX_SIZE = 50 * 1024 * 1024 := by
  have hle : (30 * 1024 * 1024 : ℤ) ≤ MAX_SIZE := by decide
  refine ⟨_, reaches_twoWrites ((length_block 0).trans_le hle) ((length_block 1).trans_le hle), rfl,
    ?_, ?_, rfl⟩
  · exact congrArg₂ (fun x y => [x, y]) (length_block 0) (length_block 1)
  · rw [sizeOfDirectory_merge (by decide +kernel), sizeOfDirectory_merge (by decide +kernel)]
    exact congrArg₂ (fun x y => 0 + x + y) (length_block 0) (length_block 1)

end Sample

end BlockCaches

end Core

end ASync
