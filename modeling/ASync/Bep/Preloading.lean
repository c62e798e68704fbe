import ASync.Bep.Helpers.IndexBrowser
import ASync.Bep.Model.Preloading
/-!
# Draining the preload jobs

A job is added with a runnable submitted for it, or is known already; a
runnable that finds other jobs left submits itself again. So while jobs
are left a runnable runs or is queued (`Balanced`), except after a lookup
threw: that runnable's job stays, and nothing is submitted for it. The
jobs drain in a run in which a lookup only throws while another runnable
is queued, and no longer than that (`lookup_drains_iff`).
-/

namespace ASync

namespace Bep

open ASync.Core ASync.Repository Effect

section Preloading

variable [FilenameUtils]

/-! ## Lookups that return -/

namespace IndexBrowser

/-- The record of a path is had. -/
def Knows (b : IndexBrowser) (fault : Fault) (path : String) : Prop :=
  PathUtils.isRoot path = true ∨ (b.fileInfoCache.find path).isSome = true ∨
    (fault ≠ some .selectFileInfo ∧
      (b.indexRepository.selectNotDeleted b.folder path).isSome = true)

/-- The listing of a path is had. -/
def Lists (b : IndexBrowser) (fault : Fault) (path : String) : Prop :=
  (b.listFolderCache.find path).isSome = true ∨ fault ≠ some .selectFileInfo

/-- What a lookup asks for is had. -/
def Answers (b : IndexBrowser) (fault : Fault) : Lookup → Prop
  | .info path => b.Knows fault path
  | .parentOf path => ∃ parent, PathUtils.getParentPath path = .ok parent ∧ b.Knows fault parent
  | .list path => b.Lists fault path
  | .children path => b.Lists fault path

variable {b b' : IndexBrowser} {fault : Fault} {path : String} {rows : List FileInfoRow}

theorem result_doGetFileInfo : result (doGetFileInfoByAbsolutePath fault path) b =
    if fault = some .selectFileInfo then none
    else (b.indexRepository.selectNotDeleted b.folder path).map FileInfoRow.info := by
  unfold result doGetFileInfoByAbsolutePath findNotDeletedFileInfo answered
  rw [run_get_bind]
  split_ifs with hfault
  · rfl
  · rcases b.indexRepository.selectNotDeleted b.folder path with _ | row
    · rfl
    · rw [Option.mapM_some, readFileInfo_eq]
      rfl

theorem isSome_result_getFileInfo :
    (result (getFileInfoByAbsolutePath fault path) b).isSome = true ↔ b.Knows fault path := by
  unfold getFileInfoByAbsolutePath Knows
  by_cases hroot : PathUtils.isRoot path = true
  · rw [if_pos hroot]
    exact iff_of_true rfl (Or.inl hroot)
  · rw [if_neg hroot, LoadingCache.result_getUnchecked, result_doGetFileInfo, Option.isSome_or,
      Bool.or_eq_true, or_iff_right hroot]
    refine or_congr_right ?_
    split_ifs with hfault
    · simp [hfault]
    · rw [Option.isSome_map]
      exact (and_iff_right hfault).symm

theorem isSome_result_listFiles :
    (result (listFiles fault rows path) b).isSome = true ↔ b.Lists fault path := by
  unfold listFiles Lists
  rw [LoadingCache.result_getUnchecked, Option.isSome_or, Bool.or_eq_true]
  refine or_congr_right ?_
  by_cases hfault : fault = some .selectFileInfo
  · rw [result_of_error (run_doListFiles_of_fault hfault)]
    simp [hfault]
  · rw [doListFiles_of_no_fault hfault, result_of_ok (run_doListFiles rows path)]
    exact iff_of_true rfl hfault

/-- **When a lookup returns.** -/
theorem isSome_result_run {lookup : Lookup} (rows : List FileInfoRow) :
    (result (lookup.run fault rows) b).isSome = true ↔ b.Answers fault lookup := by
  have hdiscard : ∀ {α : Type} (m : BrowserM α) (f : α → List Lookup),
      (result (m >>= fun a => pure (f a)) b).isSome = (result m b).isSome := by
    intro α m f
    unfold result
    rw [EStateM.run_bind]
    cases m.run b with
    | ok a s => rfl
    | error e s => rfl
  unfold Lookup.run Answers
  cases lookup with
  | info path => exact Eq.congr_left (hdiscard _ fun _ => []) |>.trans isSome_result_getFileInfo
  | list path => exact Eq.congr_left (hdiscard _ fun _ => []) |>.trans isSome_result_listFiles
  | children path => exact Eq.congr_left (hdiscard _ directoriesOf) |>.trans isSome_result_listFiles
  | parentOf path =>
    simp only
    cases hparent : PathUtils.getParentPath path with
    | error e =>
      refine iff_of_false (by exact Bool.false_ne_true) ?_
      rintro ⟨parent, hok, -⟩
      cases hok
    | ok parent =>
      refine (Eq.congr_left (hdiscard (getFileInfoByAbsolutePath fault parent) fun _ =>
        [.list parent])).trans (isSome_result_getFileInfo.trans ?_)
      constructor
      · intro h
        exact ⟨parent, rfl, h⟩
      · rintro ⟨_, hok, h⟩
        cases hok
        exact h

/-! ## Jobs of a browser -/

/-- No job and no runnable got lost on the way, and where the first jobs
came a runnable came too. -/
structure Grown (b b' : IndexBrowser) : Prop where
  jobs : ∀ path ∈ b.preloadJobs, path ∈ b'.preloadJobs
  submitted : b.submitted ≤ b'.submitted
  covered : b'.preloadJobs ≠ [] → b.preloadJobs ≠ [] ∨ 0 < b'.submitted

theorem Grown.refl (b : IndexBrowser) : b.Grown b := ⟨fun _ h => h, le_refl _, Or.inl⟩

/-- A preload of a known path only moves its job to the end. -/
theorem preserves_preload_grown (b₀ : IndexBrowser) :
    Preserves b₀.Grown preloadFileInfoForCurrentPath := by
  refine Preserves.modify fun b h => ?_
  obtain ⟨hjobs, hsubmitted, hcovered⟩ := h
  split
  · next hknown =>
    refine ⟨fun path hpath => ?_, hsubmitted, fun _ => hcovered (List.ne_nil_of_mem hknown)⟩
    rw [List.mem_append, List.mem_singleton]
    by_cases hcurrent : path = b.currentPath
    · exact Or.inr hcurrent
    · exact Or.inl ((List.mem_erase_of_ne hcurrent).2 (hjobs path hpath))
  · refine ⟨fun path hpath => List.mem_append_left _ (hjobs path hpath), ?_, fun _ => Or.inr ?_⟩
    · exact le_trans hsubmitted (Nat.le_succ _)
    · exact Nat.succ_pos _

/-- **A call on a browser in use.** -/
theorem grown_of_call {event : BrowserEvent} (h : browsing.step b event b') : b.Grown b' := by
  cases event with
  | listFiles fault rows path =>
    obtain ⟨-, rfl⟩ := h
    exact preserves_listFiles (I := b.Grown) (fun _ _ h => ⟨h.1, h.2, h.3⟩)
      (fun _ _ h => ⟨h.1, h.2, h.3⟩) fault rows path b (Grown.refl b)
  | setOrdering ordering =>
    obtain rfl := h
    exact ⟨fun _ h => h, le_refl _, Or.inl⟩
  | getFileInfoByAbsolutePath fault path =>
    obtain rfl := h
    exact preserves_getFileInfoByAbsolutePath (I := b.Grown)
      (fun _ _ h => ⟨h.1, h.2, h.3⟩) fault path
      b (Grown.refl b)
  | navigateToAbsolutePath fault newPath =>
    obtain rfl := h
    exact preserves_navigateToAbsolutePath (I := b.Grown) (fun _ _ h => ⟨h.1, h.2, h.3⟩)
      (fun _ _ h => ⟨h.1, h.2, h.3⟩) (preserves_preload_grown b) fault newPath b (Grown.refl b)
  | indexChanged indexRepository =>
    obtain rfl := h
    exact preserves_preload_grown b _ ⟨fun _ h => h, le_refl _, Or.inl⟩

/-- A lookup leaves jobs and runnables as they are. -/
theorem keeps_run (fault : Fault) (rows : List FileInfoRow) (lookup : Lookup) :
    Keeps (fun b => (b.preloadJobs, b.submitted)) (lookup.run fault rows) := by
  intro jobs
  unfold Lookup.run
  cases lookup with
  | info path =>
    exact Preserves.bind (preserves_getFileInfoByAbsolutePath (fun _ _ h => h) fault path)
      fun _ => Preserves.pure _
  | parentOf path =>
    refine Preserves.bind (Preserves.ofExcept _) fun parent => ?_
    exact Preserves.bind (preserves_getFileInfoByAbsolutePath (fun _ _ h => h) fault parent)
      fun _ => Preserves.pure _
  | list path =>
    exact Preserves.bind (preserves_listFiles (fun _ _ h => h) (fun _ _ h => h) fault rows path)
      fun _ => Preserves.pure _
  | children path =>
    exact Preserves.bind (preserves_listFiles (fun _ _ h => h) (fun _ _ h => h) fault rows path)
      fun _ => Preserves.pure _

end IndexBrowser

/-! ## Jobs and runnables -/

namespace Preloading

variable {s s' : Preloading} {e : PreloadEvent} {es : List PreloadEvent}

/-- While jobs are left a runnable runs or is queued; one that runs has
its job among them; and a thread only waits while jobs are left. -/
structure Balanced (s : Preloading) : Prop where
  covered : s.browser.preloadJobs ≠ [] → s.running.isSome = true ∨ 0 < s.browser.submitted
  own : ∀ r ∈ s.running, r.preloadPath ∈ s.browser.preloadJobs
  waits : 0 < s.waiting → s.browser.preloadJobs ≠ []

/-- A lookup of the runnable has an answer, or another runnable is
queued. -/
def Covers (s : Preloading) (e : PreloadEvent) : Prop :=
  match e with
  | .lookup fault _ => ∀ r ∈ s.running, ∀ lookup ∈ r.lookups.head?,
      s.browser.Answers fault lookup ∨ 0 < s.browser.submitted
  | _ => True

/-- With no runnable left no job is left, and no thread waits. -/
def Drained (s : Preloading) : Prop :=
  s.running = none → s.browser.submitted = 0 → s.browser.preloadJobs = [] ∧ s.waiting = 0

theorem Balanced.drained (h : s.Balanced) : s.Drained := by
  intro hrunning hsubmitted
  have hjobs : s.browser.preloadJobs = [] := by
    by_contra hne
    rcases h.covered hne with hrun | hqueue
    · rw [hrunning] at hrun
      cases hrun
    · omega
  refine ⟨hjobs, ?_⟩
  by_contra hwaiting
  exact h.waits (Nat.pos_of_ne_zero hwaiting) hjobs

/-- Jobs and runnables only came along. -/
theorem Balanced.of_grown (h : s.Balanced) {b : IndexBrowser} (hgrown : s.browser.Grown b) :
    Balanced { s with browser := b } := by
  refine ⟨fun hne => ?_, fun r hr => hgrown.jobs _ (h.own r hr), fun hwaiting => ?_⟩
  · rcases hgrown.covered hne with hold | hqueue
    · refine (h.covered hold).imp_right fun hqueue => ?_
      exact lt_of_lt_of_le hqueue hgrown.submitted
    · exact Or.inr hqueue
  · obtain ⟨path, hpath⟩ := List.exists_mem_of_ne_nil _ (h.waits hwaiting)
    exact List.ne_nil_of_mem (hgrown.jobs path hpath)

theorem Balanced.begun (h : s.Balanced) : s.begun.Balanced := by
  unfold Preloading.begun
  cases hlast : s.browser.preloadJobs.getLast? with
  | none =>
    have hjobs : s.browser.preloadJobs = [] := List.getLast?_eq_none_iff.1 hlast
    exact ⟨fun hne => absurd hjobs hne, h.own, h.waits⟩
  | some path =>
    refine ⟨fun _ => Or.inl rfl, fun r hr => ?_, h.waits⟩
    obtain rfl := Option.some.inj hr
    exact List.mem_of_getLast? hlast

/-- A lookup, where it returns or another runnable is queued. -/
theorem Balanced.lookedUp (h : s.Balanced) {preloadPath : String} {lookup : Lookup}
    {lookups : List Lookup} {fault : Fault} {rows : List FileInfoRow}
    (hrunning : s.running = some ⟨preloadPath, lookup :: lookups⟩)
    (hcovers : s.browser.Answers fault lookup ∨ 0 < s.browser.submitted) :
    (s.lookedUp fault rows preloadPath lookup lookups).Balanced := by
  have hkeeps := (IndexBrowser.keeps_run fault rows lookup).after_eq s.browser
  unfold Preloading.lookedUp
  cases hrun : (lookup.run fault rows).run s.browser with
  | ok more b =>
    rw [after_of_ok hrun] at hkeeps
    obtain ⟨hjobs, hsubmitted⟩ := Prod.mk.inj hkeeps
    refine ⟨fun _ => Or.inl rfl, fun r hr => ?_, fun hwaiting => ?_⟩
    · obtain rfl := Option.some.inj hr
      change preloadPath ∈ b.preloadJobs
      rw [hjobs]
      exact h.own _ hrunning
    · change b.preloadJobs ≠ []
      rw [hjobs]
      exact h.waits hwaiting
  | error e b =>
    rw [after_of_error hrun] at hkeeps
    obtain ⟨hjobs, hsubmitted⟩ := Prod.mk.inj hkeeps
    have hqueue : 0 < s.browser.submitted := by
      refine hcovers.resolve_left fun hanswers => ?_
      have hsome := (IndexBrowser.isSome_result_run rows).2 hanswers
      rw [result_of_error hrun] at hsome
      cases hsome
    refine ⟨fun _ => Or.inr ?_, fun r hr => (by cases hr), fun hwaiting => ?_⟩
    · change 0 < b.submitted
      rwa [hsubmitted]
    · change b.preloadJobs ≠ []
      rw [hjobs]
      exact h.waits hwaiting

/-- A job removed. -/
theorem balanced_finished (s : Preloading) (preloadPath : String) :
    (s.finished preloadPath).Balanced := by
  unfold Preloading.finished
  simp only
  split
  · next hready =>
    have hjobs := List.isEmpty_iff.1 hready
    exact ⟨fun hne => absurd hjobs hne, fun r hr => (by cases hr),
      fun hwaiting => absurd rfl hwaiting.ne'⟩
  · next hready =>
    have hjobs : s.browser.preloadJobs.erase preloadPath ≠ [] := fun hnil =>
      hready (List.isEmpty_iff.2 hnil)
    exact ⟨fun _ => Or.inr (Nat.succ_pos _), fun r hr => (by cases hr), fun _ => hjobs⟩

theorem Balanced.checked (h : s.Balanced) : s.checked.Balanced := by
  unfold Preloading.checked
  split
  · exact h
  · next hready =>
    exact ⟨h.covered, h.own, fun _ hnil => hready (List.isEmpty_iff.2 hnil)⟩

/-- **One step.** -/
theorem Balanced.step (h : s.Balanced) (hcovers : s.Covers e) (hstep : preloading.step s e s') :
    s'.Balanced := by
  cases e with
  | call event =>
    obtain ⟨b, hcall, rfl⟩ := hstep
    exact h.of_grown (IndexBrowser.grown_of_call hcall)
  | indexUpdated indexRepository =>
    obtain rfl := hstep
    exact h.of_grown ⟨fun _ h => h, le_refl _, Or.inl⟩
  | begin =>
    obtain ⟨-, -, rfl⟩ := hstep
    exact h.begun
  | lookup fault rows =>
    obtain ⟨path, lookup, lookups, hrunning, -, rfl⟩ := hstep
    exact h.lookedUp hrunning (hcovers _ hrunning lookup rfl)
  | finish =>
    obtain ⟨path, -, rfl⟩ := hstep
    exact balanced_finished s path
  | waitForCacheReady =>
    obtain rfl := hstep
    exact h.checked
  | notified =>
    obtain ⟨-, rfl⟩ := hstep
    exact Balanced.checked ⟨h.covered, h.own, h.waits⟩

theorem balanced_of_run (h : preloading.Run (fun _ s e => s.Covers e) es s) : s.Balanced := by
  refine h.invariant (I := fun _ s => s.Balanced) ?_ fun _ _ _ _ _ hI hcovers hstep =>
    hI.step hcovers hstep
  rintro s ⟨b, ⟨builder, hnew⟩, rfl⟩
  have hjobs : b.preloadJobs = [] := by
    unfold IndexBrowser.Builder.new at hnew
    split at hnew
    · cases hnew
    · obtain rfl := Except.ok.inj hnew
      rfl
  exact ⟨fun hne => absurd hjobs hne, fun r hr => (by cases hr),
    fun hwaiting => absurd rfl hwaiting.ne'⟩

/-- **The preload jobs drain** in every run in which a lookup that throws
finds another runnable queued: with no runnable left the cache is ready,
and no thread waits for it. -/
theorem drained_of_run (h : preloading.Run (fun _ s e => s.Covers e) es s) : s.Drained :=
  (balanced_of_run h).drained

/-- **And no longer**: from such a run the next step leaves the jobs
drained exactly when it is such a step. -/
theorem drained_step_iff (h : preloading.Run (fun _ s e => s.Covers e) es s)
    (hstep : preloading.step s e s') : s'.Drained ↔ s.Covers e := by
  constructor
  · intro hdrained
    cases e with
    | lookup fault rows =>
      intro r hr lookup hlookup
      obtain ⟨path, first, lookups, hrunning, -, rfl⟩ := hstep
      obtain rfl := Option.some.inj (hrunning.symm.trans hr)
      obtain rfl := Option.some.inj hlookup
      by_contra hnot
      rw [not_or] at hnot
      -- it throws, and its job stays
      have hkeeps := (IndexBrowser.keeps_run fault rows first).after_eq s.browser
      unfold Preloading.lookedUp at hdrained
      cases hrun : (first.run fault rows).run s.browser with
      | ok more b =>
        refine hnot.1 ((IndexBrowser.isSome_result_run rows).1 ?_)
        rw [result_of_ok hrun]
        rfl
      | error e b =>
        rw [hrun] at hdrained
        rw [after_of_error hrun] at hkeeps
        obtain ⟨hjobs, hsubmitted⟩ := Prod.mk.inj hkeeps
        have hidle : b.submitted = 0 := by omega
        have hmem := (balanced_of_run h).own _ hrunning
        rw [← hjobs, (hdrained rfl hidle).1] at hmem
        cases hmem
    | call _ => trivial
    | indexUpdated _ => trivial
    | begin => trivial
    | finish => trivial
    | waitForCacheReady => trivial
    | notified => trivial
  · intro hcovers
    exact ((balanced_of_run h).step hcovers hstep).drained

end Preloading

end Preloading

/-! ## Sample runs -/

section Sample

attribute [local instance] FilenameUtils.commonsIo

open IndexBrowser

/-- A browser of an index. -/
def browserOf (indexRepository : SqlRepository) : IndexBrowser where
  folder := "default"
  folder_ne := sampleFolder_ne
  indexRepository := indexRepository
  includeParentInList := false
  allowParentInRoot := false
  ordering := FileInfoOrdering.ALPHA_ASC_DIR_FIRST

theorem start_browserOf (indexRepository : SqlRepository) :
    preloading.start { browser := browserOf indexRepository } :=
  ⟨_, ⟨{ folder := "default", indexRepository }, rfl⟩, rfl⟩

/-- The rows of the index in a directory. -/
def rowsIn (path : String) : List FileInfoRow := if path = "" then [photosRow, musicRow] else []

theorem selects_rowsIn {r : SqlRepository} (h : r.fileInfo = twoDirectories.fileInfo)
    (path : String) : r.Selects "default" path (rowsIn path) where
  nodup := by
    unfold rowsIn
    split
    · exact selects_twoDirectories.nodup
    · exact List.nodup_nil
  mem_iff row := by
    unfold SqlRepository.Holds
    rw [h]
    by_cases hroot : path = ""
    · rw [rowsIn, if_pos hroot, hroot]
      exact selects_twoDirectories.mem_iff row
    · -- both directories are in the root
      rw [rowsIn, if_neg hroot]
      refine iff_of_false List.not_mem_nil ?_
      rintro ⟨hfind, hfolder, hparent, hdeleted⟩
      have hrow := (selects_twoDirectories.mem_iff row).2 ⟨hfind, hfolder, ?_, hdeleted⟩
      · rcases List.mem_cons.1 hrow with rfl | hrow
        · exact hroot (hparent.symm.trans (by decide +kernel))
        · rw [List.mem_singleton.1 hrow] at hparent
          exact hroot (hparent.symm.trans (by decide +kernel))
      · unfold twoDirectories at hfind
        rw [Table.find_merge, Table.find_merge, Table.find_empty] at hfind
        split_ifs at hfind
        · rw [← Option.some.inj hfind]
          decide +kernel
        · rw [← Option.some.inj hfind]
          decide +kernel

namespace Preloading

/-- A step on the index of two directories. -/
def replay (s : Preloading) : PreloadEvent → Option Preloading
  | .call (.navigateToAbsolutePath fault newPath) =>
    some { s with browser := after (navigateToAbsolutePath fault newPath) s.browser }
  | .begin => if s.running = none ∧ 0 < s.browser.submitted then some s.begun else none
  | .lookup fault rows =>
    match s.running with
    | some ⟨preloadPath, lookup :: lookups⟩ =>
      if s.browser.folder = "default" ∧
          s.browser.indexRepository.fileInfo = twoDirectories.fileInfo ∧
          ∀ path ∈ lookup.listed, rows = rowsIn path then
        some (s.lookedUp fault rows preloadPath lookup lookups)
      else none
    | _ => none
  | .finish =>
    match s.running with
    | some ⟨preloadPath, []⟩ => some (s.finished preloadPath)
    | _ => none
  | .waitForCacheReady => some s.checked
  | _ => none

theorem step_of_replay {s s' : Preloading} {e : PreloadEvent} (h : s.replay e = some s') :
    preloading.step s e s' := by
  unfold replay at h
  split at h
  · exact ⟨_, rfl, (Option.some.inj h).symm⟩
  · split at h
    · next hbegin => exact ⟨hbegin.1, hbegin.2, (Option.some.inj h).symm⟩
    · cases h
  · split at h
    · next hrunning =>
      split at h
      · next hlisted =>
        obtain ⟨hfolder, hindex, hrows⟩ := hlisted
        refine ⟨_, _, _, hrunning, fun path hpath => ?_, (Option.some.inj h).symm⟩
        rw [hfolder, hrows path hpath]
        exact selects_rowsIn hindex path
      · cases h
    · cases h
  · split at h
    · next hrunning => exact ⟨_, hrunning, (Option.some.inj h).symm⟩
    · cases h
  · exact (Option.some.inj h).symm
  · cases h

/-- The lookup returns, or another runnable is queued. -/
def covered (s : Preloading) : PreloadEvent → Bool
  | .lookup fault rows => decide (0 < s.browser.submitted) || s.running.all fun r =>
      r.lookups.head?.all fun lookup => (result (lookup.run fault rows) s.browser).isSome
  | _ => true

theorem covers_of_covered {s : Preloading} {e : PreloadEvent} (h : s.covered e = true) :
    s.Covers e := by
  cases e with
  | lookup fault rows =>
    intro r hr lookup hlookup
    rcases Bool.or_eq_true_iff.1 h with hqueued | hreturns
    · exact .inr (of_decide_eq_true hqueued)
    · rw [Option.mem_def.1 hr, Option.all_some, Option.mem_def.1 hlookup, Option.all_some]
        at hreturns
      exact .inl ((isSome_result_run rows).1 hreturns)
  | call _ => trivial
  | indexUpdated _ => trivial
  | begin => trivial
  | finish => trivial
  | waitForCacheReady => trivial
  | notified => trivial

end Preloading

/-- Two directories are to be preloaded, and a thread waits. The first
lookup throws, with another runnable queued. -/
def twoJobs : List PreloadEvent :=
  [.call (.navigateToAbsolutePath none "photos"), .waitForCacheReady,
    .call (.navigateToAbsolutePath none ""), .begin, .lookup none [],
    .lookup (some .selectFileInfo) (rowsIn ""), .begin, .lookup none [], .lookup none (rowsIn ""),
    .lookup none [], .lookup none [], .finish, .begin, .lookup none [], .lookup none [],
    .lookup none (rowsIn ""), .lookup none [], .finish]

theorem drained_of_run_sample :
    ∃ s, preloading.Run (fun _ s e => s.Covers e) twoJobs s ∧ s.running = none ∧
      s.notified = 1 ∧ s.browser.preloadJobs = [] ∧ s.waiting = 0 := by
  have hany : (twoJobs.foldlM (fun (s : Preloading) e =>
      if s.covered e then s.replay e else none)
      ({ browser := browserOf twoDirectories } : Preloading)).any (fun s =>
        decide (s.running = none ∧ s.browser.submitted = 0) && decide (s.notified = 1)) = true := by
    decide +kernel
  obtain ⟨s, hsteps, hlast⟩ := Machine.exists_run_of_foldlM (start_browserOf twoDirectories)
    (fun _ _ _ => Preloading.step_of_replay) hany
  obtain ⟨hidle, hnotified⟩ := Bool.and_eq_true_iff.1 hlast
  obtain ⟨hrunning, hsubmitted⟩ := of_decide_eq_true hidle
  have hrun := hsteps.mono fun _ _ _ => Preloading.covers_of_covered
  exact ⟨s, hrun, hrunning, of_decide_eq_true hnotified,
    Preloading.drained_of_run hrun hrunning hsubmitted⟩

/-- A browser in a directory that was deleted. -/
def directoryCalled : Preloading :=
  { browser := after (navigateToAbsolutePath none "photos") (browserOf twoDirectories) }

def directoryDeleted : Preloading :=
  { browser := after invalidateCache { directoryCalled.browser with indexRepository := {} } }

def directoryMissed : Preloading :=
  directoryDeleted.begun.lookedUp none [] "photos" (.info "photos")
    [.parentOf "photos", .children "photos"]

/-- **The job of a deleted directory stays**: its record is not found, the
runnable ends, and nothing is submitted for the job. -/
theorem job_of_deleted_directory_stays :
    ∃ es, preloading.Reaches es directoryMissed ∧ directoryMissed.running = none ∧
      directoryMissed.browser.submitted = 0 ∧
      directoryMissed.browser.preloadJobs = ["photos"] := by
  have hcalled : preloading.step { browser := browserOf twoDirectories }
      (.call (.navigateToAbsolutePath none "photos")) directoryCalled := ⟨_, rfl, rfl⟩
  have hdeleted : preloading.step directoryCalled (.call (.indexChanged {})) directoryDeleted :=
    ⟨_, rfl, rfl⟩
  have hbegun : preloading.step directoryDeleted .begin directoryDeleted.begun :=
    ⟨rfl, by decide +kernel, rfl⟩
  have hmissed : preloading.step directoryDeleted.begun (.lookup none []) directoryMissed :=
    ⟨"photos", .info "photos", [.parentOf "photos", .children "photos"],
      by decide +kernel, nofun, rfl⟩
  have hstart : preloading.Reaches [] _ := Machine.Run.start (start_browserOf twoDirectories)
  have hrun :=
    (((hstart.step trivial hcalled).step trivial hdeleted).step trivial hbegun).step trivial
    hmissed
  exact ⟨_, hrun, by decide +kernel, by decide +kernel, by decide +kernel⟩

end Sample

end Bep

end ASync
