import ASync.Bep.Helpers.IndexBrowser
import ASync.Common.Run
import ASync.Core.Helpers.FileInfoOrdering
/-!
# Sorting cached listings again

A listing is loaded as the parent entry and the records sorted behind it;
`setOrdering` sorts what is cached, the parent entry among the records.
`setOrdering_agrees_iff` says when the two come to the same list, and
`setOrdering_agrees` that they do for an ordering that has the parent entry
first, as the shipped ones.
-/

namespace ASync

namespace Bep

open ASync.Core ASync.Repository Effect Comparator

section Listings

variable [FilenameUtils]

namespace IndexBrowser

variable {b b' : IndexBrowser} {es : List BrowserEvent} {e : BrowserEvent}
variable {path : String} {rows : List FileInfoRow} {list : List FileInfo}

/-! ## What is cached -/

/-- Each cached listing has the directory's records, and the parent entry
where the directory shows it, in some order. -/
def Listed (b : IndexBrowser) : Prop :=
  ∀ path list, b.listFolderCache.find path = some list →
    ∃ rows, b.indexRepository.Selects b.folder path rows ∧
      list.Perm (b.withParent path (rows.map FileInfoRow.info))

theorem perm_withParent {list list' : List FileInfo} (h : list.Perm list') :
    (b.withParent path list).Perm (b.withParent path list') := by
  unfold withParent
  split
  · exact h.cons _
  · exact h

/-- A listing loaded joins those cached. -/
theorem Listed.listFiles (h : b.Listed) (hrows : b.indexRepository.Selects b.folder path rows)
    (fault : Fault) : (after (listFiles fault rows path) b).Listed := by
  unfold IndexBrowser.listFiles
  cases hfind : b.listFolderCache.find path with
  | some cached => rwa [after_of_ok (LoadingCache.run_getUnchecked_of_find hfind)]
  | none =>
    by_cases hfault : fault = some .selectFileInfo
    · have hload : (doListFiles fault rows path).run b = _ := run_doListFiles_of_fault hfault
      rwa [after_of_error (LoadingCache.run_getUnchecked_of_error hfind hload)]
    · have hload := run_doListFiles (b := b) rows path
      rw [← doListFiles_of_no_fault hfault] at hload
      rw [after_of_ok (LoadingCache.run_getUnchecked_of_load hfind hload)]
      intro path' list' hfind'
      by_cases hpath : path' = path
      · subst hpath
        obtain rfl := Option.some.inj (Table.find_merge_self.symm.trans hfind')
        exact ⟨rows, hrows, perm_withParent (sort_perm b.ordering _)⟩
      · exact h path' list' ((Table.find_merge_of_ne hpath).symm.trans hfind')

/-- Sorting keeps what is listed. -/
theorem Listed.setOrdering (h : b.Listed) (ordering : Comparator FileInfo) :
    (after (setOrdering ordering) b).Listed := by
  intro path list hfind
  have hmap : (b.listFolderCache.find path).map (sort ordering) = some list :=
    Table.find_mapRows.symm.trans hfind
  obtain ⟨cached, hcached, rfl⟩ := Option.map_eq_some_iff.1 hmap
  obtain ⟨rows, hrows, hperm⟩ := h path cached hcached
  exact ⟨rows, hrows, (sort_perm ordering cached).trans hperm⟩

theorem preserves_preload_listed : Preserves Listed preloadFileInfoForCurrentPath := by
  refine Preserves.modify fun b h => ?_
  split
  · exact h
  · exact h

/-- Nothing is cached after the caches were dropped. -/
theorem listed_invalidateCache (b : IndexBrowser) : (after invalidateCache b).Listed := by
  have hempty : ({ b with listFolderCache := ∅, fileInfoCache := ∅ } : IndexBrowser).Listed := by
    intro path list hfind
    cases (Table.find_empty path).symm.trans hfind
  exact preserves_preload_listed _ hempty

theorem Listed.step (h : b.Listed) (hstep : browsing.step b e b') : b'.Listed := by
  cases e with
  | listFiles fault rows path =>
    obtain ⟨hrows, rfl⟩ := hstep
    exact h.listFiles hrows fault
  | setOrdering ordering =>
    obtain rfl := hstep
    exact h.setOrdering ordering
  | getFileInfoByAbsolutePath fault path =>
    obtain rfl := hstep
    exact preserves_getFileInfoByAbsolutePath (fun b cache h => h) fault path b h
  | navigateToAbsolutePath fault newPath =>
    obtain rfl := hstep
    exact preserves_navigateToAbsolutePath (fun b cache h => h) (fun b path h => h)
      preserves_preload_listed fault newPath b h
  | indexChanged indexRepository =>
    obtain rfl := hstep
    exact listed_invalidateCache _

theorem listed_of_reaches (h : browsing.Reaches es b) : b.Listed := by
  refine h.invariant (I := fun _ b => b.Listed) ?_ fun _ _ _ _ _ hI _ hstep => hI.step hstep
  rintro b ⟨builder, hnew⟩ path list hfind
  unfold Builder.new at hnew
  split at hnew
  · cases hnew
  · obtain rfl := Except.ok.inj hnew
    cases (Table.find_empty path).symm.trans hfind

/-! ## Sorting again -/

/-- **When sorting a cached listing again gives the listing anew**: when
the parent entry, if the directory shows it, is before every record by the
comparator, or tied with it and before it in what is cached. -/
theorem setOrdering_agrees_iff {cmp : Comparator FileInfo} [Std.TransCmp cmp] {fault : Fault}
    {rows' : List FileInfoRow} (h : browsing.Reaches es b)
    (hcached : b.listFolderCache.find path = some list)
    (hrows : b.indexRepository.Selects b.folder path rows)
    (hties : ∀ x y, cmp x y = .eq → x.path = y.path) :
    result (IndexBrowser.listFiles fault rows' path) (after (IndexBrowser.setOrdering cmp) b) =
        result (doListFiles none rows path) (after (IndexBrowser.setOrdering cmp) b) ↔
      (b.showsParent path = true → ∀ row ∈ rows, cmp b.PARENT_FILE_INFO row.info = .lt ∨
        (cmp b.PARENT_FILE_INFO row.info = .eq ∧
          [b.PARENT_FILE_INFO, row.info].Sublist list)) := by
  obtain ⟨rows₀, hrows₀, hperm₀⟩ := listed_of_reaches h path list hcached
  have hperm : list.Perm (b.withParent path (rows.map FileInfoRow.info)) :=
    hperm₀.trans (perm_withParent ((perm_of_selects hrows₀ hrows).map _))
  have hcache : (after (IndexBrowser.setOrdering cmp) b).listFolderCache.find path =
      some (sort cmp list) := by
    refine Table.find_mapRows.trans ?_
    rw [hcached, Option.map_some]
  have hfast : result (IndexBrowser.listFiles fault rows' path)
      (after (IndexBrowser.setOrdering cmp) b) = some (sort cmp list) :=
    result_of_ok (LoadingCache.run_getUnchecked_of_find hcache)
  have hslow : result (doListFiles none rows path) (after (IndexBrowser.setOrdering cmp) b) =
      some (b.withParent path (sort cmp (rows.map FileInfoRow.info))) :=
    result_of_ok (run_doListFiles rows path)
  -- rows tied are one row
  have hone : ∀ x ∈ rows.map FileInfoRow.info, ∀ y ∈ rows.map FileInfoRow.info,
      cmp x y = .eq → x = y := by
    intro x hx y hy htie
    obtain ⟨row, hrow, rfl⟩ := List.mem_map.1 hx
    obtain ⟨row', hrow', rfl⟩ := List.mem_map.1 hy
    rw [row_eq_of_path hrows hrow hrow' (hties _ _ htie)]
  have hnodup := nodup_withParent (b := b) hrows.nodup path
  rw [hfast, hslow, Option.some.injEq]
  unfold withParent at hperm hnodup ⊢
  cases hshows : b.showsParent path with
  | false =>
    rw [hshows] at hperm
    simp only [Bool.false_eq_true, if_false] at hperm ⊢
    refine iff_of_true (sort_eq_of_perm hperm fun x hx y hy => ?_) nofun
    exact hone x (hperm.mem_iff.1 hx) y (hperm.mem_iff.1 hy)
  | true =>
    rw [hshows] at hperm hnodup
    simp only [if_true] at hperm hnodup ⊢
    rw [sort_eq_cons_iff hperm hnodup hone, List.forall_mem_map, forall_const]

/-- **An ordering that has the parent entry first** sorts cached listings
as it sorts new ones. -/
theorem setOrdering_agrees {cmp : Comparator FileInfo} [Std.TransCmp cmp] {fault : Fault}
    {rows' : List FileInfoRow} (h : browsing.Reaches es b)
    (hcached : b.listFolderCache.find path = some list)
    (hrows : b.indexRepository.Selects b.folder path rows)
    (hties : ∀ x y, cmp x y = .eq → x.path = y.path)
    (hparent : ∀ x y, FileInfoOrdering.isParentFunction x = true →
      FileInfoOrdering.isParentFunction y = false → cmp x y = .lt)
    (hnames : ∀ row ∈ rows, PathUtils.isParent row.path = false) :
    result (IndexBrowser.listFiles fault rows' path) (after (IndexBrowser.setOrdering cmp) b) =
      result (doListFiles none rows path) (after (IndexBrowser.setOrdering cmp) b) := by
  refine (setOrdering_agrees_iff h hcached hrows hties).2 fun _ row hrow => Or.inl ?_
  exact hparent _ _ rfl (hnames row hrow)

/-- The shipped orderings do. -/
theorem setOrdering_shipped_agrees {cmp : Comparator FileInfo} {fault : Fault}
    {rows' : List FileInfoRow} (h : browsing.Reaches es b)
    (hcached : b.listFolderCache.find path = some list)
    (hrows : b.indexRepository.Selects b.folder path rows)
    (hnames : ∀ row ∈ rows, PathUtils.isParent row.path = false)
    (hshipped : cmp = FileInfoOrdering.ALPHA_ASC_DIR_FIRST ∨ cmp = FileInfoOrdering.LAST_MOD_DESC) :
    result (IndexBrowser.listFiles fault rows' path) (after (IndexBrowser.setOrdering cmp) b) =
      result (doListFiles none rows path) (after (IndexBrowser.setOrdering cmp) b) := by
  rcases hshipped with rfl | rfl
  · exact setOrdering_agrees h hcached hrows
      (fun x y => FileInfoOrdering.path_eq_of_ALPHA_ASC_DIR_FIRST)
      (fun x y => FileInfoOrdering.ALPHA_ASC_DIR_FIRST_of_isParent) hnames
  · exact setOrdering_agrees h hcached hrows (fun x y => FileInfoOrdering.path_eq_of_LAST_MOD_DESC)
      (fun x y => FileInfoOrdering.LAST_MOD_DESC_of_isParent) hnames

end IndexBrowser

end Listings

/-! ## A sample listing -/

section Sample

attribute [local instance] FilenameUtils.commonsIo

open IndexBrowser

/-- A browser that has the parent entry in every listing. -/
def sampleBrowser : IndexBrowser where
  folder := "default"
  folder_ne := sampleFolder_ne
  indexRepository := twoDirectories
  includeParentInList := true
  allowParentInRoot := true
  ordering := FileInfoOrdering.ALPHA_ASC_DIR_FIRST

/-- After the root was listed. -/
def listedBrowser : IndexBrowser := after (listFiles none [photosRow, musicRow] "") sampleBrowser

theorem reaches_listedBrowser :
    browsing.Reaches [.listFiles none [photosRow, musicRow] ""] listedBrowser := by
  have hstart : browsing.start sampleBrowser :=
    ⟨{ folder := "default", indexRepository := twoDirectories, includeParentInList := true
       allowParentInRoot := true }, rfl⟩
  have hlisted :
      browsing.step sampleBrowser (.listFiles none [photosRow, musicRow] "") listedBrowser :=
    ⟨selects_twoDirectories, rfl⟩
  exact (Machine.Run.start hstart).step trivial hlisted

/-- The root's listing in the order it was loaded. -/
def listedRoot : List FileInfo := [sampleBrowser.PARENT_FILE_INFO, musicRow.info, photosRow.info]

theorem find_listedBrowser : listedBrowser.listFolderCache.find "" = some listedRoot := by
  decide +kernel

theorem setOrdering_agrees_iff_sample :
    result (listFiles none [] "") (after (setOrdering FileInfoOrdering.LAST_MOD_DESC)
      listedBrowser) =
      result (doListFiles none [photosRow, musicRow] "")
        (after (setOrdering FileInfoOrdering.LAST_MOD_DESC) listedBrowser) := by
  refine (setOrdering_agrees_iff reaches_listedBrowser find_listedBrowser selects_twoDirectories
    fun x y => FileInfoOrdering.path_eq_of_LAST_MOD_DESC).2 fun _ row hrow => Or.inl ?_
  refine FileInfoOrdering.LAST_MOD_DESC_of_isParent rfl ?_
  revert row
  decide +kernel

/-- Names in descending order. -/
def nameDescending : Comparator FileInfo := fun a b => compareTo b.path a.path

/-- **A sort by descending names leaves the parent entry last**, where a
new listing has it first. -/
theorem parent_entry_is_sorted :
    Std.TransCmp nameDescending ∧ (∀ x y, nameDescending x y = .eq → x.path = y.path) ∧
    browsing.Reaches [.listFiles none [photosRow, musicRow] ""] listedBrowser ∧
    listedBrowser.indexRepository.Selects "default" "" [photosRow, musicRow] ∧
    (result (listFiles none [] "") (after (setOrdering nameDescending) listedBrowser)).map
      (List.map FileInfo.path) = some ["photos", "music", ".."] ∧
    (result (doListFiles none [photosRow, musicRow] "")
      (after (setOrdering nameDescending) listedBrowser)).map (List.map FileInfo.path) =
        some ["..", "photos", "music"] := by
  refine ⟨?_, fun x y h => (compareTo_eq_eq h).symm, reaches_listedBrowser, selects_twoDirectories,
    by decide +kernel, by decide +kernel⟩
  exact inferInstanceAs (Std.TransCmp fun a b : FileInfo => compareTo.on FileInfo.path b a)

end Sample

end Bep

end ASync
