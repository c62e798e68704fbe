import ASync.Bep.Helpers.IndexBrowser
import ASync.Core.Paths
/-!
# Navigating to the nearest path

`buildToNearestPath` tries a path, and on any exception its parent, down
to the root. One attempt ends in the path or leaves the browser at the
root (`run_navigate_of_held`, `run_navigate_of_not_held`), and the parents
of a path are its prefixes, so what is found is the longest prefix that is
a directory.
-/

namespace ASync

namespace Bep

open ASync.Core ASync.Repository Effect

/-! ## Names -/

/-- A segment of a path that neither separates it nor makes a prefix of
it. -/
structure IsPlainName (s : String) : Prop where
  notBlank : isBlank (some s) = false
  slash : '/' ∉ s.toList
  backslash : '\\' ∉ s.toList
  colon : ':' ∉ s.toList
  tilde : '~' ∉ s.toList
  ne_dot : s ≠ "."
  ne_parent : s ≠ PathUtils.PARENT_PATH

instance {s : String} : Decidable (IsPlainName s) :=
  decidable_of_iff (isBlank (some s) = false ∧ '/' ∉ s.toList ∧ '\\' ∉ s.toList ∧ ':' ∉ s.toList ∧
      '~' ∉ s.toList ∧ s ≠ "." ∧ s ≠ PathUtils.PARENT_PATH)
    ⟨fun ⟨h1, h2, h3, h4, h5, h6, h7⟩ => ⟨h1, h2, h3, h4, h5, h6, h7⟩,
      fun h => ⟨h.1, h.2, h.3, h.4, h.5, h.6, h.7⟩⟩

section Names

variable {s last : String} {names init : List String}

theorem IsPlainName.isFileName (h : IsPlainName s) : IsFileName s where
  ne_empty := by
    rintro rfl
    exact absurd h.notBlank (by decide)
  notMem := h.slash
  ne_dot := h.ne_dot
  ne_parent := h.ne_parent

/-- Such a segment makes no prefix. -/
theorem IsPlainName.rooted (h : IsPlainName s) (n : ℕ) : CommonsIo.Rooted s.toList n := by
  obtain ⟨c, t, hs⟩ : ∃ c t, s.toList = c :: t :=
    List.exists_cons_of_ne_nil fun hnil => h.isFileName.ne_empty (String.toList_inj.1 hnil)
  have hcolon := h.colon
  have htilde := h.tilde
  rw [hs, List.mem_cons, not_or] at hcolon htilde
  rw [hs]
  refine CommonsIo.rooted_of_cons (Ne.symm hcolon.1) (Ne.symm htilde.1) fun rest ht => ?_
  exact absurd (ht ▸ List.mem_cons_self) hcolon.2

theorem decomposable_of_plain (h : ∀ s ∈ names, IsPlainName s) : Decomposable names := by
  refine ⟨fun s hs => (h s hs).backslash, fun s hs => ?_⟩
  exact (h s (List.mem_of_head? hs)).rooted _

/-- A path of such names is not blank. -/
theorem isBlank_pathOf (h : ∀ s ∈ init ++ [last], IsPlainName s) :
    isBlank (some (pathOf (init ++ [last]))) = false := by
  have hmem : last ∈ init ++ [last] := List.mem_append_right _ List.mem_cons_self
  obtain ⟨c, hc, hblank⟩ := List.all_eq_false.1 (h last hmem).notBlank
  refine List.all_eq_false.2 ⟨c, ?_, hblank⟩
  rw [toList_pathOf]
  exact CommonsIo.mem_join_of_mem (List.mem_map_of_mem hmem) hc

end Names

section Navigation

variable [FilenameUtils]

/-! ## What is held -/

/-- The repository holds the path as a directory that is not deleted. -/
def HoldsDirectory (s : SqlRepository) (folder path : String) : Prop :=
  ∃ row, s.selectNotDeleted folder path = some row ∧ row.fileType = .DIRECTORY

/-- A path is the longest prefix of some names held as a directory, the
root where none is. -/
def IsNearest (s : SqlRepository) (folder : String) (names : List String) (path : String) : Prop :=
  ∃ k ≤ names.length, path = pathOf (names.take k) ∧
    (k = 0 ∨ HoldsDirectory s folder (pathOf (names.take k))) ∧
    ∀ j, k < j → j ≤ names.length → ¬ HoldsDirectory s folder (pathOf (names.take j))

variable {s : SqlRepository} {folder last : String} {init names : List String}

theorem isNearest_self (h : names = [] ∨ HoldsDirectory s folder (pathOf names)) :
    IsNearest s folder names (pathOf names) := by
  refine ⟨names.length, le_refl _, by rw [List.take_length], ?_, fun j hlt hle => by omega⟩
  rw [List.take_length]
  exact h.imp_left fun heq => by rw [heq, List.length_nil]

/-- Where the path itself is not held, its parent's nearest is its own. -/
theorem IsNearest.concat {path : String} (h : IsNearest s folder init path)
    (hnot : ¬ HoldsDirectory s folder (pathOf (init ++ [last]))) :
    IsNearest s folder (init ++ [last]) path := by
  obtain ⟨k, hk, hpath, hheld, hlonger⟩ := h
  have hlength : (init ++ [last]).length = init.length + 1 := List.length_append
  have htake : ∀ j, j ≤ init.length → (init ++ [last]).take j = init.take j := fun j hj =>
    List.take_append_of_le_length hj
  refine ⟨k, by omega, ?_, ?_, fun j hlt hle => ?_⟩
  · rw [htake k hk, hpath]
  · rwa [htake k hk]
  · rcases Nat.lt_or_ge init.length j with hj | hj
    · have hall : j = (init ++ [last]).length := by omega
      rwa [hall, List.take_length]
    · rw [htake j hj]
      exact hlonger j hlt hj

namespace IndexBrowser

variable {b : IndexBrowser} {path : String}

/-! ## One attempt -/

/-- At the root, with a cache of what the repository holds. -/
structure AtRoot (s : SqlRepository) (folder : String) (b : IndexBrowser) : Prop where
  currentPath : b.currentPath = PathUtils.ROOT_PATH
  folder_eq : b.folder = folder
  repository_eq : b.indexRepository = s
  cached : ∀ path info, b.fileInfoCache.find path = some info →
    (s.selectNotDeleted folder path).map FileInfoRow.info = some info

/-- A path that is held is looked up, from the cache or the repository. -/
theorem run_lookup_of_held {row : FileInfoRow} (hb : AtRoot s folder b)
    (hroot : PathUtils.isRoot path = false) (hrow : s.selectNotDeleted folder path = some row) :
    ∃ b', (getFileInfoByAbsolutePath none path).run b = .ok row.info b' ∧ AtRoot s folder b' := by
  obtain ⟨hcurrent, hfolder, hrepository, hcached⟩ := hb
  unfold getFileInfoByAbsolutePath
  rw [hroot, if_neg Bool.false_ne_true]
  cases hfind : b.fileInfoCache.find path with
  | some cached =>
    have hsame := hcached path cached hfind
    rw [hrow, Option.map_some, Option.some.injEq] at hsame
    subst hsame
    exact ⟨b, LoadingCache.run_getUnchecked_of_find hfind, hcurrent, hfolder, hrepository, hcached⟩
  | none =>
    have hload : (doGetFileInfoByAbsolutePath none path).run b = .ok row.info b := by
      unfold doGetFileInfoByAbsolutePath
      rw [run_get_bind, run_bind_of_ok (run_ofExcept_of_ok findNotDeletedFileInfo_none b), hfolder,
        hrepository, hrow]
      rfl
    refine ⟨_, LoadingCache.run_getUnchecked_of_load hfind hload, hcurrent, hfolder,
      hrepository, ?_⟩
    intro path' info hfind'
    by_cases hpath : path' = path
    · subst hpath
      obtain rfl := Option.some.inj (Table.find_merge_self.symm.trans hfind')
      rw [hrow, Option.map_some]
    · exact hcached path' info ((Table.find_merge_of_ne hpath).symm.trans hfind')

/-- The lookup of a path that is not held throws, and nothing is cached. -/
theorem run_lookup_of_not_held (hb : AtRoot s folder b) (hroot : PathUtils.isRoot path = false)
    (hrow : s.selectNotDeleted folder path = none) :
    ∃ e, (getFileInfoByAbsolutePath none path).run b = .error e b := by
  obtain ⟨-, hfolder, hrepository, hcached⟩ := hb
  unfold getFileInfoByAbsolutePath
  rw [hroot, if_neg Bool.false_ne_true]
  cases hfind : b.fileInfoCache.find path with
  | some cached =>
    have hsame := hcached path cached hfind
    rw [hrow] at hsame
    cases hsame
  | none =>
    have hload : (doGetFileInfoByAbsolutePath none path).run b =
        .error (.nullPointer ("file not found for path = " ++ path)) b := by
      unfold doGetFileInfoByAbsolutePath
      rw [run_get_bind, run_bind_of_ok (run_ofExcept_of_ok findNotDeletedFileInfo_none b), hfolder,
        hrepository, hrow]
      rfl
    exact ⟨_, LoadingCache.run_getUnchecked_of_error hfind hload⟩

/-- The path in the message of the null check is computed without an
exception. -/
theorem getAbsolutePath_of_plain [LawfulFilenameUtils] (hb : AtRoot s folder b)
    (hnames : ∀ s ∈ init ++ [last], IsPlainName s) :
    b.getAbsolutePath (pathOf (init ++ [last])) = .ok (pathOf (init ++ [last])) := by
  have hfile : ∀ s ∈ init ++ [last], IsFileName s := fun s hs => (hnames s hs).isFileName
  unfold getAbsolutePath
  rw [isParent_pathOf hfile, hb.currentPath]
  exact normalizePath_rooted hfile fun s hs => ⟨(hnames s hs).backslash, (hnames s hs).colon⟩

/-- **A directory that is held is reached.** -/
theorem run_navigate_of_held [LawfulFilenameUtils] (hb : AtRoot s folder b)
    (hnames : ∀ s ∈ init ++ [last], IsPlainName s)
    (hheld : HoldsDirectory s folder (pathOf (init ++ [last]))) :
    ∃ b', (navigateToAbsolutePath none (pathOf (init ++ [last]))).run b = .ok () b' ∧
      b'.currentPath = pathOf (init ++ [last]) := by
  have hroot := isRoot_pathOf fun s hs => (hnames s hs).isFileName
  obtain ⟨row, hrow, htype⟩ := hheld
  obtain ⟨b₁, hlookup, hb₁⟩ := run_lookup_of_held hb hroot hrow
  have hdirectory : row.info.isDirectory = true := decide_eq_true htype
  have hpath : row.info.path = pathOf (init ++ [last]) := (selectNotDeleted_eq_some.1 hrow).2.2.1
  unfold navigateToAbsolutePath
  rw [hroot]
  simp only [Bool.false_eq_true, if_false]
  rw [run_bind_of_ok hlookup, run_get_bind,
    run_bind_of_ok (run_ofExcept_of_ok (getAbsolutePath_of_plain hb₁ hnames) b₁), hdirectory]
  -- the path is set, and its preload triggered
  refine ⟨_, rfl, ?_⟩
  rw [← hpath]
  exact currentPath_preload { b₁ with currentPath := row.info.path }

/-- **A path that is not held as a directory** leaves the browser at the
root. -/
theorem run_navigate_of_not_held [LawfulFilenameUtils] (hb : AtRoot s folder b)
    (hnames : ∀ s ∈ init ++ [last], IsPlainName s)
    (hnot : ¬ HoldsDirectory s folder (pathOf (init ++ [last]))) :
    ∃ e b', (navigateToAbsolutePath none (pathOf (init ++ [last]))).run b = .error e b' ∧
      AtRoot s folder b' := by
  have hroot := isRoot_pathOf fun s hs => (hnames s hs).isFileName
  unfold navigateToAbsolutePath
  rw [hroot]
  simp only [Bool.false_eq_true, if_false]
  cases hrow : s.selectNotDeleted folder (pathOf (init ++ [last])) with
  | none =>
    obtain ⟨e, hlookup⟩ := run_lookup_of_not_held hb hroot hrow
    exact ⟨e, b, run_bind_of_error hlookup _, hb⟩
  | some row =>
    -- a file
    obtain ⟨b₁, hlookup, hb₁⟩ := run_lookup_of_held hb hroot hrow
    have hdirectory : row.info.isDirectory = false :=
      decide_eq_false fun htype => hnot ⟨row, hrow, htype⟩
    rw [run_bind_of_ok hlookup, run_get_bind,
      run_bind_of_ok (run_ofExcept_of_ok (getAbsolutePath_of_plain hb₁ hnames) b₁), hdirectory]
    exact ⟨_, b₁, rfl, hb₁⟩

/-! ## All attempts -/

/-- From the root the nearest path is reached in as many calls as the
path has names, and one. -/
theorem run_navigateToNearestPath [LawfulFilenameUtils] (hb : AtRoot s folder b) {fuel : ℕ}
    (hnames : ∀ s ∈ names, IsPlainName s) (hfuel : names.length < fuel) :
    ∃ b', (navigateToNearestPath none fuel (some (pathOf names))).run b = .ok true b' ∧
      IsNearest s folder names b'.currentPath := by
  induction names using List.reverseRecOn generalizing b fuel with
  | nil =>
    obtain ⟨fuel, rfl⟩ : ∃ n, fuel = n + 1 := ⟨fuel - 1, by omega⟩
    refine ⟨b, rfl, ?_⟩
    rw [hb.currentPath]
    exact isNearest_self (Or.inl rfl)
  | append_singleton init last ih =>
    obtain ⟨fuel, rfl⟩ : ∃ n, fuel = n + 1 := ⟨fuel - 1, by omega⟩
    rw [List.length_append, List.length_singleton] at hfuel
    unfold navigateToNearestPath
    simp only [isBlank_pathOf hnames, Bool.false_eq_true, if_false]
    by_cases hheld : HoldsDirectory s folder (pathOf (init ++ [last]))
    · obtain ⟨b', hrun, hcurrent⟩ := run_navigate_of_held hb hnames hheld
      refine ⟨b', run_tryCatch_of_ok ?_, hcurrent ▸ isNearest_self (Or.inr hheld)⟩
      rw [run_bind_of_ok hrun]
      rfl
    · -- the exception is dropped, and the parent tried
      obtain ⟨e, b₁, hrun, hb₁⟩ := run_navigate_of_not_held hb hnames hheld
      have hinit : ∀ s ∈ init, IsPlainName s := fun s hs => hnames s (List.mem_append_left _ hs)
      obtain ⟨b', hrest, hnearest⟩ := ih hb₁ hinit (by omega : init.length < fuel)
      have hparent := getParentPath_pathOf (fun s hs => (hnames s hs).isFileName)
        (decomposable_of_plain hnames)
      refine ⟨b', ?_, hnearest.concat hheld⟩
      rw [run_tryCatch_of_error (run_bind_of_error hrun _),
        run_bind_of_ok (run_ofExcept_of_ok hparent b₁), hrest]

/-- **`buildToNearestPath` ends at the nearest path**: for a path of names
without marks, the longest prefix the repository holds as a directory that
is not deleted, and the root where it holds none. -/
theorem buildToNearestPath_isNearest [LawfulFilenameUtils] {builder : Builder} {fuel : ℕ}
    (hfolder : builder.folder ≠ "") (hnames : ∀ s ∈ names, IsPlainName s)
    (hfuel : names.length < fuel) :
    ∃ b, builder.buildToNearestPath fuel (some (pathOf names)) = .ok (some b) ∧
      IsNearest builder.indexRepository builder.folder names b.currentPath := by
  obtain ⟨b, hnew, hb⟩ : ∃ b, builder.new = .ok b ∧
      AtRoot builder.indexRepository builder.folder b := by
    unfold Builder.new
    rw [dif_neg hfolder]
    exact ⟨_, rfl, rfl, rfl, rfl, fun path info hfind =>
      by cases (Table.find_empty path).symm.trans hfind⟩
  obtain ⟨b', hrun, hnearest⟩ := run_navigateToNearestPath hb hnames hfuel
  refine ⟨b', ?_, hnearest⟩
  unfold Builder.buildToNearestPath
  rw [hnew, except_ok_bind, hrun]
  rfl

end IndexBrowser

end Navigation

section Sample

attribute [local instance] FilenameUtils.commonsIo lawfulFilenameUtils

/-- A builder for the sample index. -/
def sampleBuilder : IndexBrowser.Builder where
  folder := "default"
  indexRepository := twoDirectories

theorem buildToNearestPath_isNearest_sample :
    ∃ b, sampleBuilder.buildToNearestPath 4 (some "photos/2016/may") = .ok (some b) ∧
      IsNearest twoDirectories "default" ["photos", "2016", "may"] b.currentPath := by
  have hnames : ∀ s ∈ ["photos", "2016", "may"], IsPlainName s := by decide +kernel
  have hfolder : sampleBuilder.folder ≠ "" := by decide
  have hfuel : ["photos", "2016", "may"].length < 4 := by decide
  exact IndexBrowser.buildToNearestPath_isNearest hfolder hnames hfuel

end Sample

end Bep

end ASync
