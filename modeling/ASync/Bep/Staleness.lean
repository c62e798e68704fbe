import ASync.Bep.Helpers.IndexBrowser
import ASync.Bep.Model.Staleness
import ASync.Common.Threads
import ASync.Core.Helpers.Sample
/-!
# Whether a browser's caches go stale

What a call puts into a cache it read some time ago, and the caches may
have been dropped since. They agree with the repository whenever the index
thread is idle if no call is then under way with something the repository
no longer answers, and a record that was written is always posted
(`fresh_of_run`).
-/

namespace ASync

namespace Bep

open ASync.Core ASync.Repository Effect

/-! ## Writing a record -/

section Storing

variable [FilenameUtils]
variable {r r' : SqlRepository} {fault : Fault} {record : FileInfo} {fileBlocks : Option FileBlocks}
variable {folder path : String} {rows : List FileInfoRow}

/-- What is stored for a folder is the same. -/
def SameFolder (r r' : SqlRepository) (folder : String) : Prop :=
  ∀ path, r'.fileInfo.find (folder, path) = r.fileInfo.find (folder, path)

/-- Where all rows are the same, those of a folder are. -/
theorem SameFolder.of_eq (h : r'.fileInfo = r.fileInfo) (folder : String) :
    SameFolder r r' folder := by
  intro path
  rw [h]

/-- A record of the folder is found as before. -/
theorem SameFolder.selectNotDeleted (h : SameFolder r r' folder) (path : String) :
    r'.selectNotDeleted folder path = r.selectNotDeleted folder path := by
  unfold SqlRepository.selectNotDeleted
  rw [h path]

/-- A listing of the folder is found as before. -/
theorem SameFolder.selects (h : SameFolder r r' folder) (hrows : r.Selects folder path rows) :
    r'.Selects folder path rows where
  nodup := hrows.nodup
  mem_iff := by
    intro row
    rw [hrows.mem_iff]
    unfold SqlRepository.Holds
    constructor
    · rintro ⟨hfind, rfl, hparent⟩
      exact ⟨(h row.path).trans hfind, rfl, hparent⟩
    · rintro ⟨hfind, rfl, hparent⟩
      exact ⟨(h row.path).symm.trans hfind, rfl, hparent⟩

variable [Guava] [Protobuf IndexSerializationProtos.Blocks]

/-- The call writes the record's row. -/
def WritesRow (r : SqlRepository) (fault : Fault) (record : FileInfo)
    (fileBlocks : Option FileBlocks) : Prop :=
  fault ≠ some .selectLastModified ∧
  (∀ row, r.fileInfo.find (record.folder, record.path) = some row →
    row.lastModified < record.lastModified) ∧
  stopsBeforeWrites fault record fileBlocks = false ∧
  fault ≠ some .selectFileInfo ∧ fault ≠ some .mergeFileInfo

/-- The statistics take it. -/
def WritesStats (r : SqlRepository) (fault : Fault) (record : FileInfo) : Prop :=
  ¬ (r.folderStatsByFolder.find record.folder = none ∧ fault = some .selectFolderStats) ∧
  statsGuard (statsAfter r record) = true ∧ fault ≠ some .mergeFolderStats

/-- An update writes one row or none. -/
theorem updateFileInfo_fileInfo (r : SqlRepository) (fault : Fault) (record : FileInfo)
    (fileBlocks : Option FileBlocks) :
    (after (updateFileInfo fault record fileBlocks) r).fileInfo = r.fileInfo ∨
      (after (updateFileInfo fault record fileBlocks) r).fileInfo =
        (r.withFileInfo record (lastVersion record)).fileInfo := by
  obtain ⟨fileInfo, _, _, _, _, hafter, hfileInfo⟩ :=
    after_updateFileInfo_eq r fault record fileBlocks
  rw [hafter]
  exact hfileInfo

/-- One that throws has written the row only where the statistics do not
take it. -/
theorem fileInfo_of_updateFileInfo_error {e : JavaException}
    (h : (updateFileInfo fault record fileBlocks).run r = .error e r') :
    r'.fileInfo = r.fileInfo ∨ (stopsBeforeWrites fault record fileBlocks = false ∧
      fault ≠ some .selectFileInfo ∧ fault ≠ some .mergeFileInfo ∧
      ¬ WritesStats r fault record) := by
  obtain ⟨e', heq⟩ := run_updateFileInfo r fault record fileBlocks
  rw [h] at heq
  split at heq
  · cases heq
    exact Or.inl rfl
  · next hstop =>
    split at heq
    · cases heq
      exact Or.inl (SqlRepository.withBlocks_fileInfo r fileBlocks)
    · next hselect =>
      obtain ⟨hselect, hmerge⟩ := not_or.1 hselect
      have hstop' : stopsBeforeWrites fault record fileBlocks = false := by simpa using hstop
      refine Or.inr ⟨hstop', hselect, hmerge, ?_⟩
      rintro ⟨hload, hguard, hwrite⟩
      rw [if_neg hload, if_pos ⟨hguard, hwrite⟩] at heq
      cases heq

/-- `addRecord` reads the row, and goes on where the record is newer. -/
theorem run_storeRecord (r : SqlRepository) (fault : Fault) (record : FileInfo)
    (fileBlocks : Option FileBlocks) :
    ((∃ e, (storeRecord fault record fileBlocks).run r = .error e r) ∨
      (storeRecord fault record fileBlocks).run r = .ok false r) ∨
    (fault ≠ some .selectLastModified ∧
      (∀ row, r.fileInfo.find (record.folder, record.path) = some row →
        row.lastModified < record.lastModified) ∧
      (storeRecord fault record fileBlocks).run r =
        (updateFileInfo fault record fileBlocks >>= fun _ => pure true).run r) := by
  by_cases hfault : fault = some .selectLastModified
  · refine Or.inl (Or.inl ⟨.runtime "SQLException", ?_⟩)
    rw [hfault]
    rfl
  unfold storeRecord
  rw [run_bind_of_ok (run_findFileInfoLastModified r hfault record.folder record.path)]
  rcases hfind : r.fileInfo.find (record.folder, record.path) with _ | row
  · exact Or.inr ⟨hfault, fun row hrow => (by cases hrow), rfl⟩
  · by_cases hlt : row.lastModified < record.lastModified
    · refine Or.inr ⟨hfault, fun row' hrow' => ?_, ?_⟩
      · obtain rfl := Option.some.inj hrow'
        exact hlt
      · rw [if_neg (by simpa using hlt)]
    · refine Or.inl (Or.inr ?_)
      rw [if_pos (by simpa using hlt)]
      rfl

/-- It leaves the rows of other folders. -/
theorem sameFolder_storeRecord (r : SqlRepository) (fault : Fault) (record : FileInfo)
    (fileBlocks : Option FileBlocks) (h : folder ≠ record.folder) :
    SameFolder r (after (storeRecord fault record fileBlocks) r) folder := by
  rcases run_storeRecord r fault record fileBlocks with (⟨e, hrun⟩ | hrun) | ⟨-, -, hrun⟩
  · rw [after_of_error hrun]
    exact .of_eq rfl folder
  · rw [after_of_ok hrun]
    exact .of_eq rfl folder
  · have hafter : after (storeRecord fault record fileBlocks) r =
        after (updateFileInfo fault record fileBlocks) r := by
      rw [after, hrun]
      exact after_bind_pure (updateFileInfo fault record fileBlocks) (fun _ => true) r
    rw [hafter]
    rcases updateFileInfo_fileInfo r fault record fileBlocks with heq | heq
    · exact .of_eq heq folder
    · intro path
      rw [heq]
      exact Table.find_merge_of_ne fun hkey => h (congrArg Prod.fst hkey)

/-- It leaves all rows where it does not post, if the statistics take what
it writes. -/
theorem storeRecord_not_posted (hpost : ∀ r',
    (storeRecord fault record fileBlocks).run r ≠ .ok true r')
    (h : WritesRow r fault record fileBlocks → WritesStats r fault record) :
    (after (storeRecord fault record fileBlocks) r).fileInfo = r.fileInfo := by
  rcases run_storeRecord r fault record fileBlocks with (⟨e, hrun⟩ | hrun) | ⟨hselect, hnewer, hrun⟩
  · rw [after_of_error hrun]
  · rw [after_of_ok hrun]
  · rcases hupdate : (updateFileInfo fault record fileBlocks).run r with ⟨u, r'⟩ | ⟨e, r'⟩
    · rw [run_bind_of_ok hupdate] at hrun
      exact absurd hrun (hpost r')
    · rw [run_bind_of_error hupdate] at hrun
      rw [after_of_error hrun]
      rcases fileInfo_of_updateFileInfo_error hupdate with heq | ⟨hstop, hfile, hmerge, hstats⟩
      · exact heq
      · exact absurd (h ⟨hselect, hnewer, hstop, hfile, hmerge⟩) hstats

end Storing

/-! ## What agrees with the repository -/

section Caches

variable [FilenameUtils]
variable {s s' : BrowserCaches} {b b' : IndexBrowser} {es : List CacheEvent}
  {e : CacheEvent} {i : ℕ}
variable {load : CacheLoad} {folder path : String} {info : FileInfo} {list puts : List FileInfo}
variable {rows : List FileInfoRow} {fault : Fault} {record : FileInfo}
  {fileBlocks : Option FileBlocks}

namespace IndexBrowser

/-- The record is what the repository answers for the path. -/
def RecordCurrent (b : IndexBrowser) (path : String) (info : FileInfo) : Prop :=
  (b.indexRepository.selectNotDeleted b.folder path).map FileInfoRow.info = some info

/-- The records are those of a directory. -/
def ListCurrent (b : IndexBrowser) (path : String) (list : List FileInfo) : Prop :=
  ∃ rows, b.indexRepository.Selects b.folder path rows ∧ list = rows.map FileInfoRow.info

/-- The listing is what `doListFiles` would return. -/
def ListingCurrent (b : IndexBrowser) (path : String) (listing : List FileInfo) : Prop :=
  ∃ rows, b.indexRepository.Selects b.folder path rows ∧
    result (doListFiles none rows path) b = some listing

def RecordsFresh (b : IndexBrowser) : Prop :=
  ∀ path info, b.fileInfoCache.find path = some info → b.RecordCurrent path info

def ListingsFresh (b : IndexBrowser) : Prop :=
  ∀ path listing, b.listFolderCache.find path = some listing → b.ListingCurrent path listing

end IndexBrowser

namespace CacheLoad

/-- The records a call has yet to put are current. -/
def RecordsCurrent (b : IndexBrowser) : CacheLoad → Prop
  | .recordRead path info => b.RecordCurrent path info
  | .listingRead _ _ puts => ∀ info ∈ puts, b.RecordCurrent info.path info
  | _ => True

/-- The records it is to list are. -/
def ListCurrent (b : IndexBrowser) : CacheLoad → Prop
  | .listingRead path list _ => b.ListCurrent path list
  | _ => True

end CacheLoad

namespace BrowserCaches

/-- No listing, and no record, is cached or about to be that is not
current. -/
def Listings (s : BrowserCaches) : Prop :=
  s.browser.ListingsFresh ∧ ∀ load ∈ s.loads, load.ListCurrent s.browser

def Records (s : BrowserCaches) : Prop :=
  s.browser.RecordsFresh ∧ ∀ load ∈ s.loads, load.RecordsCurrent s.browser

/-- The caches agree with the repository. -/
def Fresh (s : BrowserCaches) : Prop := s.browser.RecordsFresh ∧ s.browser.ListingsFresh

/-! ## Browsers that answer the same -/

/-- The repository answers as before, and the settings are the same. -/
structure SameView (b b' : IndexBrowser) : Prop where
  folder : b'.folder = b.folder
  rows : SameFolder b.indexRepository b'.indexRepository b.folder
  ordering : b'.ordering = b.ordering
  withParent : ∀ path, b'.withParent path = b.withParent path

/-- A record that is current stays so. -/
theorem SameView.recordCurrent (h : SameView b b') (hcurrent : b.RecordCurrent path info) :
    b'.RecordCurrent path info := by
  unfold IndexBrowser.RecordCurrent at hcurrent ⊢
  rw [h.folder, h.rows.selectNotDeleted path]
  exact hcurrent

/-- A list that is current stays so. -/
theorem SameView.listCurrent (h : SameView b b') (hcurrent : b.ListCurrent path list) :
    b'.ListCurrent path list := by
  obtain ⟨rows, hrows, rfl⟩ := hcurrent
  refine ⟨rows, ?_, rfl⟩
  rw [h.folder]
  exact h.rows.selects hrows

/-- A listing is current that sorts a list that is, after the entry of the
parent. -/
theorem listingCurrent_iff : b.ListingCurrent path list ↔ ∃ rows,
    b.indexRepository.Selects b.folder path rows ∧
    b.withParent path (Comparator.sort b.ordering (rows.map FileInfoRow.info)) = list := by
  unfold IndexBrowser.ListingCurrent
  refine exists_congr fun rows => and_congr_right fun _ => ?_
  rw [result_of_ok (IndexBrowser.run_doListFiles rows path), Option.some.injEq]

/-- A listing that is current stays so. -/
theorem SameView.listingCurrent (h : SameView b b') (hcurrent : b.ListingCurrent path list) :
    b'.ListingCurrent path list := by
  obtain ⟨rows, hrows, hlist⟩ := listingCurrent_iff.1 hcurrent
  refine listingCurrent_iff.2 ⟨rows, ?_, ?_⟩
  · rw [h.folder]
    exact h.rows.selects hrows
  · rw [h.withParent, h.ordering]
    exact hlist

/-- What a call holds to list stays current. -/
theorem SameView.loadList (h : SameView b b') (hload : load.ListCurrent b) :
    load.ListCurrent b' := by
  rcases load with path | ⟨path, info⟩ | path | ⟨path, list, puts⟩ | _
  · trivial
  · trivial
  · trivial
  · exact h.listCurrent hload
  · trivial

/-- What a call holds to put stays current. -/
theorem SameView.loadRecords (h : SameView b b') (hload : load.RecordsCurrent b) :
    load.RecordsCurrent b' := by
  rcases load with path | ⟨path, info⟩ | path | ⟨path, list, puts⟩ | _
  · trivial
  · exact h.recordCurrent hload
  · trivial
  · exact fun info hinfo => h.recordCurrent (hload info hinfo)
  · trivial

/-- The listings stay fresh. -/
theorem Listings.sameView (hs : s.Listings) (h : SameView s.browser s'.browser)
    (hloads : s'.loads = s.loads)
    (hcache : s'.browser.listFolderCache = s.browser.listFolderCache) : s'.Listings := by
  refine ⟨fun path listing hfind => ?_, fun load hload => ?_⟩
  · rw [hcache] at hfind
    exact h.listingCurrent (hs.1 path listing hfind)
  · rw [hloads] at hload
    exact h.loadList (hs.2 load hload)

/-- The records stay fresh. -/
theorem Records.sameView (hs : s.Records) (h : SameView s.browser s'.browser)
    (hloads : s'.loads = s.loads)
    (hcache : s'.browser.fileInfoCache = s.browser.fileInfoCache) : s'.Records := by
  refine ⟨fun path info hfind => ?_, fun load hload => ?_⟩
  · rw [hcache] at hfind
    exact h.recordCurrent (hs.1 path info hfind)
  · rw [hloads] at hload
    exact h.loadRecords (hs.2 load hload)

/-! ## Reading and putting -/

omit [FilenameUtils] in
/-- A query that answers has not failed. -/
theorem answered_eq_ok {α : Type} {answer : Except JavaException α} {x : α}
    (h : answered fault answer = .ok x) : answer = .ok x := by
  unfold answered at h
  split at h
  · cases h
  · exact h

/-- What a call reads is current. -/
theorem recordsCurrent_readBy (hrows : ∀ path ∈ load.listed,
    s.browser.indexRepository.Selects s.browser.folder path rows)
    (h : load.RecordsCurrent s.browser) : (s.readBy fault rows load).RecordsCurrent s.browser := by
  rcases load with path | ⟨path, info⟩ | path | ⟨path, list, puts⟩ | _
  · rw [readBy]
    split
    · next info hfind =>
      have hcalm : findNotDeletedFileInfo s.browser.indexRepository none s.browser.folder path =
          .ok ((s.browser.indexRepository.selectNotDeleted s.browser.folder path).map
            FileInfoRow.info) :=
        findNotDeletedFileInfo_none
      have hanswer := (answered_eq_ok hfind).symm.trans (answered_eq_ok hcalm)
      exact (Except.ok.inj hanswer).symm
    · trivial
  · exact h
  · rw [readBy]
    split
    · next list hfind =>
      have hcalm : findNotDeletedFilesByFolderAndParent none rows =
          .ok (rows.map FileInfoRow.info) :=
        findNotDeletedFilesByFolderAndParent_none
      have hanswer := (answered_eq_ok hfind).symm.trans (answered_eq_ok hcalm)
      obtain rfl := Except.ok.inj hanswer
      have hselects := hrows path rfl
      intro info hinfo
      obtain ⟨row, hrow, rfl⟩ := List.mem_map.1 hinfo
      obtain ⟨hholds, hfolder, -, hdeleted⟩ := (hselects.mem_iff row).1 hrow
      have hselect :
          s.browser.indexRepository.selectNotDeleted s.browser.folder row.info.path = some row :=
        selectNotDeleted_eq_some.2 ⟨hholds, hfolder, rfl, hdeleted⟩
      unfold IndexBrowser.RecordCurrent
      rw [hselect]
      rfl
    · trivial
  · exact h
  · trivial

/-- A list that is read is current. -/
theorem listCurrent_readBy (hrows : ∀ path ∈ load.listed,
    s.browser.indexRepository.Selects s.browser.folder path rows)
    (h : load.ListCurrent s.browser) : (s.readBy fault rows load).ListCurrent s.browser := by
  rcases load with path | ⟨path, info⟩ | path | ⟨path, list, puts⟩ | _
  · rw [readBy]
    split
    · trivial
    · trivial
  · trivial
  · rw [readBy]
    split
    · next list hfind =>
      have hcalm : findNotDeletedFilesByFolderAndParent none rows =
          .ok (rows.map FileInfoRow.info) :=
        findNotDeletedFilesByFolderAndParent_none
      have hanswer := (answered_eq_ok hfind).symm.trans (answered_eq_ok hcalm)
      exact ⟨rows, hrows path rfl, Except.ok.inj hanswer⟩
    · trivial
  · exact h
  · trivial

/-- Only a cache changes in a put. -/
theorem sameView_putBy (b : IndexBrowser) (load : CacheLoad) : SameView b (putBy b load).1 := by
  rcases load with path | ⟨path, info⟩ | path | ⟨path, list, _ | ⟨info, puts⟩⟩ | _ <;>
  exact ⟨rfl, .of_eq rfl _, rfl, fun _ => rfl⟩

/-- Caching a current record leaves the cache fresh. -/
theorem recordsFresh_merge (h : b.RecordsFresh) (hcurrent : b.RecordCurrent path info) :
    IndexBrowser.RecordsFresh { b with fileInfoCache := b.fileInfoCache.merge path info } := by
  intro path' info' hfind
  rw [Table.find_merge] at hfind
  split at hfind
  · next hpath =>
    obtain rfl := Option.some.inj hfind
    rw [hpath]
    exact hcurrent
  · exact h path' info' hfind

/-- A put of what is current leaves what is cached, and what the call has
yet to put, current. -/
theorem recordsFresh_putBy (h : b.RecordsFresh) (hload : load.RecordsCurrent b) :
    (putBy b load).1.RecordsFresh ∧ (putBy b load).2.RecordsCurrent b := by
  rcases load with path | ⟨path, info⟩ | path | ⟨path, list, _ | ⟨info, puts⟩⟩ | _
  · exact ⟨h, trivial⟩
  · exact ⟨recordsFresh_merge h hload, trivial⟩
  · exact ⟨h, trivial⟩
  · exact ⟨h, trivial⟩
  · exact ⟨recordsFresh_merge h (hload info List.mem_cons_self),
      fun info' hinfo' => hload info' (List.mem_cons_of_mem info hinfo')⟩
  · exact ⟨h, trivial⟩

/-- A put leaves the listings, and what the call has yet to list, current.
-/
theorem listingsFresh_putBy (h : b.ListingsFresh) (hload : load.ListCurrent b) :
    (putBy b load).1.ListingsFresh ∧ (putBy b load).2.ListCurrent b := by
  have hview : SameView b (putBy b load).1 := sameView_putBy b load
  rcases load with path | ⟨path, info⟩ | path | ⟨path, list, _ | ⟨info, puts⟩⟩ | _
  · exact ⟨h, trivial⟩
  · exact ⟨fun path' listing hfind => hview.listingCurrent (h path' listing hfind), trivial⟩
  · exact ⟨h, trivial⟩
  · refine ⟨fun path' listing hfind => hview.listingCurrent ?_, trivial⟩
    obtain ⟨rows, hrows, rfl⟩ := hload
    rw [putBy, Table.find_merge] at hfind
    split at hfind
    · next hpath =>
      obtain rfl := Option.some.inj hfind
      rw [hpath]
      exact listingCurrent_iff.2 ⟨rows, hrows, rfl⟩
    · exact h path' listing hfind
  · exact ⟨fun path' listing hfind => hview.listingCurrent (h path' listing hfind), hload⟩
  · exact ⟨h, trivial⟩

/-! ## One step -/

/-- What is stale is yet to be dropped. -/
structure Sound (s : BrowserCaches) : Prop where
  listings : s.index ≠ .posting s.browser.folder → s.Listings
  records : s.index ≠ .posting s.browser.folder → s.index ≠ .listsDropped → s.Records

/-- Triggering a preload changes the jobs. -/
theorem after_preload_eq (b : IndexBrowser) : ∃ preloadJobs submitted,
    after IndexBrowser.preloadFileInfoForCurrentPath b = { b with preloadJobs, submitted } := by
  by_cases h : b.currentPath ∈ b.preloadJobs
  · exact ⟨_, b.submitted, if_pos h⟩
  · exact ⟨_, _, if_neg h⟩

/-- A call begins, with nothing read yet. -/
theorem Sound.started (h : s.Sound) (hlist : load.ListCurrent s.browser)
    (hrecords : load.RecordsCurrent s.browser) : Sound { s with loads := s.loads ++ [load] } := by
  have hall : ∀ (P : CacheLoad → Prop), P load → (∀ l ∈ s.loads, P l) →
      ∀ l ∈ s.loads ++ [load], P l := by
    intro P hload hloads l hl
    rcases List.mem_append.1 hl with hl | hl
    · exact hloads l hl
    · exact List.mem_singleton.1 hl ▸ hload
  refine ⟨fun hindex => ?_, fun hindex hdropped => ?_⟩
  · obtain ⟨hfresh, hloads⟩ := h.listings hindex
    exact ⟨hfresh, hall _ hlist hloads⟩
  · obtain ⟨hfresh, hloads⟩ := h.records hindex hdropped
    exact ⟨hfresh, hall _ hrecords hloads⟩

/-- A call reads. -/
theorem Sound.read (h : s.Sound) (hi : s.loads[i]? = some load)
    (hrows : ∀ path ∈ load.listed, s.browser.indexRepository.Selects s.browser.folder path rows) :
    Sound { s with loads := s.loads.set i (s.readBy fault rows load) } := by
  have hmem : load ∈ s.loads := List.mem_of_getElem? hi
  refine ⟨fun hindex => ?_, fun hindex hdropped => ?_⟩
  · obtain ⟨hfresh, hloads⟩ := h.listings hindex
    exact ⟨hfresh, Threads.forall_mem_set hloads (listCurrent_readBy hrows (hloads load hmem))⟩
  · obtain ⟨hfresh, hloads⟩ := h.records hindex hdropped
    exact ⟨hfresh, Threads.forall_mem_set hloads (recordsCurrent_readBy hrows (hloads load hmem))⟩

/-- A call puts. -/
theorem Sound.put (h : s.Sound) (hi : s.loads[i]? = some load) :
    Sound { s with
      browser := (putBy s.browser load).1
      loads := s.loads.set i (putBy s.browser load).2 } := by
  have hmem : load ∈ s.loads := List.mem_of_getElem? hi
  have hview : SameView s.browser (putBy s.browser load).1 := sameView_putBy s.browser load
  refine ⟨fun hindex => ?_, fun hindex hdropped => ?_⟩
  · rw [hview.folder] at hindex
    obtain ⟨hfresh, hloads⟩ := h.listings hindex
    obtain ⟨hput, hrest⟩ := listingsFresh_putBy hfresh (hloads load hmem)
    exact ⟨hput, Threads.forall_mem_set (fun l hl => hview.loadList (hloads l hl))
      (hview.loadList hrest)⟩
  · rw [hview.folder] at hindex
    obtain ⟨hfresh, hloads⟩ := h.records hindex hdropped
    obtain ⟨hput, hrest⟩ := recordsFresh_putBy hfresh (hloads load hmem)
    exact ⟨hput, Threads.forall_mem_set (fun l hl => hview.loadRecords (hloads l hl))
      (hview.loadRecords hrest)⟩

/-- A repository with the same rows of the folder answers the same. -/
theorem sameView_rows {r : SqlRepository} (h : SameFolder b.indexRepository r b.folder) :
    SameView b { b with indexRepository := r } := ⟨rfl, h, rfl, fun _ => rfl⟩

/-- What is current stays so where the rows of the folder do. -/
theorem Sound.sameRows {r : SqlRepository} {index : IndexThread} (h : s.Sound)
    (hidle : s.index = .idle)
    (hrows : SameFolder s.browser.indexRepository r s.browser.folder) :
    Sound { s with browser := { s.browser with indexRepository := r }, index } := by
  have hview : SameView s.browser { s.browser with indexRepository := r } := sameView_rows hrows
  have hlistings : s.Listings := h.listings (by rw [hidle]; nofun)
  have hrecords : s.Records := h.records (by rw [hidle]; nofun) (by rw [hidle]; nofun)
  exact ⟨fun _ => hlistings.sameView hview rfl rfl, fun _ _ => hrecords.sameView hview rfl rfl⟩

variable [Guava] [Protobuf IndexSerializationProtos.Blocks]

/-- When a cache is dropped no call has yet to put into it what is not
current, and a record that is written is posted. -/
def Punctual (s : BrowserCaches) : CacheEvent → Prop
  | .addRecord fault record fileBlocks => record.folder = s.browser.folder →
      WritesRow s.browser.indexRepository fault record fileBlocks →
        WritesStats s.browser.indexRepository fault record
  | .invalidateLists =>
    s.index = .posting s.browser.folder → ∀ load ∈ s.loads, load.ListCurrent s.browser
  | .invalidateRecords => ∀ load ∈ s.loads, load.RecordsCurrent s.browser
  | _ => True

/-- A record comes in. In the browser's own folder everything may be stale
until the event was handled. -/
theorem Sound.stored (h : s.Sound) (hidle : s.index = .idle)
    (hpunctual : s.Punctual (.addRecord fault record fileBlocks)) :
    (s.stored fault record fileBlocks).Sound := by
  have hother : s.browser.folder ≠ record.folder → SameFolder s.browser.indexRepository
      (after (storeRecord fault record fileBlocks) s.browser.indexRepository) s.browser.folder :=
    sameFolder_storeRecord s.browser.indexRepository fault record fileBlocks
  have hrows :
      (∀ r', (storeRecord fault record fileBlocks).run s.browser.indexRepository ≠ .ok true r') →
      SameFolder s.browser.indexRepository
        (after (storeRecord fault record fileBlocks) s.browser.indexRepository)
          s.browser.folder := by
    intro hpost
    by_cases hfolder : record.folder = s.browser.folder
    · exact .of_eq (storeRecord_not_posted hpost (hpunctual hfolder)) _
    · exact hother (Ne.symm hfolder)
  unfold BrowserCaches.stored
  split
  · next r hrun =>
    rw [after_of_ok hrun] at hother
    by_cases hfolder : record.folder = s.browser.folder
    · have hposting : IndexThread.posting record.folder = .posting s.browser.folder :=
        by rw [hfolder]
      exact ⟨fun hindex => absurd hposting hindex, fun hindex _ => absurd hposting hindex⟩
    · exact h.sameRows hidle (hother (Ne.symm hfolder))
  · next r hrun =>
    rw [after_of_ok hrun] at hrows
    exact h.sameRows hidle (hrows fun r' hpost => by rw [hrun] at hpost; cases hpost)
  · next e r hrun =>
    rw [after_of_error hrun] at hrows
    exact h.sameRows hidle (hrows fun r' hpost => by rw [hrun] at hpost; cases hpost)

/-- The listings are dropped. -/
theorem Sound.listsInvalidated (h : s.Sound) (hindex : s.index = .posting folder)
    (hpunctual : s.Punctual .invalidateLists) : (s.listsInvalidated folder).Sound := by
  unfold BrowserCaches.listsInvalidated
  split
  · next hfolder =>
    subst hfolder
    refine ⟨fun _ => ⟨fun path listing hfind => ?_, ?_⟩, fun _ hdropped => absurd rfl hdropped⟩
    · cases (Table.find_empty path).symm.trans hfind
    · exact fun load hload => (hpunctual hindex load hload : load.ListCurrent s.browser)
  · next hfolder =>
    have hposting : s.index ≠ .posting s.browser.folder := by
      rw [hindex]
      exact fun heq => hfolder (IndexThread.posting.inj heq)
    have hdropped : s.index ≠ .listsDropped := by
      rw [hindex]
      intro heq
      cases heq
    exact ⟨fun _ => h.listings hposting, fun _ _ => h.records hposting hdropped⟩

/-- The records are dropped. -/
theorem Sound.recordsInvalidated (h : s.Sound) (hindex : s.index = .listsDropped)
    (hpunctual : s.Punctual .invalidateRecords) : s.recordsInvalidated.Sound := by
  obtain ⟨preloadJobs, submitted, hafter⟩ := after_preload_eq { s.browser with fileInfoCache := ∅ }
  have hs' : s.recordsInvalidated = { s with
      browser := { s.browser with fileInfoCache := ∅, preloadJobs, submitted }
      index := .idle } := by
    unfold BrowserCaches.recordsInvalidated
    rw [hafter]
  have hview : SameView s.browser { s.browser with fileInfoCache := ∅, preloadJobs, submitted } :=
    ⟨rfl, .of_eq rfl _, rfl, fun _ => rfl⟩
  rw [hs']
  refine ⟨fun _ => ?_, fun _ _ => ⟨fun path info hfind => ?_, fun load hload => ?_⟩⟩
  · have hlistings : s.Listings := h.listings (by rw [hindex]; nofun)
    exact hlistings.sameView hview rfl rfl
  · cases (Table.find_empty path).symm.trans hfind
  · exact hview.loadRecords (hpunctual load hload)

/-- **Every step that meets the condition keeps the caches sound.** -/
theorem Sound.step (h : s.Sound) (hpunctual : s.Punctual e) (hstep : caching.step s e s') :
    s'.Sound := by
  cases e with
  | getFileInfo =>
    obtain ⟨-, -, rfl⟩ := hstep
    exact h.started trivial trivial
  | listFiles =>
    obtain ⟨-, rfl⟩ := hstep
    exact h.started trivial trivial
  | read =>
    obtain ⟨load, hi, hrows, rfl⟩ := hstep
    exact h.read hi hrows
  | put =>
    obtain ⟨load, hi, rfl⟩ := hstep
    exact h.put hi
  | addRecord =>
    obtain ⟨hidle, rfl⟩ := hstep
    exact h.stored hidle hpunctual
  | invalidateLists =>
    obtain ⟨folder, hindex, rfl⟩ := hstep
    exact h.listsInvalidated hindex hpunctual
  | invalidateRecords =>
    obtain ⟨hindex, rfl⟩ := hstep
    exact h.recordsInvalidated hindex hpunctual

/-! ## Runs -/

/-- So they are in every run of such steps. -/
theorem sound_of_run (h : caching.Run (fun _ s e => s.Punctual e) es s) : s.Sound := by
  refine h.invariant (I := fun _ s => s.Sound) ?_ fun _ _ _ _ _ hI hpunctual hstep =>
    hI.step hpunctual hstep
  rintro s ⟨builder, b, hnew, rfl⟩
  unfold IndexBrowser.Builder.new at hnew
  split at hnew
  · cases hnew
  · obtain rfl := Except.ok.inj hnew
    refine ⟨fun _ => ⟨fun path listing hfind => ?_, List.forall_mem_nil _⟩,
      fun _ _ => ⟨fun path info hfind => ?_, List.forall_mem_nil _⟩⟩
    · cases (Table.find_empty path).symm.trans hfind
    · cases (Table.find_empty path).symm.trans hfind

/-- **No cache is left stale** in a run in which, when a cache is dropped,
no call is under way with something that is not current, and in which a
record that is written is always posted. -/
theorem fresh_of_run (h : caching.Run (fun _ s e => s.Punctual e) es s) (hidle : s.index = .idle) :
    s.Fresh := by
  have hsound : s.Sound := sound_of_run h
  have hposting : s.index ≠ .posting s.browser.folder := by
    rw [hidle]
    nofun
  have hdropped : s.index ≠ .listsDropped := by
    rw [hidle]
    nofun
  exact ⟨(hsound.records hposting hdropped).1, (hsound.listings hposting).1⟩

end BrowserCaches

end Caches

/-! ## Sample runs -/

section Sample

attribute [local instance] Sample.guava FilenameUtils.commonsIo Sample.protobuf

namespace BrowserCaches

/-- The name and the parent of a directory at the root. -/
theorem names_photos : PathUtils.namesOf "photos" = .ok ("photos", "") := by decide +kernel

/-- A change of a directory. -/
def photosChanged : FileInfo := Core.sampleDirectory "photos" 3000 names_photos

/-- A browser on two directories. -/
def newBrowser : IndexBrowser where
  folder := "default"
  folder_ne := sampleFolder_ne
  indexRepository := twoDirectories
  includeParentInList := false
  allowParentInRoot := false
  ordering := FileInfoOrdering.ALPHA_ASC_DIR_FIRST

/-- The sample's browser is new. -/
theorem start_newBrowser : caching.start { browser := newBrowser } :=
  ⟨{ folder := "default", indexRepository := twoDirectories }, newBrowser, rfl, rfl⟩

/-- A step in which no directory is listed. -/
def replay (s : BrowserCaches) : CacheEvent → Option BrowserCaches
  | .getFileInfo path =>
    if PathUtils.isRoot path = false ∧ s.browser.fileInfoCache.find path = none then
      some { s with loads := s.loads ++ [.record path] }
    else none
  | .listFiles _ => none
  | .read i fault rows =>
    match s.loads[i]? with
    | some (.record path) =>
      some { s with loads := s.loads.set i (s.readBy fault rows (.record path)) }
    | _ => none
  | .put i => s.loads[i]?.map fun load =>
    { s with
      browser := (putBy s.browser load).1
      loads := s.loads.set i (putBy s.browser load).2 }
  | .addRecord fault record fileBlocks =>
    if s.index = .idle then some (s.stored fault record fileBlocks) else none
  | .invalidateLists =>
    match s.index with
    | .posting folder => some (s.listsInvalidated folder)
    | _ => none
  | .invalidateRecords => if s.index = .listsDropped then some s.recordsInvalidated else none

/-- What is replayed is a step. -/
theorem step_of_replay {s s' : BrowserCaches} {e : CacheEvent} (h : s.replay e = some s') :
    caching.step s e s' := by
  unfold replay at h
  split at h
  · split at h
    · next hmiss => exact ⟨hmiss.1, hmiss.2, (Option.some.inj h).symm⟩
    · cases h
  · cases h
  · split at h
    · next path hi =>
        exact ⟨.record path, hi, fun path hpath => (by cases hpath), (Option.some.inj h).symm⟩
    · cases h
  · obtain ⟨load, hi, rfl⟩ := Option.map_eq_some_iff.1 h
    exact ⟨load, hi, rfl⟩
  · split at h
    · next hidle => exact ⟨hidle, (Option.some.inj h).symm⟩
    · cases h
  · split at h
    · next folder hindex => exact ⟨folder, hindex, (Option.some.inj h).symm⟩
    · cases h
  · split at h
    · next hindex => exact ⟨hindex, (Option.some.inj h).symm⟩
    · cases h

instance (r : SqlRepository) (fault : Fault) (record : FileInfo) :
    Decidable (WritesStats r fault record) := by
  unfold WritesStats
  infer_instance

/-- The call lists no directory, and the record it read is the one stored. -/
def isCurrent (b : IndexBrowser) : CacheLoad → Bool
  | .recordRead path info =>
    (b.indexRepository.selectNotDeleted b.folder path).map FileInfoRow.info = some info
  | .listingRead _ _ _ => false
  | _ => true

/-- Such a call holds no list that is not current. -/
theorem listCurrent_of_isCurrent {b : IndexBrowser} {load : CacheLoad}
    (h : isCurrent b load = true) : load.ListCurrent b := by
  rcases load with path | ⟨path, info⟩ | path | ⟨path, list, puts⟩ | _
  case listingRead => cases h
  all_goals trivial

/-- Such a call holds no record that is not current. -/
theorem recordsCurrent_of_isCurrent {b : IndexBrowser} {load : CacheLoad}
    (h : isCurrent b load = true) : load.RecordsCurrent b := by
  rcases load with path | ⟨path, info⟩ | path | ⟨path, list, puts⟩ | _
  case recordRead =>
    have hrow : (b.indexRepository.selectNotDeleted b.folder path).map FileInfoRow.info =
        some info :=
      of_decide_eq_true h
    exact hrow
  case listingRead => cases h
  all_goals trivial

/-- The statistics take each record, and the calls under way when a cache
is dropped hold what is stored. -/
def settled (s : BrowserCaches) : CacheEvent → Bool
  | .addRecord fault record _ => WritesStats s.browser.indexRepository fault record
  | .invalidateLists | .invalidateRecords => s.loads.all (isCurrent s.browser)
  | _ => true

/-- The test is enough for the condition. -/
theorem punctual_of_settled {s : BrowserCaches} {e : CacheEvent} (h : s.settled e = true) :
    s.Punctual e := by
  cases e with
  | getFileInfo => trivial
  | listFiles => trivial
  | read => trivial
  | put => trivial
  | addRecord => exact fun _ _ => of_decide_eq_true h
  | invalidateLists =>
    exact fun _ load hload => listCurrent_of_isCurrent (List.all_eq_true.1 h load hload)
  | invalidateRecords =>
    exact fun load hload => recordsCurrent_of_isCurrent (List.all_eq_true.1 h load hload)

def isDone : CacheLoad → Bool
  | .done => true
  | _ => false

/-- Two calls are under way while a change comes in: one has read the change
when the records are dropped, the other reads after that. -/
def freshEvents : List CacheEvent :=
  [.getFileInfo "photos", .addRecord none photosChanged none, .getFileInfo "music",
    .invalidateLists,
    .read 0 none [], .invalidateRecords, .read 1 none [], .put 1, .put 0]

/-- It comes in between the read and the put. -/
def staleEvents : List CacheEvent :=
  [.getFileInfo "photos", .read 0 none [], .addRecord none photosChanged none, .invalidateLists,
    .invalidateRecords, .put 0]

/-- Both records are cached as they are stored at the end. -/
theorem fresh_of_run_sample :
    ∃ s, caching.Run (fun _ s e => s.Punctual e) freshEvents s ∧
      s.browser.fileInfoCache.find "photos" = some photosChanged ∧
      s.browser.fileInfoCache.find "music" = some musicDirectory ∧ s.Fresh := by
  have hany :
      (freshEvents.foldlM (fun (s : BrowserCaches) e => if s.settled e then s.replay e else none)
      ({ browser := newBrowser } : BrowserCaches)).any (fun s => s.index = .idle &&
        (s.browser.fileInfoCache.find "photos" = some photosChanged &&
          s.browser.fileInfoCache.find "music" = some musicDirectory)) = true := by
    decide +kernel
  obtain ⟨s, hsteps, hlast⟩ :=
    Machine.exists_run_of_foldlM start_newBrowser (fun _ _ _ => step_of_replay) hany
  obtain ⟨hidle, hcached⟩ := Bool.and_eq_true_iff.1 hlast
  obtain ⟨hphotos, hmusic⟩ := Bool.and_eq_true_iff.1 hcached
  have hrun := hsteps.mono fun _ _ _ => punctual_of_settled
  exact ⟨s, hrun, of_decide_eq_true hphotos, of_decide_eq_true hmusic,
    fresh_of_run hrun (of_decide_eq_true hidle)⟩

/-- **A record goes stale**: it was read before a change, and is put when
the caches have been dropped. -/
theorem old_record_is_cached :
    ∃ s, caching.Reaches staleEvents s ∧ s.index = .idle ∧ (∀ load ∈ s.loads, isDone load = true) ∧
      ¬ s.Fresh := by
  have hany : (staleEvents.foldlM (fun s e => if true then s.replay e else none)
      ({ browser := newBrowser } : BrowserCaches)).any (fun s =>
        (s.index = .idle && s.loads.all isDone) &&
        ((s.browser.fileInfoCache.find "photos").map FileInfo.lastModified = some 2000 &&
          (s.browser.indexRepository.selectNotDeleted s.browser.folder "photos").map
            (fun row => row.info.lastModified) = some 3000)) = true := by
    decide +kernel
  obtain ⟨s, hsteps, hlast⟩ :=
    Machine.exists_run_of_foldlM start_newBrowser (fun _ _ _ => step_of_replay) hany
  obtain ⟨hquiet, hstale⟩ := Bool.and_eq_true_iff.1 hlast
  obtain ⟨hidle, hdone⟩ := Bool.and_eq_true_iff.1 hquiet
  obtain ⟨hcached, hstored⟩ := Bool.and_eq_true_iff.1 hstale
  obtain ⟨info, hfind, hold⟩ := Option.map_eq_some_iff.1 (of_decide_eq_true hcached)
  refine ⟨s, hsteps.reaches, of_decide_eq_true hidle, List.all_eq_true.1 hdone,
    fun hfresh => ?_⟩
  -- the record cached would be the one that is stored
  have hcurrent := hfresh.1 "photos" info hfind
  obtain ⟨row, hrow, hnew⟩ := Option.map_eq_some_iff.1 (of_decide_eq_true hstored)
  unfold IndexBrowser.RecordCurrent at hcurrent
  rw [hrow, Option.map_some, Option.some.injEq] at hcurrent
  rw [hcurrent] at hnew
  omega

end BrowserCaches

end Sample

end Bep

end ASync
