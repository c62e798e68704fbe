import ASync.Core.Model.Libraries
import ASync.Common.Table
/-!
# The block cache

A directory with one file a block, named by the hash of its content. A
file may have been changed or damaged behind the cache's back, so a block
is only served when its content still has the hash it is asked by; what
is not served is deleted. Writes are left to a background thread.
-/

namespace ASync

namespace Core

/-- The work submitted to the thread that writes the cache. -/
inductive WriterTask
  | touch (code : String)
  | write (code : String) (data : Bytes)
  deriving DecidableEq

/-- The directory, by the code of each entry: the bytes of a file, `none`
where reading it fails. A code is written in base16, so it is never a
path out of the directory. -/
structure FileBlockCache where
  dir : Table String (Option Bytes)
  writerThread : List WriterTask := []

namespace FileBlockCache

variable [Guava]

/-- `FileUtils.deleteQuietly`. The file of the empty code is the
directory, which goes with all it holds. -/
def deleteQuietly (cache : FileBlockCache) (code : String) : FileBlockCache :=
  if code = "" then { cache with dir := ∅ } else { cache with dir := cache.dir.delete code }

/-- The entry of a code. A directory exists and cannot be read. -/
def entry (cache : FileBlockCache) (code : String) : Option (Option Bytes) :=
  if code = "" then some none else cache.dir.find code

def pullFile (cache : FileBlockCache) (code : String) (shouldCheck : Bool) :
    Option Bytes × FileBlockCache :=
  match cache.entry code with
  | none => (none, cache)
  | some none => (none, cache.deleteQuietly code)
  | some (some data) =>
    if shouldCheck ∧ sha256Hex data ≠ code then
      (none, cache.deleteQuietly code)
    else
      (some data, { cache with writerThread := cache.writerThread ++ [.touch code] })

def pullBlock (cache : FileBlockCache) (code : String) : Option Bytes × FileBlockCache :=
  cache.pullFile code true

/-- A write is submitted, and taken for done. -/
def pushData (cache : FileBlockCache) (code : String) (data : Bytes) : Bool × FileBlockCache :=
  (true, { cache with writerThread := cache.writerThread ++ [.write code data] })

def pushBlock (cache : FileBlockCache) (data : Bytes) : Option String × FileBlockCache :=
  let code := sha256Hex data
  let (pushed, cache) := cache.pushData code data
  (if pushed then some code else none, cache)

/-- The bytes the directory can serve. -/
def contents (cache : FileBlockCache) : Set Bytes :=
  {data | ∃ code, cache.dir.find code = some (some data)}

variable {cache : FileBlockCache} {code : String} {data : Bytes}

omit [Guava] in
/-- Deleting an entry adds nothing. -/
theorem contents_deleteQuietly : (cache.deleteQuietly code).contents ⊆ cache.contents := by
  rintro data ⟨code', hfind⟩
  rw [deleteQuietly] at hfind
  split at hfind
  · cases (Table.find_empty code').symm.trans hfind
  · by_cases hcode : code' = code
    · rw [hcode] at hfind
      cases (Table.find_delete_self (k := code)).symm.trans hfind
    · exact ⟨code', (Table.find_delete_of_ne hcode).symm.trans hfind⟩

omit [Guava] in
theorem mem_contents_of_entry (h : cache.entry code = some (some data)) :
    data ∈ cache.contents := by
  rw [entry] at h
  split at h
  · cases h
  · exact ⟨code, h⟩

/-- **A served block has the hash it was asked by**, and is one of the
directory's files. -/
theorem pullBlock_eq_some (h : (cache.pullBlock code).1 = some data) :
    sha256Hex data = code ∧ data ∈ cache.contents := by
  rw [pullBlock, pullFile] at h
  split at h
  · cases h
  · cases h
  · next stored hentry =>
    split at h
    · cases h
    · next hcheck =>
      cases h
      have hcode : ¬ sha256Hex data ≠ code := fun hne => hcheck ⟨rfl, hne⟩
      exact ⟨not_not.1 hcode, mem_contents_of_entry hentry⟩

/-- Serving a block adds nothing to the directory. -/
theorem contents_pullBlock : (cache.pullBlock code).2.contents ⊆ cache.contents := by
  rw [pullBlock, pullFile]
  split
  · exact subset_rfl
  · exact contents_deleteQuietly
  · split
    · exact contents_deleteQuietly
    · exact subset_rfl

end FileBlockCache

/-- The cache in use: a directory, or none when it cannot be opened. -/
inductive BlockCache
  | file (cache : FileBlockCache)
  | dummy

namespace BlockCache

variable [Guava]

def pullBlock : BlockCache → String → Option Bytes × BlockCache
  | file cache, code => ((cache.pullBlock code).1, file (cache.pullBlock code).2)
  | dummy, _ => (none, dummy)

def pushBlock : BlockCache → Bytes → Option String × BlockCache
  | file cache, data => ((cache.pushBlock data).1, file (cache.pushBlock data).2)
  | dummy, _ => (none, dummy)

def contents : BlockCache → Set Bytes
  | file cache => cache.contents
  | dummy => ∅

variable {cache : BlockCache} {code : String} {data : Bytes}

theorem pullBlock_eq_some (h : (cache.pullBlock code).1 = some data) :
    sha256Hex data = code ∧ data ∈ cache.contents := by
  cases cache with
  | file cache => exact FileBlockCache.pullBlock_eq_some h
  | dummy => cases h

theorem contents_pullBlock : (cache.pullBlock code).2.contents ⊆ cache.contents := by
  cases cache with
  | file cache => exact FileBlockCache.contents_pullBlock
  | dummy => exact subset_rfl

end BlockCache

end Core

end ASync
