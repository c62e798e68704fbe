import ASync.Common.Run
import ASync.Common.Sorting
import ASync.Core.Model.FileBlockCache
/-!
# Block caches on one directory

Every puller has a `FileBlockCache` of its own, and all of them are on the
configured directory and share the thread that writes. Each keeps an
estimate of the directory's size, and clears the directory out when the
estimate is over the limit.
-/

namespace ASync

namespace Core

/-- A file of the directory. A directory in it is one that cannot be read
and is as long as all it holds. -/
structure CacheFile where
  /-- What reading it gives, `none` where reading fails. -/
  data : Option Bytes
  length : ℤ
  lastModified : ℤ
  length_eq : ∀ bytes ∈ data, (bytes.length : ℤ) = length
  length_nonneg : 0 ≤ length

/-- The submitted work. A write is for one of the caches. -/
inductive DirectoryTask
  | touch (code : String)
  | write (cache : ℕ) (code : String) (data : Bytes)
  | clear

/-- The directory, the estimate of each cache, and the thread that writes. -/
structure BlockCaches where
  files : Table String CacheFile
  sizes : List ℤ := []
  writerThread : List DirectoryTask := []

namespace CacheFile

/-- A file as it is written. -/
def of (data : Bytes) (now : ℤ) : CacheFile where
  data := some data
  length := data.length
  lastModified := now
  length_eq _ h := congrArg (fun bytes : Bytes => (bytes.length : ℤ)) (Option.some.inj h).symm
  length_nonneg := Int.natCast_nonneg _

/-- `FileUtils.touch`, which makes an empty file where there is none. -/
def touched (file : Option CacheFile) (now : ℤ) : CacheFile :=
  match file with
  | some file => { file with lastModified := now }
  | none => of [] now

end CacheFile

namespace BlockCaches

def MAX_SIZE : ℤ := 50 * 1024 * 1024

def sizeOfDirectory (files : Table String CacheFile) : ℤ := files.sum fun _ file => file.length

/-- The code is the plain name of a file in the directory, as a hash in
base16 is. -/
def IsFileName (code : String) : Prop := ('/' ∉ code.toList ∧ '\\' ∉ code.toList) ∧
    code ≠ "." ∧ code ≠ ".."

/-- What `dir.listFiles()` may give. -/
structure Lists (files : Table String CacheFile) (listing : List String) : Prop where
  nodup : listing.Nodup
  mem_iff : ∀ code, code ∈ listing ↔ (files.find code).isSome = true

/-- The files a cleanup deletes: half of them by number, rounded down, and
those that were modified first. -/
def oldest (files : Table String CacheFile) (listing : List String) : List String :=
  (Comparator.sort (Comparator.on compare fun code =>
    (files.find code).elim 0 CacheFile.lastModified)
    listing).take (listing.length / 2)

/-- The directory and the estimate after `runCleanup`. -/
def runCleanup (files : Table String CacheFile) (listing : List String) (size : ℤ) :
    Table String CacheFile × ℤ :=
  if size > MAX_SIZE then
    let files := files.deleteAll (oldest files listing)
    (files, sizeOfDirectory files)
  else (files, size)

/-- The constructor. -/
def newFileBlockCache (s : BlockCaches) (listing : List String) : BlockCaches :=
  let (files, size) := runCleanup s.files listing (sizeOfDirectory s.files)
  { s with files, sizes := s.sizes ++ [size] }

/-- The entry of a code; that of the empty code is the directory. -/
def entry (s : BlockCaches) (code : String) : Option (Option Bytes) :=
  if code = "" then some none else (s.files.find code).map CacheFile.data

def deleteQuietly (s : BlockCaches) (code : String) : BlockCaches :=
  if code = "" then { s with files := ∅ } else { s with files := s.files.delete code }

def submit (s : BlockCaches) (task : DirectoryTask) : BlockCaches :=
  { s with writerThread := s.writerThread ++ [task] }

variable [Guava]

def pullFile (s : BlockCaches) (code : String) (shouldCheck : Bool) : Option Bytes × BlockCaches :=
  match s.entry code with
  | none => (none, s)
  | some none => (none, s.deleteQuietly code)
  | some (some data) =>
    if shouldCheck ∧ sha256Hex data ≠ code then (none, s.deleteQuietly code)
    else (some data, s.submit (.touch code))

/-- The file of a block is written. -/
def written (s : BlockCaches) (code : String) (data : Bytes) (now : ℤ) : BlockCaches :=
  { s with files := s.files.merge code (.of data now) }

/-- The task of `pushData`; a write that fails leaves no file. -/
def writeTask (s : BlockCaches) (cache : ℕ) (code : String) (data : Bytes) (fails : Bool) (now : ℤ)
    (listing : List String) : BlockCaches :=
  if (s.entry code).isNone then
    if fails then s.deleteQuietly code
    else
      let s := s.written code data now
      let size := s.sizes.getD cache 0 + data.length
      let (files, size) := runCleanup s.files listing size
      { s with files, sizes := s.sizes.set cache size }
  else s

def runTask (s : BlockCaches) (fails : Bool) (now : ℤ) (listing : List String) :
    DirectoryTask → BlockCaches
  | .touch code =>
    if fails then s else { s with files := s.files.merge code (.touched (s.files.find code) now) }
  | .write cache code data => s.writeTask cache code data fails now listing
  -- the estimates stay as they are
  | .clear => { s with files := ∅ }

end BlockCaches

/-- What the caches' users and the thread do. -/
inductive BlockCacheEvent
  | construct (listing : List String)
  /-- `pullBlock`, and `pullData`, which does not check. -/
  | pull (cache : ℕ) (code : String) (shouldCheck : Bool)
  /-- `pushData`; `pushBlock` pushes data under its hash. -/
  | push (cache : ℕ) (code : String) (data : Bytes)
  | clear (cache : ℕ)
  /-- The thread runs its next task. -/
  | runTask (fails : Bool) (now : ℤ) (listing : List String)

open BlockCaches in
/-- The caches on a directory. What it holds before the first of them is
constructed may be anything; the codes they are asked for are plain file
names. -/
def blockCaching [Guava] : Machine BlockCaches BlockCacheEvent where
  start s := s.sizes = [] ∧ s.writerThread = []
  step s e s' :=
    match e with
    | .construct listing => Lists s.files listing ∧ s' = s.newFileBlockCache listing
    | .pull cache code shouldCheck => cache < s.sizes.length ∧ IsFileName code ∧
        s' = (s.pullFile code shouldCheck).2
    | .push cache code data => cache < s.sizes.length ∧ IsFileName code ∧
        s' = s.submit (.write cache code data)
    | .clear cache => cache < s.sizes.length ∧ s' = s.submit .clear
    | .runTask fails now listing => ∃ task queue, s.writerThread = task :: queue ∧
        (∀ cache code data, task = .write cache code data → s.entry code = none →
          Lists (s.written code data now).files listing) ∧
        s' = ({ s with writerThread := queue } : BlockCaches).runTask fails now listing task

end Core

end ASync
