import ASync.Bep.Model.IndexHandler
/-!
# The source of a pushed file

`BlockPusher.DataSource` cuts a file into blocks as its stream is read
and reads a block back from a new stream when a peer requests it.
-/

namespace ASync

namespace Bep

open ASync.Core BlockExchageProtos Wire

/-- `BlockPusher.BLOCK_SIZE`. -/
def BLOCK_SIZE : ℕ := 128 * 1024

/-- A source of bytes. `reads` are the results of reading its stream into
a buffer of one block until the end: each gives some bytes, not
necessarily a full block. -/
structure DataSource where
  content : Bytes
  reads : List Bytes
  reads_flatten : reads.flatten = content
  reads_ne : ∀ block ∈ reads, block ≠ []
  length_reads_le : ∀ block ∈ reads, block.length ≤ BLOCK_SIZE

variable [Guava]

namespace DataSource

/-- One turn of the loop of `processStream`: the block read, at the
running offset. -/
def processBlock (acc : List BlockExchageProtos.BlockInfo × ℤ) (block : Bytes) :
    List BlockExchageProtos.BlockInfo × ℤ :=
  (acc.1 ++ [⟨acc.2, block.length, sha256 block⟩], acc.2 + block.length)

/-- The block list and the size of the file. -/
def processStream (source : DataSource) : List BlockExchageProtos.BlockInfo × ℤ :=
  source.reads.foldl processBlock ([], 0)

def getBlocks (source : DataSource) : List BlockExchageProtos.BlockInfo := source.processStream.1

def getSize (source : DataSource) : ℤ := source.processStream.2

/-- The hash of the file, by its block list. -/
def getHash (source : DataSource) : String :=
  BlockUtils.hashBlocks (source.getBlocks.map fun block =>
    ⟨block.offset, block.size, base16Encode block.hash⟩)

/-- `IOUtils.skipFully` on a stream. -/
def skipFully (offset : ℤ) (stream : Bytes) : Except JavaException Bytes :=
  if offset < 0 then
    .error (.illegalArgument ("Bytes to skip must not be negative: " ++ toString offset))
  else
    match readFully offset.toNat stream with
    | none => .error (.runtime "EOFException")
    | some (_, rest) => .ok rest

/-- A buffer of a size, read in full. -/
def readBlock (size : ℤ) (stream : Bytes) : Except JavaException Bytes :=
  match readFully size.toNat stream with
  | none => .error (.runtime "EOFException")
  | some (buffer, _) => .ok buffer

def getBlock (source : DataSource) (offset size : ℤ) (hash : String) :
    Except JavaException Bytes :=
  if size < 0 then .error .negativeArraySize
  else do
    let stream ← skipFully offset source.content
    let buffer ← readBlock size stream
    checkArgument (sha256Hex buffer = hash) "block hash mismatch!"
    return buffer

/-- The pusher's answer to a request, if the request is for its file. -/
def handleRequestMessageReceivedEvent (source : DataSource) (folder path : String)
    (request : Request) : Option Response :=
  if request.folder = folder ∧ request.name = path then
    match source.getBlock request.offset request.size (base16Encode request.hash) with
    | .ok data => some ⟨request.id, data, .NO_ERROR⟩
    | .error _ => some ⟨request.id, [], .GENERIC⟩
  else none

end DataSource

end Bep

end ASync
