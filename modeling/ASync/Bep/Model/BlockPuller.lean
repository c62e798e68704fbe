import ASync.Core.Model.Beans
import ASync.Core.Model.FileBlockCache
import ASync.Bep.Model.Protos
/-!
# Pulling a file

`BlockPuller` asks a peer for the blocks of a file it does not find in
its cache and files the answers by their hash. An answer is kept when its
hash is still missing; the stream returned at the end reads the blocks in
the order of the block list.
-/

namespace ASync

namespace Bep

open ASync.Core

namespace BlockExchageProtos

/-- The name of an error code. -/
def ErrorCode.name : ErrorCode → String
  | .NO_ERROR => "NO_ERROR"
  | .GENERIC => "GENERIC"
  | .NO_SUCH_FILE => "NO_SUCH_FILE"
  | .INVALID_FILE => "INVALID_FILE"

end BlockExchageProtos

open BlockExchageProtos

/-- The connection a puller sends on: how it is written, the folders
shared with the peer, and the number of requests after which it is found
closed, if it is. -/
structure Connection where
  text : String
  folders : Finset String
  closesAfter : Option ℕ

/-- The order in which a concurrent set is iterated. -/
structure Iteration where
  order : Finset String → List String
  mem_order : ∀ {s : Finset String} {x : String}, x ∈ order s ↔ x ∈ s
  nodup_order : ∀ s : Finset String, (order s).Nodup

structure BlockPuller where
  blockCache : BlockCache
  connectionHandler : Connection
  blocksByHash : Table String Bytes := ∅
  hashList : List String := []
  missingHashes : Finset String := ∅
  requestIds : Finset ℤ := ∅
  /-- Whether the response listener is registered. -/
  listening : Bool := false
  /-- What the response listener failed with last. -/
  error : Option JavaException := none
  /-- The requests handed to the connection. -/
  sent : List Request := []

/-- Code that runs on a puller. -/
abbrev PullerM := EStateM JavaException BlockPuller

variable [Guava]

/-- `Math.abs` of an `int`. -/
def mathAbs (x : ℤ) : ℤ := if x = -2 ^ 31 then x else |x|

namespace BlockPuller

/-! ## Requesting -/

/-- Takes a missing block from the cache if it is there. -/
def pullCached (hash : String) : PullerM Unit := do
  let p ← get
  match p.blockCache.pullBlock hash with
  | (some block, blockCache) =>
    set { p with
      blockCache
      blocksByHash := p.blocksByHash.merge hash block
      missingHashes := p.missingHashes.erase hash }
  | (none, blockCache) => set { p with blockCache }

/-- `sendMessage`, which refuses to work on a closed connection. -/
def sendMessage (request : Request) : PullerM Unit := do
  let p ← get
  if p.connectionHandler.closesAfter = some p.sent.length then
    throw (.illegalArgument ("connection " ++ p.connectionHandler.text ++ " closed"))
  else
    set { p with sent := p.sent ++ [request] }

/-- The request for a block under an id. -/
def requestOf (fileBlocks : FileBlocks) (block : Core.BlockInfo) (id : ℤ) (hash : Bytes) :
    Request where
  id := id
  folder := fileBlocks.folder
  name := fileBlocks.path
  offset := block.offset
  size := block.size
  hash := hash

/-- Asks for a block that is still missing, under a random id. -/
def requestBlock (random : ℕ → ℤ) (fileBlocks : FileBlocks) (block : Core.BlockInfo) :
    PullerM Unit := do
  let p ← get
  if block.hash ∈ p.missingHashes then
    let requestId := mathAbs (random p.sent.length)
    set { p with requestIds := insert requestId p.requestIds }
    match base16Decode block.hash with
    | none => throw (.illegalArgument "DecodingException")
    | some hash => sendMessage (requestOf fileBlocks block requestId hash)
  else
    pure ()

/-- `close`, which also stops listening. -/
def close : PullerM Unit := modify fun p =>
  { p with missingHashes := ∅, hashList := [], blocksByHash := ∅, listening := false }

/-- The body of `pullBlocks`: the cache first, then a request for every
block of the list whose hash it did not have. -/
def startPull (iteration : Iteration) (random : ℕ → ℤ) (fileBlocks : FileBlocks) :
    PullerM Unit := do
  modify fun p => { p with hashList := p.hashList ++ fileBlocks.blocks.map (·.hash) }
  modify fun p => { p with missingHashes := p.missingHashes ∪ p.hashList.toFinset }
  forM (iteration.order (← get).missingHashes) pullCached
  modify fun p => { p with listening := true }
  forM fileBlocks.blocks (requestBlock random fileBlocks)

def pullBlocks (iteration : Iteration) (random : ℕ → ℤ) (fileBlocks : FileBlocks) :
    PullerM Unit := do
  let connectionHandler := (← get).connectionHandler
  if fileBlocks.folder ∈ connectionHandler.folders then
    tryCatch (startPull iteration random fileBlocks) fun ex => do
      close
      throw ex
  else
    throw (.illegalArgument ("supplied connection handler " ++ connectionHandler.text ++
      " will not share folder " ++ fileBlocks.folder))

/-! ## Receiving -/

/-- The first half of the handler of a response: an answer whose hash is
missing is no longer missing, and is about to be stored. -/
def takeResponse (p : BlockPuller) (message : Response) : BlockPuller × Option (String × Bytes) :=
  if p.listening = false ∨ message.id ∉ p.requestIds then (p, none)
  else
    match checkArgument (message.code = .NO_ERROR)
        ("received error response, code = " ++ message.code.name) with
    | .error ex => ({ p with error := some ex }, none)
    | .ok _ =>
      let hash := sha256Hex message.data
      let p := { p with blockCache := (p.blockCache.pushBlock message.data).2 }
      if hash ∈ p.missingHashes then
        ({ p with missingHashes := p.missingHashes.erase hash }, some (hash, message.data))
      else (p, none)

/-- The second half: `blocksByHash.put`. -/
def storeBlock (p : BlockPuller) : Option (String × Bytes) → BlockPuller
  | none => p
  | some (hash, data) => { p with blocksByHash := p.blocksByHash.merge hash data }

def handleResponseMessageReceivedEvent (p : BlockPuller) (message : Response) : BlockPuller :=
  (p.takeResponse message).1.storeBlock (p.takeResponse message).2

def isCompleted (p : BlockPuller) : Bool := p.missingHashes = ∅

/-- `Functions.forMap`, which refuses a key that is not there. -/
def forMap (p : BlockPuller) (hash : String) : Except JavaException Bytes :=
  match p.blocksByHash.find hash with
  | some block => .ok block
  | none => .error (.illegalArgument ("Key '" ++ hash ++ "' not present in map"))

/-- The bytes of the stream, which reads one array after the other. -/
def getInputStream (p : BlockPuller) : Except JavaException Bytes := do
  checkArgument p.isCompleted "pull failed, some blocks are still missing"
  let blockList ← p.hashList.mapM p.forMap
  return blockList.flatten

end BlockPuller

end Bep

end ASync
