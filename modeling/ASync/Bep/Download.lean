import ASync.Bep.Helpers.BlockPuller
import ASync.Core.Helpers.Sample
/-!
# What a download may contain

Whatever the peer answers and whatever lies in the cache, a stream that
`getInputStream` returns has one array for each block of the list, in the
order of the list, and each array has its block's hash. A peer can keep a
download from completing; it cannot complete it with something else.
-/

namespace ASync

namespace Bep

open ASync.Core BlockExchageProtos Effect

namespace BlockPuller

section Download

variable [Guava] {fileBlocks : FileBlocks} {blocks : List Core.BlockInfo} {D : Set Bytes}
variable {p p' : BlockPuller} {iteration : Iteration} {random : ℕ → ℤ} {stream : Bytes}
variable {blockCache : BlockCache} {connectionHandler : Connection} {messages : List Response}

/-- The states another thread can find a puller in once it has received
`messages`: after the last of them, or while the next one is handled. -/
inductive Observable (p : BlockPuller) (messages : List Response) : BlockPuller → Prop
  | idle : Observable p messages (messages.foldl handleResponseMessageReceivedEvent p)
  | busy (message : Response) : Observable p messages
      ((messages.foldl handleResponseMessageReceivedEvent p).takeResponse message).1

/-- The invariant survives any list of responses. -/
theorem Download.foldl (h : Download blocks Set.univ p) (messages : List Response) :
    Download blocks Set.univ (messages.foldl handleResponseMessageReceivedEvent p) := by
  induction messages generalizing p with
  | nil => exact h
  | cons message messages ih =>
    rw [List.foldl_cons]
    exact ih (h.handleResponse fun _ => Set.mem_univ _)

/-- And so it holds wherever it is looked at. -/
theorem Download.observable (h : Download blocks Set.univ p) (hp' : Observable p messages p') :
    Download blocks Set.univ p' := by
  cases hp' with
  | idle => exact Download.foldl h messages
  | busy message => exact (Download.foldl h messages).takeResponse

/-- The arrays read for a list of hashes have these hashes. -/
theorem Download.mapM_forMap (h : Download blocks D p) {hashes : List String} {datas : List Bytes}
    (hmap : hashes.mapM p.forMap = .ok datas) :
    datas.map sha256Hex = hashes ∧ ∀ data ∈ datas, data ∈ D := by
  induction hashes generalizing datas with
  | nil =>
    cases hmap
    exact ⟨rfl, fun _ hmem => (by cases hmem)⟩
  | cons hash hashes ih =>
    rw [List.mapM_cons] at hmap
    obtain ⟨data, hdata, hmap⟩ := except_bind_eq_ok hmap
    obtain ⟨others, hothers, hmap⟩ := except_bind_eq_ok hmap
    cases hmap
    obtain ⟨hhashes, hmem⟩ := ih hothers
    have hfind : p.blocksByHash.find hash = some data := by
      rw [forMap] at hdata
      split at hdata
      · next block hblock =>
        cases hdata
        exact hblock
      · cases hdata
    obtain ⟨hhash, hD⟩ := h.found hfind
    refine ⟨by rw [List.map_cons, hhash, hhashes], ?_⟩
    intro other hother
    rcases List.mem_cons.1 hother with rfl | hother
    · exact hD
    · exact hmem other hother

/-- What a stream is made of. -/
theorem Download.getInputStream (h : Download blocks D p)
    (hstream : p.getInputStream = .ok stream) : ∃ datas : List Bytes, stream = datas.flatten ∧
      datas.map sha256Hex = blocks.map (·.hash) ∧ ∀ data ∈ datas, data ∈ D := by
  obtain ⟨_, hmap⟩ := checkArgument_bind_eq_ok.1 hstream
  obtain ⟨datas, hdatas, hpure⟩ := except_bind_eq_ok hmap
  cases hpure
  obtain ⟨hhashes, hmem⟩ := h.mapM_forMap hdatas
  exact ⟨datas, rfl, hhashes.trans h.hashList_eq, hmem⟩

/-- **A download is what its block list says.** For every cache, every
list of responses and every moment the stream is asked for: if there is a
stream, it is the concatenation of one array a block, in order, and each
array has the hash of its block. -/
theorem getInputStream_matches_blocks
    (hpull : (pullBlocks iteration random fileBlocks).run (fresh blockCache connectionHandler) =
      .ok () p)
    (hp' : Observable p messages p') (hstream : p'.getInputStream = .ok stream) :
    ∃ datas : List Bytes, stream = datas.flatten ∧
      datas.map sha256Hex = fileBlocks.blocks.map (·.hash) := by
  have hpulled := pullBlocks_eq_ok (Set.subset_univ _) hpull
  obtain ⟨datas, hflat, hhashes, _⟩ :=
    (Download.observable hpulled.toDownload hp').getInputStream hstream
  exact ⟨datas, hflat, hhashes⟩

end Download

section Sample

attribute [local instance] Sample.guavaOfLetters

/-- The puller of the sample list on the damaged cache. -/
def samplePuller : BlockPuller :=
  after (pullBlocks Sample.iteration (fun n => n) Sample.blocks)
    (fresh Sample.damagedCache Sample.connection)

/-- A wrong answer, then the two blocks in the wrong order, one twice. -/
def sampleMessages : List Response :=
  [⟨0, [], .NO_ERROR⟩, ⟨1, [0x62], .NO_ERROR⟩, ⟨7, [0x61], .NO_ERROR⟩, ⟨1, [0x61], .NO_ERROR⟩,
    ⟨1, [0x62], .NO_ERROR⟩, ⟨0, [], .GENERIC⟩]

theorem run_samplePuller : (pullBlocks Sample.iteration (fun n => n) Sample.blocks).run
    (fresh Sample.damagedCache Sample.connection) = .ok () samplePuller :=
  run_eq_ok_after (by decide +kernel)

theorem getInputStream_matches_blocks_sample : ∃ datas : List Bytes,
    [0x61, 0x62] = datas.flatten ∧ datas.map sha256Hex = Sample.blocks.blocks.map (·.hash) :=
  getInputStream_matches_blocks run_samplePuller (.idle : Observable samplePuller sampleMessages _)
    (by decide +kernel)

end Sample

end BlockPuller

end Bep

end ASync
