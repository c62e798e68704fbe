import Mathlib
import ASync.Bep.Transfer
import ASync.Common.Base32
/-!
# The layout of a block list

The pusher makes a block of whatever one read of its stream gives, so the
block list follows the reads and not only the content. The blocks always
lie end to end; they have the size a peer expects exactly when every read
but the last fills its buffer (`Full`), and then the list is a function of
the content.
-/

namespace ASync

namespace Bep

open ASync.Core BlockExchageProtos Wire

/-- Blocks that lie end to end from one offset up to another. -/
def Tiles : ℤ → List BlockExchageProtos.BlockInfo → ℤ → Prop
  | offset, [], size => offset = size
  | offset, block :: blocks, size => block.offset = offset ∧ Tiles (offset + block.size) blocks size

/-- The layout of a file of a size: full blocks, then one of up to that
size, without gap or overlap. -/
structure Layout (size : ℤ) (blocks : List BlockExchageProtos.BlockInfo) : Prop where
  full : ∀ block ∈ blocks.dropLast, block.size = BLOCK_SIZE
  last : ∀ block ∈ blocks.getLast?, 1 ≤ block.size ∧ block.size ≤ BLOCK_SIZE
  tiles : Tiles 0 blocks size

section BlockLayout

namespace DataSource

/-- Every read but the last fills the buffer. -/
def Full (source : DataSource) : Prop :=
  ∀ block ∈ source.reads.dropLast, block.length = BLOCK_SIZE

/-- Full reads follow from the content alone. -/
theorem reads_eq_toChunks {source : DataSource} (h : source.Full) :
    source.reads = source.content.toChunks BLOCK_SIZE := by
  rw [← source.reads_flatten]
  refine (toChunks_flatten_of_full h ?_).symm
  intro block hblock
  exact ⟨source.reads_ne block hblock, source.length_reads_le block hblock⟩

variable [Guava] {source : DataSource} {offset : ℤ} {reads : List Bytes}

theorem map_size_blocksFrom (offset : ℤ) (reads : List Bytes) :
    (blocksFrom offset reads).map (·.size) = reads.map fun block => (block.length : ℤ) := by
  induction reads generalizing offset with
  | nil => rfl
  | cons block reads ih => rw [blocksFrom, List.map_cons, List.map_cons, ih]

/-- **The blocks lie end to end**, however the stream is read. -/
theorem tiles_blocksFrom (offset : ℤ) (reads : List Bytes) :
    Tiles offset (blocksFrom offset reads) (offset + reads.flatten.length) := by
  induction reads generalizing offset with
  | nil => exact (add_zero offset).symm
  | cons block reads ih =>
    refine ⟨rfl, ?_⟩
    have hrest := ih (offset + block.length)
    rw [List.flatten_cons, List.length_append]
    push_cast
    rwa [← add_assoc]

theorem getSize_eq : source.getSize = source.content.length := by
  rw [getSize, processStream, foldl_processBlock, zero_add, source.reads_flatten]

/-- All but the last block have the size of a block exactly when all but
the last read fill the buffer. -/
theorem full_iff : source.Full ↔ ∀ block ∈ source.getBlocks.dropLast, block.size = BLOCK_SIZE := by
  have hsizes : source.getBlocks.dropLast.map (·.size) =
      source.reads.dropLast.map fun block => (block.length : ℤ) := by
    rw [List.map_dropLast, getBlocks_eq, map_size_blocksFrom, List.map_dropLast]
  constructor
  · intro hfull block hblock
    have hsize : block.size ∈ source.reads.dropLast.map fun block => (block.length : ℤ) := by
      rw [← hsizes]
      exact List.mem_map_of_mem hblock
    obtain ⟨read, hread, hlength⟩ := List.mem_map.1 hsize
    rw [← hlength, hfull read hread]
  · intro hsize read hread
    have hlength : (read.length : ℤ) ∈ source.getBlocks.dropLast.map (·.size) := by
      rw [hsizes]
      exact List.mem_map_of_mem hread
    obtain ⟨block, hblock, heq⟩ := List.mem_map.1 hlength
    have hfull := hsize block hblock
    omega

/-- The last block is neither empty nor larger than a block. -/
theorem size_last (block : BlockExchageProtos.BlockInfo) (h : block ∈ source.getBlocks.getLast?) :
    1 ≤ block.size ∧ block.size ≤ BLOCK_SIZE := by
  have hmem : block ∈ blocksFrom 0 source.reads := by
    rw [← getBlocks_eq]
    exact List.mem_of_getLast? h
  obtain ⟨before, read, after, hreads, rfl⟩ := exists_of_mem_blocksFrom hmem
  have hread : read ∈ source.reads := by
    rw [hreads]
    exact List.mem_append_right _ List.mem_cons_self
  have hpos := List.length_pos_iff.2 (source.reads_ne read hread)
  have hle := source.length_reads_le read hread
  show 1 ≤ (read.length : ℤ) ∧ (read.length : ℤ) ≤ BLOCK_SIZE
  omega

/-- **The layout of a block list** is right exactly when the reads fill
their buffers. -/
theorem layout_iff : Layout source.getSize source.getBlocks ↔ source.Full := by
  constructor
  · intro h
    exact full_iff.2 h.full
  · intro h
    refine ⟨full_iff.1 h, size_last, ?_⟩
    have htiles := tiles_blocksFrom 0 source.reads
    rwa [← getBlocks_eq, zero_add, source.reads_flatten, ← getSize_eq] at htiles

/-- Full reads of one content give one block list. -/
theorem getBlocks_eq_of_full {d₁ d₂ : DataSource} (hcontent : d₁.content = d₂.content)
    (h₁ : d₁.Full) (h₂ : d₂.Full) : d₁.getBlocks = d₂.getBlocks := by
  rw [getBlocks_eq, getBlocks_eq, reads_eq_toChunks h₁, reads_eq_toChunks h₂, hcontent]

/-- **When the block list is a function of the content.** Two sources of
the same bytes have one list of the right layout, and one hash, exactly
when every read of either but the last fills the buffer. -/
theorem getBlocks_eq_iff (d₁ d₂ : DataSource) (hcontent : d₁.content = d₂.content) :
    (d₁.getBlocks = d₂.getBlocks ∧ d₁.getHash = d₂.getHash ∧
        Layout d₁.getSize d₁.getBlocks ∧ Layout d₂.getSize d₂.getBlocks) ↔
      d₁.Full ∧ d₂.Full := by
  constructor
  · rintro ⟨_, _, hlayout₁, hlayout₂⟩
    exact ⟨layout_iff.1 hlayout₁, layout_iff.1 hlayout₂⟩
  · rintro ⟨h₁, h₂⟩
    have hblocks := getBlocks_eq_of_full hcontent h₁ h₂
    refine ⟨hblocks, ?_, layout_iff.2 h₁, layout_iff.2 h₂⟩
    rw [getHash, getHash, hblocks]

end DataSource

end BlockLayout

section Sample

attribute [local instance] Sample.guavaOfBlocks

/-- The file `ab`, read at once. -/
def wholeSource : DataSource where
  content := [0x61, 0x62]
  reads := [[0x61, 0x62]]
  reads_flatten := rfl
  reads_ne := by decide
  length_reads_le := by decide

theorem zeros_ne {n : ℕ} (hn : 0 < n) : List.replicate n (0 : UInt8) ≠ [] :=
  List.ne_nil_of_length_pos (by rwa [List.length_replicate])

theorem length_zeros_le {n : ℕ} (hn : n ≤ BLOCK_SIZE) :
    (List.replicate n (0 : UInt8)).length ≤ BLOCK_SIZE := by rwa [List.length_replicate]

/-- A block of zeros and one more byte, read a buffer at a time. -/
def twoBlockSource : DataSource where
  content := List.replicate BLOCK_SIZE 0 ++ [1]
  reads := [List.replicate BLOCK_SIZE 0, [1]]
  reads_flatten := rfl
  reads_ne := List.forall_mem_cons.2 ⟨zeros_ne (by decide), by decide⟩
  length_reads_le := List.forall_mem_cons.2 ⟨length_zeros_le (le_refl _), by decide⟩

/-- The same bytes, where the first read gives half a buffer. -/
def halfReadSource : DataSource where
  content := List.replicate BLOCK_SIZE 0 ++ [1]
  reads := [List.replicate (BLOCK_SIZE / 2) 0, List.replicate (BLOCK_SIZE / 2) 0, [1]]
  reads_flatten := by
    rw [List.flatten_cons, List.flatten_cons, ← List.append_assoc, List.replicate_append_replicate]
    rfl
  reads_ne := List.forall_mem_cons.2
    ⟨zeros_ne (by decide), List.forall_mem_cons.2 ⟨zeros_ne (by decide), by decide⟩⟩
  length_reads_le := List.forall_mem_cons.2
    ⟨length_zeros_le (by decide), List.forall_mem_cons.2 ⟨length_zeros_le (by decide), by decide⟩⟩

theorem full_twoBlockSource : twoBlockSource.Full := by
  intro block hblock
  rw [List.mem_singleton.1 (show block ∈ [List.replicate BLOCK_SIZE 0] from hblock),
    List.length_replicate]

theorem not_full_halfReadSource : ¬ halfReadSource.Full := by
  intro hfull
  have hfirst := hfull (List.replicate (BLOCK_SIZE / 2) 0) List.mem_cons_self
  rw [List.length_replicate] at hfirst
  exact absurd hfirst (by decide)

/-- A file of two blocks read in full has a list of the right layout; and
two sources of it, one of which gives a short read, do not agree on such a
list. -/
theorem getBlocks_eq_iff_sample :
    Layout twoBlockSource.getSize twoBlockSource.getBlocks ∧
      ¬ (twoBlockSource.getBlocks = halfReadSource.getBlocks ∧
        twoBlockSource.getHash = halfReadSource.getHash ∧
        Layout twoBlockSource.getSize twoBlockSource.getBlocks ∧
        Layout halfReadSource.getSize halfReadSource.getBlocks) := by
  have hself := (DataSource.getBlocks_eq_iff twoBlockSource twoBlockSource rfl).2
    ⟨full_twoBlockSource, full_twoBlockSource⟩
  refine ⟨hself.2.2.1, fun hboth => ?_⟩
  exact not_full_halfReadSource
    ((DataSource.getBlocks_eq_iff twoBlockSource halfReadSource rfl).1 hboth).2

/-- The same file read at once and one byte at a time has two block lists
and two hashes. -/
theorem short_reads_differ : wholeSource.content = sampleSource.content ∧
    wholeSource.getBlocks ≠ sampleSource.getBlocks ∧
    wholeSource.getHash ≠ sampleSource.getHash := by
  decide +kernel

end Sample

end Bep

end ASync
