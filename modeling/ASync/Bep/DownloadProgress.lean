import ASync.Bep.FileDownload
import ASync.Bep.Model.DownloadProgress
/-!
# How exact the progress of a download is

Every hash of the block list is found or missing, so the two counts always
add up to the number of distinct blocks. Scaled by the block size in 32
bits they are exact for a file of less than two gibibytes, and for no
larger one (`exactProgress_iff`): there the total is negative or too
small from the start.
-/

namespace ASync

namespace Integer

/-! ## 32-bit arithmetic -/

/-- A number is kept by 32 bits exactly where it is below 2³¹. -/
theorem wrap_eq_iff {n : ℕ} : wrap n = n ↔ n < 2 ^ 31 := by
  unfold wrap
  constructor
  · intro h
    have hlt := Int.bmod_lt (x := (n : ℤ)) (m := 2 ^ 32) (by norm_num)
    omega
  · intro h
    refine Int.bmod_eq_of_le_mul_two ?_ ?_
    · push_cast
      omega
    · push_cast
      omega

/-- Wrapping on the way to a product makes no difference. -/
theorem wrap_wrap_mul (x y : ℤ) : wrap (wrap x * y) = wrap (x * y) := Int.bmod_mul_bmod

/-- Wrapping on the way to a sum makes no difference. -/
theorem wrap_wrap_add_wrap (x y : ℤ) : wrap (wrap x + wrap y) = wrap (x + y) := by
  unfold wrap
  rw [Int.bmod_add_bmod, Int.add_bmod_bmod]

end Integer

namespace Bep

open ASync.Core BlockExchageProtos Effect

namespace BlockPuller

section Progress

variable [Guava] {fileBlocks : FileBlocks} {p : BlockPuller} {iteration : Iteration}
variable {random : ℕ → ℤ} {blockCache : BlockCache} {connectionHandler : Connection}
variable {hashes : Finset String} {messages : List Response} {message : Response}

/-! ## What is found and what is missing -/

/-- The distinct blocks of a list, by their hashes. -/
def distinct (fileBlocks : FileBlocks) : Finset String := (fileBlocks.blocks.map (·.hash)).toFinset

/-- Each of some hashes is found or missing, and no other hash is either. -/
structure Split (hashes : Finset String) (p : BlockPuller) : Prop where
  missing_subset : p.missingHashes ⊆ hashes
  keys_eq : p.blocksByHash.keys = hashes \ p.missingHashes

omit [Guava] in
/-- The keys of a table are where it has something. -/
theorem mem_keys {table : Table String Bytes} {hash : String} :
    hash ∈ table.keys ↔ (table.find hash).isSome = true := by
  rw [Finmap.mem_keys, ← Finmap.lookup_isSome]
  rfl

omit [Guava] in
/-- What is found and what is missing make up all the hashes. -/
theorem Split.card (h : p.Split hashes) :
    p.blocksByHash.keys.card + p.missingHashes.card = hashes.card := by
  rw [h.keys_eq]
  exact Finset.card_sdiff_add_card_eq_card h.missing_subset

omit [Guava] in
/-- Taking a missing hash away and putting its block keeps the split. -/
theorem Split.store {q : BlockPuller} {hash : String} {data : Bytes} (h : p.Split hashes)
    (hhash : hash ∈ hashes) (hmiss : q.missingHashes = p.missingHashes.erase hash)
    (hblocks : q.blocksByHash = p.blocksByHash.merge hash data) : q.Split hashes := by
  constructor
  · rw [hmiss]
    exact (Finset.erase_subset _ _).trans h.missing_subset
  · ext other
    have hold : other ∈ p.blocksByHash.keys ↔ other ∈ hashes \ p.missingHashes := by rw [h.keys_eq]
    rw [mem_keys, Finset.mem_sdiff] at hold
    rw [mem_keys, hblocks, Table.find_merge, Finset.mem_sdiff, hmiss, Finset.mem_erase]
    by_cases heq : other = hash
    · rw [if_pos heq]
      exact iff_of_true rfl ⟨heq ▸ hhash, fun hboth => hboth.1 heq⟩
    · rw [if_neg heq, hold]
      refine and_congr_right fun _ => not_congr ?_
      exact (and_iff_right heq).symm

/-- A response keeps the split. -/
theorem Split.handleResponse (h : p.Split hashes) (message : Response) :
    (p.handleResponseMessageReceivedEvent message).Split hashes := by
  rw [handleResponse_eq]
  rcases p.takeResponse_cases message with ⟨-, hmissing, cache, heq⟩ | ⟨-, cache, error, heq⟩
  · rw [heq]
    exact h.store (h.missing_subset hmissing) rfl rfl
  · rw [heq]
    exact ⟨h.missing_subset, h.keys_eq⟩

/-- Any responses keep the split. -/
theorem Split.foldl (h : p.Split hashes) (messages : List Response) :
    (messages.foldl handleResponseMessageReceivedEvent p).Split hashes := by
  induction messages generalizing p with
  | nil => exact h
  | cons message messages ih => exact ih (h.handleResponse message)

/-- Looking into the cache keeps the split. -/
theorem Split.lookedUp {hash : String} (h : p.Split hashes) (hhash : hash ∈ hashes) :
    (p.lookedUp hash).Split hashes := by
  unfold BlockPuller.lookedUp
  split
  · exact h.store hhash rfl rfl
  · exact ⟨h.missing_subset, h.keys_eq⟩

omit [Guava] in
/-- A block list is missing as a whole before the cache is looked at. -/
theorem split_asking : ((fresh blockCache connectionHandler).asking fileBlocks).Split
    (distinct fileBlocks) := by
  have hmissing : ((fresh blockCache connectionHandler).asking fileBlocks).missingHashes =
      distinct fileBlocks := Finset.empty_union _
  refine ⟨hmissing.le, ?_⟩
  rw [hmissing, Finset.sdiff_self]
  rfl

/-- **`pullBlocks` returns with every distinct block found or missing.** -/
theorem split_of_pullBlocks
    (h : (pullBlocks iteration random fileBlocks).run
      (fresh blockCache connectionHandler) = .ok () p) :
    p.Split (distinct fileBlocks) := by
  have hasking : ((fresh blockCache connectionHandler).asking fileBlocks).Split
      (distinct fileBlocks) :=
    split_asking
  refine pullBlocks_induction (J := Split (distinct fileBlocks))
    (I := fun _ q => q.Split (distinct fileBlocks))
    h hasking (fun hash hmem q hq => hq.lookedUp (hasking.missing_subset hmem)) ?_ ?_
  · intro q hq
    exact ⟨hq.missing_subset, hq.keys_eq⟩
  · intro done block q q' _ hq hrun
    rcases requestBlock_eq_ok hrun with ⟨-, rfl⟩ | ⟨id, bytes, -, rfl⟩
    · exact hq
    · exact ⟨hq.missing_subset, hq.keys_eq⟩

/-! ## The two numbers -/

omit [Guava] in
/-- The total is the data of all the blocks, in 32 bits. -/
theorem Split.getTotalData_eq (h : p.Split hashes) :
    p.getTotalData = Integer.wrap ((hashes.card * BLOCK_SIZE : ℕ)) := by
  unfold getTotalData
  rw [Integer.wrap_wrap_add_wrap, Integer.wrap_wrap_mul, ← Nat.cast_add, h.card, ← Nat.cast_mul]

omit [Guava] in
/-- What is received is the data of the blocks found, in 32 bits. -/
theorem Split.getReceivedData_eq (h : p.Split hashes) :
    p.getReceivedData = Integer.wrap (((hashes \ p.missingHashes).card * BLOCK_SIZE : ℕ)) := by
  unfold getReceivedData
  rw [Integer.wrap_wrap_mul, h.keys_eq, ← Nat.cast_mul]

omit [Guava] in
/-- A download is open while a hash is missing. -/
theorem isCompleted_eq_false : p.isCompleted = false ↔ p.missingHashes.Nonempty := by
  unfold isCompleted
  rw [decide_eq_false_iff_not, Finset.nonempty_iff_ne_empty]

/-- What the observer of a download of some distinct blocks should say:
the data received and the data in all as they are, a fraction of them, and
no smaller fraction after the next response. -/
structure ExactProgress (hashes : Finset String) (p : BlockPuller) : Prop where
  received_eq : p.getReceivedData = BLOCK_SIZE * (hashes \ p.missingHashes).card
  total_eq : p.getTotalData = BLOCK_SIZE * hashes.card
  received_nonneg : 0 ≤ p.getReceivedData
  received_le : p.getReceivedData ≤ p.getTotalData
  total_pos : p.isCompleted = false → 0 < p.getTotalData
  progress_nonneg : 0 ≤ p.getProgress
  progress_le_one : p.getProgress ≤ 1
  progress_mono :
    ∀ message, p.getProgress ≤ (p.handleResponseMessageReceivedEvent message).getProgress

omit [Guava] in
/-- No more is found than there is. -/
theorem received_le : (hashes \ p.missingHashes).card ≤ hashes.card :=
  Finset.card_le_card Finset.sdiff_subset

omit [Guava] in
/-- A block is not empty. -/
theorem blockSize_pos : (0 : ℤ) < BLOCK_SIZE := by
  unfold BLOCK_SIZE
  norm_num

omit [Guava] in
/-- A number of blocks whose data fits is exact. -/
theorem wrap_scaled {n : ℕ} (h : n * BLOCK_SIZE < 2 ^ 31) :
    Integer.wrap ((n * BLOCK_SIZE : ℕ)) = BLOCK_SIZE * n := by
  rw [Integer.wrap_eq_iff.2 h, Nat.cast_mul, mul_comm]

omit [Guava] in
/-- What is received is exact where the total fits. -/
theorem Split.getReceivedData_of_lt (h : p.Split hashes) (hlt : hashes.card * BLOCK_SIZE < 2 ^ 31) :
    p.getReceivedData = BLOCK_SIZE * (hashes \ p.missingHashes).card := by
  have hle : (hashes \ p.missingHashes).card * BLOCK_SIZE ≤ hashes.card * BLOCK_SIZE :=
    Nat.mul_le_mul_right _ received_le
  rw [h.getReceivedData_eq]
  exact wrap_scaled (by omega)

omit [Guava] in
/-- The total is exact where it fits. -/
theorem Split.getTotalData_of_lt (h : p.Split hashes) (hlt : hashes.card * BLOCK_SIZE < 2 ^ 31) :
    p.getTotalData = BLOCK_SIZE * hashes.card := by
  rw [h.getTotalData_eq]
  exact wrap_scaled hlt

/-- No hash becomes missing again. -/
theorem missingHashes_handleResponse (p : BlockPuller) (message : Response) :
    (p.handleResponseMessageReceivedEvent message).missingHashes ⊆ p.missingHashes := by
  rw [handleResponse_eq]
  rcases p.takeResponse_cases message with ⟨-, -, cache, heq⟩ | ⟨-, cache, error, heq⟩
  · rw [heq]
    exact Finset.erase_subset _ _
  · rw [heq]
    exact subset_rfl

omit [Guava] in
/-- The progress is then a fraction. -/
theorem Split.progress_mem (h : p.Split hashes) (hlt : hashes.card * BLOCK_SIZE < 2 ^ 31) :
    0 ≤ p.getProgress ∧ p.getProgress ≤ 1 := by
  have hreceived : (hashes \ p.missingHashes).card ≤ hashes.card := received_le
  unfold getProgress
  split
  · exact ⟨zero_le_one, le_refl 1⟩
  · rw [h.getReceivedData_of_lt hlt, h.getTotalData_of_lt hlt]
    refine ⟨?_, ?_⟩
    · positivity
    · refine div_le_one_of_le₀ ?_ ?_
      · exact_mod_cast Nat.mul_le_mul_left BLOCK_SIZE hreceived
      · positivity

omit [Guava] in
/-- The fewer hashes are missing, the larger the fraction. -/
theorem Split.progress_le {q : BlockPuller} (h : p.Split hashes) (hq : q.Split hashes)
    (hlt : hashes.card * BLOCK_SIZE < 2 ^ 31) (hsub : q.missingHashes ⊆ p.missingHashes) :
    p.getProgress ≤ q.getProgress := by
  by_cases hcompleted : q.isCompleted = true
  · have hone : q.getProgress = 1 := if_pos hcompleted
    rw [hone]
    exact (h.progress_mem hlt).2
  · have hmissing := isCompleted_eq_false.1 (Bool.not_eq_true _ ▸ hcompleted)
    have hp : p.isCompleted = false := isCompleted_eq_false.2 (hmissing.mono hsub)
    have hreceived : (hashes \ p.missingHashes).card ≤ (hashes \ q.missingHashes).card :=
      Finset.card_le_card (Finset.sdiff_subset_sdiff subset_rfl hsub)
    unfold getProgress
    rw [if_neg hcompleted, if_neg (by rw [hp]; exact Bool.false_ne_true)]
    rw [h.getReceivedData_of_lt hlt, h.getTotalData_of_lt hlt, hq.getReceivedData_of_lt hlt,
      hq.getTotalData_of_lt hlt]
    refine div_le_div_of_nonneg_right ?_ ?_
    · exact_mod_cast Nat.mul_le_mul_left BLOCK_SIZE hreceived
    · positivity

/-- What is split right is exact, as far as it fits into 32 bits. -/
theorem Split.isExact_iff (h : p.Split hashes) :
    p.ExactProgress hashes ↔ hashes.card * BLOCK_SIZE < 2 ^ 31 := by
  constructor
  · intro hexact
    have htotal := hexact.total_eq
    rw [h.getTotalData_eq, mul_comm (BLOCK_SIZE : ℤ), ← Nat.cast_mul] at htotal
    exact Integer.wrap_eq_iff.1 htotal
  · intro hlt
    have hreceived := h.getReceivedData_of_lt hlt
    have htotal := h.getTotalData_of_lt hlt
    have hle : (hashes \ p.missingHashes).card ≤ hashes.card := received_le
    refine ⟨hreceived, htotal, ?_, ?_, fun hopen => ?_, (h.progress_mem hlt).1,
      (h.progress_mem hlt).2, fun message => ?_⟩
    · rw [hreceived]
      exact mul_nonneg blockSize_pos.le (Nat.cast_nonneg _)
    · rw [hreceived, htotal]
      exact mul_le_mul_of_nonneg_left (Nat.cast_le.2 hle) blockSize_pos.le
    · -- some block is missing, and so there is one
      have hpos : 0 < hashes.card :=
        Finset.card_pos.2 ((isCompleted_eq_false.1 hopen).mono h.missing_subset)
      rw [htotal]
      exact mul_pos blockSize_pos (Nat.cast_pos.2 hpos)
    · exact h.progress_le (h.handleResponse message) hlt (missingHashes_handleResponse p message)

/-- **Progress is exact** after some responses to an open download exactly
when all its distinct blocks together are less than 2³¹ bytes. -/
theorem exactProgress_iff
    (hpull : (pullBlocks iteration random fileBlocks).run (fresh blockCache connectionHandler) =
      .ok () p) (messages : List Response) :
    (messages.foldl handleResponseMessageReceivedEvent p).ExactProgress (distinct fileBlocks) ↔
      (distinct fileBlocks).card * BLOCK_SIZE < 2 ^ 31 :=
  ((split_of_pullBlocks hpull).foldl messages).isExact_iff

end Progress

/-! ## Samples -/

section Sample

attribute [local instance] Sample.guavaOfLetters

/-- The puller when one of its two blocks has come in. -/
def halfPuller : BlockPuller :=
  (sampleMessages.take 3).foldl handleResponseMessageReceivedEvent samplePuller

/-- One block of two is half the download. -/
theorem exactProgress_iff_sample :
    halfPuller.ExactProgress (distinct Sample.blocks) ∧ halfPuller.getReceivedData = BLOCK_SIZE ∧
      halfPuller.getTotalData = 2 * BLOCK_SIZE ∧ halfPuller.getProgress = 1 / 2 :=
  ⟨(exactProgress_iff run_samplePuller (sampleMessages.take 3)).2 (by decide +kernel),
    by decide +kernel, by decide +kernel, by decide +kernel⟩

/-- The digest of the n-th block of a large file. -/
def Sample.nthDigest (n : ℕ) : Bytes :=
  UInt8.ofNat (n / 256) :: UInt8.ofNat (n % 256) :: List.replicate 30 0

def Sample.nthHash (n : ℕ) : String := ASync.Sample.hexEncode (Sample.nthDigest n)

/-- The hashes of the large file are base16. -/
theorem Sample.decode_nthHash (n : ℕ) : ∃ bytes, base16Decode (Sample.nthHash n) = some bytes :=
  ⟨Sample.nthDigest n, ASync.Sample.hexBytes_hexEncode (Sample.nthDigest n)⟩

/-- The hashes of the large file differ. -/
theorem Sample.nthHash_inj {n m : ℕ} (hn : n < 2 ^ 14) (hm : m < 2 ^ 14)
    (h : Sample.nthHash n = Sample.nthHash m) : n = m := by
  have hbytes := congrArg (fun s : String => ASync.Sample.hexBytes s.toList) h
  simp only [Sample.nthHash, ASync.Sample.hexBytes_hexEncode, Option.some.injEq, Sample.nthDigest,
    List.cons.injEq] at hbytes
  have hhigh := congrArg UInt8.toNat hbytes.1
  have hlow := congrArg UInt8.toNat hbytes.2.1
  rw [UInt8.toNat_ofNat', UInt8.toNat_ofNat'] at hhigh hlow
  omega

/-- A block list of two gibibytes. -/
def Sample.largeFile : FileBlocks where
  folder := "default"
  path := "ab"
  blocks := (List.range (2 ^ 14)).map fun n : ℕ => ⟨n * BLOCK_SIZE, BLOCK_SIZE, Sample.nthHash n⟩
  folder_ne := ASync.Sample.default_ne
  path_ne := Sample.ab_ne

/-- The large file has as many distinct blocks as blocks. -/
theorem card_distinct_largeFile : (distinct Sample.largeFile).card = 2 ^ 14 := by
  have hnodup : (Sample.largeFile.blocks.map (·.hash)).Nodup := by
    unfold Sample.largeFile
    rw [List.map_map]
    refine List.Nodup.map_on (fun n hn m hm heq => ?_) List.nodup_range
    exact Sample.nthHash_inj (List.mem_range.1 hn) (List.mem_range.1 hm) heq
  unfold distinct
  rw [List.toFinset_card_of_nodup hnodup]
  unfold Sample.largeFile
  rw [List.length_map, List.length_map, List.length_range]

/-- **The total of a file of 2¹⁴ blocks is negative**, of which none is
there yet. -/
theorem total_of_largeFile_is_negative :
    ∃ p, (pullBlocks Sample.iteration (fun n => n) Sample.largeFile).run
        (fresh .dummy Sample.connection) = .ok () p ∧
      p.getTotalData = -2 ^ 31 ∧ (distinct Sample.largeFile).card = 2 ^ 14 := by
  have hreturns : ∃ p, (pullBlocks Sample.iteration (fun n => n) Sample.largeFile).run
      (fresh .dummy Sample.connection) = .ok () p :=
    exists_pullBlocks_eq_ok .dummy Sample.iteration _ (by decide) rfl (fun block hblock => by
      simp only [Sample.largeFile] at hblock
      obtain ⟨n, -, rfl⟩ := List.mem_map.1 hblock
      exact Sample.decode_nthHash n)
  obtain ⟨p, hpull⟩ := hreturns
  refine ⟨p, hpull, ?_, card_distinct_largeFile⟩
  rw [(split_of_pullBlocks hpull).getTotalData_eq, card_distinct_largeFile]
  decide +kernel

end Sample

end BlockPuller

end Bep

end ASync
