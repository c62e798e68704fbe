import ASync.Bep.Model.BlockPuller
import ASync.Common.Effect
import ASync.Core.Helpers.Beans
import ASync.Core.Helpers.Sample
import Mathlib
/-!
# What a puller holds

`Download` is the invariant of a download: the hashes asked for are those
of the block list, and every block filed under a hash has that hash.
`Pulled` adds what `pullBlocks` leaves behind when it returns: every hash
is found or missing, and each missing one was requested.
-/

namespace ASync

namespace Bep

open ASync.Core BlockExchageProtos Effect

namespace BlockPuller

variable [Guava] {fileBlocks : FileBlocks} {blocks : List Core.BlockInfo} {D : Set Bytes}
variable {p p' : BlockPuller} {iteration : Iteration} {random : ℕ → ℤ}
variable {hash : String} {block : Core.BlockInfo} {message : Response}

/-- A puller before its first call. -/
def fresh (blockCache : BlockCache) (connectionHandler : Connection) : BlockPuller where
  blockCache := blockCache
  connectionHandler := connectionHandler

/-- **The invariant of a download.** `D` is what the blocks may be. -/
structure Download (blocks : List Core.BlockInfo) (D : Set Bytes) (p : BlockPuller) : Prop where
  hashList_eq : p.hashList = blocks.map (·.hash)
  found : ∀ {hash data}, p.blocksByHash.find hash = some data → sha256Hex data = hash ∧ data ∈ D

/-- Every hash asked for is filed or missing, and no other is missing. -/
structure Covered (p : BlockPuller) : Prop where
  missing_or_found : ∀ hash ∈ p.hashList,
    hash ∈ p.missingHashes ∨ (p.blocksByHash.find hash).isSome
  mem_hashList : ∀ hash ∈ p.missingHashes, hash ∈ p.hashList

/-! ## The cache -/

/-- The puller once a hash was looked up in the cache. -/
def lookedUp (p : BlockPuller) (hash : String) : BlockPuller :=
  match (p.blockCache.pullBlock hash).1 with
  | some block =>
    { p with
      blockCache := (p.blockCache.pullBlock hash).2
      blocksByHash := p.blocksByHash.merge hash block
      missingHashes := p.missingHashes.erase hash }
  | none => { p with blockCache := (p.blockCache.pullBlock hash).2 }

theorem run_pullCached : (pullCached hash).run p = .ok () (p.lookedUp hash) := by
  rw [lookedUp]
  rcases hpull : p.blockCache.pullBlock hash with ⟨_ | block, blockCache⟩
  · simp only [pullCached, EStateM.run_bind, EStateM.run_get, hpull]
    rfl
  · simp only [pullCached, EStateM.run_bind, EStateM.run_get, hpull]
    rfl

theorem Download.lookedUp (h : Download blocks D p) (hD : p.blockCache.contents ⊆ D) :
    Download blocks D (p.lookedUp hash) ∧ (p.lookedUp hash).blockCache.contents ⊆ D := by
  have hsub : (p.blockCache.pullBlock hash).2.contents ⊆ D :=
    BlockCache.contents_pullBlock.trans hD
  rw [BlockPuller.lookedUp]
  split
  · next data hpull =>
    obtain ⟨hhash, hmem⟩ := BlockCache.pullBlock_eq_some hpull
    refine ⟨⟨h.hashList_eq, ?_⟩, hsub⟩
    intro hash' data' hfind
    rw [Table.find_merge] at hfind
    split at hfind
    · next heq =>
      cases hfind
      exact ⟨hhash.trans heq.symm, hD hmem⟩
    · exact h.found hfind
  · exact ⟨⟨h.hashList_eq, h.found⟩, hsub⟩

omit [Guava] in
/-- Filing a block under its hash keeps every hash accounted for. -/
theorem Covered.found {q : BlockPuller} {data : Bytes} (h : Covered p)
    (hlist : q.hashList = p.hashList) (hmiss : q.missingHashes = p.missingHashes.erase hash)
    (hblocks : q.blocksByHash = p.blocksByHash.merge hash data) : Covered q := by
  constructor
  · intro hash' hmem
    rw [hblocks, Table.find_merge, hmiss, Finset.mem_erase]
    by_cases heq : hash' = hash
    · exact Or.inr (by rw [if_pos heq]; rfl)
    · rw [if_neg heq]
      exact (h.missing_or_found hash' (hlist ▸ hmem)).imp_left fun hm => ⟨heq, hm⟩
  · intro hash' hm
    rw [hlist]
    exact h.mem_hashList hash' (Finset.mem_of_mem_erase (hmiss ▸ hm))

theorem Covered.lookedUp (h : Covered p) : Covered (p.lookedUp hash) := by
  rw [BlockPuller.lookedUp]
  split
  · exact h.found rfl rfl rfl
  · exact ⟨h.missing_or_found, h.mem_hashList⟩

@[simp] theorem lookedUp_sent : (p.lookedUp hash).sent = p.sent := by
  unfold lookedUp
  split <;> rfl

@[simp] theorem lookedUp_connectionHandler :
    (p.lookedUp hash).connectionHandler = p.connectionHandler := by
  unfold lookedUp
  split <;> rfl

/-! ## The requests -/

/-- The request of a block was sent, and its answer is awaited. -/
def Requested (fileBlocks : FileBlocks) (p : BlockPuller) (block : Core.BlockInfo) : Prop :=
  ∃ id ∈ p.requestIds, ∃ hash, base16Decode block.hash = some hash ∧
    requestOf fileBlocks block id hash ∈ p.sent

/-- **What a call of `pullBlocks` has done** once the blocks in `done`
were gone through. -/
structure Pulled (fileBlocks : FileBlocks) (D : Set Bytes) (done : List Core.BlockInfo)
    (p : BlockPuller) : Prop extends Download fileBlocks.blocks D p where
  covered : Covered p
  listening : p.listening = true
  requested : ∀ block ∈ done, block.hash ∈ p.missingHashes → Requested fileBlocks p block
  sent_of : ∀ request ∈ p.sent, ∃ block ∈ fileBlocks.blocks, ∃ id ∈ p.requestIds, ∃ hash,
    base16Decode block.hash = some hash ∧ request = requestOf fileBlocks block id hash

/-- A puller that sent one more request. -/
def sending (p : BlockPuller) (id : ℤ) (request : Request) : BlockPuller :=
  { p with requestIds := insert id p.requestIds, sent := p.sent ++ [request] }

variable (random fileBlocks) in
theorem run_requestBlock_of_notMem {block : Core.BlockInfo} (h : block.hash ∉ p.missingHashes) :
    (requestBlock random fileBlocks block).run p = .ok () p := by
  change EStateM.run (if block.hash ∈ p.missingHashes then _ else _) p = _
  rw [if_neg h]
  rfl

variable (random fileBlocks) in
/-- A missing block whose hash decodes is requested, unless the connection
is closed. -/
theorem run_requestBlock_of_mem {block : Core.BlockInfo} {bytes : Bytes}
    (h : block.hash ∈ p.missingHashes) (hdecode : base16Decode block.hash = some bytes) :
    ∃ id, (requestBlock random fileBlocks block).run p =
      if p.connectionHandler.closesAfter = some p.sent.length then
        .error (.illegalArgument ("connection " ++ p.connectionHandler.text ++ " closed"))
          { p with requestIds := insert id p.requestIds }
      else .ok () (p.sending id (requestOf fileBlocks block id bytes)) := by
  refine ⟨mathAbs (random p.sent.length), ?_⟩
  change EStateM.run (if block.hash ∈ p.missingHashes then _ else _) p = _
  rw [if_pos h, hdecode]
  change EStateM.run (if p.connectionHandler.closesAfter = some p.sent.length then _ else _) _ = _
  split
  · rfl
  · rfl

variable (random fileBlocks) in
theorem run_requestBlock_of_none {block : Core.BlockInfo} (h : block.hash ∈ p.missingHashes)
    (hdecode : base16Decode block.hash = none) :
    ∃ e p', (requestBlock random fileBlocks block).run p = .error e p' := by
  refine ⟨.illegalArgument "DecodingException",
    { p with requestIds := insert (mathAbs (random p.sent.length)) p.requestIds }, ?_⟩
  change EStateM.run (if block.hash ∈ p.missingHashes then _ else _) p = _
  rw [if_pos h, hdecode]
  rfl

/-- **What asking for a block did**: nothing for a block that is there,
one request under a new id for a missing one. -/
theorem requestBlock_eq_ok {block : Core.BlockInfo}
    (h : (requestBlock random fileBlocks block).run p = .ok () p') :
    (block.hash ∉ p.missingHashes ∧ p' = p) ∨
      ∃ id hash, base16Decode block.hash = some hash ∧
        p' = p.sending id (requestOf fileBlocks block id hash) := by
  by_cases hmiss : block.hash ∈ p.missingHashes
  · cases hdecode : base16Decode block.hash with
    | none =>
      obtain ⟨e, q, hrun⟩ := run_requestBlock_of_none fileBlocks random hmiss hdecode
      cases hrun.symm.trans h
    | some bytes =>
      obtain ⟨id, hrun⟩ := run_requestBlock_of_mem fileBlocks random hmiss hdecode
      rw [hrun] at h
      split at h
      · cases h
      · cases h
        exact Or.inr ⟨id, bytes, rfl, rfl⟩
  · rw [run_requestBlock_of_notMem fileBlocks random hmiss] at h
    cases h
    exact Or.inl ⟨hmiss, rfl⟩

theorem Requested.sending {block : Core.BlockInfo} {id : ℤ} {request : Request}
    (h : Requested fileBlocks p block) : Requested fileBlocks (p.sending id request) block := by
  obtain ⟨id', hid, bytes, hdecode, hsent⟩ := h
  exact ⟨id', Finset.mem_insert_of_mem hid, bytes, hdecode, List.mem_append_left _ hsent⟩

/-- One block of the list gone through. -/
theorem Pulled.requestBlock {done : List Core.BlockInfo} {block : Core.BlockInfo}
    (hmem : block ∈ fileBlocks.blocks) (h : Pulled fileBlocks D done p)
    (hrun : (requestBlock random fileBlocks block).run p = .ok () p') :
    Pulled fileBlocks D (done ++ [block]) p' := by
  obtain ⟨hmiss, rfl⟩ | ⟨id, bytes, hdecode, rfl⟩ := requestBlock_eq_ok hrun
  · refine { h with requested := fun other hother hm => ?_ }
    rcases List.mem_append.1 hother with hdone | hone
    · exact h.requested other hdone hm
    · rw [List.mem_singleton.1 hone] at hm
      exact absurd hm hmiss
  · refine ⟨⟨h.hashList_eq, h.found⟩, ⟨h.covered.missing_or_found, h.covered.mem_hashList⟩,
      h.listening, ?_, ?_⟩
    · intro other hother hm
      rcases List.mem_append.1 hother with hdone | hone
      · exact (h.requested other hdone hm).sending
      · rw [List.mem_singleton.1 hone]
        exact ⟨id, Finset.mem_insert_self id _, bytes, hdecode,
          List.mem_append_right _ (List.mem_singleton.2 rfl)⟩
    · intro request hrequest
      rcases List.mem_append.1 hrequest with hold | hnew
      · obtain ⟨other, hother, id', hid', hash, hsome, heq⟩ := h.sent_of request hold
        exact ⟨other, hother, id', Finset.mem_insert_of_mem hid', hash, hsome, heq⟩
      · exact ⟨block, hmem, id, Finset.mem_insert_self id _, bytes, hdecode,
          List.mem_singleton.1 hnew⟩

/-! ## The call -/

variable {blockCache : BlockCache} {connectionHandler : Connection}

/-- The puller whose hashes are all missing. -/
def asking (p : BlockPuller) (fileBlocks : FileBlocks) : BlockPuller :=
  { p with
    hashList := p.hashList ++ fileBlocks.blocks.map (·.hash)
    missingHashes := p.missingHashes ∪ (p.hashList ++ fileBlocks.blocks.map (·.hash)).toFinset }

theorem run_startPull : (startPull iteration random fileBlocks).run p =
    ((do
      forM (iteration.order (p.asking fileBlocks).missingHashes) pullCached
      modify fun p => { p with listening := true }
      forM fileBlocks.blocks (requestBlock random fileBlocks) : PullerM Unit)).run
        (p.asking fileBlocks) := rfl

/-- A block list is asked for whole before the cache is looked at. -/
theorem download_asking (blockCache : BlockCache) (connectionHandler : Connection)
    (fileBlocks : FileBlocks) :
    Download fileBlocks.blocks D ((fresh blockCache connectionHandler).asking fileBlocks) ∧
      Covered ((fresh blockCache connectionHandler).asking fileBlocks) := by
  refine ⟨⟨List.nil_append _, fun hfind => ?_⟩, fun hash hmem => Or.inl ?_, fun hash hmem => ?_⟩
  · cases (Table.find_empty _).symm.trans hfind
  · exact Finset.mem_union_right _ (List.mem_toFinset.2 hmem)
  · rcases Finset.mem_union.1 hmem with hnone | hasked
    · cases hnone
    · exact List.mem_toFinset.1 hasked

/-- A call of `pullBlocks` that returned caught nothing. -/
theorem run_startPull_of_pullBlocks
    (h : (pullBlocks iteration random fileBlocks).run
      (fresh blockCache connectionHandler) = .ok () p) :
    (startPull iteration random fileBlocks).run (fresh blockCache connectionHandler) =
      .ok () p := by
  change EStateM.run (if fileBlocks.folder ∈ connectionHandler.folders then _ else _) _ = _ at h
  split at h
  · rcases hstart : (startPull iteration random fileBlocks).run
      (fresh blockCache connectionHandler) with ⟨_, q⟩ | ⟨e, q⟩
    · rw [run_tryCatch_of_ok hstart] at h
      exact h
    · rw [run_tryCatch_of_error hstart] at h
      cases h
  · cases h

/-- **What a call of `pullBlocks` carries along**: `J` through the hashes
that are looked up, and `I` through the blocks requested so far. -/
theorem pullBlocks_induction {J : BlockPuller → Prop} {I : List Core.BlockInfo → BlockPuller → Prop}
    (h : (pullBlocks iteration random fileBlocks).run
      (fresh blockCache connectionHandler) = .ok () p)
    (hasking : J ((fresh blockCache connectionHandler).asking fileBlocks))
    (hlookedUp : ∀ hash ∈ ((fresh blockCache connectionHandler).asking fileBlocks).missingHashes,
      ∀ q, J q → J (q.lookedUp hash))
    (hlistening : ∀ q, J q → I [] { q with listening := true })
    (hrequest : ∀ done block q q', block ∈ fileBlocks.blocks → I done q →
      (requestBlock random fileBlocks block).run q = .ok () q' → I (done ++ [block]) q') :
    I fileBlocks.blocks p := by
  have hstart := run_startPull_of_pullBlocks h
  rw [run_startPull, run_bind_eq_ok] at hstart
  obtain ⟨_, cached, hcached, hrequests⟩ := hstart
  have hloop : J cached := forM_eq_ok (I := fun _ q => J q)
    (fun done hash q q' hmem hq hrun => by
      rw [run_pullCached] at hrun
      cases hrun
      exact hlookedUp hash (iteration.mem_order.1 hmem) q hq)
    hasking hcached
  exact forM_eq_ok hrequest (hlistening cached hloop) hrequests

/-- **What a call of `pullBlocks` that returned has done.** -/
theorem pullBlocks_eq_ok (hD : blockCache.contents ⊆ D)
    (h : (pullBlocks iteration random fileBlocks).run (fresh blockCache connectionHandler) =
      .ok () p) : Pulled fileBlocks D fileBlocks.blocks p := by
  obtain ⟨hdownload, hcovered⟩ := download_asking (D := D) blockCache connectionHandler fileBlocks
  refine pullBlocks_induction (J := fun q => Download fileBlocks.blocks D q ∧
    q.blockCache.contents ⊆ D ∧ Covered q ∧ q.sent = []) h ⟨hdownload, hD, hcovered, rfl⟩ ?_ ?_
    fun done block q q' hblock (hq : Pulled fileBlocks D done q) => hq.requestBlock hblock
  · rintro hash - q ⟨hdown, hcontents, hcov, hsent⟩
    obtain ⟨hdown', hcontents'⟩ := hdown.lookedUp hcontents
    exact ⟨hdown', hcontents', hcov.lookedUp, lookedUp_sent.trans hsent⟩
  · rintro q ⟨hdown, -, hcov, hsent⟩
    refine ⟨⟨hdown.hashList_eq, hdown.found⟩, ⟨hcov.missing_or_found, hcov.mem_hashList⟩, rfl,
      ?_, ?_⟩
    · intro block hblock
      cases hblock
    · intro request hrequest
      rw [show _ = [] from hsent] at hrequest
      cases hrequest

/-- **`pullBlocks` returns** when the folder is shared, the connection
stays open and every hash of the list is base16. -/
theorem exists_pullBlocks_eq_ok (blockCache : BlockCache) (iteration : Iteration)
    (random : ℕ → ℤ)
    (hshared : fileBlocks.folder ∈ connectionHandler.folders)
    (hopen : connectionHandler.closesAfter = none)
    (hdecode : ∀ block ∈ fileBlocks.blocks, ∃ bytes, base16Decode block.hash = some bytes) :
    ∃ p, (pullBlocks iteration random fileBlocks).run (fresh blockCache connectionHandler) =
      .ok () p := by
  have hcache := exists_forM_eq_ok
    (iteration.order ((fresh blockCache connectionHandler).asking fileBlocks).missingHashes)
    (f := pullCached) (P := fun q => q.connectionHandler.closesAfter = none)
    (fun hash _ q hq => ⟨q.lookedUp hash, run_pullCached, by rwa [lookedUp_connectionHandler]⟩)
    (s := (fresh blockCache connectionHandler).asking fileBlocks) hopen
  obtain ⟨cached, hcached, hopen'⟩ := hcache
  have hrequests := exists_forM_eq_ok fileBlocks.blocks
    (f := requestBlock random fileBlocks) (P := fun q => q.connectionHandler.closesAfter = none)
    (fun block hblock q hq => by
      by_cases hmiss : block.hash ∈ q.missingHashes
      · obtain ⟨bytes, hbytes⟩ := hdecode block hblock
        obtain ⟨id, hrun⟩ := run_requestBlock_of_mem fileBlocks random hmiss hbytes
        rw [if_neg (by rw [hq]; simp)] at hrun
        exact ⟨_, hrun, hq⟩
      · exact ⟨q, run_requestBlock_of_notMem fileBlocks random hmiss, hq⟩)
    (s := { cached with listening := true }) hopen'
  obtain ⟨p, hp, _⟩ := hrequests
  have hstart : (startPull iteration random fileBlocks).run (fresh blockCache connectionHandler) =
      .ok () p := by
    rw [run_startPull, run_bind_of_ok hcached]
    exact hp
  refine ⟨p, ?_⟩
  change EStateM.run (if fileBlocks.folder ∈ connectionHandler.folders then _ else _) _ = _
  rw [if_pos hshared]
  exact run_tryCatch_of_ok hstart

/-! ## The answers -/

/-- The answer to a pending request. -/
def Answers (p : BlockPuller) (message : Response) : Prop :=
  p.listening = true ∧ message.id ∈ p.requestIds ∧ message.code = .NO_ERROR

/-- **What taking a response does.** A pending answer whose hash is
missing is taken; everything else leaves the download as it was. -/
theorem takeResponse_cases (p : BlockPuller) (message : Response) :
    (p.Answers message ∧ sha256Hex message.data ∈ p.missingHashes ∧
      ∃ cache, p.takeResponse message =
        ({ p with
           blockCache := cache
           missingHashes := p.missingHashes.erase (sha256Hex message.data) },
          some (sha256Hex message.data, message.data))) ∨
    ((p.Answers message → sha256Hex message.data ∉ p.missingHashes) ∧
      ∃ cache error, p.takeResponse message =
        ({ p with blockCache := cache, error := error }, none)) := by
  rw [takeResponse]
  split
  · next hignored =>
    refine Or.inr ⟨?_, p.blockCache, p.error, rfl⟩
    rintro ⟨hlistening, hid, _⟩
    rcases hignored with hoff | hunknown
    · rw [hlistening] at hoff
      cases hoff
    · exact absurd hid hunknown
  · next hpending =>
    obtain ⟨hlistening, hid⟩ := not_or.1 hpending
    split
    · next ex hrefused =>
      refine Or.inr ⟨?_, p.blockCache, some ex, rfl⟩
      rintro ⟨_, _, hcode⟩
      rw [checkArgument, if_pos (decide_eq_true hcode)] at hrefused
      cases hrefused
    · next u haccepted =>
      have hcode : message.code = .NO_ERROR := of_decide_eq_true (checkArgument_eq_ok.1 haccepted)
      have hanswers : p.Answers message := ⟨by simpa using hlistening, not_not.1 hid, hcode⟩
      by_cases hmiss : sha256Hex message.data ∈ p.missingHashes
      · exact Or.inl ⟨hanswers, hmiss, (p.blockCache.pushBlock message.data).2, if_pos hmiss⟩
      · exact Or.inr ⟨fun _ => hmiss, (p.blockCache.pushBlock message.data).2, p.error,
          if_neg hmiss⟩

/-- Taking a response keeps the invariant, and what it is about to store
is filed under its own hash. -/
theorem Download.takeResponse (h : Download blocks D p) :
    Download blocks D (p.takeResponse message).1 := by
  obtain ⟨_, _, cache, heq⟩ | ⟨_, cache, error, heq⟩ := p.takeResponse_cases message
  · rw [heq]
    exact ⟨h.hashList_eq, h.found⟩
  · rw [heq]
    exact ⟨h.hashList_eq, h.found⟩

theorem handleResponse_eq (p : BlockPuller) (message : Response) :
    p.handleResponseMessageReceivedEvent message =
      (p.takeResponse message).1.storeBlock (p.takeResponse message).2 := rfl

/-- **A response keeps the invariant**, whatever it carries, if the
answers to pending requests are allowed. -/
theorem Download.handleResponse (h : Download blocks D p)
    (hD : p.Answers message → message.data ∈ D) :
    Download blocks D (p.handleResponseMessageReceivedEvent message) := by
  have htake : Download blocks D (p.takeResponse message).1 := h.takeResponse
  rw [handleResponse_eq]
  obtain ⟨hanswers, _, cache, heq⟩ | ⟨_, cache, error, heq⟩ := p.takeResponse_cases message
  · rw [heq] at htake ⊢
    refine ⟨htake.hashList_eq, ?_⟩
    intro hash data hfind
    rw [storeBlock, Table.find_merge] at hfind
    split at hfind
    · next hhash =>
      cases hfind
      exact ⟨hhash.symm, hD hanswers⟩
    · exact htake.found hfind
  · rw [heq] at htake ⊢
    exact htake

end BlockPuller

section Sample

attribute [local instance] Sample.guavaOfLetters

/-- A set of strings in their order. -/
def Sample.sorted (s : Multiset String) : List String :=
  Quot.liftOn s (List.insertionSort (· ≤ ·)) fun l l' h =>
    ((List.perm_insertionSort _ l).trans (h.trans
      (List.perm_insertionSort _ l').symm)).eq_of_pairwise'
      (List.pairwise_insertionSort _ l) (List.pairwise_insertionSort _ l')

theorem Sample.coe_sorted (s : Multiset String) : (Sample.sorted s : Multiset String) = s :=
  Quot.inductionOn s fun l => Quot.sound (List.perm_insertionSort _ l)

def Sample.iteration : Iteration where
  order s := Sample.sorted s.1
  mem_order := by
    intro s x
    rw [← Multiset.mem_coe, Sample.coe_sorted, Finset.mem_def]
  nodup_order s := by
    rw [← Multiset.coe_nodup, Sample.coe_sorted]
    exact s.2

/-- A connection that shares the folder and stays open. -/
def Sample.connection : Connection := ⟨"", {"default"}, none⟩

theorem Sample.ab_ne : "ab" ≠ "" := by decide

/-- The block list of the file `ab` read one byte at a time. -/
def Sample.blocks : FileBlocks where
  folder := "default"
  path := "ab"
  blocks := [⟨0, 1, sha256Hex [0x61]⟩, ⟨1, 1, sha256Hex [0x62]⟩]
  folder_ne := Sample.default_ne
  path_ne := Sample.ab_ne

/-- A cache whose file for the block `a` is damaged. -/
def Sample.damagedCache : BlockCache :=
  .file { dir := (∅ : Table String (Option Bytes)).merge (sha256Hex [0x61]) (some []) }

end Sample

end Bep

end ASync
