import ASync.Bep.Model.DataSource
import ASync.Bep.Download
/-!
# From a pusher to a puller

The block list cut from a source describes it: the blocks lie end to end
in the content, so each is read back where the list says it is. Every
request of a puller that has the list is therefore answered with its
block, and when all answers have arrived, in any order and any number of
times, the download is complete and is the content of the source.
-/

namespace ASync

namespace Bep

open ASync.Core BlockExchageProtos Effect Wire

section Transfer

variable [Guava] {source : DataSource} {reads before after : List Bytes} {block : Bytes}
variable {offset : ℤ}

namespace DataSource

/-! ## Cutting and reading back -/

/-- The block list of some reads, the first at an offset. -/
def blocksFrom : ℤ → List Bytes → List BlockExchageProtos.BlockInfo
  | _, [] => []
  | offset, block :: reads =>
    ⟨offset, block.length, sha256 block⟩ :: blocksFrom (offset + block.length) reads

/-- The loop of `processStream` adds the blocks of the reads to come. -/
theorem foldl_processBlock (list : List BlockExchageProtos.BlockInfo) (offset : ℤ)
    (reads : List Bytes) :
    reads.foldl processBlock (list, offset) =
      (list ++ blocksFrom offset reads, offset + reads.flatten.length) := by
  induction reads generalizing list offset with
  | nil => simp [blocksFrom]
  | cons block reads ih =>
    rw [List.foldl_cons, processBlock, ih, blocksFrom, List.append_assoc, List.singleton_append,
      List.flatten_cons, List.length_append]
    push_cast
    rw [add_assoc]

theorem getBlocks_eq : source.getBlocks = blocksFrom 0 source.reads := by
  rw [getBlocks, processStream, foldl_processBlock, List.nil_append]

theorem map_hash_blocksFrom (offset : ℤ) (reads : List Bytes) :
    (blocksFrom offset reads).map (fun info => base16Encode info.hash) = reads.map sha256Hex := by
  induction reads generalizing offset with
  | nil => rfl
  | cons block reads ih => rw [blocksFrom, List.map_cons, List.map_cons, ih, sha256Hex]

/-- **Where a block of the list lies.** -/
theorem exists_of_mem_blocksFrom {info : BlockExchageProtos.BlockInfo}
    (h : info ∈ blocksFrom offset reads) : ∃ before block after,
      reads = before ++ block :: after ∧
        info = ⟨offset + before.flatten.length, block.length, sha256 block⟩ := by
  induction reads generalizing offset with
  | nil => cases h
  | cons first reads ih =>
    rw [blocksFrom, List.mem_cons] at h
    rcases h with rfl | h
    · exact ⟨[], first, reads, rfl, by simp⟩
    · obtain ⟨before, block, after, rfl, rfl⟩ := ih h
      refine ⟨first :: before, block, after, rfl, ?_⟩
      rw [List.flatten_cons, List.length_append]
      push_cast
      rw [add_assoc]

/-- **A block is read back where it lies.** -/
theorem getBlock_of_reads (hreads : source.reads = before ++ block :: after) :
    source.getBlock before.flatten.length block.length (sha256Hex block) = .ok block := by
  have hcontent : source.content = before.flatten ++ (block ++ after.flatten) := by
    rw [← source.reads_flatten, hreads, List.flatten_append, List.flatten_cons]
  have hskip : skipFully before.flatten.length source.content = .ok (block ++ after.flatten) := by
    rw [skipFully, if_neg (by omega), Int.toNat_natCast, hcontent, readFully_append]
  have hread : readBlock block.length (block ++ after.flatten) = .ok block := by
    rw [readBlock, Int.toNat_natCast, readFully_append]
  rw [getBlock, if_neg (by omega), hskip, except_ok_bind, hread, except_ok_bind,
    checkArgument, if_pos (decide_eq_true rfl), except_ok_bind]
  rfl

/-- The block list as `pushRecord` builds it from a record that carries
the blocks of the source. -/
def sentBlocks (source : DataSource) (path : String) : List Core.BlockInfo :=
  blockList { name := path, blocks := source.getBlocks }

theorem map_hash_sentBlocks (path : String) :
    (source.sentBlocks path).map (·.hash) = source.reads.map sha256Hex := by
  rw [sentBlocks, blockList, List.map_map, getBlocks_eq]
  exact map_hash_blocksFrom 0 source.reads

/-- **Every request is answered with its block.** -/
theorem handleRequest_requestOf [LawfulBase16] {fileBlocks : FileBlocks} {info : Core.BlockInfo}
    {hash : Bytes} (hblock : info ∈ source.sentBlocks fileBlocks.path)
    (hdecode : base16Decode info.hash = some hash) (id : ℤ) :
    ∃ block ∈ source.reads, sha256Hex block = info.hash ∧
      source.handleRequestMessageReceivedEvent fileBlocks.folder fileBlocks.path
        (BlockPuller.requestOf fileBlocks info id hash) = some ⟨id, block, .NO_ERROR⟩ := by
  obtain ⟨sent, hsent, rfl⟩ := List.mem_map.1 hblock
  rw [getBlocks_eq] at hsent
  obtain ⟨before, block, after, hreads, rfl⟩ := exists_of_mem_blocksFrom hsent
  have hhash : hash = sha256 block := by
    rw [LawfulBase16.base16Decode_base16Encode] at hdecode
    exact (Option.some.inj hdecode).symm
  have hget := getBlock_of_reads hreads
  refine ⟨block, ?_, rfl, ?_⟩
  · rw [hreads]
    exact List.mem_append_right _ List.mem_cons_self
  · rw [sha256Hex] at hget
    rw [handleRequestMessageReceivedEvent, BlockPuller.requestOf, if_pos ⟨rfl, rfl⟩, hhash]
    simp only [zero_add, hget]

end DataSource

/-! ## The answers arrive -/

namespace BlockPuller

variable {fileBlocks : FileBlocks} {blocks : List Core.BlockInfo} {D : Set Bytes}
variable {p p' : BlockPuller} {messages : List Response}

/-- The puller that has received some of the answers `p` awaits. -/
structure Receiving (blocks : List Core.BlockInfo) (D : Set Bytes) (p : BlockPuller)
    (messages : List Response) (p' : BlockPuller) : Prop extends Download blocks D p' where
  covered : Covered p'
  listening : p'.listening = p.listening
  requestIds : p'.requestIds = p.requestIds
  missing_subset : p'.missingHashes ⊆ p.missingHashes
  notMem_missing : ∀ message ∈ messages, sha256Hex message.data ∉ p'.missingHashes

/-- One more answer. -/
theorem Receiving.handleResponse {message : Response} (h : Receiving blocks D p messages p')
    (hanswers : p.Answers message) (hD : message.data ∈ D) :
    Receiving blocks D p (messages ++ [message])
      (p'.handleResponseMessageReceivedEvent message) := by
  have hdownload : Download blocks D (p'.handleResponseMessageReceivedEvent message) :=
    h.toDownload.handleResponse fun _ => hD
  have hanswers' : p'.Answers message := by
    rw [Answers, h.listening, h.requestIds]
    exact hanswers
  rw [handleResponse_eq] at hdownload ⊢
  obtain ⟨_, hmiss, cache, heq⟩ | ⟨hfound, cache, error, heq⟩ := p'.takeResponse_cases message
  · rw [heq] at hdownload ⊢
    refine ⟨hdownload, h.covered.found rfl rfl rfl, h.listening, h.requestIds,
      (Finset.erase_subset _ _).trans h.missing_subset, ?_⟩
    intro other hother
    rcases List.mem_append.1 hother with hold | hnew
    · intro hm
      exact h.notMem_missing other hold (Finset.mem_of_mem_erase hm)
    · rw [List.mem_singleton.1 hnew]
      exact Finset.notMem_erase _ _
  · rw [heq] at hdownload ⊢
    refine ⟨hdownload, ⟨h.covered.missing_or_found, h.covered.mem_hashList⟩, h.listening,
      h.requestIds, h.missing_subset, ?_⟩
    intro other hother
    rcases List.mem_append.1 hother with hold | hnew
    · exact h.notMem_missing other hold
    · rw [List.mem_singleton.1 hnew]
      exact hfound hanswers'

/-- All of them. -/
theorem Receiving.foldl {old : List Response} (h : Receiving blocks D p old p')
    (messages : List Response)
    (hanswers : ∀ message ∈ messages, p.Answers message ∧ message.data ∈ D) :
    Receiving blocks D p (old ++ messages)
      (messages.foldl handleResponseMessageReceivedEvent p') := by
  induction messages generalizing old p' with
  | nil => rwa [List.append_nil]
  | cons message messages ih =>
    obtain ⟨hmessage, hD⟩ := hanswers message List.mem_cons_self
    have hrest := ih (h.handleResponse hmessage hD) fun other hother =>
      hanswers other (List.mem_cons_of_mem message hother)
    rwa [List.append_assoc, List.singleton_append] at hrest

omit [Guava] in
/-- A download without missing hashes has a stream. -/
theorem Covered.getInputStream (h : Covered p) (hmiss : p.missingHashes = ∅) :
    ∃ stream, p.getInputStream = .ok stream := by
  have hmap : ∀ hashes : List String, (∀ hash ∈ hashes, hash ∈ p.hashList) →
      ∃ datas, hashes.mapM p.forMap = .ok datas := by
    intro hashes hsub
    induction hashes with
    | nil => exact ⟨[], rfl⟩
    | cons hash hashes ih =>
      obtain ⟨others, hothers⟩ := ih fun other hother => hsub other (List.mem_cons_of_mem _ hother)
      have hfound : (p.blocksByHash.find hash).isSome := by
        have hcases := h.missing_or_found hash (hsub hash List.mem_cons_self)
        rw [hmiss] at hcases
        exact hcases.resolve_left (Finset.notMem_empty hash)
      obtain ⟨data, hdata⟩ := Option.isSome_iff_exists.1 hfound
      refine ⟨data :: others, ?_⟩
      have hget : p.forMap hash = .ok data := by
        rw [forMap, hdata]
      rw [List.mapM_cons, hget, except_ok_bind, hothers]
      rfl
  obtain ⟨datas, hdatas⟩ := hmap p.hashList fun _ hmem => hmem
  refine ⟨datas.flatten, ?_⟩
  rw [BlockPuller.getInputStream, isCompleted, checkArgument, if_pos (decide_eq_true hmiss),
    except_ok_bind, hdatas]
  rfl

end BlockPuller

/-! ## Both sides -/

open BlockPuller

variable {fileBlocks : FileBlocks} {D : Set Bytes} {p : BlockPuller}

theorem sha256Hex_injOn [LawfulBase16] (h : Set.InjOn sha256 D) : Set.InjOn sha256Hex D := by
  intro data hdata other hother heq
  have hdecode := congrArg base16Decode heq
  rw [sha256Hex, sha256Hex, LawfulBase16.base16Decode_base16Encode,
    LawfulBase16.base16Decode_base16Encode] at hdecode
  exact h hdata hother (Option.some.inj hdecode)

/-- Lists of the same hashes over blocks with distinct hashes are equal. -/
theorem eq_of_map_sha256Hex [LawfulBase16] (h : Set.InjOn sha256 D) {datas others : List Bytes}
    (hdatas : ∀ data ∈ datas, data ∈ D) (hothers : ∀ data ∈ others, data ∈ D)
    (hmap : datas.map sha256Hex = others.map sha256Hex) : datas = others := by
  induction datas generalizing others with
  | nil => exact (List.map_eq_nil_iff.1 hmap.symm).symm
  | cons data datas ih =>
    cases others with
    | nil => cases hmap
    | cons other others =>
      rw [List.map_cons, List.map_cons, List.cons.injEq] at hmap
      rw [sha256Hex_injOn h (hdatas data List.mem_cons_self) (hothers other List.mem_cons_self)
          hmap.1,
        ih (fun d hd => hdatas d (List.mem_cons_of_mem _ hd))
          (fun d hd => hothers d (List.mem_cons_of_mem _ hd)) hmap.2]

/-- The answers a pusher gives to the requests of a puller. -/
def answersOf (source : DataSource) (fileBlocks : FileBlocks) (requests : List Request) :
    List Response :=
  requests.filterMap (source.handleRequestMessageReceivedEvent fileBlocks.folder fileBlocks.path)

/-- What each of these answers is. -/
theorem answers_of_mem_answersOf [LawfulBase16] {message : Response}
    (hpulled : Pulled fileBlocks D fileBlocks.blocks p)
    (hblocks : fileBlocks.blocks = source.sentBlocks fileBlocks.path)
    (hmessage : message ∈ answersOf source fileBlocks p.sent) :
    p.Answers message ∧ message.data ∈ source.reads := by
  obtain ⟨request, hrequest, hanswer⟩ := List.mem_filterMap.1 hmessage
  obtain ⟨info, hinfo, id, hid, hash, hdecode, rfl⟩ := hpulled.sent_of request hrequest
  obtain ⟨block, hblock, _, heq⟩ := DataSource.handleRequest_requestOf (hblocks ▸ hinfo) hdecode id
  rw [heq] at hanswer
  obtain rfl := Option.some.inj hanswer
  exact ⟨⟨hpulled.listening, hid, rfl⟩, hblock⟩

/-- A missing hash is the hash of one of these answers. -/
theorem exists_answer_of_mem_missing [LawfulBase16] {hash : String}
    (hpulled : Pulled fileBlocks D fileBlocks.blocks p)
    (hblocks : fileBlocks.blocks = source.sentBlocks fileBlocks.path)
    (hmiss : hash ∈ p.missingHashes) :
    ∃ message ∈ answersOf source fileBlocks p.sent, sha256Hex message.data = hash := by
  have hlist := hpulled.covered.mem_hashList hash hmiss
  rw [hpulled.hashList_eq] at hlist
  obtain ⟨info, hinfo, rfl⟩ := List.mem_map.1 hlist
  obtain ⟨id, hid, bytes, hdecode, hsent⟩ := hpulled.requested info hinfo hmiss
  obtain ⟨block, _, hhash, heq⟩ := DataSource.handleRequest_requestOf (hblocks ▸ hinfo) hdecode id
  exact ⟨_, List.mem_filterMap.2 ⟨_, hsent, heq⟩, hhash⟩

/-- **Push, then pull.** A puller that is given the block list of a source
and receives the pusher's answers to all its requests, in any order and
any number of times, has the content of the source. -/
theorem getInputStream_eq_content [LawfulBase16] {blockCache : BlockCache}
    {connectionHandler : Connection} (iteration : Iteration) (random : ℕ → ℤ)
    (hshared : fileBlocks.folder ∈ connectionHandler.folders)
    (hopen : connectionHandler.closesAfter = none)
    (hblocks : fileBlocks.blocks = source.sentBlocks fileBlocks.path)
    (hinj : Set.InjOn sha256 ({block | block ∈ source.reads} ∪ blockCache.contents)) :
    ∃ p, (pullBlocks iteration random fileBlocks).run (fresh blockCache connectionHandler) =
        .ok () p ∧
      ∀ messages : List Response,
        (∀ message, message ∈ messages ↔ message ∈ answersOf source fileBlocks p.sent) →
          (messages.foldl handleResponseMessageReceivedEvent p).isCompleted = true ∧
            (messages.foldl handleResponseMessageReceivedEvent p).getInputStream =
              .ok source.content := by
  have hdecode : ∀ info ∈ fileBlocks.blocks, ∃ bytes, base16Decode info.hash = some bytes := by
    intro info hinfo
    rw [hblocks] at hinfo
    obtain ⟨sent, _, rfl⟩ := List.mem_map.1 hinfo
    exact ⟨sent.hash, LawfulBase16.base16Decode_base16Encode sent.hash⟩
  obtain ⟨p, hpull⟩ := exists_pullBlocks_eq_ok blockCache iteration random hshared hopen hdecode
  refine ⟨p, hpull, ?_⟩
  intro messages hmessages
  have hpulled := pullBlocks_eq_ok (Set.subset_union_right (s := {block | block ∈ source.reads}))
    hpull
  have hstart : Receiving fileBlocks.blocks ({block | block ∈ source.reads} ∪ blockCache.contents)
      p [] p := ⟨hpulled.toDownload, hpulled.covered, rfl, rfl, subset_rfl, fun _ h => by cases h⟩
  have hall := hstart.foldl messages fun message hmessage => by
    obtain ⟨hanswers, hread⟩ := answers_of_mem_answersOf hpulled hblocks
      ((hmessages message).1 hmessage)
    exact ⟨hanswers, Or.inl hread⟩
  -- a hash still missing was requested, so its answer is among the messages
  have hmiss : (messages.foldl handleResponseMessageReceivedEvent p).missingHashes = ∅ := by
    refine Finset.eq_empty_of_forall_notMem fun hash hmem => ?_
    obtain ⟨message, hmessage, hhash⟩ :=
      exists_answer_of_mem_missing hpulled hblocks (hall.missing_subset hmem)
    rw [← hhash] at hmem
    exact hall.notMem_missing message ((hmessages message).2 hmessage) hmem
  refine ⟨decide_eq_true hmiss, ?_⟩
  obtain ⟨stream, hstream⟩ := hall.covered.getInputStream hmiss
  obtain ⟨datas, hflat, hhashes, hmem⟩ := hall.toDownload.getInputStream hstream
  rw [hblocks, DataSource.map_hash_sentBlocks] at hhashes
  have hdatas := eq_of_map_sha256Hex hinj hmem (fun _ h => Or.inl h) hhashes
  rw [hstream, hflat, hdatas, source.reads_flatten]

end Transfer

section Sample

open BlockPuller

attribute [local instance] Sample.guavaOfLetters

/-- The file `ab`, read one byte at a time. -/
def sampleSource : DataSource where
  content := [0x61, 0x62]
  reads := [[0x61], [0x62]]
  reads_flatten := rfl
  reads_ne := by decide
  length_reads_le := by decide

/-- The digests of the two blocks and of the damaged file differ. -/
theorem sha256_injOn_sample :
    Set.InjOn sha256 ({block | block ∈ sampleSource.reads} ∪ Sample.damagedCache.contents) := by
  have hfew : ({block | block ∈ sampleSource.reads} ∪ Sample.damagedCache.contents) ⊆
      {[0x61], [0x62], []} := by
    rintro block (hread | ⟨code, hfind⟩)
    · rcases List.mem_cons.1 hread with rfl | hread
      · exact Or.inl rfl
      · rw [List.mem_singleton.1 hread]
        exact Or.inr (Or.inl rfl)
    · rw [Table.find_merge] at hfind
      split at hfind
      · cases hfind
        exact Or.inr (Or.inr rfl)
      · cases (Table.find_empty code).symm.trans hfind
  refine Set.InjOn.mono hfew ?_
  rintro block (rfl | rfl | rfl) other (rfl | rfl | rfl) heq
  all_goals first
    | rfl
    | exact absurd heq (by decide)

theorem getInputStream_eq_content_sample :
    ∃ p, (pullBlocks Sample.iteration (fun n => n) Sample.blocks).run
        (fresh Sample.damagedCache Sample.connection) = .ok () p ∧
      ∀ messages : List Response,
        (∀ message, message ∈ messages ↔ message ∈ answersOf sampleSource Sample.blocks p.sent) →
          (messages.foldl handleResponseMessageReceivedEvent p).isCompleted = true ∧
            (messages.foldl handleResponseMessageReceivedEvent p).getInputStream =
              .ok sampleSource.content :=
  haveI := Sample.lawfulBase16OfLetters
  getInputStream_eq_content Sample.iteration (fun n => n) (by decide) rfl (by decide)
    sha256_injOn_sample

end Sample

end Bep

end ASync
