import Mathlib
import ASync.Common.Threads
import ASync.Bep.Download
import ASync.Bep.Model.FileDownload
/-!
# When a download is complete

A response's hash leaves the missing ones before its data is put, and
completion is that no hash is missing. As long as nobody closes the
download, what `isCompleted` says is short of the truth by at most the
one block a handler holds in its hands, and a stream is the whole file
(`completed_iff`). `close` empties the missing hashes too, so a download
closed before it was complete says that it is.
-/

namespace ASync

namespace Bep

open ASync.Core BlockExchageProtos Effect

section FileDownload

variable [Guava] {fileBlocks : FileBlocks} {d d' : FileDownload} {es : List DownloadEvent}
variable {p p' : BlockPuller} {i : ℕ} {message : Response}

/-! ## What `pullBlocks` returns with -/

namespace BlockPuller

/-- No missing hash is found already. -/
def Apart (p : BlockPuller) : Prop :=
  ∀ hash ∈ p.missingHashes, p.blocksByHash.find hash = none

omit [Guava] in
theorem Apart.found {hash : String} {data : Bytes} (h : Apart p)
    (hmiss : p'.missingHashes = p.missingHashes.erase hash)
    (hblocks : p'.blocksByHash = p.blocksByHash.merge hash data) : Apart p' := by
  intro hash' hmem
  rw [hmiss] at hmem
  rw [hblocks, Table.find_merge_of_ne (Finset.ne_of_mem_erase hmem)]
  exact h hash' (Finset.mem_of_mem_erase hmem)

theorem Apart.lookedUp {hash : String} (h : Apart p) : Apart (p.lookedUp hash) := by
  rw [BlockPuller.lookedUp]
  split
  · exact h.found rfl rfl
  · exact h

/-- Nothing is missing that was found in the cache. -/
theorem apart_of_pullBlocks {iteration : Iteration} {random : ℕ → ℤ} {blockCache : BlockCache}
    {connectionHandler : Connection}
    (h : (pullBlocks iteration random fileBlocks).run (fresh blockCache connectionHandler) =
      .ok () p) : Apart p := by
  refine pullBlocks_induction (J := Apart) (I := fun _ q => Apart q) h
    (fun hash _ => Table.find_empty hash)
    (fun hash _ q hq => hq.lookedUp) (fun q hq => hq) fun done block q q' _ hq hrun => ?_
  obtain ⟨_, rfl⟩ | ⟨id, bytes, _, rfl⟩ := requestBlock_eq_ok hrun
  · exact hq
  · exact hq

/-! ## One response -/

/-- **What a handler does first**: it removes a missing hash, or fails, or
ends, and then the download is as it was. -/
theorem receive_cases (p : BlockPuller) (message : Response) :
    (sha256Hex message.data ∈ p.missingHashes ∧
      ∃ cache, p.receive message =
        ({ p with
           blockCache := cache
           missingHashes := p.missingHashes.erase (sha256Hex message.data) },
          .removed (sha256Hex message.data) message.data)) ∨
    (∃ ex, p.receive message = ({ p with error := some ex }, .failed)) ∨
    ∃ cache, p.receive message = ({ p with blockCache := cache }, .finished) := by
  rw [receive]
  split
  · exact .inr (.inr ⟨p.blockCache, rfl⟩)
  · split
    · next ex _ => exact .inr (.inl ⟨ex, rfl⟩)
    · by_cases hmiss : sha256Hex message.data ∈ p.missingHashes
      · exact .inl ⟨hmiss, _, if_pos hmiss⟩
      · exact .inr (.inr ⟨_, if_neg hmiss⟩)

/-- What a handler is about to put. -/
def toPut : ResponsePhase → Option (String × Bytes)
  | .removed hash data => some (hash, data)
  | _ => none

/-- A response taken by a listener is received as here, and its data put
next. -/
theorem takeResponse_eq_receive (hlistening : p.listening = true) :
    p.takeResponse message = ((p.receive message).1, toPut (p.receive message).2) := by
  rw [takeResponse, receive]
  by_cases hid : message.id ∉ p.requestIds
  · rw [if_pos (.inr hid), if_pos hid]
    rfl
  · rw [if_neg (by simp [hlistening, not_not.1 hid]), if_neg hid]
    generalize checkArgument _ _ = checked
    cases checked with
    | error ex => rfl
    | ok _ =>
      by_cases hmiss : sha256Hex message.data ∈ p.missingHashes
      · simp only [if_pos hmiss, toPut]
      · simp only [if_neg hmiss, toPut]

end BlockPuller

/-! ## The invariant -/

/-- **What a download keeps** while nobody closes it: the blocks found
are those asked for, every hash asked for is missing, found or in the
hands of a handler, in one of the three, and one handler at a time is
under the lock. -/
structure Downloading (fileBlocks : FileBlocks) (d : FileDownload) : Prop where
  download : BlockPuller.Download fileBlocks.blocks Set.univ d.puller
  accounted : ∀ hash ∈ d.puller.hashList, hash ∈ d.puller.missingHashes ∨
    (d.puller.blocksByHash.find hash).isSome ∨
    ∃ handler ∈ d.handlers, ∃ data, handler.phase = .removed hash data
  mem_hashList : ∀ hash ∈ d.puller.missingHashes, hash ∈ d.puller.hashList
  apart : BlockPuller.Apart d.puller
  removed : ∀ handler ∈ d.handlers, ∀ hash data, handler.phase = .removed hash data →
    hash ∈ d.puller.hashList ∧ sha256Hex data = hash ∧ hash ∉ d.puller.missingHashes ∧
      d.puller.blocksByHash.find hash = none
  exclusive : Threads.AtMostOne (fun handler : ResponseHandler => handler.phase.locking = true)
    d.handlers

theorem Downloading.start {iteration : Iteration} {random : ℕ → ℤ} {blockCache : BlockCache}
    {connectionHandler : Connection}
    (h : (BlockPuller.pullBlocks iteration random fileBlocks).run
      (BlockPuller.fresh blockCache connectionHandler) = .ok () p) :
    Downloading fileBlocks { puller := p } := by
  have hpulled := BlockPuller.pullBlocks_eq_ok (Set.subset_univ _) h
  refine ⟨hpulled.toDownload, ?_, hpulled.covered.mem_hashList, BlockPuller.apart_of_pullBlocks h,
    nofun, Threads.AtMostOne.nil⟩
  intro hash hmem
  rcases hpulled.covered.missing_or_found hash hmem with hmiss | hfound
  · exact .inl hmiss
  · exact .inr (.inl hfound)

omit [Guava] in
theorem not_locking_of_not_locked (h : d.locked = false) :
    ∀ handler ∈ d.handlers, ¬ handler.phase.locking = true := by
  intro handler hmem hlocking
  have hany : d.locked = true := List.any_eq_true.2 ⟨handler, hmem, hlocking⟩
  rw [h] at hany
  cases hany

omit [Guava] in
theorem locking_of_removed {phase : ResponsePhase} {hash : String} {data : Bytes}
    (h : phase = .removed hash data) : phase.locking = true ∧ phase.removing = true := by
  rw [h]
  exact ⟨rfl, rfl⟩

/-- A handler that holds nothing moves to a place where it holds nothing,
and the puller's collections stay. -/
theorem Downloading.move {handler : ResponseHandler} {phase : ResponsePhase}
    (h : Downloading fileBlocks d) (hi : d.handlers[i]? = some handler)
    (hhandlers : d'.handlers = d.handlers.set i ⟨message, phase⟩)
    (hlist : d'.puller.hashList = d.puller.hashList)
    (hmiss : d'.puller.missingHashes = d.puller.missingHashes)
    (hfound : d'.puller.blocksByHash = d.puller.blocksByHash)
    (hbefore : handler.phase.removing = false) (hafter : phase.removing = false)
    (hlock : handler.phase.locking = true ∨ ¬ phase.locking = true ∨
      ∀ handler ∈ d.handlers, ¬ handler.phase.locking = true) : Downloading fileBlocks d' := by
  have hremoved : ∀ hash data, handler.phase ≠ .removed hash data := by
    intro hash data heq
    rw [heq] at hbefore
    cases hbefore
  refine ⟨⟨hlist.trans h.download.hashList_eq, ?_⟩, ?_, ?_, ?_, ?_, ?_⟩
  · intro hash data hfind
    rw [hfound] at hfind
    exact h.download.found hfind
  · intro hash hmem
    rw [hlist] at hmem
    rw [hmiss, hfound, hhandlers]
    rcases h.accounted hash hmem with hm | hf | hholds
    · exact .inl hm
    · exact .inr (.inl hf)
    · refine .inr (.inr (Threads.exists_mem_set_of_not hi ?_ hholds _))
      rintro ⟨data, heq⟩
      exact hremoved hash data heq
  · rw [hlist, hmiss]
    exact h.mem_hashList
  · intro hash hm
    rw [hmiss] at hm
    rw [hfound]
    exact h.apart hash hm
  · rw [hhandlers, hlist, hmiss, hfound]
    refine Threads.forall_mem_set h.removed ?_
    rintro hash data rfl
    cases hafter
  · rw [hhandlers]
    exact h.exclusive.set hi hlock

/-- A missing hash is taken into a handler's hands. -/
theorem Downloading.remove {handler : ResponseHandler} {hash : String} {data : Bytes}
    (h : Downloading fileBlocks d) (hi : d.handlers[i]? = some handler)
    (hlock : d.locked = false)
    (hmem : hash ∈ d.puller.missingHashes) (hdata : sha256Hex data = hash)
    (hhandlers : d'.handlers = d.handlers.set i ⟨message, .removed hash data⟩)
    (hlist : d'.puller.hashList = d.puller.hashList)
    (hmiss : d'.puller.missingHashes = d.puller.missingHashes.erase hash)
    (hfound : d'.puller.blocksByHash = d.puller.blocksByHash) : Downloading fileBlocks d' := by
  have hfree := not_locking_of_not_locked hlock
  refine ⟨⟨hlist.trans h.download.hashList_eq, ?_⟩, ?_, ?_, ?_, ?_, ?_⟩
  · intro hash' data' hfind
    rw [hfound] at hfind
    exact h.download.found hfind
  · intro hash' hmem'
    rw [hlist] at hmem'
    rw [hmiss, hfound, hhandlers]
    by_cases heq : hash' = hash
    · exact .inr (.inr (Threads.exists_mem_set_self hi ⟨data, by rw [heq]⟩))
    · rcases h.accounted hash' hmem' with hm | hf | ⟨other, hother, data', hphase⟩
      · exact .inl (Finset.mem_erase.2 ⟨heq, hm⟩)
      · exact .inr (.inl hf)
      · exact absurd (locking_of_removed hphase).1 (hfree other hother)
  · intro hash' hm
    rw [hmiss] at hm
    rw [hlist]
    exact h.mem_hashList hash' (Finset.mem_of_mem_erase hm)
  · intro hash' hm
    rw [hmiss] at hm
    rw [hfound]
    exact h.apart hash' (Finset.mem_of_mem_erase hm)
  · rw [hhandlers, hlist, hmiss, hfound]
    refine Threads.forall_mem_set ?_ ?_
    · intro other hother hash' data' hphase
      exact absurd (locking_of_removed hphase).1 (hfree other hother)
    · intro hash' data' hphase
      cases hphase
      exact ⟨h.mem_hashList hash hmem, hdata, Finset.notMem_erase hash _, h.apart hash hmem⟩
  · rw [hhandlers]
    exact h.exclusive.set hi (.inr (.inr hfree))

/-- What a handler holds is put. -/
theorem Downloading.put {handler : ResponseHandler} {hash : String} {data : Bytes}
    (h : Downloading fileBlocks d) (hi : d.handlers[i]? = some handler)
    (hbefore : handler.phase = .removed hash data)
    (hhandlers : d'.handlers = d.handlers.set i ⟨message, .stored⟩)
    (hlist : d'.puller.hashList = d.puller.hashList)
    (hmiss : d'.puller.missingHashes = d.puller.missingHashes)
    (hfound : d'.puller.blocksByHash = d.puller.blocksByHash.merge hash data) :
    Downloading fileBlocks d' := by
  have hlocking : handler.phase.locking = true := (locking_of_removed hbefore).1
  obtain ⟨_, hdata, hnot, _⟩ := h.removed handler (List.mem_of_getElem? hi) hash data hbefore
  -- no other handler holds anything
  have hnone : ∀ other ∈ d.handlers.set i ⟨message, .stored⟩, ¬ other.phase.removing = true := by
    refine (h.exclusive.mono ?_).not_of_mem_set hi (locking_of_removed hbefore).2
      Bool.false_ne_true
    intro other hremoving
    cases hphase : other.phase with
    | removed hash data => rfl
    | delivered | stored | failed | finished =>
      rw [hphase] at hremoving
      cases hremoving
  refine ⟨⟨hlist.trans h.download.hashList_eq, ?_⟩, ?_, ?_, ?_, ?_, ?_⟩
  · intro hash' data' hfind
    rw [hfound, Table.find_merge] at hfind
    split at hfind
    · next heq =>
      cases hfind
      exact ⟨hdata.trans heq.symm, Set.mem_univ _⟩
    · exact h.download.found hfind
  · intro hash' hmem
    rw [hlist] at hmem
    rw [hmiss, hfound, Table.find_merge]
    by_cases heq : hash' = hash
    · exact .inr (.inl (by rw [if_pos heq]; rfl))
    · rw [if_neg heq]
      rcases h.accounted hash' hmem with hm | hf | ⟨other, hother, data', hphase⟩
      · exact .inl hm
      · exact .inr (.inl hf)
      · obtain ⟨j, hj⟩ := List.getElem?_of_mem hother
        have hij := h.exclusive i j handler other hi hj hlocking
          (locking_of_removed hphase).1
        subst hij
        rw [hi] at hj
        cases hj
        rw [hbefore] at hphase
        cases hphase
        exact absurd rfl heq
  · rw [hlist, hmiss]
    exact h.mem_hashList
  · intro hash' hm
    rw [hmiss] at hm
    have hne : hash' ≠ hash := by
      rintro rfl
      exact hnot hm
    rw [hfound, Table.find_merge_of_ne hne]
    exact h.apart hash' hm
  · rw [hhandlers]
    intro other hother hash' data' hphase
    exact absurd (locking_of_removed hphase).2 (hnone other hother)
  · rw [hhandlers]
    exact h.exclusive.set hi (.inl hlocking)

/-- Where no block is asked for, nothing is ever held. -/
theorem Downloading.of_nil (hnil : fileBlocks.blocks = []) (h : Downloading fileBlocks d)
    (hhandlers : d'.handlers = d.handlers) (hlist : d'.puller.hashList = [])
    (hmiss : d'.puller.missingHashes = ∅)
    (hfound : ∀ hash data, d'.puller.blocksByHash.find hash = some data →
      d.puller.blocksByHash.find hash = some data) : Downloading fileBlocks d' := by
  have hempty : d.puller.hashList = [] := by
    rw [h.download.hashList_eq, hnil]
    rfl
  refine ⟨⟨by rw [hlist, hnil]; rfl, ?_⟩, ?_, ?_, ?_, ?_, ?_⟩
  · intro hash data hfind
    exact h.download.found (hfound hash data hfind)
  · intro hash hmem
    rw [hlist] at hmem
    cases hmem
  · intro hash hm
    rw [hmiss] at hm
    exact absurd hm (Finset.notMem_empty hash)
  · intro hash hm
    rw [hmiss] at hm
    exact absurd hm (Finset.notMem_empty hash)
  · intro handler hhandler hash data hphase
    rw [hhandlers] at hhandler
    have hmem := (h.removed handler hhandler hash data hphase).1
    rw [hempty] at hmem
    cases hmem
  · rw [hhandlers]
    exact h.exclusive

/-! ## The run -/

/-- The steps allowed: no thread gets on in `close`, unless the file has
no blocks. -/
def mayClose (fileBlocks : FileBlocks) : DownloadEvent → Bool
  | .closing _ => fileBlocks.blocks.isEmpty
  | _ => true

/-- A handler's step. -/
theorem Downloading.handlerStep {handler : ResponseHandler} (h : Downloading fileBlocks d)
    (hi : d.handlers[i]? = some handler)
    (hstep : d.handlerStep i handler.message handler.phase = some d') :
    Downloading fileBlocks d' := by
  obtain ⟨message, phase⟩ := handler
  cases phase with
  | delivered =>
    change (if d.locked then none else some _) = some d' at hstep
    split at hstep
    · cases hstep
    · next hlocked =>
      have hlock : d.locked = false := Bool.eq_false_iff.2 hlocked
      rcases d.puller.receive_cases message with
        ⟨hmem, cache, heq⟩ | ⟨ex, heq⟩ | ⟨cache, heq⟩
      · rw [heq] at hstep
        cases hstep
        exact h.remove hi hlock hmem rfl rfl rfl rfl rfl
      · rw [heq] at hstep
        cases hstep
        exact h.move hi rfl rfl rfl rfl rfl rfl (.inr (.inr (not_locking_of_not_locked hlock)))
      · rw [heq] at hstep
        cases hstep
        exact h.move hi rfl rfl rfl rfl rfl rfl (.inr (.inl Bool.false_ne_true))
  | removed hash data =>
    cases hstep
    exact h.put hi rfl rfl rfl rfl rfl
  | stored =>
    cases hstep
    exact h.move hi rfl rfl rfl rfl rfl rfl (.inl rfl)
  | failed =>
    cases hstep
    exact h.move hi rfl rfl rfl rfl rfl rfl (.inl rfl)
  | finished => cases hstep

omit [Guava] in
theorem waiterStep_eq (h : d.waiterStep = some d') : ∃ waiter, d' = { d with waiter } := by
  unfold FileDownload.waiterStep at h
  split at h
  · cases h
    exact ⟨_, rfl⟩
  · cases h
    exact ⟨_, rfl⟩
  · cases h
    exact ⟨_, rfl⟩
  · split at h
    · cases h
    · split at h
      · cases h
        exact ⟨_, rfl⟩
      · cases h
        exact ⟨_, rfl⟩
  · split at h
    · cases h
    · split at h
      · cases h
        exact ⟨_, rfl⟩
      · cases h
        exact ⟨_, rfl⟩
  · cases h

theorem downloading_of_run
    (hrun : (FileDownload.downloads fileBlocks).Run (fun _ _ e => mayClose fileBlocks e = true)
      es d) : Downloading fileBlocks d := by
  refine hrun.invariant (I := fun _ d => Downloading fileBlocks d) ?_ ?_
  · rintro d ⟨iteration, random, blockCache, connectionHandler, p, hpull, rfl⟩
    exact Downloading.start hpull
  · intro es d e d' _ h hok hstep
    change d.step e = some d' at hstep
    cases e with
    | deliver message =>
      cases hstep
      refine ⟨h.download, ?_, h.mem_hashList, h.apart, ?_, h.exclusive.append Bool.false_ne_true⟩
      · intro hash hmem
        refine (h.accounted hash hmem).imp_right (Or.imp_right ?_)
        rintro ⟨handler, hhandler, hholds⟩
        exact ⟨handler, List.mem_append_left _ hhandler, hholds⟩
      · intro handler hhandler hash data hphase
        rcases List.mem_append.1 hhandler with hold | hnew
        · exact h.removed handler hold hash data hphase
        · rw [List.mem_singleton.1 hnew] at hphase
          cases hphase
    | handle i =>
      obtain ⟨handler, hi, hstep⟩ := Option.bind_eq_some_iff.1 hstep
      exact h.handlerStep hi hstep
    | close =>
      cases hstep
      exact ⟨h.download, h.accounted, h.mem_hashList, h.apart, h.removed, h.exclusive⟩
    | closing i =>
      -- only a download of no blocks may be closed
      have hnil : fileBlocks.blocks = [] := List.isEmpty_iff.1 hok
      have hlist : d.puller.hashList = [] := by
        rw [h.download.hashList_eq, hnil]
        rfl
      have hmiss : d.puller.missingHashes = ∅ := by
        refine Finset.eq_empty_of_forall_notMem fun hash hm => ?_
        have hmem := h.mem_hashList hash hm
        rw [hlist] at hmem
        cases hmem
      obtain ⟨phase, _, hstep⟩ := Option.bind_eq_some_iff.1 hstep
      cases phase with
      | called =>
        cases hstep
        exact h.of_nil hnil rfl hlist rfl fun _ _ hfind => hfind
      | missingHashesCleared =>
        cases hstep
        exact h.of_nil hnil rfl rfl hmiss fun _ _ hfind => hfind
      | hashListCleared =>
        cases hstep
        refine h.of_nil hnil rfl hlist hmiss fun hash data hfind => ?_
        cases (Table.find_empty hash).symm.trans hfind
      | blocksByHashCleared =>
        cases hstep
        exact h.of_nil hnil rfl hlist hmiss fun _ _ hfind => hfind
      | finished => cases hstep
    | wait =>
      obtain ⟨waiter, rfl⟩ := waiterStep_eq hstep
      exact ⟨h.download, h.accounted, h.mem_hashList, h.apart, h.removed, h.exclusive⟩

/-- **A complete download has its data**, unless somebody closes it. A
stream is the whole file wherever there is one; and where `isCompleted`
answers true, the data of every block is there exactly when no handler
stands between removing a hash and putting its data. -/
theorem completed_iff
    (hrun : (FileDownload.downloads fileBlocks).Run (fun _ _ e => mayClose fileBlocks e = true)
      es d) :
    (∀ stream, d.puller.getInputStream = .ok stream →
      ∃ datas : List Bytes, stream = datas.flatten ∧
        datas.map sha256Hex = fileBlocks.blocks.map (·.hash)) ∧
    (d.puller.isCompleted = true →
      ((∀ block ∈ fileBlocks.blocks, ∃ data,
          d.puller.blocksByHash.find block.hash = some data ∧ sha256Hex data = block.hash) ↔
        ∀ handler ∈ d.handlers, handler.phase.removing = false)) := by
  have h := downloading_of_run hrun
  refine ⟨?_, ?_⟩
  · intro stream hstream
    obtain ⟨datas, hflat, hhashes, _⟩ := h.download.getInputStream hstream
    exact ⟨datas, hflat, hhashes⟩
  · intro hcompleted
    have hmiss : d.puller.missingHashes = ∅ := of_decide_eq_true hcompleted
    have hlist : ∀ block ∈ fileBlocks.blocks, block.hash ∈ d.puller.hashList := by
      intro block hblock
      rw [h.download.hashList_eq]
      exact List.mem_map_of_mem hblock
    constructor
    · intro hall handler hhandler
      cases hphase : handler.phase with
      | removed hash data =>
        -- its hash is one of the file's, and has no data yet
        obtain ⟨hmem, _, _, hnone⟩ := h.removed handler hhandler hash data hphase
        rw [h.download.hashList_eq] at hmem
        obtain ⟨block, hblock, rfl⟩ := List.mem_map.1 hmem
        obtain ⟨data', hfind, _⟩ := hall block hblock
        rw [hnone] at hfind
        cases hfind
      | delivered | stored | failed | finished => rfl
    · intro hnone block hblock
      rcases h.accounted block.hash (hlist block hblock)
        with hm | hf | ⟨handler, hhandler, data, hphase⟩
      · rw [hmiss] at hm
        exact absurd hm (Finset.notMem_empty _)
      · obtain ⟨data, hfind⟩ := Option.isSome_iff_exists.1 hf
        exact ⟨data, hfind, (h.download.found hfind).1⟩
      · have hremoving := (locking_of_removed hphase).2
        rw [hnone handler hhandler] at hremoving
        cases hremoving

end FileDownload

section Sample

open BlockPuller

attribute [local instance] Sample.guavaOfLetters

/-- The download of the sample file. -/
def Sample.download : FileDownload := { puller := samplePuller }

/-- A test of the steps of a run. -/
def Sample.replay (test : FileDownload → DownloadEvent → Bool) (es : List DownloadEvent) :
    Option FileDownload :=
  es.foldlM (fun d e => if test d e then d.step e else none) Sample.download

theorem Sample.start_download :
    (FileDownload.downloads Sample.blocks).start Sample.download :=
  ⟨Sample.iteration, fun n => n, Sample.damagedCache, Sample.connection, samplePuller,
    run_samplePuller, rfl⟩

/-- Both blocks arrive, one handler after the other. -/
def Sample.receivedEvents : List DownloadEvent :=
  [.deliver ⟨0, [0x61], .NO_ERROR⟩, .deliver ⟨1, [0x62], .NO_ERROR⟩, .handle 1,
    .handle 1, .handle 1,
    .handle 0, .handle 0, .handle 0]

theorem completed_iff_sample : ∃ d, (FileDownload.downloads Sample.blocks).Run
      (fun _ _ e => mayClose Sample.blocks e = true) Sample.receivedEvents d ∧
    d.puller.isCompleted = true ∧
    (∀ stream, d.puller.getInputStream = .ok stream →
      ∃ datas : List Bytes, stream = datas.flatten ∧
        datas.map sha256Hex = Sample.blocks.blocks.map (·.hash)) ∧
    ((∀ block ∈ Sample.blocks.blocks, ∃ data,
        d.puller.blocksByHash.find block.hash = some data ∧ sha256Hex data = block.hash) ↔
      ∀ handler ∈ d.handlers, handler.phase.removing = false) := by
  have hany : (Sample.replay (fun _ e => mayClose Sample.blocks e) Sample.receivedEvents).any
      (fun d => d.puller.isCompleted) = true := by decide +kernel
  obtain ⟨d, hsteps, hcompleted⟩ := Machine.exists_run_of_foldlM Sample.start_download
    (fun _ _ _ hstep => hstep) hany
  obtain ⟨hstream, hiff⟩ := completed_iff hsteps
  exact ⟨d, hsteps, hcompleted, hstream, hiff hcompleted⟩

/-- Nobody answers, and a thread closes the download. -/
def Sample.closedEvents : List DownloadEvent :=
  [.close, .closing 0, .closing 0, .closing 0, .closing 0]

/-- The last block is removed from the missing ones. -/
def Sample.windowEvents : List DownloadEvent :=
  [.deliver ⟨0, [0x61], .NO_ERROR⟩, .deliver ⟨1, [0x62], .NO_ERROR⟩, .handle 1,
    .handle 1, .handle 1,
    .handle 0]

/-- A download that is closed before any block arrived is complete, with
an empty file; and one whose last block is about to be put is complete
without it. -/
theorem completed_without_data :
    (∃ d, (FileDownload.downloads Sample.blocks).Reaches Sample.closedEvents d ∧
      d.puller.isCompleted = true ∧ d.puller.getInputStream = .ok [] ∧
      Sample.blocks.blocks.length = 2) ∧
    ∃ d, (FileDownload.downloads Sample.blocks).Reaches Sample.windowEvents d ∧
      d.puller.isCompleted = true ∧ d.puller.getInputStream.isOk = false := by
  have hclosed : (Sample.replay (fun _ _ => true) Sample.closedEvents).any (fun d =>
      decide (d.puller.isCompleted = true ∧ d.puller.getInputStream = .ok [] ∧
        Sample.blocks.blocks.length = 2)) = true := by decide +kernel
  have hwindow : (Sample.replay (fun _ _ => true) Sample.windowEvents).any (fun d =>
      decide (d.puller.isCompleted = true ∧ d.puller.getInputStream.isOk = false)) = true := by
    decide +kernel
  obtain ⟨d, hsteps, hlast⟩ := Machine.exists_run_of_foldlM Sample.start_download
    (fun _ _ _ hstep => hstep) hclosed
  obtain ⟨d', hsteps', hlast'⟩ := Machine.exists_run_of_foldlM Sample.start_download
    (fun _ _ _ hstep => hstep) hwindow
  exact ⟨⟨d, hsteps.reaches, of_decide_eq_true hlast⟩, d', hsteps'.reaches,
    of_decide_eq_true hlast'⟩

end Sample

end Bep

end ASync
