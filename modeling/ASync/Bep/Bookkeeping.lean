import Mathlib
import ASync.Core.Helpers.Sample
import ASync.Bep.Helpers.Messages
/-!
# Sequence bookkeeping across index ids

What a device has told of a folder — an index id with a greatest
sequence, or records — reaches one row of `folder_index_info`. The row
is compared here with the notes since its index id was first announced.
A change of id keeps both sequences of the old index, so the comparison
needs a condition on the announcements (`Consistent`).
-/

namespace ASync

namespace Bep

open ASync.Core Repository BlockExchageProtos Effect

/-! ## The notes of an index id -/

section Notes

variable {device folder : String} {notes rest : List Note} {id : ℤ} {info : IndexInfo}

/-- The values announced together with an index id. -/
def announcedWith (id : ℤ) (notes : List Note) : List ℤ :=
  notes.filterMap fun note =>
    match note with
    | .announced indexId maxSequence => if indexId = id then some maxSequence else none
    | .received _ => none

/-- The sequences of the records received. -/
def sequences (notes : List Note) : List ℤ :=
  notes.flatMap fun note =>
    match note with
    | .announced _ _ => []
    | .received files => files.map BlockExchageProtos.FileInfo.sequence

/-- The sequences of the records received since an index id was first
announced. -/
def receivedSince (id : ℤ) : List Note → List ℤ
  | [] => []
  | .announced indexId _ :: notes =>
    if indexId = id then sequences notes else receivedSince id notes
  | .received _ :: notes => receivedSince id notes

/-- The greatest of some sequences, or zero. -/
def greatest (sequences : List ℤ) : ℤ := sequences.foldl max 0

/-- The condition an announcement meets: the first does not announce less
than -1, and one that changes the index id comes before any record of the
old index, or returns to an id announced before, and does not announce
less than the old index did, or has done so for that id already. -/
def Consistent (device folder : String) (before : List Note) : Note → Prop
  | .received _ => True
  | .announced id m =>
    match storedBy device folder before with
    | none => -1 ≤ m
    | some info => info.indexId = id ∨
        (announcedWith id before ≠ [] ∨ info.localSequence ≤ 0) ∧
          (info.maxSequence ≤ m ∨ ∃ m' ∈ announcedWith id before, info.maxSequence ≤ m')

/-- Every announcement among some further notes meets the condition. -/
def ConsistentFrom (device folder : String) : List Note → List Note → Prop
  | _, [] => True
  | before, note :: rest =>
    Consistent device folder before note ∧ ConsistentFrom device folder (before ++ [note]) rest

/-- What was announced with an id, in two parts. -/
theorem announcedWith_append : announcedWith id (notes ++ rest) =
    announcedWith id notes ++ announcedWith id rest := List.filterMap_append

/-- The sequences of the records received, in two parts. -/
theorem sequences_append : sequences (notes ++ rest) = sequences notes ++ sequences rest :=
  List.flatMap_append

/-- Once an id is announced, what is received since only grows. -/
theorem receivedSince_append (h : announcedWith id notes ≠ []) :
    receivedSince id (notes ++ rest) = receivedSince id notes ++ sequences rest := by
  induction notes with
  | nil => exact absurd rfl h
  | cons note notes ih =>
    cases note with
    | received files => exact ih h
    | announced indexId m =>
      rw [List.cons_append, receivedSince, receivedSince]
      by_cases hid : indexId = id
      · rw [if_pos hid, if_pos hid, sequences_append]
      · rw [if_neg hid, if_neg hid]
        refine ih fun h' => h ?_
        rw [announcedWith, List.filterMap_cons_none (by exact if_neg hid)]
        exact h'

/-- A running maximum is not below where it began. -/
theorem le_foldl_max (l : List ℤ) (a : ℤ) : a ≤ l.foldl max a := by
  induction l generalizing a with
  | nil => exact le_refl a
  | cons b l ih => exact (le_max_left a b).trans (ih _)

/-- The greatest sequence is not negative. -/
theorem zero_le_greatest (l : List ℤ) : 0 ≤ greatest l := le_foldl_max l 0

/-- The greatest of two parts goes on from the greatest of the first. -/
theorem greatest_append (l l' : List ℤ) : greatest (l ++ l') = l'.foldl max (greatest l) :=
  List.foldl_append

/-- A running maximum may take a number in before or after the others. -/
theorem foldl_max_eq (l : List ℤ) (a b : ℤ) : l.foldl max (max a b) = max a (l.foldl max b) := by
  induction l generalizing b with
  | nil => rfl
  | cons c l ih => rw [List.foldl_cons, List.foldl_cons, max_assoc, ih]

/-- The handler's loop is a running maximum. -/
theorem maxSequence_eq (files : List BlockExchageProtos.FileInfo) (a : ℤ) :
    maxSequence files a = (files.map BlockExchageProtos.FileInfo.sequence).foldl max a := by
  rw [maxSequence, List.foldl_map]
  simp only [max_comm]

/-- One more note is one more step. -/
theorem storedBy_append_singleton (note : Note) :
    storedBy device folder (notes ++ [note]) =
      noteStep device folder (storedBy device folder notes) note := by
  rw [storedBy, List.foldl_append]
  rfl

/-- The stored index info belongs to its index id: its greatest sequence
is the greatest announced with it — and no other announcement exceeded
it — and its local sequence has been received since. -/
structure Belongs (device folder : String) (notes : List Note) : Prop where
  unannounced : storedBy device folder notes = none → ∀ id, announcedWith id notes = []
  maximum : ∀ info, storedBy device folder notes = some info →
    (announcedWith info.indexId notes).maximum = (info.maxSequence : ℤ)
  le_max : ∀ info, storedBy device folder notes = some info →
    ∀ id, ∀ m ∈ announcedWith id notes, m ≤ info.maxSequence
  received : ∀ info, storedBy device folder notes = some info → ∀ id, announcedWith id notes ≠ [] →
    info.localSequence ≤ greatest (receivedSince id notes)

/-- Nothing is stored before anything is announced. -/
theorem Belongs.nil : Belongs device folder [] where
  unannounced _ _ := rfl
  maximum _ h := by cases h
  le_max _ h := by cases h
  received _ h := by cases h

/-- A message of records announces nothing. -/
theorem announcedWith_received (files : List BlockExchageProtos.FileInfo) :
    announcedWith id (notes ++ [.received files]) = announcedWith id notes := by
  rw [announcedWith_append]
  exact List.append_nil _

/-- Records move the local sequence, and stay within what was received. -/
theorem Belongs.received_step (h : Belongs device folder notes)
    (files : List BlockExchageProtos.FileInfo) :
    Belongs device folder (notes ++ [.received files]) := by
  cases hs : storedBy device folder notes with
  | none =>
    have hnone : storedBy device folder (notes ++ [.received files]) = none := by
      rw [storedBy_append_singleton, hs]
      rfl
    refine ⟨fun _ id => ?_, fun info h' => ?_, fun info h' => ?_, fun info h' => ?_⟩
    · rw [announcedWith_received]
      exact h.unannounced hs id
    all_goals
      rw [hnone] at h'
      cases h'
  | some old =>
    have hsome : storedBy device folder (notes ++ [.received files]) =
        some { old with localSequence := max old.localSequence (maxSequence files (-1)) } := by
      rw [storedBy_append_singleton, hs, noteStep, nextIndexInfo, changeIndexInfo_fst]
      simp
    refine ⟨fun h' => ?_, fun info h' => ?_, fun info h' => ?_, fun info h' => ?_⟩
    · rw [hsome] at h'
      cases h'
    all_goals
      rw [hsome] at h'
      cases h'
      try intro id
      rw [announcedWith_received]
    · exact h.maximum old hs
    · exact h.le_max old hs id
    · intro hid
      have hold := h.received old hs id hid
      have hseq : sequences [.received files] =
          files.map BlockExchageProtos.FileInfo.sequence := List.append_nil _
      rw [receivedSince_append hid, hseq, greatest_append, maxSequence_eq]
      refine max_le (hold.trans (le_foldl_max _ _)) ?_
      have hzero := zero_le_greatest (receivedSince id notes)
      rw [← max_eq_left (show (-1 : ℤ) ≤ greatest (receivedSince id notes) by omega),
        foldl_max_eq]
      exact le_max_right _ _

/-! ### An announcement -/

/-- An announcement counts for its id. -/
theorem announcedWith_announced (id m : ℤ) :
    announcedWith id (notes ++ [.announced id m]) = announcedWith id notes ++ [m] := by
  rw [announcedWith_append]
  congr 1
  exact List.filterMap_cons_some (if_pos rfl)

/-- An announcement counts for no other id. -/
theorem announcedWith_announced_of_ne {id' m : ℤ} (hne : id ≠ id') :
    announcedWith id' (notes ++ [.announced id m]) = announcedWith id' notes := by
  have hnil : announcedWith id' [.announced id m] = [] := List.filterMap_cons_none (if_neg hne)
  rw [announcedWith_append, hnil, List.append_nil]

/-- An announcement receives nothing. -/
theorem receivedSince_announced {id' m : ℤ} (hid : announcedWith id' notes ≠ []) :
    receivedSince id' (notes ++ [.announced id m]) = receivedSince id' notes := by
  rw [receivedSince_append hid]
  exact List.append_nil _

/-- The first announcement is stored as it is. -/
theorem storedBy_announced_of_none {m : ℤ} (hs : storedBy device folder notes = none)
    (hm : -1 ≤ m) :
    storedBy device folder (notes ++ [.announced id m]) = some ⟨folder, device, id, 0, m⟩ := by
  rw [storedBy_append_singleton, hs, noteStep, nextIndexInfo, changeIndexInfo_fst]
  simp [max_eq_right hm]

/-- A change of the index id keeps both sequences. -/
theorem storedBy_announced {m : ℤ} (hs : storedBy device folder notes = some info) :
    storedBy device folder (notes ++ [.announced id m]) =
      some { info with indexId := id, maxSequence := max info.maxSequence m } := by
  rw [storedBy_append_singleton, hs, noteStep, nextIndexInfo, changeIndexInfo_fst]
  simp

/-- The first announcement. -/
theorem Belongs.announced_first {m : ℤ} (h : Belongs device folder notes)
    (hs : storedBy device folder notes = none) (hm : -1 ≤ m) :
    Belongs device folder (notes ++ [.announced id m]) := by
  have hsome : storedBy device folder (notes ++ [.announced id m]) =
      some ⟨folder, device, id, 0, m⟩ := storedBy_announced_of_none hs hm
  refine ⟨fun h' => ?_, fun info h' => ?_, fun info h' => ?_, fun info h' => ?_⟩
  · rw [hsome] at h'
    cases h'
  all_goals
    rw [hsome] at h'
    cases h'
  · rw [announcedWith_announced, h.unannounced hs id]
    rfl
  · intro id' m' hm'
    by_cases hid : id = id'
    · rw [← hid, announcedWith_announced, h.unannounced hs id] at hm'
      exact (List.mem_singleton.1 hm').le
    · rw [announcedWith_announced_of_ne hid, h.unannounced hs id'] at hm'
      cases hm'
  · intro id' _
    exact zero_le_greatest _

/-- **The greatest value announced with the id** is that of both indexes,
where the new index does not announce less. -/
theorem Belongs.maximum_announced {m : ℤ} (h : Belongs device folder notes)
    (hs : storedBy device folder notes = some info)
    (hc : info.indexId = id ∨ info.maxSequence ≤ m ∨
      ∃ m' ∈ announcedWith id notes, info.maxSequence ≤ m') :
    (announcedWith id (notes ++ [.announced id m])).maximum =
      ((max info.maxSequence m : ℤ) : WithBot ℤ) := by
  have hle := h.le_max info hs id
  rw [announcedWith_announced, List.maximum_concat]
  rcases hc with hid | hm | ⟨m', hm', hle'⟩
  · rw [← hid, h.maximum info hs]
    exact_mod_cast rfl
  · have hbound : (announcedWith id notes).maximum ≤ ((m : ℤ) : WithBot ℤ) :=
      List.maximum_le_of_forall_le fun a ha => by exact_mod_cast (hle a ha).trans hm
    rw [max_eq_right hbound, max_eq_right hm]
  · have hbound : (announcedWith id notes).maximum ≤ ((info.maxSequence : ℤ) : WithBot ℤ) :=
      List.maximum_le_of_forall_le fun a ha => by exact_mod_cast hle a ha
    have hmem : ((info.maxSequence : ℤ) : WithBot ℤ) ≤ (announcedWith id notes).maximum := by
      have hreach := List.le_maximum_of_mem' hm'
      exact le_trans (by exact_mod_cast hle') hreach
    rw [le_antisymm hbound hmem]
    exact_mod_cast rfl

/-- The maximum stored is not below any announced. -/
theorem Belongs.le_max_announced {id' m m' : ℤ} (h : Belongs device folder notes)
    (hs : storedBy device folder notes = some info)
    (hm' : m' ∈ announcedWith id' (notes ++ [.announced id m])) : m' ≤ max info.maxSequence m := by
  by_cases hid : id = id'
  · rw [← hid, announcedWith_announced] at hm'
    rcases List.mem_append.1 hm' with hold | hnew
    · exact (h.le_max info hs id m' hold).trans (le_max_left _ _)
    · rw [List.mem_singleton.1 hnew]
      exact le_max_right _ _
  · rw [announcedWith_announced_of_ne hid] at hm'
    exact (h.le_max info hs id' m' hm').trans (le_max_left _ _)

/-- **What was received** belongs to the new index too, where nothing was
received of the old one, or the id was announced before. -/
theorem Belongs.received_announced {id' m : ℤ} (h : Belongs device folder notes)
    (hs : storedBy device folder notes = some info)
    (hc : info.indexId = id ∨ announcedWith id notes ≠ [] ∨ info.localSequence ≤ 0)
    (hid' : announcedWith id' (notes ++ [.announced id m]) ≠ []) :
    info.localSequence ≤ greatest (receivedSince id' (notes ++ [.announced id m])) := by
  by_cases hold : announcedWith id' notes = []
  · -- only the id announced now is new
    have hid : id = id' := by
      by_contra hid
      rw [announcedWith_announced_of_ne hid] at hid'
      exact hid' hold
    subst hid
    rcases hc with hid | hann | hlocal
    · have hmax := h.maximum info hs
      rw [hid, hold] at hmax
      cases hmax
    · exact absurd hold hann
    · exact hlocal.trans (zero_le_greatest _)
  · rw [receivedSince_announced hold]
    exact h.received info hs id' hold

/-- **An announcement that meets the condition** leaves an index info
that belongs to the id announced. -/
theorem Belongs.announced_step (h : Belongs device folder notes) {id m : ℤ}
    (hc : Consistent device folder notes (.announced id m)) :
    Belongs device folder (notes ++ [.announced id m]) := by
  unfold Consistent at hc
  cases hs : storedBy device folder notes with
  | none =>
    rw [hs] at hc
    exact h.announced_first hs hc
  | some old =>
    rw [hs] at hc
    have hsome : storedBy device folder (notes ++ [.announced id m]) =
        some { old with indexId := id, maxSequence := max old.maxSequence m } :=
      storedBy_announced hs
    refine ⟨fun h' => ?_, fun info h' => ?_, fun info h' => ?_, fun info h' => ?_⟩
    · rw [hsome] at h'
      cases h'
    all_goals
      rw [hsome] at h'
      cases h'
    · exact h.maximum_announced hs (hc.imp_right And.right)
    · exact fun id' m' hm' => h.le_max_announced hs hm'
    · intro id' hid'
      have hreceived : old.localSequence ≤ _ :=
        h.received_announced hs (hc.imp_right And.left) hid'
      exact hreceived

/-- Notes that meet the condition keep the bookkeeping. -/
theorem Belongs.append (h : Belongs device folder notes)
    (hc : ConsistentFrom device folder notes rest) : Belongs device folder (notes ++ rest) := by
  induction rest generalizing notes with
  | nil =>
    rw [List.append_nil]
    exact h
  | cons note rest ih =>
    have hstep : Belongs device folder (notes ++ [note]) := by
      cases note with
      | received files => exact h.received_step files
      | announced id m => exact h.announced_step hc.1
    have hrest := ih hstep hc.2
    rw [List.append_assoc] at hrest
    exact hrest

end Notes

/-! ## Runs -/

section Runs

variable [Guava] [FilenameUtils] [Protobuf IndexSerializationProtos.Blocks]
variable {h : IndexHandler} {device folder : String} {es : List PeerMessage} {info : IndexInfo}

/-- Every announcement of a message meets the condition where it comes. -/
def Consistently (device folder : String) (es : List PeerMessage) (_ : IndexHandler)
    (message : PeerMessage) : Prop :=
  ConsistentFrom device folder (notesOf device folder es) (message.notes device folder)

/-- **What is stored belongs to its id** in every run that meets the
condition. -/
theorem belongs_of_run (hrun : messages.Run (Consistently device folder) es h) :
    Belongs device folder (notesOf device folder es) := by
  induction hrun with
  | start => exact Belongs.nil
  | @step es h h' message _ hok _ ih =>
    have happend : notesOf device folder (es ++ [message]) =
        notesOf device folder es ++ message.notes device folder := by
      rw [notesOf, List.flatMap_append, List.flatMap_singleton, notesOf]
    rw [happend]
    exact ih.append hok

/-- **Sequence bookkeeping belongs to the stored index id** in every run
whose announcements meet the condition: the local sequence has been
received since the id was announced, the greatest sequence is the
greatest announced with it, so the index is not taken for aquired before
a record of it has come, and is once its greatest sequence has. -/
theorem indexInfo_belongs_to_indexId (hrun : messages.Run (Consistently device folder) es h)
    (hinfo : h.indexInfoOf device folder = some info) :
    info.localSequence ≤ greatest (receivedSince info.indexId (notesOf device folder es)) ∧
      (announcedWith info.indexId (notesOf device folder es)).maximum = (info.maxSequence : ℤ) ∧
      (receivedSince info.indexId (notesOf device folder es) = [] → 0 < info.maxSequence →
        ∀ cluster : ClusterConfigInfo, folder ∈ cluster.sharedFolders →
          ∃ h', (isRemoteIndexAquired cluster device).run h = .ok false h') ∧
      ∀ cluster faults (message : IndexUpdate), message.folder = folder →
        info.maxSequence ≤ maxSequence message.files (-1) →
        ∃ info', (after (PeerMessage.index device cluster faults message).process h).indexInfoOf
            device folder = some info' ∧
          info'.indexId = info.indexId ∧ info'.maxSequence = info.maxSequence ∧
          info'.maxSequence ≤ info'.localSequence := by
  have hn := noted_of_run hrun
  have hb := belongs_of_run hrun
  have hstored : storedBy device folder (notesOf device folder es) = some info := by
    rw [← hn.indexInfoOf, hinfo]
  have hmax := hb.maximum info hstored
  have hann : announcedWith info.indexId (notesOf device folder es) ≠ [] := by
    intro hnil
    rw [hnil] at hmax
    cases hmax
  have hlocal := hb.received info hstored info.indexId hann
  refine ⟨hlocal, hmax, fun hnone hpos cluster hmem => ?_, fun cluster faults message hf hle => ?_⟩
  · obtain ⟨h', hacquired, _⟩ := run_isRemoteIndexAquired hn.indexTable cluster device
    refine ⟨h', ?_⟩
    rw [hacquired]
    congr 1
    have hzero : info.localSequence ≤ 0 := by
      rw [hnone] at hlocal
      exact hlocal
    refine List.all_eq_false.2 ⟨folder, hmem, ?_⟩
    rw [hinfo, Option.any_some, decide_eq_true_eq]
    omega
  · obtain ⟨_, _, _, hnext⟩ := process_index hn.indexTable hn.noEmpty device cluster faults message
    have hstep := hnext device folder
    rw [PeerMessage.notes, if_pos ⟨rfl, hf⟩, List.foldl_cons, List.foldl_nil, hinfo, noteStep,
      nextIndexInfo, changeIndexInfo_fst] at hstep
    refine ⟨_, hstep, rfl, max_self _, ?_⟩
    simp only [Option.getD_none, Option.getD_some, max_self]
    exact hle.trans (le_max_right _ _)

end Runs

section Sample

attribute [local instance] Sample.guava Sample.filenameUtils Sample.protobuf

/-- The device sends the last record of a hundred. -/
def sampleIndex : PeerMessage :=
  .index sampleDevice ⟨["default"]⟩ (fun _ => none)
    ⟨"default", [{ name := "d", type := .DIRECTORY, version := some [⟨1, 1⟩], sequence := 100 }]⟩

/-- The sample's index message is one note. -/
theorem notes_sampleIndex : sampleIndex.notes sampleDevice "default" =
    [.received [{ name := "d", type := .DIRECTORY, version := some [⟨1, 1⟩], sequence := 100 }]] :=
  rfl

/-- The peer changes its index before it sends a record. -/
def sampleChange : List PeerMessage :=
  [sampleAnnouncement 1 100, sampleAnnouncement 2 100, sampleIndex]

/-- The sample's run is three notes. -/
theorem notes_sampleChange : notesOf sampleDevice "default" sampleChange =
    [.announced 1 100, .announced 2 100,
      .received
        [{ name := "d", type := .DIRECTORY, version := some [⟨1, 1⟩], sequence := 100 }]] := by
  simp only [sampleChange, notesOf, List.flatMap_cons, List.flatMap_nil, notes_sampleAnnouncement,
    notes_sampleIndex, List.cons_append, List.nil_append]

/-- The sample's run meets the condition. -/
theorem run_sampleChange :
    ∃ h, messages.Run (Consistently sampleDevice "default") sampleChange h := by
  have h₀ : messages.Run (Consistently sampleDevice "default") [] IndexHandler.fresh :=
    .start ⟨rfl, rfl⟩
  have hfirst : Consistently sampleDevice "default" [] IndexHandler.fresh
      (sampleAnnouncement 1 100) := by
    rw [Consistently, notes_sampleAnnouncement]
    exact ⟨show (-1 : ℤ) ≤ 100 by decide, trivial⟩
  have h₁ := h₀.step hfirst rfl
  have hsecond : ∀ h, Consistently sampleDevice "default" [sampleAnnouncement 1 100] h
      (sampleAnnouncement 2 100) := by
    intro h
    rw [Consistently, notes_sampleAnnouncement, notesOf, List.flatMap_singleton,
      notes_sampleAnnouncement]
    -- nothing was received of the old index, and the new one announces as much
    exact ⟨.inr ⟨.inr (le_refl 0), .inl (by decide)⟩, trivial⟩
  have h₂ := h₁.step (hsecond _) rfl
  exact ⟨_, h₂.step (e := sampleIndex) ⟨trivial, trivial⟩ rfl⟩

/-- An index that took the place of another one, and was received whole,
has sequences of its own. -/
theorem indexInfo_belongs_to_indexId_sample :
    ∃ h info, messages.Run (Consistently sampleDevice "default") sampleChange h ∧
      h.indexInfoOf sampleDevice "default" = some info ∧ info.indexId = 2 ∧
      info.localSequence = 100 ∧
      info.localSequence ≤
        greatest (receivedSince 2 (notesOf sampleDevice "default" sampleChange)) ∧
      (announcedWith 2 (notesOf sampleDevice "default" sampleChange)).maximum =
        (info.maxSequence : ℤ) := by
  obtain ⟨h, hrun⟩ := run_sampleChange
  have hinfo := (noted_of_run hrun).indexInfoOf sampleDevice "default"
  rw [notes_sampleChange] at hinfo
  obtain ⟨hlocal, hmax, -⟩ := indexInfo_belongs_to_indexId hrun hinfo
  exact ⟨h, _, hrun, hinfo, rfl, rfl, hlocal, hmax⟩

/-- **A peer that resets its index is taken for aquired.** It announced
100, sent it, and then announces a new index of 50: the row has the new
id with the old sequences, none of them received or announced for it. -/
theorem indexInfo_after_reset :
    ∃ h info, messages.Reaches [sampleAnnouncement 1 100, sampleIndex, sampleAnnouncement 2 50] h ∧
      h.indexInfoOf sampleDevice "default" = some info ∧ info.indexId = 2 ∧
      receivedSince 2 (notesOf sampleDevice "default"
        [sampleAnnouncement 1 100, sampleIndex, sampleAnnouncement 2 50]) = [] ∧
      announcedWith 2 (notesOf sampleDevice "default"
        [sampleAnnouncement 1 100, sampleIndex, sampleAnnouncement 2 50]) = [50] ∧
      info.localSequence = 100 ∧ info.maxSequence = 100 ∧
      ∃ h', (isRemoteIndexAquired ⟨["default"]⟩ sampleDevice).run h = .ok true h' := by
  have h₀ : messages.Reaches [] IndexHandler.fresh := .start ⟨rfl, rfl⟩
  have h₁ := h₀.step (e := sampleAnnouncement 1 100) trivial rfl
  have h₂ := h₁.step (e := sampleIndex) trivial rfl
  have h₃ := h₂.step (e := sampleAnnouncement 2 50) trivial rfl
  have hn := noted_of_run h₃
  have hinfo := hn.indexInfoOf sampleDevice "default"
  have hnotes : notesOf sampleDevice "default"
      [sampleAnnouncement 1 100, sampleIndex, sampleAnnouncement 2 50] = [.announced 1 100,
        .received [{ name := "d", type := .DIRECTORY, version := some [⟨1, 1⟩], sequence := 100 }],
        .announced 2 50] := by
    simp only [notesOf, List.flatMap_cons, List.flatMap_nil, notes_sampleAnnouncement,
      notes_sampleIndex, List.cons_append, List.nil_append]
  obtain ⟨h', hrun, _⟩ := run_isRemoteIndexAquired hn.indexTable ⟨["default"]⟩ sampleDevice
  simp only [List.nil_append, List.cons_append, hnotes] at hinfo h₃
  rw [hnotes]
  refine ⟨_, _, h₃, hinfo, rfl, rfl, rfl, rfl, rfl, h', ?_⟩
  rw [hrun]
  simp only [List.all_cons, List.all_nil, hinfo]
  rfl

end Sample

end Bep

end ASync
