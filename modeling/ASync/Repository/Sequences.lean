import ASync.Common.Effect
import ASync.Repository.Model.Sequencer
/-!
# The numbers a sequencer gives

Each call of `nextSequence` that returns gives the number after the last,
over failures and restarts, and the cache is the row (`Sound`). The numbers
wrap, and so may the two that `initDb` makes of random ones:
`numbers_proper_iff` says for which none does.
-/

namespace ASync

namespace Repository

open Effect

variable {a indexId startingSequence : Int64} {s : Sequencing} {es : List SequencerCall}
variable {sequencer sequencer' : IndexRepoSequencer} {fault : Option SequencerStatement}
variable {value : Int64} {ex : JavaException}

/-! ## Numbers of 64 bits -/

/-- The absolute value wraps where it is not a `long`. -/
theorem toInt_mathAbs (a : Int64) : (mathAbs a).toInt = Int.bmod |a.toInt| (2 ^ 64) := by
  have hlo := a.le_toInt
  have hhi := a.toInt_lt
  unfold mathAbs
  split
  · next hneg =>
    have hneg' : a.toInt < 0 := Int64.lt_iff_toInt_lt.1 hneg
    rw [Int64.toInt_neg, abs_of_neg hneg']
  · next hneg =>
    have hnonneg : 0 ≤ a.toInt := not_lt.1 fun hlt => hneg (Int64.lt_iff_toInt_lt.2 hlt)
    rw [abs_of_nonneg hnonneg]
    exact (Long.wrap_eq hlo hhi).symm

/-- The `n`-th number after the one made of a random number. -/
def numberAfter (a : Int64) (n : ℕ) : Int64 := mathAbs a + 1 + Int64.ofNat n

/-- The numbers count on from the random one, in 64 bits. -/
theorem toInt_numberAfter (a : Int64) (n : ℕ) :
    (numberAfter a n).toInt = Long.wrap (|a.toInt| + 1 + n) := by
  unfold numberAfter Long.wrap
  rw [Int64.toInt_add, Int64.toInt_add, toInt_mathAbs, Int64.toInt_one, Int64.toInt_ofNat',
    Int.bmod_add_bmod, Int.add_assoc, Int.bmod_add_bmod, ← Int.add_assoc]
  exact Int.add_bmod_bmod

/-- It is positive exactly when it need not wrap. -/
theorem numberAfter_pos_iff {n : ℕ} (hn : n < 2 ^ 32) :
    0 < numberAfter a n ↔ |a.toInt| + 1 + n < 2 ^ 63 := by
  have hlo := a.le_toInt
  have hhi := a.toInt_lt
  have habs : |a.toInt| ≤ 2 ^ 63 := abs_le.2 ⟨by omega, by omega⟩
  have hnonneg : 0 ≤ |a.toInt| := abs_nonneg _
  rw [Int64.lt_iff_toInt_lt, toInt_numberAfter, Int64.toInt_zero]
  constructor
  · intro hpos
    by_contra hge
    have hwrap : Long.wrap (|a.toInt| + 1 + n) = |a.toInt| + 1 + n - 2 ^ 64 := by
      have hself : Long.wrap (|a.toInt| + 1 + n - 2 ^ 64) = |a.toInt| + 1 + n - 2 ^ 64 :=
        Long.wrap_eq (by omega) (by omega)
      have hwrap : Int.bmod (|a.toInt| + 1 + n - (2 ^ 64 : ℕ)) (2 ^ 64) =
          Int.bmod (|a.toInt| + 1 + n) (2 ^ 64) := Int.sub_bmod_right _ _
      rw [← hself]
      exact hwrap.symm
    rw [hwrap] at hpos
    omega
  · intro hlt
    rw [Long.wrap_eq (by omega) hlt]
    omega

/-- Numbers that do not wrap are in order. -/
theorem numberAfter_lt {m n : ℕ} (hmn : m < n) (h : |a.toInt| + 1 + n < 2 ^ 63) :
    numberAfter a m < numberAfter a n := by
  have hnonneg : 0 ≤ |a.toInt| := abs_nonneg _
  rw [Int64.lt_iff_toInt_lt, toInt_numberAfter, toInt_numberAfter,
    Long.wrap_eq (by omega) (by omega),
    Long.wrap_eq (by omega) h]
  omega

/-- The next number is one more. -/
theorem numberAfter_succ (a : Int64) (n : ℕ) : numberAfter a (n + 1) = numberAfter a n + 1 := by
  unfold numberAfter
  rw [Int64.ofNat_add, ← Int64.add_assoc]
  rfl

/-! ## The calls -/

namespace IndexRepoSequencer

/-- The cache is empty or the row. -/
def Coherent (sequencer : IndexRepoSequencer) : Prop :=
  (sequencer.indexId = none ∧ sequencer.currentSequence = none) ∨
    (sequencer.indexId = some sequencer.row.indexId ∧
      sequencer.currentSequence = some sequencer.row.currentSequence)

/-- The row, and both numbers cached. -/
def loaded (row : IndexSequence) : IndexRepoSequencer :=
  ⟨row, some row.indexId, some row.currentSequence⟩

/-- The fields are empty, or both those of the row. -/
theorem Coherent.eq_or (h : sequencer.Coherent) :
    sequencer = { row := sequencer.row } ∨ sequencer = loaded sequencer.row := by
  obtain ⟨row, indexId, currentSequence⟩ := sequencer
  rcases h with ⟨hid, hsequence⟩ | ⟨hid, hsequence⟩
  · obtain rfl : indexId = none := hid
    obtain rfl : currentSequence = none := hsequence
    exact Or.inl rfl
  · obtain rfl : indexId = some row.indexId := hid
    obtain rfl : currentSequence = some row.currentSequence := hsequence
    exact Or.inr rfl

/-- A sequencer that has read nothing is coherent. -/
theorem coherent_empty (row : IndexSequence) : Coherent { row } := Or.inl ⟨rfl, rfl⟩

/-- A sequencer that has read its row is coherent. -/
theorem coherent_loaded (row : IndexSequence) : (loaded row).Coherent := Or.inr ⟨rfl, rfl⟩

/-- The row is read as a whole, or not at all. -/
theorem run_loadFromDb (row : IndexSequence) (fault : Option SequencerStatement) :
    (∃ ex, (loadFromDb fault).run { row } = .error ex { row }) ∨
      (loadFromDb fault).run { row } = .ok () (loaded row) := by
  by_cases hfault : fault = some .select
  · subst hfault
    exact Or.inl ⟨_, rfl⟩
  · refine Or.inr ?_
    rw [loadFromDb, execute, if_neg hfault]
    rfl

/-- A number is read from the cache or the row, or the call fails and
leaves the cache as it was. -/
theorem run_read (h : sequencer.Coherent) (fault : Option SequencerStatement)
    (call cached : SequencerM Int64)
    (hempty : call.run { row := sequencer.row } =
      (loadFromDb fault >>= fun _ => cached).run { row := sequencer.row })
    (hcached : cached.run (loaded sequencer.row) = .ok value (loaded sequencer.row))
    (hloaded : call.run (loaded sequencer.row) = .ok value (loaded sequencer.row)) :
    (∃ ex, call.run sequencer = .error ex sequencer) ∨
      call.run sequencer = .ok value (loaded sequencer.row) := by
  rcases h.eq_or with heq | heq
  · rw [heq, hempty]
    rcases run_loadFromDb sequencer.row fault with ⟨ex, hload⟩ | hload
    · exact Or.inl ⟨ex, run_bind_of_error hload _⟩
    · refine Or.inr ?_
      rw [run_bind_of_ok hload]
      exact hcached
  · rw [heq]
    exact Or.inr hloaded

/-- The sequence answered is the row's. -/
theorem run_getCurrentSequence (h : sequencer.Coherent) (fault : Option SequencerStatement) :
    (∃ ex, (getCurrentSequence fault).run sequencer = .error ex sequencer) ∨
      (getCurrentSequence fault).run sequencer =
        .ok sequencer.row.currentSequence (loaded sequencer.row) :=
  run_read h fault (getCurrentSequence fault)
    (do ofExcept (checkNotNull (← get).currentSequence "")) rfl rfl rfl

/-- The index id answered is the row's. -/
theorem run_getIndexId (h : sequencer.Coherent) (fault : Option SequencerStatement) :
    (∃ ex, (getIndexId fault).run sequencer = .error ex sequencer) ∨
      (getIndexId fault).run sequencer = .ok sequencer.row.indexId (loaded sequencer.row) :=
  run_read h fault (getIndexId fault) (do ofExcept (checkNotNull (← get).indexId "")) rfl rfl rfl

/-- **The next number** is the one after the row's, which is written; or
the call fails, and the row stays. -/
theorem run_nextSequence (h : sequencer.Coherent) (fault : Option SequencerStatement) :
    (∃ ex sequencer', (nextSequence fault).run sequencer = .error ex sequencer' ∧
      sequencer'.row = sequencer.row ∧ sequencer'.Coherent) ∨
    (nextSequence fault).run sequencer = .ok (sequencer.row.currentSequence + 1)
      (loaded ⟨sequencer.row.indexId, sequencer.row.currentSequence + 1⟩) := by
  rcases run_getCurrentSequence h fault with ⟨ex, hrun⟩ | hrun
  · exact Or.inl ⟨ex, sequencer, run_bind_of_error hrun _, rfl, h⟩
  · by_cases hfault : fault = some .update
    · refine Or.inl ⟨.runtime "SQLException", loaded sequencer.row, ?_, rfl, coherent_loaded _⟩
      rw [nextSequence, run_bind_of_ok hrun, execute, if_pos hfault]
      rfl
    · refine Or.inr ?_
      rw [nextSequence, run_bind_of_ok hrun, execute, if_neg hfault]
      rfl

end IndexRepoSequencer

/-! ## Runs -/

namespace Sequencing

open IndexRepoSequencer

/-- The numbers that were given so far count up from the one the database
was made with, and the row is the last. -/
structure Sound (indexId startingSequence : Int64) (s : Sequencing) : Prop where
  row : s.sequencer.row = ⟨mathAbs indexId + 1, numberAfter startingSequence s.nextSequences.length⟩
  coherent : s.sequencer.Coherent
  numbers : s.nextSequences =
    (List.range s.nextSequences.length).map fun i => numberAfter startingSequence (i + 1)
  indexIds : ∀ id ∈ s.indexIds, id = mathAbs indexId + 1

/-- A new sequencer has given no number. -/
theorem Sound.start (indexId startingSequence : Int64) :
    Sound indexId startingSequence { sequencer := { row := .init indexId startingSequence } } where
  row := by
    unfold IndexSequence.init numberAfter
    rw [List.length_nil, show Int64.ofNat 0 = 0 from rfl, Int64.add_zero]
  coherent := coherent_empty _
  numbers := rfl
  indexIds := List.forall_mem_nil _

/-- A step that gives no number and leaves the row. -/
theorem Sound.sameRow (h : Sound indexId startingSequence s)
    (hrow : sequencer.row = s.sequencer.row)
    (hcoherent : sequencer.Coherent) : Sound indexId startingSequence { s with sequencer } :=
  ⟨hrow.trans h.row, hcoherent, h.numbers, h.indexIds⟩

/-- A number that is given is the next. -/
theorem Sound.next (h : Sound indexId startingSequence s) : Sound indexId startingSequence
    { s with
      sequencer := loaded ⟨s.sequencer.row.indexId, s.sequencer.row.currentSequence + 1⟩
      nextSequences := s.nextSequences ++ [s.sequencer.row.currentSequence + 1] } := by
  have hnext : s.sequencer.row.currentSequence + 1 =
      numberAfter startingSequence (s.nextSequences.length + 1) := by
    rw [h.row, numberAfter_succ]
  refine ⟨?_, coherent_loaded _, ?_, h.indexIds⟩
  · rw [List.length_append, List.length_singleton, ← hnext]
    change (⟨s.sequencer.row.indexId, _⟩ : IndexSequence) = _
    rw [h.row]
  · rw [List.length_append, List.length_singleton, List.range_succ, List.map_append,
      ← h.numbers, hnext]
    rfl

/-- **Every call keeps the numbers in order.** -/
theorem Sound.step (h : Sound indexId startingSequence s) (call : SequencerCall) :
    Sound indexId startingSequence (s.step call) := by
  cases call with
  | nextSequence fault =>
    rcases run_nextSequence h.coherent fault with ⟨ex, sequencer', hrun, hrow, hcoherent⟩ | hrun
    · simp only [Sequencing.step, hrun]
      exact h.sameRow hrow hcoherent
    · simp only [Sequencing.step, hrun]
      exact h.next
  | currentSequence fault =>
    rcases run_getCurrentSequence h.coherent fault with ⟨ex, hrun⟩ | hrun
    · simp only [Sequencing.step, hrun]
      exact h
    · simp only [Sequencing.step, hrun]
      exact h.sameRow rfl (coherent_loaded _)
  | indexId fault =>
    rcases run_getIndexId h.coherent fault with ⟨ex, hrun⟩ | hrun
    · simp only [Sequencing.step, hrun]
      exact h
    · simp only [Sequencing.step, hrun]
      refine ⟨h.row, coherent_loaded _, h.numbers, fun id hid => ?_⟩
      rcases List.mem_append.1 hid with hold | hnew
      · exact h.indexIds id hold
      · rw [List.mem_singleton.1 hnew, h.row]
  | restart => exact h.sameRow rfl (coherent_empty _)

/-- Each call gives one number at most. -/
theorem length_step_le (s : Sequencing) (call : SequencerCall) :
    (s.step call).nextSequences.length ≤ s.nextSequences.length + 1 := by
  unfold Sequencing.step
  split
  · split
    · rw [List.length_append, List.length_singleton]
    · exact Nat.le_succ _
  · split
    · exact Nat.le_succ _
    · exact Nat.le_succ _
  · split
    · exact Nat.le_succ _
    · exact Nat.le_succ _
  · exact Nat.le_succ _

/-- The numbers are in order in every run, and no more than the calls. -/
theorem sound_of_reaches (h : (sequencing indexId startingSequence).Reaches es s) :
    Sound indexId startingSequence s ∧ s.nextSequences.length ≤ es.length := by
  refine h.invariant (I := fun es s => Sound indexId startingSequence s ∧
    s.nextSequences.length ≤ es.length)
    ?_ fun es s call s' _ hI _ hstep => ?_
  · rintro s rfl
    exact ⟨Sound.start indexId startingSequence, le_refl _⟩
  · obtain rfl := Option.some.inj hstep
    obtain ⟨hsound, hlen⟩ := hI
    have hnext := length_step_le s call
    refine ⟨hsound.step call, ?_⟩
    rw [List.length_append, List.length_singleton]
    omega

/-- The numbers are as they should be: one positive index id, sequence
numbers that are positive and rise, and a cache that is the row. -/
structure Proper (s : Sequencing) : Prop where
  indexId_pos : 0 < s.sequencer.row.indexId
  indexIds : ∀ id ∈ s.indexIds, id = s.sequencer.row.indexId
  positive : ∀ value ∈ s.nextSequences, 0 < value
  increasing : s.nextSequences.Pairwise (· < ·)
  cached : ∀ value, s.sequencer.currentSequence = some value →
    value = s.sequencer.row.currentSequence

/-- What is not a matter of the numbers drawn. -/
theorem Sound.cached (h : Sound indexId startingSequence s)
    (hcached : s.sequencer.currentSequence = some value) :
    value = s.sequencer.row.currentSequence := by
  rcases h.coherent with ⟨-, hnone⟩ | ⟨-, hsome⟩
  · rw [hnone] at hcached
    cases hcached
  · exact Option.some.inj (hcached.symm.trans hsome)

/-- The numbers given are positive and rise exactly when the last does not
wrap. -/
theorem Sound.numbers_iff (h : Sound indexId startingSequence s)
    (hlen : s.nextSequences.length < 2 ^ 32) :
    ((∀ value ∈ s.nextSequences, 0 < value) ∧ s.nextSequences.Pairwise (· < ·)) ↔
      (s.nextSequences = [] ∨ |startingSequence.toInt| + 1 + s.nextSequences.length < 2 ^ 63) := by
  have hnumbers := h.numbers
  generalize hn : s.nextSequences.length = n at hnumbers hlen
  rw [hnumbers]
  constructor
  · rintro ⟨hpos, -⟩
    rcases n with _ | n
    · exact Or.inl rfl
    · refine Or.inr ((numberAfter_pos_iff hlen).1 (hpos _ ?_))
      exact List.mem_map.2 ⟨n, List.mem_range.2 (Nat.lt_succ_self n), rfl⟩
  · intro hlt
    rcases hlt with hnil | hlt
    · rw [hnil]
      exact ⟨List.forall_mem_nil _, List.Pairwise.nil⟩
    · refine ⟨fun value hvalue => ?_, ?_⟩
      · obtain ⟨i, hi, rfl⟩ := List.mem_map.1 hvalue
        have hi := List.mem_range.1 hi
        exact (numberAfter_pos_iff (by omega)).2 (by omega)
      · refine List.pairwise_map.2 ?_
        refine List.Pairwise.imp_of_mem (fun {i j} _ hj hij => ?_) List.pairwise_lt_range
        have hj := List.mem_range.1 hj
        exact numberAfter_lt (by omega) (by omega)

/-- **When the numbers are as they should be**: when the two drawn can be
made positive, and the sequence does not reach the end of `long`. -/
theorem proper_iff (h : (sequencing indexId startingSequence).Reaches es s)
    (hlen : es.length < 2 ^ 32) : s.Proper ↔ |indexId.toInt| + 1 < 2 ^ 63 ∧
      (s.nextSequences = [] ∨ |startingSequence.toInt| + 1 + s.nextSequences.length < 2 ^ 63) := by
  obtain ⟨hsound, hle⟩ := sound_of_reaches h
  have hnumbers := hsound.numbers_iff (by omega)
  have hid : 0 < mathAbs indexId + 1 ↔ |indexId.toInt| + 1 < 2 ^ 63 := by
    have hpos : 0 < numberAfter indexId 0 ↔ |indexId.toInt| + 1 + (0 : ℕ) < 2 ^ 63 :=
      numberAfter_pos_iff (by omega)
    rwa [numberAfter, show Int64.ofNat 0 = 0 from rfl, Int64.add_zero, Nat.cast_zero,
      add_zero] at hpos
  constructor
  · intro hproper
    have hpos := hproper.indexId_pos
    rw [hsound.row] at hpos
    exact ⟨hid.1 hpos, hnumbers.1 ⟨hproper.positive, hproper.increasing⟩⟩
  · rintro ⟨hindexId, hlt⟩
    obtain ⟨hpositive, hincreasing⟩ := hnumbers.2 hlt
    refine ⟨?_, fun id hmem => ?_, hpositive, hincreasing, fun value => hsound.cached⟩
    · rw [hsound.row]
      exact hid.2 hindexId
    · rw [hsound.indexIds id hmem, hsound.row]

/-! ## Sample runs -/

/-- Any calls can follow one another. -/
theorem reaches_foldl (indexId startingSequence : Int64) (es : List SequencerCall) :
    (sequencing indexId startingSequence).Reaches es
      (es.foldl Sequencing.step { sequencer := { row := .init indexId startingSequence } }) := by
  induction es using List.reverseRecOn with
  | nil => exact Machine.Run.start rfl
  | append_singleton es call ih =>
    rw [List.foldl_append]
    exact ih.step trivial rfl

def sampleCalls : List SequencerCall :=
  [.indexId none, .nextSequence none, .nextSequence (some .update), .restart, .nextSequence none]

/-- Two numbers after draws that `nextLong` can return. -/
theorem proper_iff_sample :
    ∃ s, (sequencing 384748 3740067437).Reaches sampleCalls s ∧
      s.nextSequences = [3740067439, 3740067440] ∧ s.Proper := by
  have hrun := reaches_foldl 384748 3740067437 sampleCalls
  exact ⟨_, hrun,
    by decide +kernel, (proper_iff hrun (by decide)).2 ⟨by decide, Or.inr (by decide +kernel)⟩⟩

/-- Where no statement fails, each call of `nextSequence` gives a number. -/
theorem length_foldl_nextSequence (n : ℕ) (h : s.sequencer.Coherent) :
    ((List.replicate n (.nextSequence none)).foldl Sequencing.step s).nextSequences.length =
      s.nextSequences.length + n := by
  induction n generalizing s with
  | zero => rfl
  | succ n ih =>
    have hrun : (IndexRepoSequencer.nextSequence none).run s.sequencer =
        .ok (s.sequencer.row.currentSequence + 1)
          (loaded ⟨s.sequencer.row.indexId, s.sequencer.row.currentSequence + 1⟩) := by
      rcases h.eq_or with heq | heq
      · rw [heq]
        rfl
      · rw [heq]
        rfl
    have hstep : s.step (.nextSequence none) =
        { s with
          sequencer := loaded ⟨s.sequencer.row.indexId, s.sequencer.row.currentSequence + 1⟩
          nextSequences := s.nextSequences ++ [s.sequencer.row.currentSequence + 1] } := by
      simp only [Sequencing.step, hrun]
    rw [List.replicate_succ, List.foldl_cons, hstep, ih (coherent_loaded _), List.length_append,
      List.length_singleton]
    omega

/-- Any number of calls can give numbers. -/
theorem exists_reaches_replicate (indexId startingSequence : Int64) (n : ℕ) :
    ∃ s, (sequencing indexId startingSequence).Reaches (List.replicate n (.nextSequence none)) s ∧
      s.nextSequences.length = n := by
  refine ⟨_, reaches_foldl indexId startingSequence _, ?_⟩
  rw [length_foldl_nextSequence n (coherent_empty _), List.length_nil, Nat.zero_add]

/-- **A sequence that begins close to the largest `long`** goes on with
negative numbers. -/
theorem next_sequence_is_negative :
    ∃ s, (sequencing 384748 (-9223372036854667717)).Reaches
        (List.replicate 108090 (.nextSequence none)) s ∧
      s.nextSequences.getLast? = some Int64.minValue ∧ ¬ s.Proper := by
  obtain ⟨s, hrun, hlength⟩ := exists_reaches_replicate 384748 (-9223372036854667717) 108090
  obtain ⟨hsound, -⟩ := sound_of_reaches hrun
  have hlast : numberAfter (-9223372036854667717) 108090 = Int64.minValue := by
    refine Int64.toInt_inj.1 ?_
    rw [toInt_numberAfter]
    decide +kernel
  have hgiven : s.nextSequences.getLast? = some Int64.minValue := by
    have hnumbers := hsound.numbers
    rw [show s.nextSequences.length = 108089 + 1 from hlength, List.range_succ, List.map_append,
      List.map_singleton, hlast] at hnumbers
    rw [hnumbers, List.getLast?_concat]
  refine ⟨s, hrun, hgiven, fun hproper => ?_⟩
  exact absurd (hproper.positive _ (List.mem_of_getLast? hgiven)) (by decide)

end Sequencing

end Repository

end ASync
