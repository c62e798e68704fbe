import Mathlib
/-!
# Numbered chunks

A sender numbers its chunks one, two, three; whatever happens on the way,
a receiver that takes a chunk only under the number after its last has
taken a prefix. `Carries` says that a number goes with a chunk of those
sent, `Received` what a receiver that stands at a number has put out.
-/

namespace ASync

namespace Sequenced

variable {α : Type} {sent more : List (List α)} {k : ℤ} {chunk output part : List α}

/-- The chunk is the one sent under the number `k`. -/
def Carries (sent : List (List α)) (k : ℤ) (chunk : List α) : Prop :=
  ∃ i : ℕ, (i : ℤ) + 1 = k ∧ sent[i]? = some chunk

/-- The output is that of the first `k` chunks sent. -/
def Received (sent : List (List α)) (k : ℤ) (output : List α) : Prop :=
  ∃ n : ℕ, (n : ℤ) = k ∧ n ≤ sent.length ∧ output = (sent.take n).flatten

theorem Carries.append (h : Carries sent k chunk) : Carries (sent ++ more) k chunk := by
  obtain ⟨i, hi, hchunk⟩ := h
  obtain ⟨hlt, _⟩ := List.getElem?_eq_some_iff.1 hchunk
  exact ⟨i, hi, by rw [List.getElem?_append_left hlt, hchunk]⟩

/-- The next chunk takes the next number. -/
theorem carries_concat (sent : List (List α)) (chunk : List α) :
    Carries (sent ++ [chunk]) (sent.length + 1) chunk :=
  ⟨sent.length, rfl, List.getElem?_concat_length⟩

/-- The first chunk that has no number yet takes the next. -/
theorem carries_of_drop_eq_cons {n : ℕ} {rest : List (List α)} (h : sent.drop n = chunk :: rest) :
    Carries sent (n + 1) chunk := by
  refine ⟨n, rfl, ?_⟩
  have hfirst : (sent.drop n)[0]? = some chunk := by rw [h]; rfl
  rw [List.getElem?_drop, Nat.add_zero] at hfirst
  exact hfirst

theorem received_zero (sent : List (List α)) : Received sent 0 [] :=
  ⟨0, rfl, Nat.zero_le _, rfl⟩

theorem Received.append (h : Received sent k output) : Received (sent ++ more) k output := by
  obtain ⟨n, hn, hle, hout⟩ := h
  refine ⟨n, hn, ?_, ?_⟩
  · rw [List.length_append]
    omega
  · rw [List.take_append_of_le_length hle, hout]

/-- **A receiver takes the next chunk.** -/
theorem Received.accept (h : Received sent k output) (hc : Carries sent (k + 1) chunk) :
    Received sent (k + 1) (output ++ chunk) := by
  obtain ⟨n, rfl, hle, rfl⟩ := h
  obtain ⟨i, hi, hchunk⟩ := hc
  obtain rfl : i = n := by omega
  obtain ⟨hlt, rfl⟩ := List.getElem?_eq_some_iff.1 hchunk
  refine ⟨i + 1, by omega, hlt, ?_⟩
  rw [List.take_succ_eq_append_getElem hlt, List.flatten_append, List.flatten_singleton]

/-- **What a receiver has put out is a prefix** of what was sent. -/
theorem Received.isPrefix (h : Received sent k output) : output <+: sent.flatten := by
  obtain ⟨n, _, _, rfl⟩ := h
  refine ⟨(sent.drop n).flatten, ?_⟩
  rw [← List.flatten_append, List.take_append_drop]

/-- So it is with a part of the next chunk. -/
theorem Received.isPrefix_part (h : Received sent k output) (hc : Carries sent (k + 1) chunk)
    (hpart : part <+: chunk) : output ++ part <+: sent.flatten :=
  ((List.prefix_append_right_inj output).2 hpart).trans (h.accept hc).isPrefix

/-- Chunks under the numbers from one on make up an output. -/
theorem received_of_forall {chunks : List (List α)}
    (h : ∀ i : ℕ, ∀ chunk, chunks[i]? = some chunk → Carries sent (i + 1) chunk) :
    Received sent chunks.length chunks.flatten := by
  induction chunks using List.reverseRecOn with
  | nil => exact received_zero sent
  | append_singleton chunks chunk ih =>
    have hinit := ih fun i c hc => h i c (by
      obtain ⟨hlt, _⟩ := List.getElem?_eq_some_iff.1 hc
      rw [List.getElem?_append_left hlt, hc])
    have hlast := h chunks.length chunk List.getElem?_concat_length
    have hnext := hinit.accept hlast
    rw [List.length_append, List.length_singleton, List.flatten_append, List.flatten_singleton]
    exact_mod_cast hnext

end Sequenced

end ASync
