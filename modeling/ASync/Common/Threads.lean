import Mathlib
/-!
# Threads of a pool

The threads of a pool are a list, and a step moves the one at a place. A
property some thread has is kept by the others (`exists_mem_set_of_ne`),
lost only by the thread that moves (`exists_mem_set_of_not`), and one
that all threads have is asked of the moved one alone
(`forall_mem_set`).
-/

namespace ASync

namespace Threads

variable {τ : Type} {P : τ → Prop} {threads : List τ} {thread moved : τ} {i : ℕ}

/-- A thread other than the one at a place has the property. -/
def Another (P : τ → Prop) (threads : List τ) (i : ℕ) : Prop :=
  ∃ j, j ≠ i ∧ ∃ thread, threads[j]? = some thread ∧ P thread

/-- What moved has the property. -/
theorem exists_mem_set_self (hi : threads[i]? = some thread) (hmoved : P moved) :
    ∃ t ∈ threads.set i moved, P t := by
  obtain ⟨hlt, _⟩ := List.getElem?_eq_some_iff.1 hi
  exact ⟨moved, List.mem_set hlt moved, hmoved⟩

/-- The others keep it. -/
theorem exists_mem_set_of_ne (h : Another P threads i) (moved : τ) :
    ∃ t ∈ threads.set i moved, P t := by
  obtain ⟨j, hne, t, hj, ht⟩ := h
  refine ⟨t, List.mem_of_getElem? (i := j) ?_, ht⟩
  rw [List.getElem?_set_ne (Ne.symm hne), hj]

/-- A thread that does not have it loses nothing by moving. -/
theorem exists_mem_set_of_not (hi : threads[i]? = some thread) (hnot : ¬ P thread)
    (h : ∃ t ∈ threads, P t) (moved : τ) : ∃ t ∈ threads.set i moved, P t := by
  obtain ⟨t, hmem, ht⟩ := h
  obtain ⟨j, hj⟩ := List.getElem?_of_mem hmem
  refine exists_mem_set_of_ne ⟨j, ?_, t, hj, ht⟩ moved
  rintro rfl
  rw [hi] at hj
  cases hj
  exact hnot ht

/-- Where what moved does not have the property, another has it. -/
theorem another_of_exists_mem_set (hmoved : ¬ P moved) (h : ∃ t ∈ threads.set i moved, P t) :
    Another P threads i := by
  obtain ⟨t, hmem, ht⟩ := h
  obtain ⟨j, hj⟩ := List.getElem?_of_mem hmem
  by_cases hji : j = i
  · subst hji
    obtain ⟨hlt, _⟩ := List.getElem?_eq_some_iff.1 hj
    rw [List.length_set] at hlt
    rw [List.getElem?_set_self hlt] at hj
    exact absurd (Option.some.inj hj ▸ ht) hmoved
  · rw [List.getElem?_set_ne (Ne.symm hji)] at hj
    exact ⟨j, hji, t, hj, ht⟩

/-- All threads have the property when the others had it and the moved
one has. -/
theorem forall_mem_set (h : ∀ t ∈ threads, P t) (hmoved : P moved) :
    ∀ t ∈ threads.set i moved, P t := by
  intro t ht
  rcases List.mem_or_eq_of_mem_set ht with hold | rfl
  · exact h t hold
  · exact hmoved

/-- What is read off each thread stays, where the moved one still reads
the same. -/
theorem filterMap_set {α : Type} {f : τ → Option α} (hi : threads[i]? = some thread)
    (hsame : f moved = f thread) : (threads.set i moved).filterMap f = threads.filterMap f := by
  have hmap : (threads.set i moved).map f = threads.map f := by
    refine List.ext_getElem? fun j => ?_
    rw [List.getElem?_map, List.getElem?_map]
    by_cases hj : j = i
    · obtain ⟨hlt, _⟩ := List.getElem?_eq_some_iff.1 hi
      rw [hj, List.getElem?_set_self hlt, hi, Option.map_some, Option.map_some, hsame]
    · rw [List.getElem?_set_ne (Ne.symm hj)]
  have hid : ∀ list : List τ, list.filterMap f = (list.map f).filterMap id := by
    intro list
    rw [List.filterMap_map]
    rfl
  rw [hid, hid, hmap]

/-! ## One thread at a time -/

/-- No two threads have the property: what a lock is for. -/
def AtMostOne (P : τ → Prop) (threads : List τ) : Prop :=
  ∀ (i j : ℕ) (a b : τ), threads[i]? = some a → threads[j]? = some b → P a → P b → i = j

theorem AtMostOne.nil : AtMostOne P [] := by
  intro i j a b hi
  cases hi

theorem AtMostOne.mono {Q : τ → Prop} (h : AtMostOne P threads) (hQ : ∀ t, Q t → P t) :
    AtMostOne Q threads :=
  fun i j a b hi hj ha hb => h i j a b hi hj (hQ a ha) (hQ b hb)

/-- Where the one that has it moves, no other has it. -/
theorem AtMostOne.not_of_mem_set (h : AtMostOne P threads) (hi : threads[i]? = some thread)
    (hthread : P thread) (hmoved : ¬ P moved) : ∀ t ∈ threads.set i moved, ¬ P t := by
  intro t ht hP
  obtain ⟨j, hj⟩ := List.getElem?_of_mem ht
  by_cases hji : j = i
  · obtain ⟨hlt, _⟩ := List.getElem?_eq_some_iff.1 hi
    rw [hji, List.getElem?_set_self hlt] at hj
    cases hj
    exact hmoved hP
  · rw [List.getElem?_set_ne (Ne.symm hji)] at hj
    exact hji (h j i t thread hj hi hP hthread)

/-- A thread may move where it has the property or no thread has. -/
theorem AtMostOne.set (h : AtMostOne P threads) (hi : threads[i]? = some thread)
    (hfree : P thread ∨ ¬ P moved ∨ ∀ t ∈ threads, ¬ P t) : AtMostOne P (threads.set i moved) := by
  obtain ⟨hlt, _⟩ := List.getElem?_eq_some_iff.1 hi
  -- another place holds what it held
  have hother : ∀ (j : ℕ) (b : τ), j ≠ i → (threads.set i moved)[j]? = some b →
      threads[j]? = some b := by
    intro j b hne hj
    rwa [List.getElem?_set_ne (Ne.symm hne)] at hj
  have hself : ∀ a, (threads.set i moved)[i]? = some a → a = moved := by
    intro a ha
    rw [List.getElem?_set_self hlt] at ha
    exact (Option.some.inj ha).symm
  have halone : P moved → ∀ (j : ℕ) (b : τ), j ≠ i → threads[j]? = some b → ¬ P b := by
    intro hmoved j b hne hj hb
    rcases hfree with hthread | hnot | hnone
    · exact hne (h j i b thread hj hi hb hthread)
    · exact hnot hmoved
    · exact hnone b (List.mem_of_getElem? hj) hb
  intro j k a b hj hk ha hb
  by_cases hji : j = i
  · subst hji
    by_cases hkj : k = j
    · exact hkj.symm
    · rw [hself a hj] at ha
      exact absurd hb (halone ha k b hkj (hother k b hkj hk))
  · by_cases hki : k = i
    · subst hki
      rw [hself b hk] at hb
      exact absurd ha (halone hb j a hji (hother j a hji hj))
    · exact h j k a b (hother j a hji hj) (hother k b hki hk) ha hb

/-- A thread that starts without the property. -/
theorem AtMostOne.append (h : AtMostOne P threads) (hnot : ¬ P moved) :
    AtMostOne P (threads ++ [moved]) := by
  have hold : ∀ (j : ℕ) (a : τ), (threads ++ [moved])[j]? = some a → P a →
      threads[j]? = some a := by
    intro j a hj ha
    rcases lt_or_ge j threads.length with hlt | hge
    · rwa [List.getElem?_append_left hlt] at hj
    · rw [List.getElem?_append_right hge] at hj
      have hmem := List.mem_of_getElem? hj
      rw [List.mem_singleton.1 hmem] at ha
      exact absurd ha hnot
  intro j k a b hj hk ha hb
  exact h j k a b (hold j a hj ha) (hold k b hk hb) ha hb

end Threads

end ASync
