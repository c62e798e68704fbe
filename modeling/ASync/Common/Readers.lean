import Mathlib
/-!
# Readers of a stream

A reader takes the front of a stream and leaves the rest. It is
incremental when it does not look past what it takes, so that more at the
end of the stream changes the rest and nothing else. What an incremental
reader takes of a stream that is cut short it also takes of the whole; so
of a stream of frames cut anywhere, it reads the frames that are whole, in
their order, and no other.
-/

namespace ASync

/-- What takes the front of a stream, and leaves the rest. -/
abbrev Reader (ε τ α : Type) := List τ → Except ε (α × List τ)

namespace Reader

variable {ε τ α β : Type} {f : Reader ε τ α}

/-- More at the end of the stream changes nothing but the rest. -/
def Incremental (f : Reader ε τ α) : Prop :=
  ∀ s a rest more, f s = .ok (a, rest) → f (s ++ more) = .ok (a, rest ++ more)

theorem incremental_of_eq_ok {a : α} (h : ∀ s, f s = .ok (a, s)) : Incremental f := by
  intro s b rest more hread
  rw [h s] at hread
  cases hread
  exact h (s ++ more)

theorem incremental_of_eq_error {e : ε} (h : ∀ s, f s = .error e) : Incremental f := by
  intro s a rest more hread
  rw [h s] at hread
  cases hread

theorem incremental_throw (e : ε) : Incremental (fun _ => .error e : Reader ε τ α) :=
  incremental_of_eq_error fun _ => rfl

/-- One reader, and then another on what it leaves. -/
theorem Incremental.bind {k : α × List τ → Except ε (β × List τ)} (hf : Incremental f)
    (hk : ∀ a, Incremental fun s => k (a, s)) : Incremental fun s => f s >>= k := by
  intro s b rest more h
  dsimp only at h ⊢
  rcases hread : f s with e | ⟨a, s'⟩
  · rw [hread] at h
    cases h
  · rw [hread] at h
    rw [hf s a s' more hread]
    exact hk a s' b rest more h

/-- A check of what was read before. -/
theorem Incremental.check {c : Except ε Unit} (hf : Incremental f) :
    Incremental fun s => c >>= fun _ => f s := by
  intro s a rest more h
  rcases c with e | _
  · cases h
  · exact hf s a rest more h

/-- A reader, a number of times. -/
def times (f : Reader ε τ α) : ℕ → Reader ε τ (List α)
  | 0, s => .ok ([], s)
  | n + 1, s => f s >>= fun p => times f n p.2 >>= fun q => .ok (p.1 :: q.1, q.2)

theorem times_succ_eq_ok {n : ℕ} {s rest : List τ} {as : List α}
    (h : times f (n + 1) s = .ok (as, rest)) :
    ∃ a s' as', f s = .ok (a, s') ∧ times f n s' = .ok (as', rest) ∧ as = a :: as' := by
  rw [times] at h
  rcases hfirst : f s with e | ⟨a, s'⟩
  · rw [hfirst] at h
    cases h
  · rw [hfirst] at h
    change (times f n s' >>= fun q => Except.ok (a :: q.1, q.2)) = .ok (as, rest) at h
    rcases hothers : times f n s' with e | ⟨as', rest'⟩
    · rw [hothers] at h
      cases h
    · rw [hothers] at h
      cases h
      exact ⟨a, s', as', rfl, hothers, rfl⟩

/-! ## Streams of frames -/

variable {a b : α} {as bs : List α} {frame tail part rest : List τ}

/-- **One frame of a stream that is cut**: what is read of it is the frame. -/
theorem Incremental.eq_of_isPrefix (hf : Incremental f)
    (hread : ∀ rest, f (frame ++ rest) = .ok (a, rest)) (hpart : part <+: frame ++ tail)
    (h : f part = .ok (b, rest)) : b = a ∧ part = frame ++ rest ∧ rest <+: tail := by
  obtain ⟨more, hmore⟩ := hpart
  have hwhole := hf part b rest more h
  rw [hmore, hread] at hwhole
  cases hwhole
  refine ⟨rfl, ?_, List.prefix_append _ _⟩
  rw [← List.append_assoc] at hmore
  exact List.append_cancel_right hmore

variable {frameOf : α → List τ}

/-- The frames of a stream are read one after the other. -/
theorem times_flatMap (hread : ∀ a ∈ as, ∀ rest, f (frameOf a ++ rest) = .ok (a, rest))
    (rest : List τ) : times f as.length (as.flatMap frameOf ++ rest) = .ok (as, rest) := by
  induction as with
  | nil => rfl
  | cons a as ih =>
    have hrest := ih fun b hb => hread b (List.mem_cons_of_mem a hb)
    rw [List.flatMap_cons, List.append_assoc, List.length_cons, times,
      hread a List.mem_cons_self]
    change (times f as.length (as.flatMap frameOf ++ rest) >>= fun q => _) = _
    rw [hrest]
    rfl

/-- **Of a stream of frames that is cut, the frames before the cut are
read**: so many as are whole, and those. -/
theorem Incremental.times_of_isPrefix (hf : Incremental f)
    (hempty : ∀ a rest, f [] ≠ .ok (a, rest)) {n : ℕ}
    (hread : ∀ a ∈ as.take n, ∀ rest, f (frameOf a ++ rest) = .ok (a, rest))
    (hpart : part <+: as.flatMap frameOf) (h : Reader.times f n part = .ok (bs, rest)) :
    n ≤ as.length ∧ bs = as.take n ∧ part = (as.take n).flatMap frameOf ++ rest := by
  induction n generalizing as part bs with
  | zero =>
    cases h
    exact ⟨Nat.zero_le _, rfl, rfl⟩
  | succ n ih =>
    obtain ⟨b, part', bs', hfirst, hothers, rfl⟩ := times_succ_eq_ok h
    rcases as with _ | ⟨a, as⟩
    · -- no frame is left, and nothing to read
      rw [List.prefix_nil.1 hpart] at hfirst
      exact absurd hfirst (hempty b part')
    · obtain ⟨rfl, rfl, htail⟩ := hf.eq_of_isPrefix (hread a List.mem_cons_self) hpart hfirst
      obtain ⟨hle, rfl, rfl⟩ := ih (fun c hc => hread c (List.mem_cons_of_mem b hc)) htail hothers
      refine ⟨Nat.succ_le_succ hle, rfl, ?_⟩
      rw [List.take_succ_cons, List.flatMap_cons, List.append_assoc]

end Reader

end ASync
