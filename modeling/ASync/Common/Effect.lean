import Mathlib
/-!
# Computations whose state survives an exception

A store that commits every statement as it runs keeps what was written
before an exception. `EStateM` is that computation: both outcomes carry
a state. This file gives the state a computation leaves behind either
way (`after`), the inversion of a sequence, and the rules by which a
property of the state is carried through a computation: `Preserves` for
an invariant, `Keeps` for a part the computation does not touch.
-/

namespace ASync

namespace Effect

variable {ε σ τ α β : Type}

/-- The state a computation ends in, whether it returns or throws. -/
def after (m : EStateM ε σ α) (s : σ) : σ :=
  match m.run s with
  | .ok _ s' => s'
  | .error _ s' => s'

/-- The state after a run that returns. -/
theorem after_of_ok {m : EStateM ε σ α} {s s' : σ} {a : α} (h : m.run s = .ok a s') :
    after m s = s' := by
  rw [after, h]

/-- The state after a run that throws. -/
theorem after_of_error {m : EStateM ε σ α} {s s' : σ} {e : ε} (h : m.run s = .error e s') :
    after m s = s' := by
  rw [after, h]

/-- What a computation returns, if it does. -/
def result (m : EStateM ε σ α) (s : σ) : Option α :=
  match m.run s with
  | .ok a _ => some a
  | .error _ _ => none

/-- The result of a run that returns. -/
theorem result_of_ok {m : EStateM ε σ α} {s s' : σ} {a : α} (h : m.run s = .ok a s') :
    result m s = some a := by
  rw [result, h]

/-- A run that throws has none. -/
theorem result_of_error {m : EStateM ε σ α} {s s' : σ} {e : ε} (h : m.run s = .error e s') :
    result m s = none := by
  rw [result, h]

/-- A run that has a result returns it, and leaves the state after it. -/
theorem run_eq_ok_after {m : EStateM ε σ α} {s : σ} {a : α} (h : result m s = some a) :
    m.run s = .ok a (after m s) := by
  rw [result] at h
  cases hrun : m.run s with
  | ok b s' =>
    rw [hrun] at h
    rw [Option.some.inj h, after_of_ok hrun]
  | error e s' =>
    rw [hrun] at h
    cases h

/-! ## Inverting a sequence -/

/-- Two programs return one after the other exactly where both do. -/
theorem run_bind_eq_ok {m : EStateM ε σ α} {f : α → EStateM ε σ β} {s s'' : σ} {b : β} :
    (m >>= f).run s = .ok b s'' ↔
      ∃ a s', m.run s = .ok a s' ∧ (f a).run s' = .ok b s'' := by
  rw [EStateM.run_bind]
  cases m.run s with
  | ok a s' =>
    constructor
    · intro h
      exact ⟨a, s', rfl, h⟩
    · rintro ⟨_, _, ⟨rfl, rfl⟩, h⟩
      exact h
  | error e s' => simp

/-- What comes after a program that returns. -/
theorem run_bind_of_ok {m : EStateM ε σ α} {s s' : σ} {a : α} (h : m.run s = .ok a s')
    (f : α → EStateM ε σ β) : (m >>= f).run s = (f a).run s' := by
  rw [EStateM.run_bind, h]

/-- Nothing comes after one that throws. -/
theorem run_bind_of_error {m : EStateM ε σ α} {s s' : σ} {e : ε} (h : m.run s = .error e s')
    (f : α → EStateM ε σ β) : (m >>= f).run s = .error e s' := by
  rw [EStateM.run_bind, h]

/-- A program that reads the state goes on with it. -/
theorem run_get_bind {f : σ → EStateM ε σ α} (s : σ) : (get >>= f).run s = (f s).run s := rfl

/-- The state after two programs of which the first returns. -/
theorem after_bind_of_ok {m : EStateM ε σ α} {s s' : σ} {a : α} (h : m.run s = .ok a s')
    (f : α → EStateM ε σ β) : after (m >>= f) s = after (f a) s' := by
  rw [after, run_bind_of_ok h, after]

/-- The state after two programs of which the first throws. -/
theorem after_bind_of_error {m : EStateM ε σ α} {s s' : σ} {e : ε} (h : m.run s = .error e s')
    (f : α → EStateM ε σ β) : after (m >>= f) s = s' := after_of_error (run_bind_of_error h f)

/-- What is returned does not matter for the state that is left. -/
theorem after_bind_pure (m : EStateM ε σ α) (f : α → β) (s : σ) :
    after (m >>= fun a => pure (f a)) s = after m s := by
  rcases hrun : m.run s with ⟨a, s'⟩ | ⟨e, s'⟩
  · rw [after_bind_of_ok hrun, after_of_ok hrun]
    rfl
  · rw [after_bind_of_error hrun, after_of_error hrun]

/-- Discarding a result leaves the state. -/
theorem run_discard_of_ok {m : EStateM ε σ α} {s s' : σ} {a : α} (h : m.run s = .ok a s') :
    (discard m).run s = .ok () s' := by
  change (m >>= fun _ => pure ()).run s = _
  rw [run_bind_of_ok h]
  rfl

/-- Discarding leaves an exception. -/
theorem run_discard_of_error {m : EStateM ε σ α} {s s' : σ} {e : ε} (h : m.run s = .error e s') :
    (discard m).run s = .error e s' := by
  change (m >>= fun _ => pure ()).run s = _
  rw [run_bind_of_error h]

/-- A handler is not run where nothing is thrown. -/
theorem run_tryCatch_of_ok {m : EStateM ε σ α} {f : ε → EStateM ε σ α} {s s' : σ} {a : α}
    (h : m.run s = .ok a s') : (tryCatch m f).run s = .ok a s' := by
  change EStateM.tryCatch m f s = _
  rw [EStateM.tryCatch, show m s = .ok a s' from h]

/-- What a handler sees is the state the exception left. -/
theorem run_tryCatch_of_error {m : EStateM ε σ α} {f : ε → EStateM ε σ α} {s s' : σ} {e : ε}
    (h : m.run s = .error e s') : (tryCatch m f).run s = (f e).run s' := by
  change EStateM.tryCatch m f s = _
  rw [EStateM.tryCatch, show m s = .error e s' from h]
  rfl

/-- A pure result leaves the state. -/
theorem run_ofExcept_of_ok {x : Except ε α} {a : α} (h : x = .ok a) (s : σ) :
    (ofExcept x : EStateM ε σ α).run s = .ok a s := by
  rw [h]
  rfl

/-- Whatever it returns, it leaves the state. -/
theorem ofExcept_eq_ok {x : Except ε α} {s s' : σ} {a : α}
    (h : (ofExcept x : EStateM ε σ α).run s = .ok a s') : x = .ok a ∧ s' = s := by
  cases x with
  | ok b =>
    cases h
    exact ⟨rfl, rfl⟩
  | error e => cases h

/-- **A fold whose steps return**, and keep `P`, returns the fold of what
they return. -/
theorem exists_foldlM_eq_ok {f : β → α → EStateM ε σ β} {g : β → α → β} {P : σ → Prop}
    (hstep : ∀ b a s, P s → ∃ s', (f b a).run s = .ok (g b a) s' ∧ P s') (xs : List α) (b : β)
    {s : σ} (hs : P s) : ∃ s', (xs.foldlM f b).run s = .ok (xs.foldl g b) s' ∧ P s' := by
  induction xs generalizing b s with
  | nil => exact ⟨s, rfl, hs⟩
  | cons a xs ih =>
    obtain ⟨s₁, hrun, hs₁⟩ := hstep b a s hs
    obtain ⟨s₂, hrest, hs₂⟩ := ih (g b a) hs₁
    refine ⟨s₂, ?_, hs₂⟩
    rw [List.foldlM_cons, run_bind_of_ok hrun, hrest, List.foldl_cons]

/-- What a caught call returned, unless the handler returned it. -/
theorem tryCatch_throw_eq_ok {m : EStateM ε σ α} {f : ε → ε} {s s' : σ} {a : α}
    (h : (tryCatch m fun e => throw (f e)).run s = .ok a s') : m.run s = .ok a s' := by
  cases hm : m.run s with
  | ok b t =>
    rw [run_tryCatch_of_ok hm] at h
    exact h
  | error e t =>
    rw [run_tryCatch_of_error hm] at h
    cases h

/-! ## Loops -/

/-- **A loop keeps its invariant** from any point on: one round keeps it,
whatever has been done. -/
theorem forM_eq_ok_from {xs : List α} {f : α → EStateM ε σ PUnit} {I : List α → σ → Prop}
    (hstep : ∀ done x s s', x ∈ xs → I done s → (f x).run s = .ok () s' → I (done ++ [x]) s')
    {done : List α} {s s' : σ} (hs : I done s) (h : (forM xs f).run s = .ok () s') :
    I (done ++ xs) s' := by
  induction xs generalizing done s with
  | nil =>
    cases h
    rwa [List.append_nil]
  | cons x xs ih =>
    rw [List.forM_cons, run_bind_eq_ok] at h
    obtain ⟨_, s₁, hx, hrest⟩ := h
    have hone := hstep done x s s₁ List.mem_cons_self hs hx
    have := ih (fun done y t t' hy => hstep done y t t' (List.mem_cons_of_mem x hy)) hone hrest
    rwa [List.append_assoc, List.singleton_append] at this

/-- **What the iterations of a loop that returned carry along.** The
invariant speaks of the elements done so far. -/
theorem forM_eq_ok {xs : List α} {f : α → EStateM ε σ PUnit} {I : List α → σ → Prop}
    (hstep : ∀ done x s s', x ∈ xs → I done s → (f x).run s = .ok () s' → I (done ++ [x]) s')
    {s s' : σ} (hs : I [] s) (h : (forM xs f).run s = .ok () s') : I xs s' :=
  forM_eq_ok_from hstep hs h

/-- A loop returns when each iteration does, in every state a condition
allows, and keeps the condition. -/
theorem exists_forM_eq_ok (xs : List α) {f : α → EStateM ε σ PUnit} {P : σ → Prop}
    (hstep : ∀ x ∈ xs, ∀ s, P s → ∃ s', (f x).run s = .ok () s' ∧ P s') {s : σ} (hs : P s) :
    ∃ s', (forM xs f).run s = .ok () s' ∧ P s' := by
  induction xs generalizing s with
  | nil => exact ⟨s, rfl, hs⟩
  | cons x xs ih =>
    obtain ⟨s₁, hx, hs₁⟩ := hstep x List.mem_cons_self s hs
    obtain ⟨s₂, hrest, hs₂⟩ := ih (fun y hy => hstep y (List.mem_cons_of_mem x hy)) hs₁
    refine ⟨s₂, ?_, hs₂⟩
    rw [List.forM_cons, run_bind_of_ok hx, hrest]

/-! ## Running on a part of the state -/

/-- A computation on a part of a larger state. -/
def focus (get : σ → τ) (set : τ → σ → σ) (m : EStateM ε τ α) : EStateM ε σ α := fun s =>
  match m.run (get s) with
  | .ok a t => .ok a (set t s)
  | .error e t => .error e (set t s)

/-- A program on a part of the state puts the part back when it returns. -/
theorem run_focus_of_ok {get : σ → τ} {set : τ → σ → σ} {m : EStateM ε τ α} {s : σ} {a : α}
    {t : τ} (h : m.run (get s) = .ok a t) :
    (focus get set m).run s = .ok a (set t s) := by
  simp [focus, EStateM.run, show m (get s) = .ok a t from h]

/-- A program on a part of the state puts the part back when it throws. -/
theorem run_focus_of_error {get : σ → τ} {set : τ → σ → σ} {m : EStateM ε τ α} {s : σ} {e : ε}
    {t : τ} (h : m.run (get s) = .error e t) :
    (focus get set m).run s = .error e (set t s) := by
  simp [focus, EStateM.run, show m (get s) = .error e t from h]

/-- The state after a program on a part of it. -/
@[simp] theorem after_focus {get : σ → τ} {set : τ → σ → σ} {m : EStateM ε τ α} {s : σ} :
    after (focus get set m) s = set (after m (get s)) s := by
  cases h : m.run (get s) with
  | ok a t => rw [after_of_ok (run_focus_of_ok h), after_of_ok h]
  | error e t => rw [after_of_error (run_focus_of_error h), after_of_error h]

/-! ## Invariants -/

/-- A computation started where `I` holds ends where `I` holds, whether
it returns or throws. -/
def Preserves (I : σ → Prop) (m : EStateM ε σ α) : Prop := ∀ s, I s → I (after m s)

namespace Preserves

variable {I : σ → Prop}

/-- Returning keeps an invariant. -/
theorem pure (a : α) : Preserves I (Pure.pure a : EStateM ε σ α) := fun _ h => h

/-- Throwing keeps an invariant. -/
theorem throw (e : ε) : Preserves I (MonadExcept.throw e : EStateM ε σ α) := fun _ h => h

/-- Reading keeps an invariant. -/
theorem get : Preserves I (MonadState.get : EStateM ε σ σ) := fun _ h => h

/-- A change keeps what it keeps of every state. -/
theorem modify {f : σ → σ} (hf : ∀ s, I s → I (f s)) :
    Preserves I (modify f : EStateM ε σ PUnit) := hf

/-- A pure result keeps an invariant. -/
theorem ofExcept (x : Except ε α) : Preserves I (MonadExcept.ofExcept x : EStateM ε σ α) := by
  cases x with
  | ok a => exact pure a
  | error e => exact throw e

/-- Two programs keep what each keeps. -/
theorem bind {m : EStateM ε σ α} {f : α → EStateM ε σ β} (hm : Preserves I m)
    (hf : ∀ a, Preserves I (f a)) : Preserves I (m >>= f) := by
  intro s hs
  have h := hm s hs
  cases hr : m.run s with
  | ok a s' =>
    rw [after_of_ok hr] at h
    rw [after_bind_of_ok hr]
    exact hf a s' h
  | error e s' =>
    rw [after_of_error hr] at h
    rw [after_bind_of_error hr]
    exact h

/-- A choice of two programs keeps what both keep. -/
theorem ite {c : Prop} [Decidable c] {m n : EStateM ε σ α} (hm : Preserves I m)
    (hn : Preserves I n) : Preserves I (if c then m else n) := by
  split
  · exact hm
  · exact hn

end Preserves

/-- A computation leaves a part of the state as it was. -/
def Keeps (v : σ → τ) (m : EStateM ε σ α) : Prop := ∀ t, Preserves (fun s => v s = t) m

/-- What a program keeps is the same after it. -/
theorem Keeps.after_eq {v : σ → τ} {m : EStateM ε σ α} (h : Keeps v m) (s : σ) :
    v (after m s) = v s := h (v s) s rfl

end Effect

end ASync
