import Mathlib
import ASync.Common.Effect
/-!
# Computations apart from a part of the state

A change `f` of the state is a frame of a computation that neither reads
nor writes what `f` changes: run after `f`, it returns or throws the same
and leaves the changed state. The rules below are one for each way a
computation is put together.
-/

namespace ASync

namespace Effect

variable {ε σ τ α β : Type}

/-- A result, with the state changed. -/
def mapState (f : σ → σ) : EStateM.Result ε σ α → EStateM.Result ε σ α
  | .ok a s => .ok a (f s)
  | .error e s => .error e (f s)

/-- The computation runs after the change as it runs before. -/
def Framed (f : σ → σ) (m : EStateM ε σ α) : Prop := ∀ s, m.run (f s) = mapState f (m.run s)

namespace Framed

variable {f : σ → σ} {m n : EStateM ε σ α} {s : σ}

/-- What a framed program leaves of the moved state is what it leaves,
moved. -/
theorem after_eq (h : Framed f m) (s : σ) : after m (f s) = f (after m s) := by
  rw [after, h s, after]
  cases m.run s <;> rfl

/-- A framed program has the same result on the moved state. -/
theorem result_eq (h : Framed f m) (s : σ) : result m (f s) = result m s := by
  rw [result, h s, result]
  cases m.run s <;> rfl

/-- Returning is framed. -/
theorem pure (a : α) : Framed f (Pure.pure a : EStateM ε σ α) := fun _ => rfl

/-- Throwing is framed. -/
theorem throw (e : ε) : Framed f (MonadExcept.throw e : EStateM ε σ α) := fun _ => rfl

/-- A change is framed that commutes with the move. -/
theorem modify {g : σ → σ} (h : ∀ s, g (f s) = f (g s)) :
    Framed f (modify g : EStateM ε σ PUnit) := by
  intro s
  show EStateM.Result.ok PUnit.unit (g (f s)) = .ok PUnit.unit (f (g s))
  rw [h s]

/-- A pure result is framed. -/
theorem ofExcept (x : Except ε α) : Framed f (MonadExcept.ofExcept x : EStateM ε σ α) := by
  cases x with
  | ok a => exact pure a
  | error e => exact throw e

/-- Two framed programs, one after the other, are framed. -/
theorem bind {k : α → EStateM ε σ β} (hm : Framed f m) (hk : ∀ a, Framed f (k a)) :
    Framed f (m >>= k) := by
  intro s
  rw [EStateM.run_bind, EStateM.run_bind, hm s]
  cases m.run s with
  | ok a t => exact hk a t
  | error e t => rfl

/-- A computation on the state may use of it what the change leaves. -/
theorem get_bind {k : σ → EStateM ε σ β} (hview : ∀ s, k (f s) = k s) (hk : ∀ s, Framed f (k s)) :
    Framed f (MonadState.get >>= k) := by
  intro s
  rw [run_get_bind, run_get_bind, hview s]
  exact hk s s

/-- A framed program with a framed handler is framed. -/
theorem tryCatch {k : ε → EStateM ε σ α} (hm : Framed f m) (hk : ∀ e, Framed f (k e)) :
    Framed f (MonadExcept.tryCatch m k) := by
  intro s
  have hms := hm s
  cases hrun : m.run s with
  | ok a t =>
    rw [hrun] at hms
    rw [run_tryCatch_of_ok hrun, run_tryCatch_of_ok hms]
    rfl
  | error e t =>
    rw [hrun] at hms
    rw [run_tryCatch_of_error hrun, run_tryCatch_of_error hms]
    exact hk e t

/-- A choice of two framed programs is framed. -/
theorem ite {c : Prop} [Decidable c] (hm : Framed f m) (hn : Framed f n) :
    Framed f (if c then m else n) := by
  split
  · exact hm
  · exact hn

/-- A framed program whose result is discarded is framed. -/
theorem discard (hm : Framed f m) : Framed f (Functor.discard m) := bind hm fun _ => pure _

/-- A fold of framed rounds is framed. -/
theorem foldlM {k : β → α → EStateM ε σ β} (hk : ∀ b a, Framed f (k b a)) (xs : List α) (b : β) :
    Framed f (xs.foldlM k b) := by
  induction xs generalizing b with
  | nil => exact pure b
  | cons a xs ih =>
    rw [List.foldlM_cons]
    exact bind (hk b a) fun b' => ih b'

/-- A loop of framed rounds is framed. -/
theorem forM {k : α → EStateM ε σ PUnit} (hk : ∀ a, Framed f (k a)) (xs : List α) :
    Framed f (ForM.forM xs k) := by
  induction xs with
  | nil => exact pure PUnit.unit
  | cons a xs ih =>
    rw [List.forM_cons]
    exact bind (hk a) fun _ => ih

/-- A computation on a part of the state. -/
theorem focus {get : σ → τ} {set : τ → σ → σ} {g : τ → τ} {m : EStateM ε τ α} (hm : Framed g m)
    (hget : ∀ s, get (f s) = g (get s)) (hset : ∀ t s, set (g t) (f s) = f (set t s)) :
    Framed f (Effect.focus get set m) := by
  intro s
  have hms := hm (get s)
  rw [← hget s] at hms
  cases hrun : m.run (get s) with
  | ok a t =>
    rw [hrun] at hms
    rw [run_focus_of_ok hrun, run_focus_of_ok hms, hset]
    rfl
  | error e t =>
    rw [hrun] at hms
    rw [run_focus_of_error hrun, run_focus_of_error hms, hset]
    rfl

end Framed

end Effect

end ASync
