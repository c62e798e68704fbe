import Mathlib
/-!
# Runs of a machine

A machine starts in some states and moves by events. `Run` is its
reachable states, each with the events that led there, so that a
property may speak of the history; the condition `ok` restricts the
events by what came before them and the state they find. `invariant` is
the one induction over runs the development uses.
-/

namespace ASync

/-- The states a machine may start in, and where an event may take it. -/
structure Machine (σ ε : Type) where
  /-- The states a run may start in. -/
  start : σ → Prop
  /-- The state an event leads to. -/
  step : σ → ε → σ → Prop

/-- The machine of a partial step function, started in one state. -/
def Machine.ofStep {σ ε : Type} (start : σ) (step : σ → ε → Option σ) : Machine σ ε where
  start s := s = start
  step s e s' := step s e = some s'

namespace Machine

variable {σ ε : Type} {M : Machine σ ε} {ok ok' : List ε → σ → ε → Prop}
variable {es : List ε} {s : σ}

/-- `M.Run ok es s`: after the events `es`, each of which met `ok` where
it happened, the machine may be in state `s`. -/
inductive Run (M : Machine σ ε) (ok : List ε → σ → ε → Prop) : List ε → σ → Prop
  /-- No event has happened. -/
  | start {s : σ} : M.start s → Run M ok [] s
  /-- One more event, allowed by `ok`. -/
  | step {es : List ε} {s s' : σ} {e : ε} :
      Run M ok es s → ok es s e → M.step s e s' → Run M ok (es ++ [e]) s'

/-- A run with no condition on its events. -/
abbrev Reaches (M : Machine σ ε) : List ε → σ → Prop := M.Run fun _ _ _ => True

/-- **What holds at the start and is preserved by every step holds of
every run.** A step may use that the run so far is one. -/
theorem Run.invariant {I : List ε → σ → Prop} (h : M.Run ok es s)
    (hstart : ∀ s, M.start s → I [] s)
    (hstep : ∀ es s e s', M.Run ok es s → I es s → ok es s e → M.step s e s' →
      I (es ++ [e]) s') : I es s := by
  induction h with
  | start hs => exact hstart _ hs
  | step hrun hok hst ih => exact hstep _ _ _ _ hrun ih hok hst

/-- **A run can go on to a goal** when every run short of it has an event
that lowers a measure. -/
theorem Run.exists_goal (goal : σ → Prop) (measure : σ → ℕ) (h : M.Run ok es s)
    (hprogress : ∀ es s, M.Run ok es s → ¬ goal s →
      ∃ e s', ok es s e ∧ M.step s e s' ∧ measure s' < measure s) :
    ∃ more s', M.Run ok (es ++ more) s' ∧ goal s' := by
  induction hn : measure s using Nat.strong_induction_on generalizing es s with
  | _ n ih =>
    by_cases hgoal : goal s
    · exact ⟨[], s, (List.append_nil es).symm ▸ h, hgoal⟩
    · obtain ⟨e, s', hok, hstep, hlt⟩ := hprogress es s h hgoal
      obtain ⟨more, t, hrun, ht⟩ := ih (measure s') (hn ▸ hlt) (h.step hok hstep) rfl
      refine ⟨e :: more, t, ?_, ht⟩
      rw [List.append_cons]
      exact hrun

/-- A list of events each of which passes a test and has a step is a run
from where it begins. -/
theorem run_of_foldlM {start : σ} {step : σ → ε → Option σ} {test : σ → ε → Bool}
    (hstart : M.start start) (hstep : ∀ s e s', step s e = some s' → M.step s e s')
    (h : es.foldlM (fun s e => if test s e then step s e else none) start = some s) :
    M.Run (fun _ s e => test s e = true) es s := by
  induction es using List.reverseRecOn generalizing s with
  | nil =>
    cases h
    exact Run.start hstart
  | append_singleton es e ih =>
    rw [List.foldlM_append, Option.bind_eq_bind, Option.bind_eq_some_iff] at h
    obtain ⟨t, ht, he⟩ := h
    rw [List.foldlM_cons, Option.bind_eq_bind, Option.bind_eq_some_iff] at he
    obtain ⟨t', ht', hs⟩ := he
    cases hs
    split at ht'
    · next htest => exact Run.step (ih ht) htest (hstep _ _ _ ht')
    · cases ht'

/-- Such a run exists where the state it ends in is computed, and has a
property that is computed too. -/
theorem exists_run_of_foldlM {start : σ} {step : σ → ε → Option σ} {test : σ → ε → Bool}
    {p : σ → Bool} (hstart : M.start start) (hstep : ∀ s e s', step s e = some s' → M.step s e s')
    (h : (es.foldlM (fun s e => if test s e then step s e else none) start).any p = true) :
    ∃ s, M.Run (fun _ s e => test s e = true) es s ∧ p s = true := by
  obtain ⟨s, hs, hp⟩ := (Option.any_eq_true ..).1 h
  exact ⟨s, run_of_foldlM hstart hstep hs, hp⟩

theorem exists_run_of_any {start : σ} {step : σ → ε → Option σ} {test : σ → ε → Bool}
    {p : σ → Bool}
    (h : (es.foldlM (fun s e => if test s e then step s e else none) start).any p = true) :
    ∃ s, (ofStep start step).Run (fun _ s e => test s e = true) es s ∧ p s = true :=
  exists_run_of_foldlM rfl (fun _ _ _ hstep => hstep) h

/-- A weaker condition allows the run too. -/
theorem Run.mono (h : M.Run ok es s) (hok : ∀ es s e, ok es s e → ok' es s e) :
    M.Run ok' es s := by
  induction h with
  | start hs => exact Run.start hs
  | step _ ho hst ih => exact Run.step ih (hok _ _ _ ho) hst

theorem Run.reaches (h : M.Run ok es s) : M.Reaches es s := h.mono fun _ _ _ _ => trivial

/-- What holds of every event may be part of the condition. -/
theorem Run.and_of_forall_mem {P : ε → Prop} (h : M.Run ok es s) (hP : ∀ e ∈ es, P e) :
    M.Run (fun es s e => ok es s e ∧ P e) es s := by
  induction h with
  | start hs => exact Run.start hs
  | step _ ho hst ih =>
    refine Run.step (ih fun e he => hP e (List.mem_append_left _ he)) ⟨ho, hP _ ?_⟩ hst
    exact List.mem_append_right _ (List.mem_singleton.2 rfl)

/-- **A relation between two machines, carried along**: where each start
has a related start and each step from related states a related step by
the same event, each run has a related run over the same events. -/
theorem Run.exists_related {τ : Type} {N : Machine τ ε} {R : σ → τ → Prop} (h : M.Run ok es s)
    (hstart : ∀ s, M.start s → ∃ t, N.start t ∧ R s t)
    (hstep : ∀ es s e s' t, ok es s e → R s t → M.step s e s' → ∃ t', N.step t e t' ∧ R s' t') :
    ∃ t, N.Reaches es t ∧ R s t := by
  induction h with
  | start hs =>
    obtain ⟨t, ht, hR⟩ := hstart _ hs
    exact ⟨t, Run.start ht, hR⟩
  | step _ ho hst ih =>
    obtain ⟨t, ht, hR⟩ := ih
    obtain ⟨t', ht', hR'⟩ := hstep _ _ _ _ _ ho hR hst
    exact ⟨t', Run.step ht trivial ht', hR'⟩

end Machine

end ASync
