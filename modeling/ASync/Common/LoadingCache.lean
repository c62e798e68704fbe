import ASync.Common.Effect
import ASync.Common.Table
/-!
# Loading caches

A cache over a loader: what is missing is loaded and kept, and a load that
fails leaves nothing behind. The loader may write to the cache itself.
-/

namespace ASync

namespace Table

variable {κ ρ τ : Type}

/-- Every row replaced by what a function makes of it. -/
def mapRows (t : Table κ ρ) (f : ρ → τ) : Table κ τ where
  entries := t.entries.map fun e => ⟨e.1, f e.2⟩
  nodupKeys := by
    have hkeys : (t.entries.map fun e => (⟨e.1, f e.2⟩ : (_ : κ) × τ)).keys = t.entries.keys := by
      unfold Multiset.keys
      rw [Multiset.map_map]
      rfl
    have h := t.nodupKeys
    rw [← Multiset.nodup_keys] at h ⊢
    rwa [hkeys]

variable [DecidableEq κ] {t : Table κ ρ} {k : κ}

/-- A row is found as it was, mapped. -/
@[simp] theorem find_mapRows {f : ρ → τ} : (t.mapRows f).find k = (t.find k).map f := by
  have hmem : ∀ r, (t.mapRows f).find k = some r ↔ ∃ r', t.find k = some r' ∧ f r' = r := by
    intro r
    refine Finmap.mem_lookup_iff.trans ?_
    rw [mapRows, Multiset.mem_map]
    constructor
    · rintro ⟨⟨k', r'⟩, hr, heq⟩
      obtain ⟨rfl, hf⟩ := Sigma.mk.inj heq
      exact ⟨r', Finmap.mem_lookup_iff.2 hr, eq_of_heq hf⟩
    · rintro ⟨r', hr, rfl⟩
      exact ⟨⟨k, r'⟩, Finmap.mem_lookup_iff.1 hr, rfl⟩
  cases h : t.find k with
  | none =>
    rw [Option.map_none, Option.eq_none_iff_forall_ne_some]
    intro r hr
    obtain ⟨r', hr', -⟩ := (hmem r).1 hr
    rw [h] at hr'
    cases hr'
  | some r => exact (hmem (f r)).2 ⟨r, h, rfl⟩

end Table

namespace LoadingCache

open Effect

variable {ε σ κ α : Type} [DecidableEq κ]

/-- The entry of a key, loaded where it is missing; what the loader throws
comes out wrapped. -/
def getUnchecked (cache : σ → Table κ α) (put : Table κ α → σ → σ) (wrap : ε → ε)
    (load : EStateM ε σ α) (key : κ) : EStateM ε σ α := do
  let s ← get
  match (cache s).find key with
  | some cached => return cached
  | none =>
    let loaded ← tryCatch load fun e => throw (wrap e)
    modify fun s => put ((cache s).merge key loaded) s
    return loaded

variable {cache : σ → Table κ α} {put : Table κ α → σ → σ} {wrap : ε → ε}
variable {load : EStateM ε σ α} {key : κ} {s s' : σ} {a : α} {e : ε}

/-- What is cached is returned. -/
theorem run_getUnchecked_of_find (h : (cache s).find key = some a) :
    (getUnchecked cache put wrap load key).run s = .ok a s := by
  unfold getUnchecked
  rw [run_get_bind, h]
  rfl

/-- What is not is loaded, and cached. -/
theorem run_getUnchecked_of_load (h : (cache s).find key = none) (hload : load.run s = .ok a s') :
    (getUnchecked cache put wrap load key).run s = .ok a (put ((cache s').merge key a) s') := by
  unfold getUnchecked
  rw [run_get_bind, h]
  simp only
  rw [run_bind_of_ok (run_tryCatch_of_ok hload)]
  rfl

/-- A load that throws caches nothing, and its exception is wrapped. -/
theorem run_getUnchecked_of_error (h : (cache s).find key = none)
    (hload : load.run s = .error e s') :
    (getUnchecked cache put wrap load key).run s = .error (wrap e) s' := by
  unfold getUnchecked
  rw [run_get_bind, h]
  simp only
  have hthrow : (tryCatch load fun e => throw (wrap e)).run s = .error (wrap e) s' := by
    rw [run_tryCatch_of_error hload]
    rfl
  rw [run_bind_of_error hthrow]

/-- **What comes out** is the entry, or else what the loader returns. -/
theorem result_getUnchecked : result (getUnchecked cache put wrap load key) s =
    ((cache s).find key).or (result load s) := by
  cases hfind : (cache s).find key with
  | some a => rw [result_of_ok (run_getUnchecked_of_find hfind), Option.some_or]
  | none =>
    rw [Option.none_or]
    cases hrun : load.run s with
    | ok a s' => rw [result_of_ok (run_getUnchecked_of_load hfind hrun), result_of_ok hrun]
    | error e s' =>
      rw [result_of_error (run_getUnchecked_of_error hfind hrun), result_of_error hrun]

/-- What the load keeps and an entry put does not disturb is kept. -/
theorem preserves_getUnchecked {I : σ → Prop} (hload : Preserves I load)
    (hput : ∀ s a, I s → I (put ((cache s).merge key a) s)) :
    Preserves I (getUnchecked cache put wrap load key) := by
  intro s hs
  cases hfind : (cache s).find key with
  | some a => rwa [after_of_ok (run_getUnchecked_of_find hfind)]
  | none =>
    have hafter := hload s hs
    cases hrun : load.run s with
    | ok a s' =>
      rw [after_of_ok hrun] at hafter
      rw [after_of_ok (run_getUnchecked_of_load hfind hrun)]
      exact hput s' a hafter
    | error e s' =>
      rw [after_of_error hrun] at hafter
      rwa [after_of_error (run_getUnchecked_of_error hfind hrun)]

end LoadingCache

end ASync
