import Mathlib
/-!
# Keyed tables

A table with a primary key is a finite map from keys to rows, Mathlib's
`Finmap`. This file gives it the statements a store runs on it — read a
row, upsert a row, delete a row — and the aggregates a query computes
over all rows. `sum_merge` is the one law the aggregates are maintained
by: an upsert takes the old row's share away and adds the new one's.
-/

namespace ASync

/-- A table with a primary key: at most one row a key. -/
abbrev Table (κ ρ : Type) := Finmap fun _ : κ => ρ

namespace Table

variable {κ ρ : Type} [DecidableEq κ]

/-- The row of a key: `SELECT … WHERE key = ?`. -/
def find (t : Table κ ρ) (k : κ) : Option ρ := t.lookup k

/-- The upsert: `MERGE INTO …`. -/
def merge (t : Table κ ρ) (k : κ) (r : ρ) : Table κ ρ := t.insert k r

/-- `DELETE … WHERE key = ?`. -/
def delete (t : Table κ ρ) (k : κ) : Table κ ρ := t.erase k

/-- The sum of a number each row carries. -/
def sum (t : Table κ ρ) (f : κ → ρ → ℤ) : ℤ := (t.entries.map fun e => f e.1 e.2).sum

/-- The number of rows with a property. -/
def count (t : Table κ ρ) (p : κ → ρ → Bool) : ℕ := t.entries.countP fun e => p e.1 e.2

variable {t t' : Table κ ρ} {k k' : κ} {r r' : ρ}

/-! ## Reading after writing -/

/-- Nothing is found in an empty table. -/
@[simp] theorem find_empty (k : κ) : (∅ : Table κ ρ).find k = none := Finmap.lookup_empty k

/-- What was put is found. -/
@[simp] theorem find_merge_self : (t.merge k r).find k = some r := Finmap.lookup_insert t

/-- Under other keys all is as before. -/
theorem find_merge_of_ne (h : k' ≠ k) : (t.merge k r).find k' = t.find k' :=
  Finmap.lookup_insert_of_ne t h

/-- The two cases in one. -/
theorem find_merge : (t.merge k r).find k' = if k' = k then some r else t.find k' := by
  by_cases h : k' = k
  · rw [if_pos h, h, find_merge_self]
  · rw [if_neg h, find_merge_of_ne h]

/-- What was deleted is not found. -/
@[simp] theorem find_delete_self : (t.delete k).find k = none := Finmap.lookup_erase k t

/-- Under other keys all is as before. -/
theorem find_delete_of_ne (h : k' ≠ k) : (t.delete k).find k' = t.find k' :=
  Finmap.lookup_erase_ne h

/-- Tables are equal when every key reads the same row. -/
theorem ext_find (h : ∀ k, t.find k = t'.find k) : t = t' := Finmap.ext_lookup h

/-- **An upsert changes nothing exactly when the row is there already.** -/
theorem merge_eq_self_iff : t.merge k r = t ↔ t.find k = some r := by
  constructor
  · intro h
    rw [← h, find_merge_self]
  · intro h
    refine ext_find fun k' => ?_
    rw [find_merge]
    split
    · next hk => rw [hk, h]
    · rfl

/-! ## Deleting several rows -/

/-- The rows of some keys deleted, one after another. -/
def deleteAll (t : Table κ ρ) (ks : List κ) : Table κ ρ := ks.foldl delete t

/-- Deleting nothing leaves the table. -/
@[simp] theorem deleteAll_nil : t.deleteAll [] = t := rfl

/-- Keys are deleted in turn. -/
@[simp] theorem deleteAll_cons {ks : List κ} :
    t.deleteAll (k :: ks) = (t.delete k).deleteAll ks := rfl

/-! ## Tables from their rows -/

/-- Rows put into a table, one after another. -/
def mergeAll (t : Table κ ρ) (key : ρ → κ) (rows : List ρ) : Table κ ρ :=
  rows.foldl (fun t r => merge t (key r) r) t

/-- One more row is put last. -/
theorem mergeAll_concat (t : Table κ ρ) (key : ρ → κ) (rows : List ρ) (r : ρ) :
    mergeAll t key (rows ++ [r]) = (mergeAll t key rows).merge (key r) r := by
  rw [mergeAll, List.foldl_append, List.foldl_cons, List.foldl_nil, mergeAll]

/-- The row of a key after rows of a table were put into an empty one. -/
theorem find_mergeAll {key : ρ → κ} {rows : List ρ}
    (h : ∀ r ∈ rows, t.find (key r) = some r) (k : κ) :
    (mergeAll ∅ key rows).find k =
      if ∃ r ∈ rows, key r = k then t.find k else none := by
  induction rows using List.reverseRecOn with
  | nil => simp [mergeAll]
  | append_singleton rows r ih =>
    have hinit := ih fun r' hr' => h r' (List.mem_append_left [r] hr')
    have hlast := h r (List.mem_append_right rows (List.mem_singleton.2 rfl))
    rw [mergeAll_concat, find_merge, hinit]
    by_cases hk : k = key r
    · rw [if_pos hk, if_pos ⟨r, List.mem_append_right rows (List.mem_singleton.2 rfl), hk.symm⟩, hk,
        hlast]
    · have hsame : (∃ r' ∈ rows ++ [r], key r' = k) ↔ ∃ r' ∈ rows, key r' = k := by
        constructor
        · rintro ⟨r', hr', hkey⟩
          rcases List.mem_append.1 hr' with hold | hnew
          · exact ⟨r', hold, hkey⟩
          · rw [List.mem_singleton.1 hnew] at hkey
            exact absurd hkey.symm hk
        · rintro ⟨r', hr', hkey⟩
          exact ⟨r', List.mem_append_left [r] hr', hkey⟩
      rw [if_neg hk]
      simp only [hsame]

/-- **All rows of a table, put into an empty one, are the table.** -/
theorem mergeAll_eq {key : ρ → κ} {rows : List ρ}
    (hkey : ∀ k r, t.find k = some r → key r = k)
    (hrows : ∀ r, r ∈ rows ↔ t.find (key r) = some r) :
    mergeAll ∅ key rows = t := by
  refine ext_find fun k => ?_
  rw [find_mergeAll fun r hr => (hrows r).1 hr]
  cases hk : t.find k with
  | none =>
    rw [ite_self]
  | some r =>
    have hr := hkey k r hk
    rw [if_pos ⟨r, (hrows r).2 (hr ▸ hk), hr⟩]

/-! ## Aggregates -/

omit [DecidableEq κ] in
/-- An empty table sums to nothing. -/
@[simp] theorem sum_empty (f : κ → ρ → ℤ) : (∅ : Table κ ρ).sum f = 0 := rfl

/-- A new row adds its share. -/
theorem sum_merge_of_find_none (f : κ → ρ → ℤ) (h : t.find k = none) :
    (t.merge k r).sum f = t.sum f + f k r := by
  have hk : k ∉ t := Finmap.lookup_eq_none.1 h
  rw [sum, merge, Finmap.entries_insert_of_notMem hk, Multiset.map_cons, Multiset.sum_cons, sum]
  exact add_comm _ _

/-- The share of a key's row in a sum, zero where the key has none. -/
def share (t : Table κ ρ) (f : κ → ρ → ℤ) (k : κ) : ℤ := (t.find k).elim 0 (f k)

/-- Deleting a row takes its share away. -/
theorem sum_delete (f : κ → ρ → ℤ) : (t.delete k).sum f = t.sum f - t.share f k := by
  cases h : t.find k with
  | none =>
    have hsame : t.delete k = t := by
      refine ext_find fun k' => ?_
      by_cases hk : k' = k
      · rw [hk, find_delete_self, h]
      · exact find_delete_of_ne hk
    rw [hsame, share, h, Option.elim_none, sub_zero]
  | some old =>
    have hcut : (t.delete k).merge k old = t := by
      refine ext_find fun k' => ?_
      rw [find_merge]
      split
      · next hk => rw [hk, h]
      · next hk => exact find_delete_of_ne hk
    have hold := sum_merge_of_find_none (r := old) f (find_delete_self (t := t) (k := k))
    rw [hcut] at hold
    rw [share, h, Option.elim_some, hold, add_sub_cancel_right]

/-- **An upsert moves a sum by the difference of the two rows.** -/
theorem sum_merge (f : κ → ρ → ℤ) :
    (t.merge k r).sum f = t.sum f - t.share f k + f k r := by
  have hover : t.merge k r = (t.delete k).merge k r := by
    refine ext_find fun k' => ?_
    rw [find_merge, find_merge]
    split
    · rfl
    · next hk => exact (find_delete_of_ne hk).symm
  rw [hover, sum_merge_of_find_none f find_delete_self, sum_delete]

/-- Deleting a row leaves the shares of the others. -/
theorem share_delete_of_ne (f : κ → ρ → ℤ) (h : k' ≠ k) :
    (t.delete k).share f k' = t.share f k' := by
  unfold share
  rw [find_delete_of_ne h]

/-- **Deleting some keys takes their shares away.** -/
theorem sum_deleteAll (f : κ → ρ → ℤ) {ks : List κ} (h : ks.Nodup) :
    (t.deleteAll ks).sum f = t.sum f - (ks.map (t.share f)).sum := by
  induction ks generalizing t with
  | nil => rw [deleteAll_nil, List.map_nil, List.sum_nil, sub_zero]
  | cons k ks ih =>
    obtain ⟨hk, hnodup⟩ := List.nodup_cons.1 h
    have hshares : ks.map ((t.delete k).share f) = ks.map (t.share f) :=
      List.map_congr_left fun k' hk' => share_delete_of_ne f (ne_of_mem_of_not_mem hk' hk)
    rw [deleteAll_cons, ih hnodup, sum_delete, hshares, List.map_cons, List.sum_cons, sub_sub]

omit [DecidableEq κ] in
/-- A count is the sum of its indicator. -/
theorem count_eq_sum (p : κ → ρ → Bool) :
    (t.count p : ℤ) = t.sum fun k r => if p k r then 1 else 0 := by
  unfold count sum
  induction t.entries using Multiset.induction_on with
  | empty => rfl
  | cons e s ih =>
    rw [Multiset.map_cons, Multiset.sum_cons, Multiset.countP_cons, Nat.cast_add, ih, add_comm]
    split <;> simp [*]

/-- A sum of non-negative numbers is non-negative. -/
theorem sum_nonneg (f : κ → ρ → ℤ) (h : ∀ k r, t.find k = some r → 0 ≤ f k r) :
    0 ≤ t.sum f := by
  refine Multiset.sum_nonneg fun x hx => ?_
  obtain ⟨e, he, rfl⟩ := Multiset.mem_map.1 hx
  exact h e.1 e.2 (Finmap.mem_lookup_iff.2 he)

end Table

end ASync
