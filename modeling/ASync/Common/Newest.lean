import Mathlib
import ASync.Common.Table
/-!
# Tables that keep the newest write

A replica that takes a write only when its stamp is after that of what
it has, keeps for each key the first of the writes with the greatest
stamp: `find_foldl_keepNewest`, in terms of Mathlib's `List.argmax`.
-/

namespace ASync

namespace Table

variable {κ α τ : Type} [DecidableEq κ] [LinearOrder τ]
variable (key : α → κ) (stamp : α → τ) {t : Table κ α} {a : α} {k : κ}

/-- The write is newer than what the table has for its key. -/
def IsNewer (t : Table κ α) (a : α) : Prop :=
  ∀ b, t.find (key a) = some b → stamp b < stamp a

instance : Decidable (IsNewer key stamp t a) :=
  match hfind : t.find (key a) with
  | none => isTrue fun b h => by rw [hfind] at h; cases h
  | some b =>
    if hlt : stamp b < stamp a then isTrue fun b' h => by rw [hfind] at h; cases h; exact hlt
    else isFalse fun h => hlt (h b hfind)

/-- Take a write that is newer than what the table has. -/
def keepNewest (t : Table κ α) (a : α) : Table κ α :=
  if IsNewer key stamp t a then t.merge (key a) a else t

theorem find_keepNewest_of_ne (h : k ≠ key a) : (keepNewest key stamp t a).find k = t.find k := by
  unfold keepNewest
  split
  · exact find_merge_of_ne h
  · rfl

theorem find_keepNewest_self : (keepNewest key stamp t a).find (key a) =
    match t.find (key a) with
    | none => some a
    | some b => if stamp b < stamp a then some a else some b := by
  unfold keepNewest
  by_cases hn : IsNewer key stamp t a
  · rw [if_pos hn, find_merge_self]
    cases hfind : t.find (key a) with
    | none => rfl
    | some b => exact (if_pos (hn b hfind)).symm
  · rw [if_neg hn]
    cases hfind : t.find (key a) with
    | none => exact absurd (fun b h => by rw [hfind] at h; cases h) hn
    | some b =>
      refine (if_neg fun hlt => hn fun b' h => ?_).symm
      rw [hfind] at h
      cases h
      exact hlt

/-- **Keeping the newest is taking the maximum**: the first write of a
key with the greatest stamp stays. -/
theorem find_foldl_keepNewest (l : List α) (k : κ) :
    (l.foldl (keepNewest key stamp) ∅).find k =
      (l.filter fun a => key a = k).argmax stamp := by
  induction l using List.reverseRecOn with
  | nil => exact find_empty k
  | append_singleton l a ih =>
    rw [List.foldl_append, List.foldl_cons, List.foldl_nil, List.filter_append]
    by_cases hk : key a = k
    · rw [List.filter_singleton, decide_eq_true hk, cond_true, List.argmax_concat, ← ih, ← hk,
        find_keepNewest_self]
      cases (l.foldl (keepNewest key stamp) ∅).find (key a) <;> rfl
    · rw [List.filter_singleton, decide_eq_false hk, cond_false, List.append_nil, ← ih,
        find_keepNewest_of_ne key stamp (Ne.symm hk)]

/-- Where the last write of a key is newer than all before it, it stays. -/
theorem argmax_concat_of_forall_lt {l : List α} (h : ∀ b ∈ l, stamp b < stamp a) :
    (l ++ [a]).argmax stamp = some a := by
  rw [List.argmax_concat]
  cases hm : l.argmax stamp with
  | none => rfl
  | some b => exact if_pos (h b (List.argmax_mem hm))

omit [DecidableEq κ] in
/-- **The newest of a set of writes** whose stamps tell them apart does not
depend on their order, nor on how often each is repeated. -/
theorem argmax_eq_of_mem_iff {l l' : List α} (hmem : ∀ a, a ∈ l ↔ a ∈ l')
    (hstamp : ∀ a ∈ l, ∀ b ∈ l, stamp a = stamp b → a = b) :
    l.argmax stamp = l'.argmax stamp := by
  cases hm : l.argmax stamp with
  | none =>
    have hnil : l' = [] := by
      rw [List.argmax_eq_none] at hm
      rw [List.eq_nil_iff_forall_not_mem]
      intro a ha
      have hin := (hmem a).2 ha
      rw [hm] at hin
      exact List.not_mem_nil hin
    rw [hnil, List.argmax_nil]
  | some a =>
    have ha := List.argmax_mem hm
    cases hm' : l'.argmax stamp with
    | none =>
      have ha' := (hmem a).1 ha
      rw [List.argmax_eq_none.1 hm'] at ha'
      exact absurd ha' List.not_mem_nil
    | some b =>
      have hb := List.argmax_mem hm'
      have hle := List.le_of_mem_argmax ((hmem b).2 hb) hm
      have hge := List.le_of_mem_argmax ((hmem a).1 ha) hm'
      rw [hstamp a ha b ((hmem b).2 hb) (le_antisymm hge hle)]

/-- A maximum is one over the numbers a list has. -/
theorem maximum_eq_of_mem_iff {l l' : List τ} (hmem : ∀ a, a ∈ l ↔ a ∈ l') :
    l.maximum = l'.maximum := by
  have hle : ∀ {l₁ l₂ : List τ}, (∀ a ∈ l₁, a ∈ l₂) → l₁.maximum ≤ l₂.maximum := by
    intro l₁ l₂ hsub
    exact List.maximum_le_of_forall_le fun a ha => List.le_maximum_of_mem' (hsub a ha)
  exact le_antisymm (hle fun a => (hmem a).1) (hle fun a => (hmem a).2)

end Table

end ASync
