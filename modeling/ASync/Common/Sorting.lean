import Mathlib
/-!
# Sorting by a comparator

`Collections.sort` puts a list in order and keeps the order of what the
comparator ties. `pair_sublist_sort` says of any two elements which comes
out first; the rest follows from it. Where nothing is tied the sorted list
does not depend on the order before (`sort_eq_of_perm`).
-/

namespace ASync

/-- A `java.util.Comparator`. -/
abbrev Comparator (α : Type) := α → α → Ordering

namespace Comparator

variable {α β : Type} {cmp : Comparator α} {l l' : List α} {a b : α}

/-- Values compared by a key of theirs. -/
def on (cmp : Comparator β) (f : α → β) : Comparator α := fun a b => cmp (f a) (f b)

instance {f : α → β} {cmp : Comparator β} [Std.TransCmp cmp] : Std.TransCmp (on cmp f) where
  eq_swap {a b} := by
    have hswap : cmp (f a) (f b) = (cmp (f b) (f a)).swap := Std.OrientedCmp.eq_swap
    exact hswap
  isLE_trans {a b c} hab hbc := by
    have hac : (cmp (f a) (f c)).isLE = true := Std.TransCmp.isLE_trans hab hbc
    exact hac

/-- `Collections.sort`, which is stable. -/
def sort (cmp : Comparator α) (l : List α) : List α :=
  l.insertionSort fun a b => (cmp a b).isLE = true

/-- No element is followed by one that is to come before it. -/
def Sorted (cmp : Comparator α) (l : List α) : Prop := l.Pairwise fun a b => (cmp a b).isLE = true

instance : Decidable (Sorted cmp l) := inferInstanceAs (Decidable (l.Pairwise _))

theorem sort_perm (cmp : Comparator α) (l : List α) : (sort cmp l).Perm l :=
  List.perm_insertionSort _ l

@[simp] theorem mem_sort : a ∈ sort cmp l ↔ a ∈ l := (sort_perm cmp l).mem_iff

theorem sort_of_sorted (h : Sorted cmp l) : sort cmp l = l := List.Pairwise.insertionSort_eq h

theorem sublist_or_sublist (ha : a ∈ l) (hb : b ∈ l) (hne : a ≠ b) :
    [a, b].Sublist l ∨ [b, a].Sublist l := by
  induction l with
  | nil => cases ha
  | cons c l ih =>
    rcases List.mem_cons.1 ha with rfl | hal
    · rcases List.mem_cons.1 hb with rfl | hbl
      · exact absurd rfl hne
      · exact Or.inl (List.Sublist.cons_cons a (List.singleton_sublist.2 hbl))
    · rcases List.mem_cons.1 hb with rfl | hbl
      · exact Or.inr (List.Sublist.cons_cons b (List.singleton_sublist.2 hal))
      · exact (ih hal hbl).imp (fun h => h.cons c) fun h => h.cons c

/-- Of a list without repetitions an element is among the first so many
when fewer than that come before it. -/
theorem mem_take_iff_countP {n : ℕ} {p : α → Bool} (hnodup : l.Nodup) (ha : a ∈ l)
    (hp : ∀ b ∈ l, p b = true ↔ [b, a].Sublist l) : a ∈ l.take n ↔ l.countP p < n := by
  obtain ⟨before, after, rfl⟩ := List.append_of_mem ha
  obtain ⟨hbefore, hafter, hdisjoint⟩ := List.nodup_append.1 hnodup
  have hnot : a ∉ before := fun hmem => hdisjoint a hmem a List.mem_cons_self rfl
  have hnext : a ∉ after := (List.nodup_cons.1 hafter).1
  have hcount : (before ++ a :: after).countP p = before.length := by
    have hfirst : before.countP p = before.length := by
      refine List.countP_eq_length.2 fun b hb => (hp b (List.mem_append_left _ hb)).2 ?_
      exact (List.singleton_sublist.2 hb).append (List.singleton_sublist.2 List.mem_cons_self)
    have hrest : (a :: after).countP p = 0 := by
      refine List.countP_eq_zero.2 fun b hb htrue => ?_
      have hpair := (hp b (List.mem_append_right _ hb)).1 htrue
      obtain ⟨first, second, hsplit, hfirst, hsecond⟩ := List.sublist_append_iff.1 hpair
      rcases first with _ | ⟨c, first⟩
      · -- the element would come twice
        rw [List.nil_append] at hsplit
        rw [← hsplit] at hsecond
        rcases List.cons_sublist_cons'.1 hsecond with hlater | ⟨-, hlater⟩
        · exact hnext (hlater.subset (List.mem_cons_of_mem b List.mem_cons_self))
        · exact hnext (hlater.subset List.mem_cons_self)
      · obtain ⟨rfl, -⟩ := List.cons.inj hsplit
        exact hdisjoint b (hfirst.subset List.mem_cons_self) b hb rfl
    rw [List.countP_append, hfirst, hrest, Nat.add_zero]
  rw [hcount]
  constructor
  · intro hmem
    by_contra hle
    rw [List.take_append_of_le_length (not_lt.1 hle)] at hmem
    exact hnot (List.mem_of_mem_take hmem)
  · intro hlt
    rw [List.take_append]
    refine List.mem_append_right _ ?_
    rw [List.take_cons (by omega)]
    exact List.mem_cons_self
theorem sorted_iff : Sorted cmp l ↔ ∀ a b, [a, b].Sublist l → (cmp a b).isLE = true := by
  rw [Sorted, List.pairwise_iff_forall_sublist]

variable [Std.TransCmp cmp]

instance : IsTrans α fun a b => (cmp a b).isLE = true :=
  ⟨fun _ _ _ hab hbc => Std.TransCmp.isLE_trans hab hbc⟩

instance : Std.Total fun a b => (cmp a b).isLE = true :=
  ⟨fun a b => by
    have hswap : cmp b a = (cmp a b).swap := Std.OrientedCmp.eq_swap
    rw [hswap]
    cases cmp a b <;> simp⟩

theorem sorted_sort (cmp : Comparator α) [Std.TransCmp cmp] (l : List α) :
    Sorted cmp (sort cmp l) := List.pairwise_insertionSort _ l

theorem eq_of_isLE (hab : (cmp a b).isLE = true) (hba : (cmp b a).isLE = true) : cmp a b = .eq := by
  have hswap : cmp b a = (cmp a b).swap := Std.OrientedCmp.eq_swap
  rw [hswap] at hba
  cases h : cmp a b with
  | lt =>
    rw [h] at hba
    cases hba
  | eq => rfl
  | gt =>
    rw [h] at hab
    cases hab

/-- What is tied with an element stays in its order. -/
theorem filter_sort (a : α) :
    (sort cmp l).filter (fun b => cmp a b = .eq) = l.filter fun b => cmp a b = .eq := by
  have htied : (l.filter fun b => cmp a b = .eq).Pairwise fun b c => (cmp b c).isLE = true := by
    refine List.pairwise_of_forall_mem_list fun b hb c hc => ?_
    have hab : cmp a b = .eq := of_decide_eq_true (List.mem_filter.1 hb).2
    have hac : cmp a c = .eq := of_decide_eq_true (List.mem_filter.1 hc).2
    rw [Std.TransCmp.eq_trans (Std.OrientedCmp.eq_symm hab) hac]
    rfl
  have hkept : (l.filter fun b => cmp a b = .eq).Sublist (sort cmp l) :=
    List.sublist_insertionSort htied List.filter_sublist
  have hsub := hkept.filter fun b => decide (cmp a b = .eq)
  rw [List.filter_filter, funext fun b => Bool.and_self (decide (cmp a b = .eq))] at hsub
  exact (hsub.eq_of_length ((sort_perm cmp l).filter _).length_eq.symm).symm

/-- **Which of two elements comes out first**: the one the comparator has
before the other, or of two it ties the one that was first. -/
theorem pair_sublist_sort : [a, b].Sublist (sort cmp l) ↔
    (cmp a b = .lt ∧ a ∈ l ∧ b ∈ l) ∨ (cmp a b = .eq ∧ [a, b].Sublist l) := by
  have hself : cmp a a = .eq := Std.ReflCmp.compare_self
  constructor
  · intro hab
    have hle := sorted_iff.1 (sorted_sort cmp l) a b hab
    cases hcmp : cmp a b with
    | lt =>
      exact Or.inl ⟨rfl, mem_sort.1 (hab.subset List.mem_cons_self),
        mem_sort.1 (hab.subset (List.mem_cons_of_mem a List.mem_cons_self))⟩
    | eq =>
      have htied := hab.filter fun c => decide (cmp a c = .eq)
      rw [filter_sort] at htied
      simp only [List.filter_cons, hself, hcmp, decide_true, if_true, List.filter_nil] at htied
      exact Or.inr ⟨rfl, htied.trans List.filter_sublist⟩
    | gt =>
      rw [hcmp] at hle
      cases hle
  · rintro (⟨hlt, ha, hb⟩ | ⟨heq, hab⟩)
    · have hne : a ≠ b := by
        rintro rfl
        rw [hself] at hlt
        cases hlt
      rcases sublist_or_sublist (mem_sort.2 ha) (mem_sort.2 hb) hne with hab | hba
      · exact hab
      · -- the other way round they would be tied
        have htie := eq_of_isLE (by rw [hlt]; rfl) (sorted_iff.1 (sorted_sort cmp l) b a hba)
        rw [hlt] at htie
        cases htie
    · exact List.pair_sublist_insertionSort (r := fun a b => (cmp a b).isLE = true)
        (by rw [heq]; rfl) hab

/-- **Which elements come out first**: those before which fewer than so
many are to come. -/
theorem mem_take_sort_iff {n : ℕ} {p : α → Bool} (hnodup : l.Nodup) (ha : a ∈ l)
    (hp : ∀ b ∈ l, p b = true ↔ cmp b a = .lt ∨ (cmp b a = .eq ∧ [b, a].Sublist l)) :
    a ∈ (sort cmp l).take n ↔ l.countP p < n := by
  rw [← (sort_perm cmp l).countP_eq]
  refine mem_take_iff_countP ((sort_perm cmp l).nodup_iff.2 hnodup) (mem_sort.2 ha) fun b hb => ?_
  have hb := mem_sort.1 hb
  rw [hp b hb, pair_sublist_sort]
  simp only [ha, hb, and_true]

/-- **Without ties the order before does not matter.** -/
theorem sort_eq_of_perm (hperm : l.Perm l')
    (hties : ∀ a ∈ l, ∀ b ∈ l, cmp a b = .eq → a = b) : sort cmp l = sort cmp l' := by
  refine List.Perm.eq_of_pairwise (fun a b ha hb hab hba => ?_) (sorted_sort cmp l)
    (sorted_sort cmp l') (((sort_perm cmp l).trans hperm).trans (sort_perm cmp l').symm)
  have hbl : b ∈ l := hperm.mem_iff.2 (mem_sort.1 hb)
  exact hties a (mem_sort.1 ha) b hbl (eq_of_isLE hab hba)

/-- **When an element comes out first**, and the others sorted behind it:
the comparator has it before each of them, or ties the two and it was
before already. -/
theorem sort_eq_cons_iff (hperm : l.Perm (a :: l')) (hnodup : (a :: l').Nodup)
    (hties : ∀ x ∈ l', ∀ y ∈ l', cmp x y = .eq → x = y) :
    sort cmp l = a :: sort cmp l' ↔
      ∀ b ∈ l', cmp a b = .lt ∨ (cmp a b = .eq ∧ [a, b].Sublist l) := by
  have hmem : ∀ x, x ∈ l ↔ x = a ∨ x ∈ l' := by
    intro x
    rw [hperm.mem_iff, List.mem_cons]
  constructor
  · intro heq b hb
    have hpair : [a, b].Sublist (sort cmp l) := by
      rw [heq]
      exact List.Sublist.cons_cons a (List.singleton_sublist.2 (mem_sort.2 hb))
    exact (pair_sublist_sort.1 hpair).imp And.left id
  · intro h
    obtain ⟨first, rest, hsort⟩ : ∃ first rest, sort cmp l = first :: rest :=
      List.exists_cons_of_ne_nil (List.ne_nil_of_mem (mem_sort.2 ((hmem a).2 (Or.inl rfl))))
    have hrest : (first :: rest).Perm (a :: l') := hsort ▸ (sort_perm cmp l).trans hperm
    have hfirst : first = a := by
      by_contra hne
      have hin : first ∈ l' := (List.mem_cons.1 (hrest.subset List.mem_cons_self)).resolve_left hne
      have hpair : [a, first].Sublist (sort cmp l) := by
        refine pair_sublist_sort.2 ((h first hin).imp (fun hlt => ⟨hlt, ?_, ?_⟩) id)
        · exact (hmem a).2 (Or.inl rfl)
        · exact (hmem first).2 (Or.inr hin)
      rw [hsort] at hpair
      -- what comes behind another element is not the first
      rcases List.cons_sublist_cons'.1 hpair with hbehind | ⟨heq, _⟩
      · have htwice := hbehind.subset (List.mem_cons_of_mem a List.mem_cons_self)
        exact (List.nodup_cons.1 (hrest.nodup_iff.2 hnodup)).1 htwice
      · exact hne heq.symm
    subst hfirst
    have hperm' : rest.Perm l' := hrest.cons_inv
    have hsorted : Sorted cmp (first :: rest) := hsort ▸ sorted_sort cmp l
    rw [hsort, ← sort_of_sorted (List.Pairwise.of_cons hsorted)]
    refine congrArg (first :: ·) (sort_eq_of_perm hperm' fun x hx y hy htie => ?_)
    exact hties x (hperm'.subset hx) y (hperm'.subset hy) htie

end Comparator

end ASync
