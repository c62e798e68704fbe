import ASync.Common.Newest
/-!
# Deltas of numbered histories

Several sources make items under growing numbers and send a replica
those past the last number it noted of them. A channel carries batches in
order, and may be cut at any point. The replica keeps the newest item of
each key. `Sound` is what every step keeps: no current item is below the
noted number without the replica knowing it or something newer.
-/

namespace ASync

/-- What a replica reads off an item: its key, how new it is, its number
at its source, and whether the replica takes it at all. -/
structure Numbering (κ α : Type) where
  key : α → κ
  stamp : α → ℤ
  number : α → ℤ
  accepts : α → Bool

/-- The batches on their way from a source, which has sent everything up
to the cursor. A channel that was cut carries on with what it has; it is
whole while nothing that was sent was lost. -/
structure Channel (ι α : Type) where
  source : ι
  cursor : ℤ
  inFlight : List (List α)
  isOpen : Bool
  isWhole : Bool

/-- A cut loses all but the first batches on their way, and ends the
sending. -/
def Channel.cut {ι α : Type} (c : Channel ι α) (arrived : ℕ) : Channel ι α :=
  { c with
    inFlight := c.inFlight.take arrived
    isOpen := false
    isWhole := c.isWhole && decide (c.inFlight.length ≤ arrived) }

structure Deltas (ι κ α : Type) where
  history : ι → List α
  /-- The last number the replica noted of a source. -/
  noted : ι → ℤ
  channel : ℕ → Option (Channel ι α)
  replica : Table κ α

namespace Numbering

variable {ι κ α : Type} [DecidableEq κ] (N : Numbering κ α)
variable {a b : α} {as l : List α} {t : Table κ α} {n : ℤ}

/-- The greatest number in a batch. -/
def greatest (as : List α) : ℤ := (as.map N.number).foldl max (-1)

/-- Some number is past those of a history. -/
def Past (l : List α) (n : ℤ) : Prop := 0 < n ∧ ∀ b ∈ l, N.number b < n

/-- An item no later one of its key replaced. -/
def Current (l : List α) (a : α) : Prop :=
  a ∈ l ∧ ∀ b ∈ l, N.key b = N.key a → N.number b ≤ N.number a

/-- Later items have greater numbers, and are newer than those of their
key. -/
def Ordered (l : List α) : Prop :=
  l.Pairwise fun a b => N.number a < N.number b ∧ (N.key a = N.key b → N.stamp a < N.stamp b)

/-- What the replica has of an item's key is as new as the item. -/
def Known (t : Table κ α) (a : α) : Prop :=
  N.accepts a = true → ∃ b, t.find (N.key a) = some b ∧ N.stamp a ≤ N.stamp b

/-- The replica after an item is offered to it. -/
def offer (t : Table κ α) (a : α) : Table κ α :=
  if N.accepts a then t.keepNewest N.key N.stamp a else t

/-! ## Numbers -/

omit [DecidableEq κ] in
theorem greatest_lt (hneg : -1 < n) (h : ∀ a ∈ as, N.number a < n) : N.greatest as < n := by
  have hfold : ∀ (l : List α) (m : ℤ), m < n → (∀ a ∈ l, N.number a < n) →
      (l.map N.number).foldl max m < n := by
    intro l
    induction l with
    | nil => exact fun m hm _ => hm
    | cons a l ih =>
      intro m hm hl
      refine ih _ (max_lt hm (hl a List.mem_cons_self)) fun b hb => ?_
      exact hl b (List.mem_cons_of_mem a hb)
  exact hfold as (-1) hneg h

omit [DecidableEq κ] in
/-- A number past a history is past what a batch of it notes. -/
theorem greatest_lt_of_past (hp : N.Past l n) (h : ∀ a ∈ as, a ∈ l) : N.greatest as < n := by
  obtain ⟨hpos, hpast⟩ := hp
  exact N.greatest_lt (by omega) fun a ha => hpast a (h a ha)

/-! ## Histories -/

omit [DecidableEq κ] in
/-- Of two items of a history the one with the smaller number was made
first. -/
theorem Ordered.stamp_lt (h : N.Ordered l) (ha : a ∈ l) (hb : b ∈ l)
    (hlt : N.number a < N.number b) (hkey : N.key a = N.key b) : N.stamp a < N.stamp b := by
  have hpairs := List.pairwise_iff_getElem.1 h
  obtain ⟨i, hi, rfl⟩ := List.getElem_of_mem ha
  obtain ⟨j, hj, rfl⟩ := List.getElem_of_mem hb
  rcases lt_trichotomy i j with hij | rfl | hji
  · exact (hpairs i j hi hj hij).2 hkey
  · omega
  · have hgt := (hpairs j i hj hi hji).1
    omega

omit [DecidableEq κ] in
theorem Ordered.eq_of_number (h : N.Ordered l) (ha : a ∈ l) (hb : b ∈ l)
    (heq : N.number a = N.number b) : a = b := by
  have hpairs := List.pairwise_iff_getElem.1 h
  obtain ⟨i, hi, rfl⟩ := List.getElem_of_mem ha
  obtain ⟨j, hj, rfl⟩ := List.getElem_of_mem hb
  rcases lt_trichotomy i j with hij | rfl | hji
  · have hlt := (hpairs i j hi hj hij).1
    omega
  · rfl
  · have hgt := (hpairs j i hj hi hji).1
    omega

/-- Every item of a history has a current one of its key. -/
theorem exists_current (hb : b ∈ l) :
    ∃ a, N.Current l a ∧ N.key a = N.key b ∧ N.number b ≤ N.number a := by
  have hmem : b ∈ l.filter fun a => N.key a = N.key b := List.mem_filter.2 ⟨hb, by simp⟩
  obtain ⟨a, ha⟩ : ∃ a, (l.filter fun a => N.key a = N.key b).argmax N.number = some a := by
    rw [← Option.isSome_iff_exists, Option.isSome_iff_ne_none]
    intro hnone
    rw [List.argmax_eq_none.1 hnone] at hmem
    exact List.not_mem_nil hmem
  obtain ⟨hal, hkey⟩ := List.mem_filter.1 (List.argmax_mem ha)
  have hkey := of_decide_eq_true hkey
  refine ⟨a, ⟨hal, fun c hc hck => ?_⟩, hkey, List.le_of_mem_argmax hmem ha⟩
  refine List.le_of_mem_argmax (List.mem_filter.2 ⟨hc, ?_⟩) ha
  simp [hck, hkey]

omit [DecidableEq κ] in
/-- What is current after another item was made is that item, or was
current before. -/
theorem current_concat (h : N.Current (l ++ [b]) a) :
    a = b ∨ N.Current l a := by
  obtain ⟨hmem, hmax⟩ := h
  rcases List.mem_append.1 hmem with ha | ha
  · refine Or.inr ⟨ha, fun c hc => ?_⟩
    exact hmax c (List.mem_append_left _ hc)
  · exact Or.inl (List.mem_singleton.1 ha)

omit [DecidableEq κ] in
theorem Ordered.concat (h : N.Ordered l) (hp : N.Past l (N.number b))
    (hnew : ∀ c ∈ l, N.key c = N.key b → N.stamp c < N.stamp b) : N.Ordered (l ++ [b]) := by
  refine List.pairwise_append.2 ⟨h, List.pairwise_singleton _ _, fun c hc d hd => ?_⟩
  rw [List.mem_singleton.1 hd]
  exact ⟨hp.2 c hc, hnew c hc⟩

/-! ## The replica -/

/-- What the replica has of a key only gets newer. -/
theorem find_offer (h : t.find (N.key b) = some a) :
    ∃ c, (N.offer t b).find (N.key b) = some c ∧ N.stamp a ≤ N.stamp c := by
  unfold offer
  split
  · rw [Table.find_keepNewest_self, h]
    by_cases hlt : N.stamp a < N.stamp b
    · exact ⟨b, if_pos hlt, hlt.le⟩
    · exact ⟨a, if_neg hlt, le_refl _⟩
  · exact ⟨a, h, le_refl _⟩

theorem find_offer_of_ne {k : κ} (h : k ≠ N.key b) : (N.offer t b).find k = t.find k := by
  unfold offer
  split
  · exact Table.find_keepNewest_of_ne N.key N.stamp h
  · rfl

theorem Known.offer (h : N.Known t a) (b : α) : N.Known (N.offer t b) a := by
  intro haccepts
  obtain ⟨c, hc, hle⟩ := h haccepts
  by_cases hkey : N.key a = N.key b
  · rw [hkey] at hc ⊢
    obtain ⟨d, hd, hcd⟩ := N.find_offer hc
    exact ⟨d, hd, hle.trans hcd⟩
  · rw [N.find_offer_of_ne hkey]
    exact ⟨c, hc, hle⟩

theorem known_offer_self (t : Table κ α) (a : α) : N.Known (N.offer t a) a := by
  intro haccepts
  cases hfind : t.find (N.key a) with
  | none =>
    refine ⟨a, ?_, le_refl _⟩
    rw [Numbering.offer, if_pos haccepts, Table.find_keepNewest_self, hfind]
  | some b =>
    rw [Numbering.offer, if_pos haccepts, Table.find_keepNewest_self, hfind]
    by_cases hlt : N.stamp b < N.stamp a
    · exact ⟨a, if_pos hlt, le_refl _⟩
    · exact ⟨b, if_neg hlt, not_lt.1 hlt⟩

theorem Known.foldl_offer (h : N.Known t a) (as : List α) : N.Known (as.foldl N.offer t) a := by
  induction as generalizing t with
  | nil => exact h
  | cons b as ih => exact ih (h.offer N b)

/-- **A batch makes what it carries known.** -/
theorem known_foldl_offer (t : Table κ α) (ha : a ∈ as) : N.Known (as.foldl N.offer t) a := by
  induction as generalizing t with
  | nil => cases ha
  | cons b as ih =>
    rcases List.mem_cons.1 ha with rfl | ha
    · exact (N.known_offer_self t a).foldl_offer N as
    · exact ih _ ha

/-- What the replica has was there before, or came with the batch. -/
theorem find_foldl_offer {k : κ} (h : (as.foldl N.offer t).find k = some b) :
    t.find k = some b ∨ (N.key b = k ∧ N.accepts b = true ∧ b ∈ as) := by
  induction as generalizing t with
  | nil => exact Or.inl h
  | cons c as ih =>
    rcases ih h with hfind | ⟨hkey, haccepts, hb⟩
    · by_cases hck : k = N.key c
      · subst hck
        unfold offer at hfind
        split at hfind
        · next haccepts =>
          rw [Table.find_keepNewest_self] at hfind
          split at hfind
          · cases hfind
            exact Or.inr ⟨rfl, haccepts, List.mem_cons_self⟩
          · next old hold =>
            split at hfind
            · cases hfind
              exact Or.inr ⟨rfl, haccepts, List.mem_cons_self⟩
            · exact Or.inl (hold.trans hfind)
        · exact Or.inl hfind
      · rw [N.find_offer_of_ne hck] at hfind
        exact Or.inl hfind
    · exact Or.inr ⟨hkey, haccepts, List.mem_cons_of_mem c hb⟩

end Numbering

/-! ## What every step keeps -/

namespace Deltas

variable {ι κ α : Type} [DecidableEq ι] [DecidableEq κ] (N : Numbering κ α)
variable {s : Deltas ι κ α} {c : Channel ι α} {i : ι} {j : ℕ} {a b : α} {as : List α}

/-- What a channel promises: batches are of the source's history; when one
comes through, the current items up to its greatest number are known, or
were carried no later than by it; and where nothing was lost, those up to
the cursor are known or carried. -/
structure Carried (history : List α) (replica : Table κ α) (c : Channel ι α) : Prop where
  sent : ∀ as ∈ c.inFlight, ∀ a ∈ as, a ∈ history
  cursor_lt : ∀ n, N.Past history n → c.cursor < n
  batch : ∀ before as after, c.inFlight = before ++ as :: after →
    ∀ a, N.Current history a → N.number a ≤ N.greatest as →
      N.Known replica a ∨ a ∈ before.flatten ∨ a ∈ as
  whole : c.isOpen = true → c.isWhole = true
  upTo : c.isWhole = true → ∀ a, N.Current history a → N.number a ≤ c.cursor →
    N.Known replica a ∨ a ∈ c.inFlight.flatten

/-- **No current item is below the noted number unknown.** -/
structure Sound (s : Deltas ι κ α) : Prop where
  ordered : ∀ i, N.Ordered (s.history i)
  origin : ∀ k b, s.replica.find k = some b →
    N.key b = k ∧ N.accepts b = true ∧ ∃ i, b ∈ s.history i
  noted_lt : ∀ i n, N.Past (s.history i) n → s.noted i < n
  known : ∀ i a, N.Current (s.history i) a → N.number a ≤ s.noted i → N.Known s.replica a
  carried : ∀ j c, s.channel j = some c → Carried N (s.history c.source) s.replica c

omit [DecidableEq ι] in
/-- Nothing was made yet. -/
theorem sound_start (hhistory : ∀ i, s.history i = []) (hnoted : ∀ i, s.noted i = 0)
    (hchannel : ∀ j, s.channel j = none) (hreplica : s.replica = ∅) : Sound N s where
  ordered i := by
    rw [hhistory]
    exact List.Pairwise.nil
  origin k b h := by
    rw [hreplica, Table.find_empty] at h
    cases h
  noted_lt i n h := by
    rw [hnoted]
    exact h.1
  known i a h := by
    have hmem := h.1
    rw [hhistory] at hmem
    exact absurd hmem List.not_mem_nil
  carried j c h := by
    rw [hchannel] at h
    cases h

/-! ### A source makes an item -/

omit [DecidableEq ι] in
/-- A new item is past everything a channel promises. -/
theorem Carried.concat {history : List α} {t : Table κ α} (h : Carried N history t c)
    (hp : N.Past history (N.number b)) : Carried N (history ++ [b]) t c where
  sent as has a ha := List.mem_append_left _ (h.sent as has a ha)
  cursor_lt n hn := h.cursor_lt n ⟨hn.1, fun d hd => hn.2 d (List.mem_append_left _ hd)⟩
  batch before as after hsplit a ha hle := by
    rcases N.current_concat ha with rfl | hold
    · have hin : as ∈ c.inFlight := hsplit ▸ by simp
      have hlt := N.greatest_lt_of_past hp (h.sent as hin)
      omega
    · exact h.batch before as after hsplit a hold hle
  whole := h.whole
  upTo hwhole a ha hle := by
    rcases N.current_concat ha with rfl | hold
    · have hlt := h.cursor_lt _ hp
      omega
    · exact h.upTo hwhole a hold hle

theorem Sound.make (h : Sound N s) (hp : N.Past (s.history i) (N.number b))
    (hnew : ∀ a ∈ s.history i, N.key a = N.key b → N.stamp a < N.stamp b) :
    Sound N { s with history := Function.update s.history i (s.history i ++ [b]) } := by
  have hcases : ∀ i', i' = i ∧ Function.update s.history i (s.history i ++ [b]) i' =
      s.history i ++ [b] ∨ Function.update s.history i (s.history i ++ [b]) i' = s.history i' := by
    intro i'
    by_cases hi : i' = i
    · subst hi
      exact Or.inl ⟨rfl, Function.update_self ..⟩
    · exact Or.inr (Function.update_of_ne hi ..)
  have hsub : ∀ i', ∀ a ∈ s.history i',
      a ∈ Function.update s.history i (s.history i ++ [b]) i' := by
    intro i' a ha
    rcases hcases i' with ⟨rfl, heq⟩ | heq
    · rw [heq]
      exact List.mem_append_left _ ha
    · rwa [heq]
  refine ⟨fun i' => ?_, fun k d hd => ?_, fun i' n hn => ?_, fun i' a ha hle => ?_,
    fun j c hc => ?_⟩
  · dsimp only
    rcases hcases i' with ⟨rfl, heq⟩ | heq
    · rw [heq]
      exact (h.ordered i').concat N hp hnew
    · rw [heq]
      exact h.ordered i'
  · obtain ⟨hkey, haccepts, i', hmem⟩ := h.origin k d hd
    exact ⟨hkey, haccepts, i', hsub i' d hmem⟩
  · exact h.noted_lt i' n ⟨hn.1, fun d hd => hn.2 d (hsub i' d hd)⟩
  · dsimp only at ha hle ⊢
    rcases hcases i' with ⟨rfl, heq⟩ | heq
    · rw [heq] at ha
      rcases N.current_concat ha with rfl | hold
      · have hlt := h.noted_lt i' _ hp
        omega
      · exact h.known i' a hold hle
    · rw [heq] at ha
      exact h.known i' a ha hle
  · dsimp only
    rcases hcases c.source with ⟨hi, heq⟩ | heq
    · rw [heq, ← hi]
      exact (h.carried j c hc).concat N (hi ▸ hp)
    · rw [heq]
      exact h.carried j c hc

/-! ### Channels -/

omit [DecidableEq ι] in
/-- One channel was changed. -/
theorem Sound.setChannel (h : Sound N s) (hc : Carried N (s.history c.source) s.replica c) :
    Sound N { s with channel := Function.update s.channel j (some c) } := by
  refine ⟨h.ordered, h.origin, h.noted_lt, h.known, fun j' c' hc' => ?_⟩
  dsimp only at hc'
  by_cases hj : j' = j
  · subst hj
    rw [Function.update_self] at hc'
    cases hc'
    exact hc
  · rw [Function.update_of_ne hj] at hc'
    exact h.carried j' c' hc'

omit [DecidableEq ι] in
/-- A channel begins where the replica's notes end. -/
theorem Sound.connect (h : Sound N s) (j : ℕ) (i : ι) : Sound N { s with
    channel := Function.update s.channel j (some ⟨i, s.noted i, [], true, true⟩) } := by
  refine h.setChannel N
    ⟨?_, h.noted_lt i, ?_, fun _ => rfl, fun _ a ha hle => Or.inl (h.known i a ha hle)⟩
  · intro as has
    cases has
  · intro before as after hsplit
    cases before <;> cases hsplit

omit [DecidableEq ι] in
/-- A batch that leaves no current item out moves the cursor. -/
theorem Sound.send (h : Sound N s) (hj : s.channel j = some c) (hopen : c.isOpen = true)
    (hof : ∀ a ∈ as, a ∈ s.history c.source)
    (hall : ∀ a, N.Current (s.history c.source) a → c.cursor < N.number a →
      N.number a ≤ N.greatest as → a ∈ as) :
    Sound N { s with channel := Function.update s.channel j (some { c with
      cursor := max c.cursor (N.greatest as), inFlight := c.inFlight ++ [as] }) } := by
  have hc := h.carried j c hj
  have hupTo := hc.upTo (hc.whole hopen)
  refine h.setChannel N ⟨?_, ?_, ?_, hc.whole, ?_⟩
  · intro batch hbatch
    rcases List.mem_append.1 hbatch with hold | hnew
    · exact hc.sent batch hold
    · rw [List.mem_singleton.1 hnew]
      exact hof
  · intro n hn
    exact max_lt (hc.cursor_lt n hn) (N.greatest_lt_of_past hn hof)
  · intro before batch after hsplit a ha hle
    rcases List.append_eq_append_iff.1 hsplit with ⟨mid, hbefore, hrest⟩ | ⟨mid, hflight, hrest⟩
    · -- the new batch is the one that comes through
      cases mid with
      | nil =>
        obtain ⟨rfl, _⟩ := List.cons_eq_cons.1 hrest
        rw [List.append_nil] at hbefore
        by_cases hcur : N.number a ≤ c.cursor
        · rw [hbefore]
          exact (hupTo a ha hcur).imp_right Or.inl
        · exact Or.inr (Or.inr (hall a ha (not_le.1 hcur) hle))
      | cons d mid => cases mid <;> cases hrest
    · -- the batch that comes through was in flight before
      cases mid with
      | nil =>
        obtain ⟨rfl, _⟩ := List.cons_eq_cons.1 hrest
        rw [List.append_nil] at hflight
        by_cases hcur : N.number a ≤ c.cursor
        · rw [← hflight]
          exact (hupTo a ha hcur).imp_right Or.inl
        · exact Or.inr (Or.inr (hall a ha (not_le.1 hcur) hle))
      | cons d mid =>
        obtain ⟨rfl, _⟩ := List.cons_eq_cons.1 hrest
        exact hc.batch before batch mid hflight a ha hle
  · intro _ a ha hle
    dsimp only at hle ⊢
    rw [List.flatten_append, List.mem_append, List.flatten_singleton]
    by_cases hcur : N.number a ≤ c.cursor
    · exact (hupTo a ha hcur).imp_right Or.inl
    · refine Or.inr (Or.inr (hall a ha (not_le.1 hcur) ?_))
      exact (le_max_iff.1 hle).resolve_left hcur

omit [DecidableEq ι] in
/-- A cut loses the last batches, and ends the sending. -/
theorem Sound.cut (h : Sound N s) (hj : s.channel j = some c) (n : ℕ) :
    Sound N { s with channel := Function.update s.channel j (some (c.cut n)) } := by
  have hc := h.carried j c hj
  refine h.setChannel N ⟨fun as has => hc.sent as (List.mem_of_mem_take has), hc.cursor_lt, ?_,
    fun hopen => ?_, fun hwhole => ?_⟩
  · intro before as after hsplit
    refine hc.batch before as (after ++ c.inFlight.drop n) ?_
    rw [← List.cons_append, ← List.append_assoc, ← hsplit, Channel.cut, List.take_append_drop]
  · cases hopen
  · -- all the batches arrive
    obtain ⟨hwhole, hall⟩ := Bool.and_eq_true_iff.1 hwhole
    rw [Channel.cut, List.take_of_length_le (of_decide_eq_true hall)]
    exact hc.upTo hwhole

/-! ### A batch comes through -/

/-- **The first batch of a channel comes through**, and its greatest
number is noted, or not. -/
theorem Sound.receive {rest : List (List α)} {n : ℤ} (h : Sound N s) (hj : s.channel j = some c)
    (hflight : c.inFlight = as :: rest)
    (hn : n = s.noted c.source ∨ n = max (s.noted c.source) (N.greatest as)) :
    Sound N { s with
      noted := Function.update s.noted c.source n
      channel := Function.update s.channel j (some { c with inFlight := rest })
      replica := as.foldl N.offer s.replica } := by
  have hc := h.carried j c hj
  have hof : ∀ a ∈ as, a ∈ s.history c.source := hc.sent as (hflight ▸ List.mem_cons_self)
  -- an offer forgets nothing, and what was offered is known
  have hmono : ∀ a, N.Known s.replica a → N.Known (as.foldl N.offer s.replica) a :=
    fun a ha => ha.foldl_offer N as
  have hbatch : ∀ a ∈ as, N.Known (as.foldl N.offer s.replica) a :=
    fun a ha => N.known_foldl_offer s.replica ha
  refine ⟨h.ordered, fun k b hb => ?_, fun i m hm => ?_, fun i a ha hle => ?_, fun j' c' hc' => ?_⟩
  · rcases N.find_foldl_offer hb with hold | ⟨hkey, haccepts, hmem⟩
    · exact h.origin k b hold
    · exact ⟨hkey, haccepts, c.source, hof b hmem⟩
  · dsimp only
    by_cases hi : i = c.source
    · subst hi
      rw [Function.update_self]
      have hlt := h.noted_lt _ m hm
      rcases hn with rfl | rfl
      · exact hlt
      · exact max_lt hlt (N.greatest_lt_of_past hm hof)
    · rw [Function.update_of_ne hi]
      exact h.noted_lt i m hm
  · dsimp only at hle ⊢
    by_cases hi : i = c.source
    · subst hi
      rw [Function.update_self] at hle
      by_cases hold : N.number a ≤ s.noted c.source
      · exact hmono a (h.known _ a ha hold)
      · -- the cursor of the source moved, and what lies between is in the batch or was known
        have hle' : N.number a ≤ N.greatest as := by
          rcases hn with rfl | rfl
          · exact absurd hle hold
          · exact (le_max_iff.1 hle).resolve_left hold
        rcases hc.batch [] as rest hflight a ha hle' with hknown | hbefore | hmem
        · exact hmono a hknown
        · cases hbefore
        · exact hbatch a hmem
    · rw [Function.update_of_ne hi] at hle
      exact hmono a (h.known i a ha hle)
  · dsimp only at hc' ⊢
    by_cases hj' : j' = j
    · subst hj'
      rw [Function.update_self] at hc'
      cases hc'
      -- the channel itself: each later batch stood behind the one that came
      refine ⟨fun b hb => hc.sent b (hflight ▸ List.mem_cons_of_mem as hb), hc.cursor_lt, ?_,
        hc.whole, ?_⟩
      · intro before b after hsplit a ha hle
        have hsplit' : c.inFlight = (as :: before) ++ b :: after := by
          rw [hflight, show rest = before ++ b :: after from hsplit]
          rfl
        rcases hc.batch (as :: before) b after hsplit' a ha hle with hknown | hbefore | hmem
        · exact Or.inl (hmono a hknown)
        · rw [List.flatten_cons, List.mem_append] at hbefore
          exact hbefore.imp (hbatch a) Or.inl
        · exact Or.inr (Or.inr hmem)
      · intro hwhole a ha hle
        have hall := hc.upTo hwhole a ha hle
        rw [hflight, List.flatten_cons, List.mem_append] at hall
        rcases hall with hknown | hmem | hmem
        · exact Or.inl (hmono a hknown)
        · exact Or.inl (hbatch a hmem)
        · exact Or.inr hmem
    · rw [Function.update_of_ne hj'] at hc'
      -- any other channel only sees the replica know more
      have hother := h.carried j' c' hc'
      refine ⟨hother.sent, hother.cursor_lt, fun before b after hsplit a ha hle => ?_,
        hother.whole, ?_⟩
      · exact (hother.batch before b after hsplit a ha hle).imp_left (hmono a)
      · exact fun hwhole a ha hle => (hother.upTo hwhole a ha hle).imp_left (hmono a)

/-! ## Once everything was delivered -/

omit [DecidableEq ι] in
/-- **A source whose current items were all sent and came through is
known.** -/
theorem Sound.known_of_delivered (h : Sound N s) (hj : s.channel j = some c)
    (hwhole : c.isWhole = true) (hdelivered : c.inFlight = [])
    (hsent : ∀ a, N.Current (s.history c.source) a → N.number a ≤ c.cursor)
    (ha : N.Current (s.history c.source) a) : N.Known s.replica a := by
  rcases (h.carried j c hj).upTo hwhole a ha (hsent a ha) with hknown | hmem
  · exact hknown
  · rw [hdelivered] at hmem
    cases hmem

omit [DecidableEq ι] in
/-- **Where every source is known, the replica has the newest of the
current items of each key.** -/
theorem Sound.newest (h : Sound N s) {k : κ}
    (hknown : ∀ i a, N.Current (s.history i) a → N.Known s.replica a)
    (haccepts : ∀ i a, N.Current (s.history i) a → N.key a = k → N.accepts a = true)
    (hb : s.replica.find k = some b) :
    (∃ i, N.Current (s.history i) b) ∧
      ∀ i a, N.Current (s.history i) a → N.key a = k → N.stamp a ≤ N.stamp b := by
  have hall : ∀ i a, N.Current (s.history i) a → N.key a = k → N.stamp a ≤ N.stamp b := by
    intro i a ha hk
    obtain ⟨b', hb', hle⟩ := hknown i a ha (haccepts i a ha hk)
    rw [hk, hb] at hb'
    cases hb'
    exact hle
  refine ⟨?_, hall⟩
  obtain ⟨hk, _, i, hmem⟩ := h.origin k b hb
  obtain ⟨a, ha, hka, hle⟩ := N.exists_current hmem
  rcases hle.lt_or_eq with hlt | heq
  · -- a later item of the key would be newer than what the replica has
    have hstamp := (h.ordered i).stamp_lt N hmem ha.1 hlt hka.symm
    have hnewest := hall i a ha (hka.trans hk)
    omega
  · rw [(h.ordered i).eq_of_number N hmem ha.1 heq]
    exact ⟨i, ha⟩

end Deltas

end ASync
