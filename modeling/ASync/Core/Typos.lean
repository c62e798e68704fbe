import Mathlib
import ASync.Core.DeviceIds
/-!
# Typos in device ids

A valid text is spelt by four parts of thirteen letters: a part with a
hyphen after its seventh letter, its check letter, and a hyphen before
the next part. Two valid texts that differ in one place, or by two
letters of a part exchanged, would share the check letters; the sums
behind them differ, since doubling permutes the letters, and moves each
by a distance no other letter has, `A` and `7` apart.
-/

namespace ASync

namespace Core

namespace KeystoreHandler

open Base32

/-! ## Positions -/

section Lists

variable {α : Type} {n k i : ℕ}

/-- A position in lists of one length, put together. -/
theorem getElem?_flatten {ls : List (List α)} (h : ∀ l ∈ ls, l.length = n) (hi : i < n) :
    ls.flatten[n * k + i]? = ls[k]?.bind (·[i]?) := by
  induction ls generalizing k with
  | nil => simp
  | cons l ls ih =>
    have hl := h l List.mem_cons_self
    rw [List.flatten_cons]
    cases k with
    | zero =>
      rw [Nat.mul_zero, Nat.zero_add, List.getElem?_append_left (by omega)]
      rfl
    | succ k =>
      have hrest := ih (k := k) fun l hl => h l (List.mem_cons_of_mem _ hl)
      have hpos : n * (k + 1) + i = n + (n * k + i) := by
        rw [Nat.mul_succ]
        omega
      rw [hpos, List.getElem?_append_right (by omega), hl, Nat.add_sub_cancel_left, hrest,
        List.getElem?_cons_succ]

/-- A separator after each, the last one too. -/
theorem intercalate_concat {sep : α} {ls : List (List α)} (h : ls ≠ []) :
    [sep].intercalate ls ++ [sep] = ls.flatMap (· ++ [sep]) := by
  induction ls with
  | nil => exact absurd rfl h
  | cons l ls ih =>
    by_cases hls : ls = []
    · simp [hls]
    · rw [List.intercalate_cons_of_ne_nil hls, List.append_assoc, ih hls, List.flatMap_cons]

end Lists

/-- Where the `i`-th letter of a part stands in the text. -/
def dataPosition (group i : ℕ) : ℕ := 16 * group + i + i / 7

/-- Where the check letter of a part stands. -/
def checkPosition (group : ℕ) : ℕ := 16 * group + 14

/-- Every position but a hyphen's is a letter's or a check letter's. -/
theorem position_cases {p : ℕ} (hp : p < 63) :
    (∃ j < 7, p = 8 * j + 7) ∨ (∃ group < 4, p = checkPosition group) ∨
      ∃ group < 4, ∃ i < 13, p = dataPosition group i := by
  unfold checkPosition dataPosition
  by_cases hdash : p % 8 = 7
  · exact Or.inl ⟨p / 8, by omega, by omega⟩
  by_cases hcheck : p % 16 = 14
  · exact Or.inr (Or.inl ⟨p / 16, by omega, by omega⟩)
  · -- a hyphen stands before the letters of the second half
    by_cases hhalf : p % 16 < 7
    · exact Or.inr (Or.inr ⟨p / 16, by omega, p % 16, by omega, by omega⟩)
    · exact Or.inr (Or.inr ⟨p / 16, by omega, p % 16 - 1, by omega, by omega⟩)

/-! ## Spelling -/

/-- A text spelt by parts of letters, with their check letters and
hyphens. -/
structure Spells (t : List Char) (part : ℕ → List Char) : Prop where
  length : t.length = 63
  length_part : ∀ group < 4, (part group).length = 13
  mem_alphabet : ∀ group < 4, ∀ c ∈ part group, c ∈ alphabet
  data : ∀ group < 4, ∀ i < 13, t[dataPosition group i]? = (part group)[i]?
  check : ∀ group < 4, t[checkPosition group]? = some (checkLetter (part group))
  hyphen : ∀ j < 7, t[8 * j + 7]? = some '-'

/-- A part as it is spelt, up to the next part. -/
def block (part : List Char) : List Char :=
  part.take 7 ++ '-' :: (part.drop 7 ++ [checkLetter part, '-'])

theorem flatMap_groups {parts : List (List Char)} (h : ∀ part ∈ parts, part.length = 13) :
    ((parts.flatMap fun part => part ++ [checkLetter part]).toChunks 7).flatMap (· ++ ['-']) =
      (parts.map block).flatten := by
  induction parts with
  | nil => rfl
  | cons part parts ih =>
    have hpart := h part List.mem_cons_self
    have hfirst : (part.take 7).length = 7 := by
      rw [List.length_take]
      omega
    have hsecond : (part.drop 7 ++ [checkLetter part]).length = 7 := by
      rw [List.length_append, List.length_drop, List.length_singleton]
      omega
    have hsplit : ((part :: parts).flatMap fun part => part ++ [checkLetter part]) =
        part.take 7 ++ ((part.drop 7 ++ [checkLetter part]) ++
          parts.flatMap fun part => part ++ [checkLetter part]) := by
      rw [List.flatMap_cons, ← List.append_assoc, ← List.append_assoc, List.take_append_drop]
    rw [hsplit, toChunks_append (by omega) hfirst, toChunks_append (by omega) hsecond,
      List.flatMap_cons, List.flatMap_cons, ih fun p hp => h p (List.mem_cons_of_mem part hp),
      List.map_cons, List.flatten_cons, block]
    simp

/-- What stands in a block. -/
theorem getElem?_block {part : List Char} (h : part.length = 13) :
    (∀ i < 13, (block part)[i + i / 7]? = part[i]?) ∧
      (block part)[14]? = some (checkLetter part) ∧
      (block part)[7]? = some '-' ∧ (block part)[15]? = some '-' ∧ (block part).length = 16 := by
  have htake : (part.take 7).length = 7 := by
    rw [List.length_take]
    omega
  have hdrop : (part.drop 7).length = 6 := by
    rw [List.length_drop]
    omega
  refine ⟨fun i hi => ?_, ?_, ?_, ?_, ?_⟩
  · unfold block
    by_cases hhalf : i < 7
    · have hpos : i + i / 7 = i := by omega
      rw [hpos, List.getElem?_append_left (by omega), List.getElem?_take_of_lt hhalf]
    · have hpos : i + i / 7 - 7 = (i - 7) + 1 := by omega
      rw [List.getElem?_append_right (by omega), htake, hpos, List.getElem?_cons_succ,
        List.getElem?_append_left (by omega), List.getElem?_drop]
      congr 1
      omega
  · rw [block, List.getElem?_append_right (by omega), htake, List.getElem?_cons_succ,
      List.getElem?_append_right (by omega), hdrop]
    rfl
  · rw [block, List.getElem?_append_right (by omega), htake]
    rfl
  · rw [block, List.getElem?_append_right (by omega), htake, List.getElem?_cons_succ,
      List.getElem?_append_right (by omega), hdrop]
    rfl
  · rw [block, List.length_append, htake, List.length_cons, List.length_append, hdrop]
    rfl

/-- A text that is the blocks of four parts, but for the last hyphen. -/
theorem spells_of_blocks {t : List Char} {parts : List (List Char)}
    (ht : t ++ ['-'] = (parts.map block).flatten) (hfour : parts.length = 4)
    (hlen : ∀ part ∈ parts, part.length = 13) (hletters : ∀ part ∈ parts, ∀ c ∈ part,
      c ∈ alphabet) :
    Spells t fun group => parts.getD group [] := by
  have hblocks : ∀ b ∈ parts.map block, b.length = 16 := by
    intro b hb
    obtain ⟨part, hpart, rfl⟩ := List.mem_map.1 hb
    exact (getElem?_block (hlen part hpart)).2.2.2.2
  have hlength : t.length = 63 := by
    have hsum : (t ++ ['-']).length = 64 := by
      rw [ht, List.length_flatten, List.map_congr_left hblocks, List.map_const', List.length_map,
        hfour]
      rfl
    rw [List.length_append, List.length_singleton] at hsum
    omega
  have hpart : ∀ group < 4, ∃ part ∈ parts, parts[group]? = some part ∧
      parts.getD group [] = part := by
    intro group hgroup
    have hlt : group < parts.length := by omega
    exact ⟨parts[group], List.getElem_mem hlt, List.getElem?_eq_getElem hlt, by simp [hlt]⟩
  -- position `16 * group + r` of the text is position `r` of its block
  have hat : ∀ group < 4, ∀ r < 16, 16 * group + r < 63 →
      t[16 * group + r]? = (block (parts.getD group []))[r]? := by
    intro group hgroup r hr hlt
    obtain ⟨part, _, hget, hgetD⟩ := hpart group hgroup
    have hflat := getElem?_flatten hblocks (k := group) hr
    rw [List.getElem?_map, hget, ← ht, List.getElem?_append_left (by omega)] at hflat
    rw [hflat, hgetD]
    rfl
  have hof : ∀ group < 4, (parts.getD group []).length = 13 := by
    intro group hgroup
    obtain ⟨part, hmem, _, hgetD⟩ := hpart group hgroup
    rw [hgetD]
    exact hlen part hmem
  refine ⟨hlength, hof, fun group hgroup => ?_, fun group hgroup i hi => ?_, fun group hgroup => ?_,
    fun j hj => ?_⟩
  · obtain ⟨part, hmem, _, hgetD⟩ := hpart group hgroup
    rw [hgetD]
    exact hletters part hmem
  · have hpos : dataPosition group i = 16 * group + (i + i / 7) := by
      unfold dataPosition
      omega
    rw [hpos, hat group hgroup (i + i / 7) (by omega) (by omega)]
    exact (getElem?_block (hof group hgroup)).1 i hi
  · rw [checkPosition, hat group hgroup 14 (by omega) (by omega)]
    exact (getElem?_block (hof group hgroup)).2.1
  · have hgroup : j / 2 < 4 := by omega
    obtain ⟨_, _, hseven, hlast, _⟩ := getElem?_block (hof (j / 2) hgroup)
    rcases Nat.mod_two_eq_zero_or_one j with hj2 | hj2
    · have hpos : 8 * j + 7 = 16 * (j / 2) + 7 := by omega
      rw [hpos, hat (j / 2) hgroup 7 (by omega) (by omega), hseven]
    · have hpos : 8 * j + 7 = 16 * (j / 2) + 15 := by omega
      rw [hpos, hat (j / 2) hgroup 15 (by omega) (by omega), hlast]

/-- **A valid text is spelt by parts**: those of the hash it is of. -/
theorem exists_spells [Guava] [LawfulBase32] {s : String} (hvalid : validateDeviceId s = .ok ()) :
    ∃ part, Spells s.toList part := by
  obtain ⟨h, hlen, hencode, _⟩ := eq_of_validateDeviceId hvalid
  obtain ⟨hparts, _, hfour, hletters⟩ := parts_of_hash hlen
  refine ⟨_, spells_of_blocks ?_ hfour hparts hletters⟩
  rw [hashDataToDeviceIdString_eq hlen] at hencode
  have htext := Except.ok.inj hencode
  have hgroups := flatMap_groups hparts
  have hlist (groups : List (List Char)) :
      (groups.map String.ofList).map String.toList = groups := by
    simp
  rw [← htext, String.toList_intercalate, hlist]
  refine (intercalate_concat fun hnil => ?_).trans hgroups
  rw [hnil, List.flatMap_nil] at hgroups
  have hzero := congrArg List.length hgroups
  obtain ⟨p, ps, hps⟩ := List.exists_cons_of_length_eq_add_one hfour
  have hp := hparts p (hps ▸ List.mem_cons_self)
  rw [hps, List.map_cons, List.flatten_cons, List.length_append,
    (getElem?_block hp).2.2.2.2] at hzero
  simp only [List.length_nil] at hzero
  omega

/-! ## Check letters -/

theorem idxOf_lt {c : Char} (hc : c ∈ alphabet) : alphabet.idxOf c < 32 :=
  List.idxOf_lt_length_iff.2 hc

theorem idxOf_inj {c d : Char} (hc : c ∈ alphabet) (hd : d ∈ alphabet)
    (h : alphabet.idxOf c = alphabet.idxOf d) : c = d := by
  have hget := List.getElem_idxOf (idxOf_lt hc)
  have hget' := List.getElem_idxOf (idxOf_lt hd)
  simp only [h] at hget
  exact hget.symm.trans hget'

theorem letter_inj {m n : ℕ} (hm : m < 32) (hn : n < 32) (h : letter m = letter n) : m = n := by
  have hvalue := value_letter hm
  rw [h, value_letter hn] at hvalue
  exact (Option.some.inj hvalue).symm

/-- A check letter gives the sum, up to multiples of the alphabet. -/
theorem luhnSum_of_checkLetter {part part' : List Char}
    (h : checkLetter part = checkLetter part') : luhnSum 0 part % 32 = luhnSum 0 part' % 32 := by
  have hcheck := letter_inj (Nat.mod_lt _ (by omega)) (Nat.mod_lt _ (by omega)) h
  omega

/-- Another letter in one place moves the sum by the two weights. -/
theorem luhnSum_set {cs : List Char} {i : ℕ} {c d : Char} (k : ℕ) (hc : cs[i]? = some c) :
    luhnSum k (cs.set i d) + weight (factorAt (k + i)) c =
      luhnSum k cs + weight (factorAt (k + i)) d := by
  induction cs generalizing k i with
  | nil => cases hc
  | cons e cs ih =>
    cases i with
    | zero =>
      cases hc
      rw [List.set_cons_zero, luhnSum, luhnSum, Nat.add_zero k]
      omega
    | succ i =>
      have hrest := ih (k + 1) (List.getElem?_cons_succ ▸ hc)
      have hindex : k + 1 + i = k + (i + 1) := by omega
      rw [hindex] at hrest
      rw [List.set_cons_succ, luhnSum, luhnSum]
      omega

theorem weight_one {c : Char} (hc : c ∈ alphabet) : weight 1 c = alphabet.idxOf c := by
  have hlt := idxOf_lt hc
  unfold weight
  omega

/-- Doubled, the second half of the alphabet falls between the first. -/
theorem weight_two {c : Char} (hc : c ∈ alphabet) :
    weight 2 c = if alphabet.idxOf c < 16 then 2 * alphabet.idxOf c
      else 2 * alphabet.idxOf c - 31 := by
  have hlt := idxOf_lt hc
  unfold weight
  split
  · omega
  · omega

/-- **Doubling permutes the letters**: what a letter adds tells it. -/
theorem eq_of_weight {c d : Char} (k : ℕ) (hc : c ∈ alphabet) (hd : d ∈ alphabet)
    (h : weight (factorAt k) c % 32 = weight (factorAt k) d % 32) : c = d := by
  have hltc := idxOf_lt hc
  have hltd := idxOf_lt hd
  refine idxOf_inj hc hd ?_
  unfold factorAt at h
  split at h
  · rw [weight_one hc, weight_one hd] at h
    omega
  · rw [weight_two hc, weight_two hd] at h
    split at h <;> split at h <;> omega

/-- **What an exchange does not move**: doubling moves a letter by its own
distance, `A` and `7` by none. -/
theorem eq_of_weight_exchange {c d : Char} (k : ℕ) (hc : c ∈ alphabet) (hd : d ∈ alphabet)
    (h : (weight (factorAt k) c + weight (factorAt (k + 1)) d) % 32 =
      (weight (factorAt k) d + weight (factorAt (k + 1)) c) % 32) :
    c = d ∨ (c = 'A' ∧ d = '7') ∨ (c = '7' ∧ d = 'A') := by
  have hltc := idxOf_lt hc
  have hltd := idxOf_lt hd
  have hindex : alphabet.idxOf c = alphabet.idxOf d ∨
      (alphabet.idxOf c = 0 ∧ alphabet.idxOf d = 31) ∨
      (alphabet.idxOf c = 31 ∧ alphabet.idxOf d = 0) := by
    -- of the two factors one is one and the other two
    rw [← factorAt_succ] at h
    unfold factorAt at h
    split at h
    · rw [if_neg (by omega), weight_one hc, weight_one hd, weight_two hc, weight_two hd] at h
      split at h <;> split at h <;> omega
    · rw [if_pos rfl, weight_one hc, weight_one hd, weight_two hc, weight_two hd] at h
      split at h <;> split at h <;> omega
  have hA : 'A' ∈ alphabet := by decide
  have h7 : '7' ∈ alphabet := by decide
  rcases hindex with heq | ⟨h0, h31⟩ | ⟨h31, h0⟩
  · exact Or.inl (idxOf_inj hc hd heq)
  · exact Or.inr (Or.inl ⟨idxOf_inj hc hA h0, idxOf_inj hd h7 h31⟩)
  · exact Or.inr (Or.inr ⟨idxOf_inj hc h7 h31, idxOf_inj hd hA h0⟩)

/-! ## Typos -/

section Typos

variable {t t' : List Char} {part part' : ℕ → List Char} {group i : ℕ}

theorem dataPosition_inj {group' i' : ℕ} (hi : i < 13) (hi' : i' < 13)
    (h : dataPosition group i = dataPosition group' i') : group = group' ∧ i = i' := by
  unfold dataPosition at h
  omega

theorem dataPosition_lt (hgroup : group < 4) (hi : i < 13) : dataPosition group i < 63 := by
  unfold dataPosition
  omega

theorem dataPosition_ne_checkPosition {group' : ℕ} (hi : i < 13) :
    dataPosition group i ≠ checkPosition group' := by
  unfold dataPosition checkPosition
  omega

/-- Parts with the same letters in the text are the same. -/
theorem Spells.part_eq (hs : Spells t part) {cs : List Char} (hgroup : group < 4)
    (hlen : cs.length = 13) (h : ∀ i < 13, t[dataPosition group i]? = cs[i]?) :
    part group = cs := by
  refine List.ext_getElem? fun i => ?_
  by_cases hi : i < 13
  · rw [← hs.data group hgroup i hi, h i hi]
  · have hpart := hs.length_part group hgroup
    rw [List.getElem?_eq_none (by omega), List.getElem?_eq_none (by omega)]

/-- **A character replaced** leaves no text that parts spell. -/
theorem Spells.eq_of_set (hs : Spells t part) {p : ℕ} {c d : Char} (hp : t[p]? = some c)
    (hs' : Spells (t.set p d) part') : d = c := by
  have hlt : p < t.length := by
    by_contra hge
    rw [List.getElem?_eq_none (by omega)] at hp
    cases hp
  have hd : (t.set p d)[p]? = some d := List.getElem?_set_self hlt
  have hlength := hs.length
  rcases position_cases (p := p) (by omega) with ⟨j, hj, rfl⟩ | ⟨group, hgroup, rfl⟩ |
    ⟨group, hgroup, i, hi, rfl⟩
  · rw [hs.hyphen j hj] at hp
    rw [hs'.hyphen j hj] at hd
    exact Option.some.inj (hd.symm.trans hp)
  · -- the part has not changed, and neither has its check letter
    have hpart : part' group = part group := by
      refine hs'.part_eq hgroup (hs.length_part group hgroup) fun i hi => ?_
      rw [List.getElem?_set_ne (dataPosition_ne_checkPosition hi).symm, hs.data group hgroup i hi]
    rw [hs.check group hgroup] at hp
    rw [hs'.check group hgroup, hpart] at hd
    exact Option.some.inj (hd.symm.trans hp)
  · have hletter : (part group)[i]? = some c := (hs.data group hgroup i hi).symm.trans hp
    have hpart : part' group = (part group).set i d := by
      refine hs'.part_eq hgroup ?_ fun i' hi' => ?_
      · rw [List.length_set, hs.length_part group hgroup]
      by_cases hii : i = i'
      · rw [← hii, hd, List.getElem?_set_self]
        rw [hs.length_part group hgroup]
        exact hi
      · rw [List.getElem?_set_ne fun h => hii (dataPosition_inj hi hi' h).2,
          List.getElem?_set_ne hii, hs.data group hgroup i' hi']
    have hcheck : checkLetter (part' group) = checkLetter (part group) := by
      have hkeep := hs'.check group hgroup
      rw [List.getElem?_set_ne (dataPosition_ne_checkPosition hi), hs.check group hgroup] at hkeep
      exact (Option.some.inj hkeep).symm
    have hsum := luhnSum_of_checkLetter hcheck
    have hmove := luhnSum_set (d := d) 0 hletter
    rw [hpart] at hsum
    have hc : c ∈ alphabet := hs.mem_alphabet group hgroup c (List.mem_of_getElem? hletter)
    have hd' : d ∈ alphabet := by
      refine hs'.mem_alphabet group hgroup d (List.mem_of_getElem? (i := i) ?_)
      rw [← hs'.data group hgroup i hi, hd]
    exact (eq_of_weight (0 + i) hc hd' (by omega)).symm

/-- **Neighbouring letters exchanged** leave no text that parts spell,
save `A` and `7`. -/
theorem Spells.eq_of_exchange (hs : Spells t part) {a b : Char} (hgroup : group < 4)
    (hi : i + 1 < 13) (ha : t[dataPosition group i]? = some a)
    (hb : t[dataPosition group (i + 1)]? = some b)
    (hs' : Spells ((t.set (dataPosition group i) b).set (dataPosition group (i + 1)) a) part') :
    a = b ∨ (a = 'A' ∧ b = '7') ∨ (a = '7' ∧ b = 'A') := by
  have hlength := hs.length
  have hleft := dataPosition_lt hgroup (by omega : i < 13)
  have hright := dataPosition_lt hgroup hi
  have hne : dataPosition group i ≠ dataPosition group (i + 1) := fun h => by
    have := (dataPosition_inj (by omega) hi h).2
    omega
  have hlen := hs.length_part group hgroup
  have hfirst : (part group)[i]? = some a := (hs.data group hgroup i (by omega)).symm.trans ha
  have hsecond : (part group)[i + 1]? = some b := (hs.data group hgroup (i + 1) hi).symm.trans hb
  have hpart : part' group = ((part group).set i b).set (i + 1) a := by
    refine hs'.part_eq hgroup (by rw [List.length_set, List.length_set, hlen]) fun m hm => ?_
    by_cases hm₁ : i + 1 = m
    · rw [← hm₁, List.getElem?_set_self (by rw [List.length_set]; omega),
        List.getElem?_set_self (by rw [List.length_set]; omega)]
    have hpos₁ : dataPosition group (i + 1) ≠ dataPosition group m := fun h =>
      hm₁ (dataPosition_inj hi hm h).2
    rw [List.getElem?_set_ne hpos₁, List.getElem?_set_ne hm₁]
    by_cases hm₀ : i = m
    · rw [← hm₀, List.getElem?_set_self (by omega), List.getElem?_set_self (by omega)]
    · rw [List.getElem?_set_ne fun h => hm₀ (dataPosition_inj (by omega) hm h).2,
        List.getElem?_set_ne hm₀, hs.data group hgroup m hm]
  have hcheck : checkLetter (part' group) = checkLetter (part group) := by
    have hkeep := hs'.check group hgroup
    rw [List.getElem?_set_ne (dataPosition_ne_checkPosition hi),
      List.getElem?_set_ne (dataPosition_ne_checkPosition (by omega)),
        hs.check group hgroup] at hkeep
    exact (Option.some.inj hkeep).symm
  have hsum := luhnSum_of_checkLetter hcheck
  rw [hpart] at hsum
  have hmove := luhnSum_set (d := b) 0 hfirst
  have hmid : ((part group).set i b)[i + 1]? = some b := by
    rw [List.getElem?_set_ne (by omega), hsecond]
  have hmove' := luhnSum_set (d := a) 0 hmid
  rw [← Nat.add_assoc] at hmove'
  have ha' := hs.mem_alphabet group hgroup a (List.mem_of_getElem? hfirst)
  have hb' := hs.mem_alphabet group hgroup b (List.mem_of_getElem? hsecond)
  exact eq_of_weight_exchange (0 + i) ha' hb' (by omega)

end Typos

variable [Guava]

theorem exists_error_of_not_spells [LawfulBase32] {t : List Char}
    (h : ∀ part, ¬ Spells t part) : ∃ e, validateDeviceId (String.ofList t) = .error e := by
  cases hvalid : validateDeviceId (String.ofList t) with
  | error e => exact ⟨e, rfl⟩
  | ok u =>
    obtain ⟨part, hs⟩ := exists_spells hvalid
    rw [String.toList_ofList] at hs
    exact absurd hs (h part)

/-- **Typos are caught.** A valid text with another character in any one
place is refused, and so is one with two different neighbouring letters
of a part exchanged, unless they are `A` and `7`. -/
theorem typos_rejected [LawfulBase32] {s : String} (hvalid : validateDeviceId s = .ok ()) :
    (∀ (p : ℕ) (c d : Char), s.toList[p]? = some c → d ≠ c →
      ∃ e, validateDeviceId (String.ofList (s.toList.set p d)) = .error e) ∧
    ∀ (group i : ℕ) (a b : Char), group < 4 → i + 1 < 13 →
      s.toList[dataPosition group i]? = some a → s.toList[dataPosition group (i + 1)]? = some b →
      a ≠ b → ¬ ((a = 'A' ∧ b = '7') ∨ (a = '7' ∧ b = 'A')) →
      ∃ e, validateDeviceId (String.ofList
        ((s.toList.set (dataPosition group i) b).set (dataPosition group (i + 1)) a)) =
          .error e := by
  obtain ⟨part, hs⟩ := exists_spells hvalid
  refine ⟨fun p c d hp hd => ?_, fun group i a b hgroup hi ha hb hab hexcept => ?_⟩
  · exact exists_error_of_not_spells fun part' hs' => hd (hs.eq_of_set hp hs')
  · refine exists_error_of_not_spells fun part' hs' => ?_
    rcases hs.eq_of_exchange hgroup hi ha hb hs' with heq | hpair
    · exact hab heq
    · exact hexcept hpair

end KeystoreHandler

section Sample

attribute [local instance] Sample.guavaOfBase32 Sample.lawfulBase32

/-- The text of the bytes from one to thirty-two. -/
def sampleText : String := "AEBAGBA-FAYDQQA-CIKBMGA-2DQPCA6-IREEYUC-ULBOGAW-ZDINRYH-I6D4QAF"

theorem sampleText_valid : KeystoreHandler.validateDeviceId sampleText = .ok () := by
  decide +kernel

/-- Another first letter, and the two letters around the first hyphen
exchanged. -/
theorem typos_rejected_sample :
    (∃ e, KeystoreHandler.validateDeviceId (String.ofList (sampleText.toList.set 0 'B')) =
      .error e) ∧
    ∃ e,
      KeystoreHandler.validateDeviceId (String.ofList ((sampleText.toList.set 6 'F').set 8 'A')) =
      .error e := by
  have h := KeystoreHandler.typos_rejected sampleText_valid
  exact ⟨h.1 0 'A' 'B' (by decide +kernel) (by decide),
    h.2 0 6 'A' 'F' (by decide) (by decide) (by decide +kernel) (by decide +kernel) (by decide)
      (by decide)⟩

end Sample

end Core

end ASync
