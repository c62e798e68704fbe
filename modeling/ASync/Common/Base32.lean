import Mathlib
/-!
# Base32

The base32 encoding of RFC 4648 over lists of bits: eight bits a byte,
five a letter, the last letter filled up with zeros. A decoder that
ignores the padding and the bits left over gives back what was encoded
(`decode_letters`). The first section is on `List.toChunks`, by which
both directions cut their input.
-/

namespace ASync

/-! ## Chunks -/

section Chunks

variable {α : Type} {n : ℕ} {xs ys : List α}

theorem toChunks_go (xs : List α) (acc₁ : Array α) (acc₂ : Array (List α)) (h : acc₁.size ≤ n)
    (hpos : 0 < acc₁.size) :
    List.toChunks.go n xs acc₁ acc₂ = acc₂.toList ++
      (acc₁.toList ++ xs).take n :: (xs.drop (n - acc₁.size)).toChunks n := by
  induction xs generalizing acc₁ acc₂ with
  | nil =>
    have htake : acc₁.toList.take n = acc₁.toList := List.take_of_length_le h
    simp [List.toChunks.go, htake, List.toChunks]
  | cons x xs ih =>
    rw [List.toChunks.go]
    by_cases hfull : acc₁.size = n
    · -- a full chunk is closed, and `x` begins the next
      obtain ⟨m, rfl⟩ : ∃ m, n = m + 1 := ⟨n - 1, by omega⟩
      have hnext := ih #[x] (acc₂.push acc₁.toList) (by simp) (by simp)
      have hself := ih #[x] #[] (by simp) (by simp)
      have htake : (acc₁.toList ++ x :: xs).take (m + 1) = acc₁.toList := List.take_left' hfull
      rw [if_pos (beq_iff_eq.2 hfull), htake, hfull, Nat.sub_self, List.drop_zero, List.toChunks,
        hself]
      · simpa using hnext
      · rintro ⟨⟩
    · have hnext := ih (acc₁.push x) acc₂ (by rw [Array.size_push]; omega) (by simp)
      have hdrop : n - acc₁.size = (n - (acc₁.size + 1)) + 1 := by omega
      rw [if_neg (by simpa using hfull), hnext, hdrop, List.drop_succ_cons, Array.size_push]
      simp

/-- **The first chunk, and the chunks of the rest.** -/
theorem toChunks_eq (hn : 0 < n) (hxs : xs ≠ []) :
    xs.toChunks n = xs.take n :: (xs.drop n).toChunks n := by
  obtain ⟨x, xs, rfl⟩ := List.exists_cons_of_ne_nil hxs
  obtain ⟨m, rfl⟩ : ∃ m, n = m + 1 := ⟨n - 1, by omega⟩
  rw [List.toChunks, toChunks_go xs #[x] #[] (by simp) (by simp)]
  · simp
  · rintro ⟨⟩

/-- A full chunk in front is a chunk. -/
theorem toChunks_append (hn : 0 < n) (hxs : xs.length = n) :
    (xs ++ ys).toChunks n = xs :: ys.toChunks n := by
  have hne : xs ++ ys ≠ [] := by
    intro hnil
    rw [List.append_eq_nil_iff] at hnil
    rw [hnil.1] at hxs
    exact hn.ne hxs
  rw [toChunks_eq hn hne, List.take_left' hxs, List.drop_left' hxs]

/-- Parts that are full but for the last are the chunks. -/
theorem toChunks_flatten_of_full {parts : List (List α)}
    (hfull : ∀ part ∈ parts.dropLast, part.length = n)
    (hparts : ∀ part ∈ parts, part ≠ [] ∧ part.length ≤ n) : parts.flatten.toChunks n = parts := by
  induction parts with
  | nil => rfl
  | cons part parts ih =>
    obtain ⟨hne, hle⟩ := hparts part List.mem_cons_self
    have hn : 0 < n := (List.length_pos_iff.2 hne).trans_le hle
    have hrest : ∀ other ∈ parts, other ≠ [] ∧ other.length ≤ n := fun other hother =>
      hparts other (List.mem_cons_of_mem part hother)
    rcases parts with _ | ⟨next, parts⟩
    · -- the last part is all that is left
      rw [List.flatten_cons, List.flatten_nil, List.append_nil, toChunks_eq hn hne,
        List.take_of_length_le hle, List.drop_eq_nil_of_le hle]
      rfl
    · rw [List.dropLast_cons_cons] at hfull
      rw [List.flatten_cons, toChunks_append hn (hfull part List.mem_cons_self),
        ih (fun other hother => hfull other (List.mem_cons_of_mem part hother)) hrest]

/-- What is cut out of full chunks are full chunks. -/
theorem length_of_mem_toChunks (hn : 0 < n) {k : ℕ} (h : xs.length = k * n) :
    (∀ part ∈ xs.toChunks n, part.length = n) ∧ (xs.toChunks n).flatten = xs ∧
      (xs.toChunks n).length = k := by
  induction k generalizing xs with
  | zero =>
    rw [Nat.zero_mul, List.length_eq_zero_iff] at h
    subst h
    exact ⟨fun part hpart => (by cases hpart), rfl, rfl⟩
  | succ k ih =>
    rw [Nat.succ_mul] at h
    have hne : xs ≠ [] := by
      rintro rfl
      rw [List.length_nil] at h
      omega
    have hrest : (xs.drop n).length = k * n := by
      rw [List.length_drop]
      omega
    obtain ⟨hparts, hflat, hlen⟩ := ih hrest
    rw [toChunks_eq hn hne]
    refine ⟨?_, ?_, ?_⟩
    · intro part hpart
      rcases List.mem_cons.1 hpart with rfl | hmem
      · rw [List.length_take]
        omega
      · exact hparts part hmem
    · rw [List.flatten_cons, hflat, List.take_append_drop]
    · rw [List.length_cons, hlen]

end Chunks

/-! ## Bits -/

/-- The last `w` bits of a number, the most significant first. -/
def toBits : ℕ → ℕ → List Bool
  | 0, _ => []
  | w + 1, n => n.testBit w :: toBits w n

/-- The number some bits stand for. -/
def ofBits : List Bool → ℕ
  | [] => 0
  | b :: bits => 2 ^ bits.length * b.toNat + ofBits bits

@[simp] theorem length_toBits (w n : ℕ) : (toBits w n).length = w := by
  induction w with
  | zero => rfl
  | succ w ih => rw [toBits, List.length_cons, ih]

theorem ofBits_lt (bits : List Bool) : ofBits bits < 2 ^ bits.length := by
  induction bits with
  | nil => exact Nat.one_pos
  | cons b bits ih =>
    have hmul : 2 ^ bits.length * b.toNat ≤ 2 ^ bits.length * 1 :=
      Nat.mul_le_mul_left _ b.toNat_le
    rw [ofBits, List.length_cons, pow_succ]
    omega

theorem ofBits_toBits (w n : ℕ) : ofBits (toBits w n) = n % 2 ^ w := by
  induction w with
  | zero => rw [toBits, ofBits, pow_zero, Nat.mod_one]
  | succ w ih =>
    rw [toBits, ofBits, ih, length_toBits, Nat.toNat_testBit, pow_succ, Nat.mod_mul, Nat.add_comm]

/-- The bits below a power of two do not see its multiples. -/
theorem toBits_two_pow_mul_add {v w a r : ℕ} (hv : v ≤ w) (hr : r < 2 ^ w) :
    toBits v (2 ^ w * a + r) = toBits v r := by
  induction v with
  | zero => rfl
  | succ v ih =>
    rw [toBits, toBits, ih (by omega), Nat.testBit_two_pow_mul_add a hr, if_pos (by omega)]

theorem toBits_ofBits (bits : List Bool) : toBits bits.length (ofBits bits) = bits := by
  induction bits with
  | nil => rfl
  | cons b bits ih =>
    have hlt := ofBits_lt bits
    have hbit : (2 ^ bits.length * b.toNat + ofBits bits).testBit bits.length = b := by
      rw [Nat.testBit_two_pow_mul_add _ hlt, if_neg (by omega), Nat.sub_self]
      cases b <;> rfl
    rw [List.length_cons, toBits, ofBits, hbit, toBits_two_pow_mul_add le_rfl hlt, ih]

/-! ## The encoding -/

namespace Base32

def alphabet : List Char := "ABCDEFGHIJKLMNOPQRSTUVWXYZ234567".toList

/-- The letter of a value. -/
def letter (n : ℕ) : Char := alphabet.getD n 'A'

/-- The value of a letter. -/
def value (c : Char) : Option ℕ := alphabet.idxOf? c

/-- A chunk of at most five bits, filled up with zeros. -/
def fill (chunk : List Bool) : List Bool := chunk ++ List.replicate (5 - chunk.length) false

/-- The letters of some bits. -/
def lettersOf (bits : List Bool) : List Char :=
  (bits.toChunks 5).map fun chunk => letter (ofBits (fill chunk))

/-- The bits of some bytes. -/
def bitsOf (bytes : List UInt8) : List Bool := bytes.flatMap fun b => toBits 8 b.toNat

/-- The letters of some bytes, without padding. -/
def letters (bytes : List UInt8) : List Char := lettersOf (bitsOf bytes)

/-- The letters, padded to a multiple of eight. -/
def encode (bytes : List UInt8) : String :=
  String.ofList (letters bytes ++ List.replicate ((8 - (letters bytes).length % 8) % 8) '=')

/-- The whole bytes among some bits. -/
def octets (bits : List Bool) : List UInt8 :=
  ((bits.toChunks 8).filter fun chunk => chunk.length = 8).map fun chunk =>
    UInt8.ofNat (ofBits chunk)

/-- The text without its padding is refused where its length is none of
an encoding or a letter is not of the alphabet. The bits after the last
whole byte are ignored. -/
def decode (s : String) : Option (List UInt8) :=
  let body := s.toList.rdropWhile (· = '=')
  if body.length % 8 ∈ [0, 2, 4, 5, 7] then
    (body.mapM value).map fun values => octets (values.flatMap (toBits 5))
  else none

variable {bytes : List UInt8} {bits : List Bool} {n : ℕ} {c : Char}

theorem value_letter (h : n < 32) : value (letter n) = some n := by
  have hall : ∀ i : Fin 32, value (letter i) = some i.val := by decide
  exact hall ⟨n, h⟩

theorem letter_mem (h : n < 32) : letter n ∈ alphabet := by
  have hall : ∀ i : Fin 32, letter i ∈ alphabet := by decide
  exact hall ⟨n, h⟩

/-- What the letters leave of the bits: the bits, and fewer than five
zeros. -/
theorem flatMap_fill (bits : List Bool) :
    ∃ k < 5, (bits.toChunks 5).flatMap fill = bits ++ List.replicate k false ∧
      bits.length + k = 5 * (bits.toChunks 5).length := by
  induction hlen : bits.length using Nat.strong_induction_on generalizing bits with
  | _ len ih =>
    subst hlen
    by_cases hnil : bits = []
    · subst hnil
      exact ⟨0, by omega, rfl, rfl⟩
    · have hpos := List.length_pos_iff.2 hnil
      rw [toChunks_eq (by omega) hnil]
      by_cases hshort : bits.length < 5
      · -- the last chunk
        have htake : bits.take 5 = bits := List.take_of_length_le hshort.le
        have hdrop : bits.drop 5 = [] := List.drop_eq_nil_of_le hshort.le
        refine ⟨5 - bits.length, by omega, ?_, ?_⟩
        · rw [htake, hdrop]
          exact List.append_nil _
        · rw [hdrop]
          simp only [List.toChunks, List.length_cons, List.length_nil]
          omega
      · have hdrop : (bits.drop 5).length = bits.length - 5 := List.length_drop
        obtain ⟨k, hk, hflat, hcount⟩ := ih (bits.drop 5).length (by omega) (bits.drop 5) rfl
        have htake : (bits.take 5).length = 5 := by
          rw [List.length_take]
          omega
        refine ⟨k, hk, ?_, ?_⟩
        · rw [List.flatMap_cons, hflat, fill, htake, Nat.sub_self, List.replicate_zero,
            List.append_nil, ← List.append_assoc, List.take_append_drop]
        · rw [List.length_cons]
          omega

theorem length_of_mem_toChunks_five {chunk : List Bool} (h : chunk ∈ bits.toChunks 5) :
    (fill chunk).length = 5 := by
  induction hlen : bits.length using Nat.strong_induction_on generalizing bits with
  | _ len ih =>
    subst hlen
    by_cases hnil : bits = []
    · subst hnil
      cases h
    · have hpos := List.length_pos_iff.2 hnil
      rw [toChunks_eq (by omega) hnil] at h
      rcases List.mem_cons.1 h with rfl | hrest
      · rw [fill, List.length_append, List.length_replicate, List.length_take]
        omega
      · exact ih (bits.drop 5).length (by rw [List.length_drop]; omega) hrest rfl

/-- The letters are of the alphabet. -/
theorem mem_alphabet_of_mem_lettersOf (h : c ∈ lettersOf bits) : c ∈ alphabet := by
  obtain ⟨chunk, hchunk, rfl⟩ := List.mem_map.1 h
  have hlt := ofBits_lt (fill chunk)
  rw [length_of_mem_toChunks_five hchunk] at hlt
  exact letter_mem hlt

/-- Their values are the bits again. -/
theorem mapM_value_lettersOf (bits : List Bool) :
    ∃ values, (lettersOf bits).mapM value = some values ∧
      values.flatMap (toBits 5) = (bits.toChunks 5).flatMap fill := by
  have hchunks : ∀ chunks : List (List Bool), (∀ chunk ∈ chunks, (fill chunk).length = 5) →
      ∃ values, (chunks.map fun chunk => letter (ofBits (fill chunk))).mapM value = some values ∧
        values.flatMap (toBits 5) = chunks.flatMap fill := by
    intro chunks
    induction chunks with
    | nil => exact fun _ => ⟨[], rfl, rfl⟩
    | cons chunk chunks ih =>
      intro hfill
      obtain ⟨values, hvalues, hbits⟩ := ih fun chunk' h => hfill chunk' (List.mem_cons_of_mem _ h)
      have hlen := hfill chunk List.mem_cons_self
      have hlt := ofBits_lt (fill chunk)
      have hback := toBits_ofBits (fill chunk)
      rw [hlen] at hlt hback
      refine ⟨ofBits (fill chunk) :: values, ?_, ?_⟩
      · rw [List.map_cons, List.mapM_cons, value_letter hlt, hvalues]
        rfl
      · rw [List.flatMap_cons, List.flatMap_cons, hback, hbits]
  exact hchunks (bits.toChunks 5) fun chunk h => length_of_mem_toChunks_five h

/-- The whole bytes of the bits of some bytes, and of fewer than eight
bits more. -/
theorem octets_bitsOf (rest : List Bool) (h : rest.length < 8) :
    octets (bitsOf bytes ++ rest) = bytes := by
  induction bytes with
  | nil =>
    rw [bitsOf, List.flatMap_nil, List.nil_append, octets]
    by_cases hnil : rest = []
    · subst hnil
      rfl
    · have htake : rest.take 8 = rest := List.take_of_length_le h.le
      have hdrop : rest.drop 8 = [] := List.drop_eq_nil_of_le h.le
      rw [toChunks_eq (by omega) hnil, htake, hdrop, List.filter_cons_of_neg (by simpa using h.ne)]
      rfl
  | cons b bytes ih =>
    have hlt : b.toNat % 2 ^ 8 = b.toNat := Nat.mod_eq_of_lt b.toNat_lt
    rw [octets] at ih ⊢
    rw [bitsOf, List.flatMap_cons, List.append_assoc,
      toChunks_append (by omega) (length_toBits 8 _),
      List.filter_cons_of_pos (by simp), List.map_cons, ofBits_toBits, hlt, UInt8.ofNat_toNat]
    exact congrArg (b :: ·) ih

theorem length_bitsOf (bytes : List UInt8) : (bitsOf bytes).length = 8 * bytes.length := by
  induction bytes with
  | nil => rfl
  | cons b bytes ih =>
    rw [bitsOf, List.flatMap_cons, List.length_append, length_toBits, List.length_cons]
    rw [bitsOf] at ih
    omega

/-- Five bits a letter. -/
theorem length_letters (bytes : List UInt8) :
    (letters bytes).length = (8 * bytes.length + 4) / 5 := by
  obtain ⟨k, hk, _, hcount⟩ := flatMap_fill (bitsOf bytes)
  rw [length_bitsOf] at hcount
  rw [letters, lettersOf, List.length_map]
  omega

theorem rdropWhile_letters (bytes : List UInt8) (k : ℕ) :
    (letters bytes ++ List.replicate k '=').rdropWhile (· = '=') = letters bytes := by
  induction k with
  | zero =>
    rw [List.replicate_zero, List.append_nil]
    refine List.rdropWhile_eq_self_iff.2 fun hne hlast => ?_
    have hmem := mem_alphabet_of_mem_lettersOf (List.getLast_mem hne)
    rw [of_decide_eq_true hlast] at hmem
    exact absurd hmem (by decide)
  | succ k ih =>
    rw [List.replicate_succ', ← List.append_assoc, List.rdropWhile_concat_pos _ _ _ (by decide), ih]

/-- **Decoding gives back what was encoded**, whatever the padding. -/
theorem decode_letters (bytes : List UInt8) (k : ℕ) :
    decode (String.ofList (letters bytes ++ List.replicate k '=')) = some bytes := by
  obtain ⟨values, hvalues, hbits⟩ := mapM_value_lettersOf (bitsOf bytes)
  obtain ⟨k', hk', hflat, _⟩ := flatMap_fill (bitsOf bytes)
  have hlen := length_letters bytes
  have hvalid : (letters bytes).length % 8 ∈ [0, 2, 4, 5, 7] := by
    simp only [List.mem_cons, List.not_mem_nil, or_false]
    omega
  rw [decode, String.toList_ofList, rdropWhile_letters]
  simp only [if_pos hvalid]
  rw [letters, hvalues, Option.map_some, hbits, hflat,
    octets_bitsOf _ (by rw [List.length_replicate]; omega)]

end Base32

end ASync
