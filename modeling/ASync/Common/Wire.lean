import Mathlib
/-!
# Big-endian words on a byte stream

The words `java.io.DataOutputStream` writes and `DataInputStream` reads:
a fixed number of bytes, most significant first, read back as a signed
number. A stream is the list of the bytes not read yet, and a read past
its end is `none`.
-/

namespace ASync

/-- A byte string. -/
abbrev Bytes := List UInt8

namespace Wire

/-- The low `w` bytes of a number, most significant first. -/
def toBytes : ℕ → ℕ → Bytes
  | 0, _ => []
  | w + 1, v => toBytes w (v / 256) ++ [UInt8.ofNat v]

/-- The number a byte string writes, most significant byte first. -/
def ofBytes (bs : Bytes) : ℕ := bs.foldl (fun n b => 256 * n + b.toNat) 0

/-- The two's complement reading of a byte string. -/
def signed (bs : Bytes) : ℤ := Int.bmod (ofBytes bs) (256 ^ bs.length)

/-- A number takes as many bytes as it is given. -/
@[simp] theorem length_toBytes (w v : ℕ) : (toBytes w v).length = w := by
  induction w generalizing v with
  | zero => rfl
  | succ w ih => rw [toBytes, List.length_append, ih, List.length_singleton]

/-- As many of its bytes as there is room for are read back. -/
theorem ofBytes_toBytes (w v : ℕ) : ofBytes (toBytes w v) = v % 256 ^ w := by
  induction w generalizing v with
  | zero => rw [toBytes, Nat.pow_zero, Nat.mod_one]; rfl
  | succ w ih =>
    have hcat : ofBytes (toBytes w (v / 256) ++ [UInt8.ofNat v])
        = 256 * ofBytes (toBytes w (v / 256)) + (UInt8.ofNat v).toNat := by
      simp only [ofBytes, List.foldl_append, List.foldl_cons, List.foldl_nil]
    have hlow : (UInt8.ofNat v).toNat = v % 256 := UInt8.toNat_ofNat'
    rw [toBytes, hcat, ih, hlow, Nat.pow_succ', Nat.mod_mul, Nat.add_comm]

/-- A word is read back up to a multiple of its range. -/
theorem signed_toBytes_eq (w v : ℕ) : signed (toBytes w v) = Int.bmod v (256 ^ w) := by
  rw [signed, length_toBytes, ofBytes_toBytes]
  push_cast
  exact Int.emod_bmod _ _

/-- A word in the non-negative half of its range is read back as it was
written. -/
theorem signed_toBytes {w v : ℕ} (h : 2 * v < 256 ^ w) : signed (toBytes w v) = v := by
  have hlt : 2 * (v : ℤ) < 256 ^ w := by exact_mod_cast h
  rw [signed, length_toBytes, ofBytes_toBytes, Nat.mod_eq_of_lt (by omega)]
  rw [Int.bmod_eq_of_le_mul_two] <;> push_cast <;> omega

/-- The last byte is the lowest. -/
theorem ofBytes_append_singleton (bs : Bytes) (b : UInt8) :
    ofBytes (bs ++ [b]) = 256 * ofBytes bs + b.toNat := by
  simp only [ofBytes, List.foldl_append, List.foldl_cons, List.foldl_nil]

/-- A number read is below what its bytes can hold. -/
theorem ofBytes_lt (bs : Bytes) : ofBytes bs < 256 ^ bs.length := by
  induction bs using List.reverseRecOn with
  | nil => exact Nat.one_pos
  | append_singleton bs b ih =>
    have hb : b.toNat < 256 := b.toNat_lt
    rw [ofBytes_append_singleton, List.length_append, List.length_singleton, Nat.pow_succ]
    omega

/-- Every byte string is the word of its number. -/
theorem toBytes_ofBytes (bs : Bytes) : toBytes bs.length (ofBytes bs) = bs := by
  induction bs using List.reverseRecOn with
  | nil => rfl
  | append_singleton bs b ih =>
    have hb : b.toNat < 256 := b.toNat_lt
    have hhigh : (256 * ofBytes bs + b.toNat) / 256 = ofBytes bs := by omega
    have hlow : UInt8.ofNat (256 * ofBytes bs + b.toNat) = b := by
      refine UInt8.toNat_inj.1 ?_
      rw [UInt8.toNat_ofNat']
      omega
    rw [List.length_append, List.length_singleton, toBytes, ofBytes_append_singleton, hhigh, ih,
      hlow]

/-! ## The stream -/

/-- `DataOutputStream.writeShort`. -/
def writeShort (v : ℕ) : Bytes := toBytes 2 v

/-- `DataOutputStream.writeInt`. -/
def writeInt (v : ℕ) : Bytes := toBytes 4 v

/-- `DataInputStream.readShort`. -/
def readShort : Bytes → Option (ℤ × Bytes)
  | a :: b :: rest => some (signed [a, b], rest)
  | _ => none

/-- `DataInputStream.readInt`. -/
def readInt : Bytes → Option (ℤ × Bytes)
  | a :: b :: c :: d :: rest => some (signed [a, b, c, d], rest)
  | _ => none

/-- A short is read from its two bytes, and the rest is left. -/
theorem readShort_append {bs rest : Bytes} (h : bs.length = 2) :
    readShort (bs ++ rest) = some (signed bs, rest) := by
  match bs, h with
  | [a, b], _ => rfl

/-- An int is read from its four bytes. -/
theorem readInt_append {bs rest : Bytes} (h : bs.length = 4) :
    readInt (bs ++ rest) = some (signed bs, rest) := by
  match bs, h with
  | [a, b, c, d], _ => rfl

/-- `DataInputStream.readFully` into an array of length `n`. -/
def readFully (n : ℕ) (bs : Bytes) : Option (Bytes × Bytes) :=
  if bs.length < n then none else some (bs.take n, bs.drop n)

/-- As many bytes are read as are asked for. -/
theorem readFully_append (a rest : Bytes) : readFully a.length (a ++ rest) = some (a, rest) := by
  rw [readFully, if_neg (by simp), List.take_left, List.drop_left]

/-! ## What was read was written -/

/-- A short that was read was written by some number. -/
theorem readShort_eq_some {bs rest : Bytes} {v : ℤ} (h : readShort bs = some (v, rest)) :
    ∃ n < 65536, bs = writeShort n ++ rest ∧ v = Int.bmod n 65536 := by
  rcases bs with _ | ⟨a, _ | ⟨b, bs⟩⟩
  all_goals cases h
  refine ⟨ofBytes [a, b], (ofBytes_lt [a, b]).trans_eq (by norm_num), ?_, by norm_num [signed]⟩
  have hword : writeShort (ofBytes [a, b]) = [a, b] := toBytes_ofBytes [a, b]
  rw [hword]
  rfl

/-- An int that was read was written by some number. -/
theorem readInt_eq_some {bs rest : Bytes} {v : ℤ} (h : readInt bs = some (v, rest)) :
    ∃ n < 4294967296, bs = writeInt n ++ rest ∧ v = Int.bmod n 4294967296 := by
  rcases bs with _ | ⟨a, _ | ⟨b, _ | ⟨c, _ | ⟨d, bs⟩⟩⟩⟩
  all_goals cases h
  refine ⟨ofBytes [a, b, c, d], (ofBytes_lt [a, b, c, d]).trans_eq (by norm_num), ?_,
    by norm_num [signed]⟩
  have hword : writeInt (ofBytes [a, b, c, d]) = [a, b, c, d] := toBytes_ofBytes [a, b, c, d]
  rw [hword]
  rfl

/-- What was read stood in front of the rest. -/
theorem readFully_eq_some {n : ℕ} {bs a rest : Bytes} (h : readFully n bs = some (a, rest)) :
    a.length = n ∧ bs = a ++ rest := by
  rw [readFully] at h
  split at h
  · cases h
  · next hle =>
    cases h
    exact ⟨List.length_take_of_le (not_lt.1 hle), (List.take_append_drop n bs).symm⟩

end Wire

end ASync
