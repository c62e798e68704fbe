import ASync.Core.Model.KeystoreHandler
import ASync.Core.Helpers.Sample
/-!
# Device ids are a codec

`hashDataToDeviceIdString` cuts the letters of a hash in parts of
thirteen, adds a check letter to each, and cuts the result in groups of
seven; `deviceIdStringToHashData` takes pairs of groups and drops the last
letter of each pair. The two cuts meet: a part and its check letter are
two groups, so what is decoded is what was encoded, and the valid texts
are those of the hashes, each of one.
-/

namespace ASync

namespace Core

namespace KeystoreHandler

open Base32

/-! ## Check letters -/

/-- The factor of the `k`-th letter: one and two in turn. -/
def factorAt (k : ℕ) : ℕ := if k % 2 = 0 then 1 else 2

/-- What a letter adds to the sum. -/
def weight (factor : ℕ) (c : Char) : ℕ :=
  factor * alphabet.idxOf c / 32 + factor * alphabet.idxOf c % 32

/-- The sum over some letters, of which the first is the `k`-th. -/
def luhnSum : ℕ → List Char → ℕ
  | _, [] => 0
  | k, c :: cs => weight (factorAt k) c + luhnSum (k + 1) cs

/-- The check letter of a part. -/
def checkLetter (part : List Char) : Char := letter ((32 - luhnSum 0 part % 32) % 32)

theorem checkLetter_mem (part : List Char) : checkLetter part ∈ alphabet :=
  letter_mem (Nat.mod_lt _ (by decide))

theorem factorAt_succ (k : ℕ) : (if factorAt k = 2 then 1 else 2) = factorAt (k + 1) := by
  rcases Nat.mod_two_eq_zero_or_one k with hk | hk
  · have hnext : (k + 1) % 2 = 1 := by omega
    simp [factorAt, hk, hnext]
  · have hnext : (k + 1) % 2 = 0 := by omega
    simp [factorAt, hk, hnext]

theorem loop_eq_ok {cs : List Char} (h : ∀ c ∈ cs, c ∈ alphabet) (k sum : ℕ) :
    generateLuhn32Checksum.loop alphabet alphabet.length cs (factorAt k) sum =
      .ok (sum + luhnSum k cs) := by
  induction cs generalizing k sum with
  | nil => rfl
  | cons c cs ih =>
    have hindex : alphabet.idxOf c < alphabet.length :=
      List.idxOf_lt_length_iff.2 (h c List.mem_cons_self)
    have hfactor := factorAt_succ k
    have hrest := ih (fun d hd => h d (List.mem_cons_of_mem c hd)) (k + 1)
      (sum + factorAt k * alphabet.idxOf c / alphabet.length +
        factorAt k * alphabet.idxOf c % alphabet.length)
    rw [generateLuhn32Checksum.loop, checkArgument, if_pos (decide_eq_true hindex)]
    show generateLuhn32Checksum.loop alphabet alphabet.length cs
      (if factorAt k = 2 then 1 else 2) _ = _
    rw [hfactor, hrest, luhnSum, weight]
    congr 1
    show sum + factorAt k * alphabet.idxOf c / 32 + factorAt k * alphabet.idxOf c % 32 + _ = _
    omega

/-- **A text of letters has a check letter.** -/
theorem generateLuhn32Checksum_eq_ok {string : String} (h : ∀ c ∈ string.toList, c ∈ alphabet) :
    generateLuhn32Checksum string = .ok (checkLetter string.toList) := by
  change (generateLuhn32Checksum.loop alphabet alphabet.length string.toList (factorAt 0) 0 >>=
    fun sum => pure (letter ((alphabet.length - sum % alphabet.length) % alphabet.length))) = _
  rw [loop_eq_ok h, Nat.zero_add]
  rfl

/-! ## Parts and groups -/

/-- A part with its check letter. -/
def Checked (part : List Char) (checked : String) : Prop :=
  ∃ c ∈ alphabet, checked.toList = part ++ [c]

/-- Parts of letters, each with its check letter. -/
theorem mapM_checksum_eq_ok {parts : List (List Char)}
    (h : ∀ part ∈ parts, ∀ c ∈ part, c ∈ alphabet) :
    ((parts.map String.ofList).mapM fun part => do
        return part ++ String.singleton (← generateLuhn32Checksum part)) =
      .ok (parts.map fun part => String.ofList (part ++ [checkLetter part])) := by
  induction parts with
  | nil => rfl
  | cons part parts ih =>
    have hletters : ∀ c ∈ (String.ofList part).toList, c ∈ alphabet := by
      rw [String.toList_ofList]
      exact h part List.mem_cons_self
    have hcheck := generateLuhn32Checksum_eq_ok hletters
    rw [String.toList_ofList] at hcheck
    have htext : String.ofList part ++ String.singleton (checkLetter part) =
        String.ofList (part ++ [checkLetter part]) := by
      rw [String.ofList_append]
      rfl
    rw [List.map_cons, List.mapM_cons, hcheck, ih fun p hp => h p (List.mem_cons_of_mem part hp),
      List.map_cons, ← htext]
    rfl

theorem forall₂_checked (parts : List (List Char)) :
    List.Forall₂ Checked parts (parts.map fun part =>
      String.ofList (part ++ [checkLetter part])) := by
  induction parts with
  | nil => exact List.Forall₂.nil
  | cons part parts ih =>
    exact List.Forall₂.cons ⟨_, checkLetter_mem part, String.toList_ofList⟩ ih

/-- **The groups of the checked parts** are two for each part, and give
the parts back without their check letters. -/
theorem toChunks_checked {parts : List (List Char)} {checked : List String}
    (hchecked : List.Forall₂ Checked parts checked)
    (hlen : ∀ part ∈ parts, part.length = 13) (h : ∀ part ∈ parts, ∀ c ∈ part, c ∈ alphabet) :
    let groups := (checked.flatMap String.toList).toChunks 7
    withoutChecks groups = parts.flatten ∧ groups.length = 2 * parts.length ∧
      ∀ group ∈ groups, group.length = 7 ∧ ∀ c ∈ group, c ∈ alphabet := by
  induction hchecked with
  | nil => exact ⟨rfl, rfl, fun group hgroup => (by cases hgroup)⟩
  | @cons part text parts checked hpart _ ih =>
    obtain ⟨c, hc, htext⟩ := hpart
    obtain ⟨hflat, hcount, hgroups⟩ := ih (fun p hp => hlen p (List.mem_cons_of_mem part hp))
      fun p hp => h p (List.mem_cons_of_mem part hp)
    have hpartlen := hlen part List.mem_cons_self
    have hletters := h part List.mem_cons_self
    have hfirst : (part.take 7).length = 7 := by
      rw [List.length_take]
      omega
    have hsecond : (part.drop 7 ++ [c]).length = 7 := by
      rw [List.length_append, List.length_drop, List.length_singleton]
      omega
    have hsplit : (text :: checked).flatMap String.toList =
        part.take 7 ++ ((part.drop 7 ++ [c]) ++ checked.flatMap String.toList) := by
      rw [List.flatMap_cons, htext, ← List.append_assoc, ← List.append_assoc,
        List.take_append_drop]
    have hdrop : (part.drop 7 ++ [c]).take 6 = part.drop 7 :=
      List.take_left' (by rw [List.length_drop]; omega)
    simp only [hsplit, toChunks_append (by omega : 0 < 7) hfirst,
      toChunks_append (by omega : 0 < 7) hsecond]
    refine ⟨?_, ?_, ?_⟩
    · rw [withoutChecks, hflat, hdrop, List.take_append_drop, List.flatten_cons]
    · simp only [List.length_cons, hcount]
      omega
    · intro group hgroup
      rcases List.mem_cons.1 hgroup with rfl | hgroup
      · exact ⟨hfirst, fun d hd => hletters d (List.mem_of_mem_take hd)⟩
      rcases List.mem_cons.1 hgroup with rfl | hgroup
      · refine ⟨hsecond, fun d hd => ?_⟩
        rcases List.mem_append.1 hd with hd | hd
        · exact hletters d (List.mem_of_mem_drop hd)
        · rw [List.mem_singleton.1 hd]
          exact hc
      · exact hgroups group hgroup

/-- A group of letters passes the syntax check, and has no hyphen. -/
theorem isGroup_of_letters {group : List Char} (hlen : group.length = 7)
    (h : ∀ c ∈ group, c ∈ alphabet) : isGroup group = true ∧ '-' ∉ group := by
  have hall : ∀ c ∈ alphabet, (c.isUpper || c.isDigit) = true :=
    List.all_eq_true.1 (by decide)
  refine ⟨?_, fun hmem => absurd (h '-' hmem) (by decide)⟩
  rw [isGroup, decide_eq_true hlen, Bool.true_and, List.all_eq_true]
  exact fun c hc => hall c (h c hc)

/-- **The parts of an encoded hash**: four of thirteen letters. -/
theorem parts_of_hash {h : Bytes} (hlen : h.length = 32) :
    let parts := (letters h).toChunks 13
    (∀ part ∈ parts, part.length = 13) ∧ parts.flatten = letters h ∧ parts.length = 4 ∧
      ∀ part ∈ parts, ∀ c ∈ part, c ∈ alphabet := by
  have hcount := length_letters h
  rw [hlen] at hcount
  obtain ⟨hparts, hflat, hfour⟩ := length_of_mem_toChunks (n := 13) (k := 4) (by omega) hcount
  refine ⟨hparts, hflat, hfour, fun part hpart c hc => ?_⟩
  have hmem : c ∈ letters h := by
    rw [← hflat]
    exact List.mem_flatten.2 ⟨part, hpart, hc⟩
  exact mem_alphabet_of_mem_lettersOf hmem

variable [Guava]

/-- **The text of a hash**: its letters in checked parts, in groups of
seven. -/
theorem hashDataToDeviceIdString_eq [LawfulBase32] {h : Bytes} (hlen : h.length = 32) :
    hashDataToDeviceIdString h = .ok ("-".intercalate
      (((((letters h).toChunks 13).flatMap fun part => part ++ [checkLetter part]).toChunks 7).map
        String.ofList)) := by
  obtain ⟨hparts, hflat, hfour, hletters⟩ := parts_of_hash hlen
  have hcount := (toChunks_checked (forall₂_checked ((letters h).toChunks 13)) hparts hletters).2.1
  have hstripped : (base32Encode h).toList.rdropWhile (· = '=') = letters h := by
    rw [LawfulBase32.base32Encode_eq, encode, String.toList_ofList, rdropWhile_letters]
  have hne : letters h ≠ [] := by
    intro hnil
    have hcount := length_letters h
    rw [hnil, hlen] at hcount
    cases hcount
  have hsplit : splitFixed 13 (String.ofList (letters h)) =
      ((letters h).toChunks 13).map String.ofList := by
    rw [splitFixed, if_neg (by simpa using hne), String.toList_ofList]
  have hflatMap : (((letters h).toChunks 13).map fun part =>
        String.ofList (part ++ [checkLetter part])).flatMap String.toList =
      ((letters h).toChunks 13).flatMap fun part => part ++ [checkLetter part] := by
    rw [List.flatMap_map]
    simp only [String.toList_ofList]
  have hjoin : splitFixed 7 (String.join (((letters h).toChunks 13).map fun part =>
        String.ofList (part ++ [checkLetter part]))) =
      ((((letters h).toChunks 13).flatMap fun part => part ++ [checkLetter part]).toChunks 7).map
        String.ofList := by
    have hjoined := String.toList_join (l := ((letters h).toChunks 13).map fun part =>
      String.ofList (part ++ [checkLetter part]))
    have hnonempty : String.join (((letters h).toChunks 13).map fun part =>
        String.ofList (part ++ [checkLetter part])) ≠ "" := by
      intro hempty
      rw [hempty] at hjoined
      rw [← hjoined, hfour] at hcount
      cases hcount
    rw [splitFixed, if_neg hnonempty, hjoined, hflatMap]
  rw [hashDataToDeviceIdString, hstripped]
  simp only [hlen, decide_true, checkArgument, if_true, hsplit, mapM_checksum_eq_ok hletters,
    ← hjoin]
  rfl

/-- The text of a hash, by its groups. -/
theorem hashDataToDeviceIdString_eq_ok [LawfulBase32] {h : Bytes} (hlen : h.length = 32) :
    ∃ groups : List (List Char),
      hashDataToDeviceIdString h = .ok ("-".intercalate (groups.map String.ofList)) ∧
        withoutChecks groups = letters h ∧ groups.length = 8 ∧
        ∀ group ∈ groups, group.length = 7 ∧ ∀ c ∈ group, c ∈ alphabet := by
  obtain ⟨hparts, hflat, hfour, hletters⟩ := parts_of_hash hlen
  obtain ⟨hback, hcount, hgroups⟩ :=
    toChunks_checked (forall₂_checked ((letters h).toChunks 13)) hparts hletters
  rw [List.flatMap_map] at hback hcount hgroups
  simp only [String.toList_ofList] at hback hcount hgroups
  exact ⟨_, hashDataToDeviceIdString_eq hlen, hback.trans hflat, by omega, hgroups⟩

/-- **What a valid text is decoded from.** -/
theorem deviceIdStringToHashData_eq_ok [LawfulBase32] {h : Bytes} {groups : List (List Char)}
    (hlen : h.length = 32) (hback : withoutChecks groups = letters h) (hcount : groups.length = 8)
    (hgroups : ∀ group ∈ groups, group.length = 7 ∧ ∀ c ∈ group, c ∈ alphabet) :
    deviceIdStringToHashData ("-".intercalate (groups.map String.ofList)) = .ok h := by
  have hsplit : ("-".intercalate (groups.map String.ofList)).toList.splitOn '-' = groups := by
    have hlist : (groups.map String.ofList).map String.toList = groups := by
      simp
    rw [String.toList_intercalate, hlist]
    refine List.splitOn_intercalate '-' (fun group hgroup => ?_) fun hnil => ?_
    · exact (isGroup_of_letters (hgroups group hgroup).1 (hgroups group hgroup).2).2
    · rw [hnil] at hcount
      cases hcount
  have hgroups' : (groups.length = 8 && groups.all isGroup) = true := by
    rw [decide_eq_true hcount, Bool.true_and, List.all_eq_true]
    exact fun group hgroup =>
      (isGroup_of_letters (hgroups group hgroup).1 (hgroups group hgroup).2).1
  have hdata : String.ofList (letters h) ++ "===" =
      String.ofList (letters h ++ List.replicate 3 '=') := by
    rw [String.ofList_append]
    rfl
  rw [deviceIdStringToHashData, hsplit]
  simp only [hgroups', checkArgument, if_true, hback, hdata, LawfulBase32.base32Decode_eq,
    decode_letters, hlen, decide_true]
  rfl

/-! ## The codec -/

/-- A hash is decoded from its text, which is valid. -/
theorem exists_deviceId [LawfulBase32] {h : Bytes} (hlen : h.length = 32) :
    ∃ s, hashDataToDeviceIdString h = .ok s ∧ deviceIdStringToHashData s = .ok h ∧
      validateDeviceId s = .ok () := by
  obtain ⟨groups, hencode, hback, hcount, hgroups⟩ := hashDataToDeviceIdString_eq_ok hlen
  have hdecode := deviceIdStringToHashData_eq_ok hlen hback hcount hgroups
  refine ⟨_, hencode, hdecode, ?_⟩
  simp only [validateDeviceId, hdecode]
  change (hashDataToDeviceIdString h >>= _) = _
  rw [hencode]
  simp only [checkArgument]
  exact if_pos (decide_eq_true rfl)

/-- A valid text is that of the hash it decodes to. -/
theorem eq_of_validateDeviceId {s : String} (hvalid : validateDeviceId s = .ok ()) :
    ∃ h : Bytes, h.length = 32 ∧ hashDataToDeviceIdString h = .ok s ∧
      deviceIdStringToHashData s = .ok h := by
  rw [validateDeviceId] at hvalid
  cases hdecode : deviceIdStringToHashData s with
  | error e =>
    rw [hdecode] at hvalid
    cases hvalid
  | ok h =>
    rw [hdecode] at hvalid
    change (hashDataToDeviceIdString h >>= _) = _ at hvalid
    cases hencode : hashDataToDeviceIdString h with
    | error e =>
      rw [hencode] at hvalid
      cases hvalid
    | ok s' =>
      rw [hencode] at hvalid
      change checkArgument (decide (s' = s)) "" = _ at hvalid
      by_cases heq : s' = s
      · subst heq
        refine ⟨h, ?_, hencode, rfl⟩
        -- the encoder refuses every other length
        by_contra hlen
        rw [hashDataToDeviceIdString, checkArgument, if_neg (by simpa using hlen)] at hencode
        cases hencode
      · rw [checkArgument, if_neg (by simpa using heq)] at hvalid
        cases hvalid

/-- **Device ids are a bijection.** Every hash of thirty-two bytes has a
text, which is valid and is decoded to it; every valid text is that of
exactly one hash; and every text that is of no hash is refused. -/
theorem deviceId_bijective [LawfulBase32] :
    (∀ h : Bytes, h.length = 32 → ∃ s, hashDataToDeviceIdString h = .ok s ∧
        validateDeviceId s = .ok () ∧ deviceIdStringToHashData s = .ok h) ∧
      (∀ s, validateDeviceId s = .ok () →
        ∃! h : Bytes, h.length = 32 ∧ hashDataToDeviceIdString h = .ok s) ∧
      ∀ s, (∀ h : Bytes, h.length = 32 → hashDataToDeviceIdString h ≠ .ok s) →
        ∃ e, validateDeviceId s = .error e := by
  refine ⟨fun h hlen => ?_, fun s hvalid => ?_, fun s hnone => ?_⟩
  · obtain ⟨s, hencode, hdecode, hvalid⟩ := exists_deviceId hlen
    exact ⟨s, hencode, hvalid, hdecode⟩
  · obtain ⟨h, hlen, hencode, hdecode⟩ := eq_of_validateDeviceId hvalid
    refine ⟨h, ⟨hlen, hencode⟩, ?_⟩
    rintro h' ⟨hlen', hencode'⟩
    obtain ⟨s', hs', hdecode', _⟩ := exists_deviceId hlen'
    obtain rfl : s' = s := Except.ok.inj (hs'.symm.trans hencode')
    exact Except.ok.inj (hdecode'.symm.trans hdecode)
  · cases hvalid : validateDeviceId s with
    | error e => exact ⟨e, rfl⟩
    | ok u =>
      obtain ⟨h, hlen, hencode, _⟩ := eq_of_validateDeviceId hvalid
      exact absurd hencode (hnone h hlen)

end KeystoreHandler

section Sample

attribute [local instance] Sample.guavaOfBase32 Sample.lawfulBase32

/-- The bytes from one to thirty-two. -/
def sampleHash : Bytes := (List.range 32).map fun i => UInt8.ofNat (i + 1)

/-- A hash has a text, and no other hash has it. -/
theorem deviceId_bijective_sample :
    ∃ s, KeystoreHandler.hashDataToDeviceIdString sampleHash = .ok s ∧
      KeystoreHandler.deviceIdStringToHashData s = .ok sampleHash ∧
      ∀ h : Bytes, h.length = 32 → KeystoreHandler.hashDataToDeviceIdString h = .ok s →
        h = sampleHash := by
  obtain ⟨hencode, hdecode, -⟩ := KeystoreHandler.deviceId_bijective
  obtain ⟨s, htext, hvalid, hback⟩ := hencode sampleHash rfl
  exact ⟨s, htext, hback, fun h hlen heq => (hdecode s hvalid).unique ⟨hlen, heq⟩ ⟨rfl, htext⟩⟩

end Sample

end Core

end ASync
