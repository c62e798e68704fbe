import ASync.Core.Model.Beans
/-!
# Building records

What a successful call of a constructor says of the record built, and
that a record's own fields build it again.
-/

namespace ASync

namespace Core

/-! ## `FileInfo` -/

namespace FileInfo

variable [FilenameUtils] {b : Builder} {info : FileInfo}

/-- **What the constructor keeps.** Everything but the size and the hash
of a directory. -/
theorem Builder.build_eq_ok (h : b.build = .ok info) :
    info.folder = b.folder ∧ info.path = b.path ∧ info.lastModified = b.lastModified ∧
      info.type = b.type ∧ info.versionList = b.versionList ∧ info.deleted = b.deleted ∧
      (b.type = .FILE → info.size = b.size ∧ info.hash = b.hash) := by
  unfold Builder.build at h
  split at h
  · cases h
  · split at h
    · cases h
    · split at h
      · next htype =>
        cases h
        exact ⟨rfl, rfl, rfl, htype.symm, rfl, rfl, fun hf => by rw [htype] at hf; cases hf⟩
      · next htype =>
        split at h
        · next hsize hhash =>
          split at h
          · cases h
          · cases h
            exact ⟨rfl, rfl, rfl, htype.symm, rfl, rfl, fun _ => ⟨hsize.symm, hhash.symm⟩⟩
        · cases h

/-- **What the constructor accepts.** -/
theorem Builder.build_isOk_iff : b.build.isOk = true ↔ b.folder ≠ "" ∧
    (PathUtils.namesOf b.path).isOk = true ∧
    (b.type = .FILE → b.size.isSome = true ∧ ∃ hash, b.hash = some hash ∧ hash ≠ "") := by
  unfold Builder.build
  by_cases hfolder : b.folder = ""
  · simp [hfolder, Except.isOk, Except.toBool]
  · rw [dif_neg hfolder]
    split
    · next e hnames => simp [hnames, Except.isOk, Except.toBool]
    · next name parent hnames =>
      split
      · next htype => simp [hfolder, hnames, htype, Except.isOk, Except.toBool]
      · next htype =>
        split
        · next size hash hsize hhash =>
          by_cases hne : hash = ""
          · simp [htype, hhash, hne, Except.isOk, Except.toBool]
          · simp [hfolder, hnames, hsize, hhash, hne, Except.isOk, Except.toBool]
        · next hnone =>
          refine ⟨fun h => (by cases h), fun ⟨_, _, h⟩ => ?_⟩
          obtain ⟨hsize, hash, hhash, _⟩ := h htype
          obtain ⟨size, hsize⟩ := Option.isSome_iff_exists.mp hsize
          exact absurd hhash (hnone size hash hsize)

/-- **A record's own fields build it**, whatever version list goes with
them. -/
theorem build_self (info : FileInfo) (versionList : List Version) :
    ({ folder := info.folder, path := info.path, hash := info.hash, size := info.size
       lastModified := info.lastModified, type := info.type, versionList
       deleted := info.deleted } : Builder).build = .ok { info with versionList } := by
  obtain ⟨folder, fileName, path, parent, hash, size, lastModified, type, _, deleted, hfolder,
    hnames, htyped⟩ := info
  unfold Builder.build
  simp only [dif_neg hfolder]
  split
  · next e he =>
    rw [hnames] at he
    cases he
  · next name par he =>
    rw [hnames] at he
    cases he
    cases type with
    | DIRECTORY =>
      obtain ⟨rfl, rfl⟩ := htyped
      rfl
    | FILE =>
      obtain ⟨hsize, h, rfl, hne⟩ := htyped
      obtain ⟨n, rfl⟩ := Option.isSome_iff_exists.mp hsize
      simp only [dif_neg hne]

end FileInfo

/-! ## `FileBlocks` -/

/-- Blocks that were built are of what they were given. -/
theorem FileBlocks.new_eq_ok {folder path : String} {blocks : List BlockInfo} {b : FileBlocks}
    (h : FileBlocks.new folder path blocks = .ok b) :
    b.folder = folder ∧ b.path = path ∧ b.blocks = blocks := by
  unfold FileBlocks.new at h
  split at h
  · cases h
  · split at h
    · cases h
    · cases h
      exact ⟨rfl, rfl, rfl⟩

/-! ## Preconditions -/

/-- A step that returns hands its result on. -/
theorem except_ok_bind {ε α β : Type} (a : α) (f : α → Except ε β) :
    (Except.ok a : Except ε α) >>= f = f a := rfl

/-- Two steps return where both do. -/
theorem except_bind_eq_ok {ε α β : Type} {x : Except ε α} {f : α → Except ε β} {b : β}
    (h : (x >>= f) = .ok b) : ∃ a, x = .ok a ∧ f a = .ok b := by
  cases x with
  | error e => cases h
  | ok a => exact ⟨a, rfl, h⟩

/-- What follows a check is reached where the check passes. -/
theorem checkArgument_bind_eq_ok {α : Type} {c : Bool} {message : String}
    {f : Unit → Except JavaException α} {a : α} :
    (checkArgument c message >>= f) = .ok a ↔ c = true ∧ f () = .ok a := by
  cases c with
  | false => simp [checkArgument, bind, Except.bind]
  | true => simp [checkArgument, bind, Except.bind]

/-- A check passes where its condition holds. -/
theorem checkArgument_eq_ok {c : Bool} {message : String} {u : Unit} :
    checkArgument c message = .ok u ↔ c = true := by
  cases c with
  | false => simp [checkArgument]
  | true => simp [checkArgument]

/-- **`checkBlocks` passes** exactly when folder, path, size and hash of
the two agree and the record is a file. -/
theorem checkBlocks_eq_ok [Guava] [FilenameUtils] {fileInfo : FileInfo} {fileBlocks : FileBlocks}
    {u : Unit} :
    checkBlocks fileInfo fileBlocks = .ok u ↔
      fileBlocks.folder = fileInfo.folder ∧ fileBlocks.path = fileInfo.path ∧
        fileInfo.isFile = true ∧ some fileBlocks.size = fileInfo.size ∧
        some fileBlocks.hash = fileInfo.hash := by
  simp only [checkBlocks, checkArgument_bind_eq_ok, checkArgument_eq_ok, decide_eq_true_eq]

end Core

end ASync
