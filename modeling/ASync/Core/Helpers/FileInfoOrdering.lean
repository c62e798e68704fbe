import ASync.Core.Model.FileInfoOrdering
import ASync.Core.Paths
/-!
# What the orderings of a listing guarantee

`String.compareTo` ties equal strings only, since a character is read off
its units (`utf16Units_append_inj`). So both orderings are total orders on
records of distinct paths.
-/

namespace ASync

namespace Core

/-! ## Comparing strings -/

/-- A character is read off its units. -/
theorem utf16Units_append_inj {c d : Char} {x y : List ℕ}
    (h : utf16Units c ++ x = utf16Units d ++ y) : c = d ∧ x = y := by
  have hvalid : ∀ e : Char, e.toNat < 0xD800 ∨ 0xDFFF < e.toNat ∧ e.toNat < 0x110000 :=
    fun e => e.valid
  have hc := hvalid c
  have hd := hvalid d
  unfold utf16Units at h
  split at h
  · split at h
    · obtain ⟨hcd, hxy⟩ := List.cons.inj h
      exact ⟨Char.toNat_inj.1 hcd, hxy⟩
    · obtain ⟨hcd, -⟩ := List.cons.inj h
      omega
  · split at h
    · obtain ⟨hcd, -⟩ := List.cons.inj h
      omega
    · obtain ⟨hhigh, hrest⟩ := List.cons.inj h
      obtain ⟨hlow, hxy⟩ := List.cons.inj hrest
      exact ⟨Char.toNat_inj.1 (by omega), hxy⟩

/-- A character is at least one unit. -/
theorem utf16Units_ne_nil (c : Char) : utf16Units c ≠ [] := by
  unfold utf16Units
  split
  · exact List.cons_ne_nil _ _
  · exact List.cons_ne_nil _ _

/-- Texts of the same units are the same. -/
theorem flatMap_utf16Units_injective {s t : List Char}
    (h : s.flatMap utf16Units = t.flatMap utf16Units) : s = t := by
  induction s generalizing t with
  | nil =>
    rcases t with _ | ⟨d, t⟩
    · rfl
    · rw [List.flatMap_nil, List.flatMap_cons] at h
      exact absurd (List.append_eq_nil_iff.1 h.symm).1 (utf16Units_ne_nil d)
  | cons c s ih =>
    rcases t with _ | ⟨d, t⟩
    · rw [List.flatMap_nil, List.flatMap_cons] at h
      exact absurd (List.append_eq_nil_iff.1 h).1 (utf16Units_ne_nil c)
    · rw [List.flatMap_cons, List.flatMap_cons] at h
      obtain ⟨hcd, hrest⟩ := utf16Units_append_inj h
      rw [hcd, ih hrest]

/-- Texts that compare as equal are equal. -/
theorem compareTo_eq_eq {s t : String} (h : compareTo s t = .eq) : s = t :=
  String.toList_inj.1 (flatMap_utf16Units_injective (Std.LawfulEqCmp.eq_of_compare h))

instance : Std.TransCmp compareTo := inferInstanceAs (Std.TransCmp (compareOn _))

instance : Std.TransCmp compareTrueFirst := inferInstanceAs (Std.TransCmp (compareOn _))

/-! ## The shipped orderings -/

namespace FileInfoOrdering

variable [FilenameUtils] {a b : FileInfo}

instance : Std.TransCmp ALPHA_ASC_DIR_FIRST := by
  unfold ALPHA_ASC_DIR_FIRST
  infer_instance

instance : Std.TransCmp LAST_MOD_DESC := by
  unfold LAST_MOD_DESC
  infer_instance

/-- **Records of distinct paths are not tied.** -/
theorem path_eq_of_ALPHA_ASC_DIR_FIRST (h : ALPHA_ASC_DIR_FIRST a b = .eq) : a.path = b.path := by
  rw [ALPHA_ASC_DIR_FIRST, compareLex_eq_eq, compareLex_eq_eq] at h
  exact compareTo_eq_eq h.2.2

/-- Records that compare as equal have one path. -/
theorem path_eq_of_LAST_MOD_DESC (h : LAST_MOD_DESC a b = .eq) : a.path = b.path := by
  rw [LAST_MOD_DESC, compareLex_eq_eq, compareLex_eq_eq] at h
  exact compareTo_eq_eq h.2.2

/-- The entry of the parent comes before any other. -/
theorem compareTrueFirst_of_isParent (ha : isParentFunction a = true)
    (hb : isParentFunction b = false) : compareTrueFirst.on isParentFunction a b = .lt := by
  rw [Comparator.on, ha, hb]
  decide

/-- **The parent entry comes first.** -/
theorem ALPHA_ASC_DIR_FIRST_of_isParent (ha : isParentFunction a = true)
    (hb : isParentFunction b = false) : ALPHA_ASC_DIR_FIRST a b = .lt := by
  rw [ALPHA_ASC_DIR_FIRST, compareLex, compareTrueFirst_of_isParent ha hb]
  rfl

/-- The parent entry comes first, whatever its date. -/
theorem LAST_MOD_DESC_of_isParent (ha : isParentFunction a = true)
    (hb : isParentFunction b = false) : LAST_MOD_DESC a b = .lt := by
  rw [LAST_MOD_DESC, compareLex, compareTrueFirst_of_isParent ha hb]
  rfl

end FileInfoOrdering

/-! ## Sample records -/

section Sample

attribute [local instance] FilenameUtils.commonsIo

/-- The sample's folder has a name. -/
theorem sampleFolder_ne : "default" ≠ "" := by decide

/-- A directory under the root of a folder. -/
def sampleDirectory (name : String) (lastModified : ℤ)
    (h : PathUtils.namesOf name = .ok (name, "")) : FileInfo where
  folder := "default"
  fileName := name
  path := name
  parent := ""
  hash := none
  size := none
  lastModified := lastModified
  type := .DIRECTORY
  versionList := [⟨0, 0⟩]
  deleted := false
  folder_ne := sampleFolder_ne
  names_eq := h
  typed := typed_directory

def musicDirectory : FileInfo := sampleDirectory "music" 1000 (by decide +kernel)

def photosDirectory : FileInfo := sampleDirectory "photos" 2000 (by decide +kernel)

end Sample

end Core

end ASync
