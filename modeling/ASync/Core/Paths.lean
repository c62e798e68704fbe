import ASync.Core.Helpers.Beans
import ASync.Core.Helpers.FilenameUtils
/-!
# Parent and name of a path

A record keeps its path, its file name and its parent, and is listed
under the parent. The name is cut off at the last separator; the parent
is computed by the path normaliser, which takes `~` and drives for
prefixes and a backslash for a separator. `decomposes_iff` says for which
paths the two fit together.
-/

namespace ASync

namespace Core

open CommonsIo

/-! ## Paths of names -/

section Paths

variable {names init : List String} {s last path : String}

/-- The path of some names. -/
def pathOf (names : List String) : String := "/".intercalate names

/-- A file name as a folder of a peer may have it. -/
structure IsFileName (s : String) : Prop where
  ne_empty : s ≠ ""
  notMem : '/' ∉ s.toList
  ne_dot : s ≠ "."
  ne_parent : s ≠ PathUtils.PARENT_PATH

/-- The paths that parent and name decompose: no name has a backslash,
and the first does not make a prefix of them. -/
def Decomposable (names : List String) : Prop :=
  (∀ s ∈ names, '\\' ∉ s.toList) ∧ ∀ s ∈ names.head?, Rooted s.toList names.length

instance : Decidable (IsFileName s) :=
  decidable_of_iff (s ≠ "" ∧ '/' ∉ s.toList ∧ s ≠ "." ∧ s ≠ PathUtils.PARENT_PATH)
    ⟨fun h => ⟨h.1, h.2.1, h.2.2.1, h.2.2.2⟩, fun h => ⟨h.1, h.2, h.3, h.4⟩⟩

theorem toList_pathOf (names : List String) :
    (pathOf names).toList = join (names.map String.toList) := String.toList_intercalate

theorem pathOf_eq_iff {y : List Char} : String.ofList y = pathOf names ↔
    y = join (names.map String.toList) := by
  rw [← toList_pathOf, ← String.toList_inj, String.toList_ofList]

theorem IsFileName.isName (h : IsFileName s) : IsName s.toList := by
  refine ⟨fun heq => h.ne_empty ?_, fun heq => h.ne_dot ?_, fun heq => h.ne_parent ?_⟩
  · exact String.toList_inj.1 heq
  · exact String.toList_inj.1 heq
  · exact String.toList_inj.1 heq

/-- The names of a path, the first and the others, as characters. -/
theorem exists_chars (hnames : ∀ s ∈ init ++ [last], IsFileName s) :
    ∃ s tail, (init ++ [last]).map String.toList = s :: tail ∧ (∀ x ∈ s :: tail, IsName x) ∧
      (s :: tail).dropLast = init.map String.toList ∧ (tail ≠ [] ↔ init ≠ []) := by
  have hne : (init ++ [last]).map String.toList ≠ [] := by simp
  obtain ⟨s, tail, hchars⟩ := List.exists_cons_of_ne_nil hne
  have hlength : tail.length = init.length := by
    have hcons := congrArg List.length hchars
    simp only [List.length_map, List.length_append, List.length_cons, List.length_nil] at hcons
    omega
  refine ⟨s, tail, hchars, ?_, ?_, ?_⟩
  · rw [← hchars]
    intro x hx
    obtain ⟨name, hname, rfl⟩ := List.mem_map.1 hx
    exact (hnames name hname).isName
  · rw [← hchars, List.map_append, List.map_singleton, List.dropLast_concat]
  · rw [← List.length_pos_iff, ← List.length_pos_iff, hlength]

/-- Names without a backslash, as characters. -/
theorem isName_unseparated (hnames : ∀ s ∈ names, IsFileName s)
    (hback : ∀ s ∈ names, '\\' ∉ s.toList) :
    ∀ x ∈ names.map String.toList, IsName x ∧ Unseparated x := by
  intro x hx
  obtain ⟨name, hname, rfl⟩ := List.mem_map.1 hx
  exact ⟨(hnames name hname).isName, (hnames name hname).notMem, hback name hname⟩

/-- The first of them makes a prefix of the path or not. -/
theorem rooted_iff {chars : List Char} {tail : List (List Char)}
    (hchars : names.map String.toList = chars :: tail) :
    (∀ name ∈ names.head?, Rooted name.toList names.length) ↔ Rooted chars (tail.length + 1) := by
  obtain ⟨name, rest, rfl, rfl, rfl⟩ := List.map_eq_cons_iff.1 hchars
  rw [List.length_cons, List.length_map]
  constructor
  · intro h
    exact h name rfl
  · intro h name' hname'
    rw [← Option.some.inj hname']
    exact h

/-- What a path starts with is the first of its names. -/
theorem head?_join {s : List Char} (hs : IsName s ∧ Unseparated s) (xs : List (List Char)) :
    (join (s :: xs)).head? ≠ some '/' := by
  obtain ⟨c, t, rfl⟩ := List.exists_cons_of_ne_nil hs.1.1
  have hhead : (join ((c :: t) :: xs)).head? = some c := by
    by_cases hxs : xs = []
    · rw [hxs, join_singleton, List.head?_cons]
    · rw [join_cons hxs, List.cons_append, List.head?_cons]
  rw [hhead]
  intro hslash
  obtain rfl := Option.some.inj hslash
  exact hs.2.1 List.mem_cons_self

/-- The path that is normalised for the parent. -/
theorem toList_up {s : List Char} {tail : List (List Char)}
    (hchars : (init ++ [last]).map String.toList = s :: tail) :
    (pathOf (init ++ [last]) ++ "/" ++ PathUtils.PARENT_PATH).toList =
      join (s :: tail ++ [up]) := by
  rw [join_concat (List.cons_ne_nil _ _), ← hchars, ← toList_pathOf, String.toList_append,
    String.toList_append, List.append_assoc]
  rfl

variable [FilenameUtils] [LawfulFilenameUtils]

theorem normalizePath_of_some {y : List Char}
    (h : normalizeNoEndSeparator path.toList = some y) (hy : y.head? ≠ some '/') :
    PathUtils.normalizePath path = .ok (String.ofList y) := by
  rw [PathUtils.normalizePath, LawfulFilenameUtils.normalizeNoEndSeparator_eq, h, Option.map_some]
  simp only [String.toList_ofList]
  split
  · exact absurd rfl hy
  · rfl

/-- The leading separator goes. -/
theorem normalizePath_of_slash {y : List Char}
    (h : normalizeNoEndSeparator path.toList = some ('/' :: y)) :
    PathUtils.normalizePath path = .ok (String.ofList y) := by
  rw [PathUtils.normalizePath, LawfulFilenameUtils.normalizeNoEndSeparator_eq, h, Option.map_some]
  simp only [String.toList_ofList]

theorem normalizePath_eq_ok {p : String} (h : PathUtils.normalizePath path = .ok p) :
    ∃ y, normalizeNoEndSeparator path.toList = some y ∧
      (y = p.toList ∨ y = '/' :: p.toList) := by
  rw [PathUtils.normalizePath, LawfulFilenameUtils.normalizeNoEndSeparator_eq] at h
  cases hy : normalizeNoEndSeparator path.toList with
  | none =>
    rw [hy] at h
    cases h
  | some y =>
    rw [hy, Option.map_some] at h
    simp only [String.toList_ofList] at h
    refine ⟨y, rfl, ?_⟩
    split at h
    · next rest =>
      cases h
      exact Or.inr (by rw [String.toList_ofList])
    · cases h
      exact Or.inl (by rw [String.toList_ofList])

omit [FilenameUtils] [LawfulFilenameUtils] in
/-- A path of names is not the one that stands for the parent. -/
theorem isParent_pathOf (hnames : ∀ s ∈ init ++ [last], IsFileName s) :
    PathUtils.isParent (pathOf (init ++ [last])) = false := by
  have hlast := hnames last (List.mem_append_right _ List.mem_cons_self)
  refine decide_eq_false fun heq => ?_
  by_cases hinit : init = []
  · rw [hinit, List.nil_append, pathOf, String.intercalate_singleton] at heq
    exact hlast.ne_parent heq
  · have hslash : '/' ∈ (pathOf (init ++ [last])).toList := by
      rw [toList_pathOf, List.map_append, List.map_singleton, join_concat (by simpa using hinit)]
      exact List.mem_append_right _ List.mem_cons_self
    rw [heq] at hslash
    exact absurd hslash (by decide)

omit [FilenameUtils] [LawfulFilenameUtils] in
/-- Nor is it the root's. -/
theorem isRoot_pathOf (hnames : ∀ s ∈ init ++ [last], IsFileName s) :
    PathUtils.isRoot (pathOf (init ++ [last])) = false := by
  refine decide_eq_false fun heq => ?_
  obtain ⟨s, tail, hchars, hall, _⟩ := exists_chars hnames
  have hlist := congrArg String.toList heq
  rw [toList_pathOf, hchars] at hlist
  obtain ⟨c, hc⟩ := List.exists_mem_of_ne_nil _ (hall s List.mem_cons_self).1
  have hmem : c ∈ join (s :: tail) := mem_join_of_mem List.mem_cons_self hc
  rw [hlist] at hmem
  cases hmem

omit [LawfulFilenameUtils] in
/-- What the constructor takes for the names of such a path. -/
theorem namesOf_eq_ok_iff (hnames : ∀ s ∈ init ++ [last], IsFileName s) {fileName parent : String} :
    PathUtils.namesOf (pathOf (init ++ [last])) = .ok (fileName, parent) ↔
      fileName = PathUtils.getFileName (pathOf (init ++ [last])) ∧
      PathUtils.normalizePath (pathOf (init ++ [last]) ++ "/" ++ PathUtils.PARENT_PATH) =
        .ok parent := by
  have hroot := isRoot_pathOf hnames
  rw [PathUtils.namesOf, isParent_pathOf hnames, hroot]
  simp only [Bool.false_eq_true, if_false, PathUtils.getParentPath, hroot, checkArgument]
  cases PathUtils.normalizePath (pathOf (init ++ [last]) ++ "/" ++ PathUtils.PARENT_PATH) with
  | error e =>
    show Except.error e = Except.ok (fileName, parent) ↔ _
    simp
  | ok p =>
    show Except.ok (PathUtils.getFileName (pathOf (init ++ [last])), p) =
      Except.ok (fileName, parent) ↔ _
    rw [Except.ok.injEq, Prod.mk.injEq, Except.ok.injEq]
    exact and_congr_left fun _ => eq_comm

/-- **Parent and name of a path that decomposes.** -/
theorem namesOf_of_decomposable (hnames : ∀ s ∈ init ++ [last], IsFileName s)
    (hdec : Decomposable (init ++ [last])) :
    PathUtils.namesOf (pathOf (init ++ [last])) = .ok (last, pathOf init) := by
  obtain ⟨hback, hroot⟩ := hdec
  obtain ⟨s, tail, hchars, -, hinit, -⟩ := exists_chars hnames
  have hboth := isName_unseparated hnames hback
  have hlast : Unseparated last.toList :=
    (hboth _ (List.mem_map_of_mem (List.mem_append_right _ List.mem_cons_self))).2
  rw [hchars] at hboth
  rw [namesOf_eq_ok_iff hnames]
  constructor
  · rw [PathUtils.getFileName, LawfulFilenameUtils.getName_eq, toList_pathOf, List.map_append,
      List.map_singleton, getName_join hlast, String.ofList_toList]
  · have hparent := normalize_parent hboth ((rooted_iff hchars).1 hroot)
    rw [← toList_up hchars] at hparent
    have hnoslash : (join (s :: tail).dropLast).head? ≠ some '/' := by
      by_cases hempty : tail = []
      · rw [hempty]
        exact nofun
      · rw [List.dropLast_cons_of_ne_nil hempty]
        exact head?_join (hboth s List.mem_cons_self) _
    rw [normalizePath_of_some hparent hnoslash, pathOf_eq_iff.2 (congrArg join hinit)]

/-- A name under the root. -/
theorem buildPath_root (hname : IsFileName last) (hdec : Decomposable [last]) :
    PathUtils.buildPath (pathOf []) last = .ok last := by
  have hrooted : Rooted last.toList 1 := hdec.2 last rfl
  have hone : ∀ x ∈ [last].map String.toList, IsName x ∧ Unseparated x := by
    refine isName_unseparated (fun s hs => ?_) hdec.1
    rw [List.mem_singleton.1 hs]
    exact hname
  have hcolon : last.toList.head? ≠ some ':' := by
    intro heq
    obtain ⟨c, t, hs⟩ := List.exists_cons_of_ne_nil hname.isName.1
    rw [hs, List.head?_cons] at heq
    obtain rfl := Option.some.inj heq
    rw [hs] at hrooted
    exact hrooted
  have hnormal := normalize_rooted hone hcolon
  rw [List.map_nil, join_singleton] at hnormal
  have hpath : (pathOf [] ++ "/" ++ last).toList = '/' :: last.toList := by
    rw [String.toList_append, String.toList_append]
    rfl
  rw [← hpath] at hnormal
  rw [PathUtils.buildPath, normalizePath_of_slash (hnormal.trans (congrArg some hpath)),
    String.ofList_toList]

/-- **The path built of parent and name.** -/
theorem buildPath_of_decomposable (hnames : ∀ s ∈ init ++ [last], IsFileName s)
    (hdec : Decomposable (init ++ [last])) :
    PathUtils.buildPath (pathOf init) last = .ok (pathOf (init ++ [last])) := by
  by_cases hempty : init = []
  · subst hempty
    rw [List.nil_append, buildPath_root (hnames last List.mem_cons_self) hdec, pathOf,
      String.intercalate_singleton]
  · obtain ⟨s, tail, hchars, -, -, htail⟩ := exists_chars hnames
    have hboth := isName_unseparated hnames hdec.1
    rw [hchars] at hboth
    have hpath : (pathOf init ++ "/" ++ last).toList = join (s :: tail) := by
      rw [String.toList_append, String.toList_append, toList_pathOf, ← hchars, List.map_append,
        List.map_singleton, join_concat (by simpa using hempty), List.append_assoc]
      rfl
    have hnormal := normalize_self hboth (htail.2 hempty) ((rooted_iff hchars).1 hdec.2)
    rw [← hpath] at hnormal
    have hnoslash : (pathOf init ++ "/" ++ last).toList.head? ≠ some '/' := by
      rw [hpath]
      exact head?_join (hboth s List.mem_cons_self) tail
    rw [PathUtils.buildPath, normalizePath_of_some hnormal hnoslash, hpath,
      pathOf_eq_iff.2 (congrArg join hchars.symm)]

/-- The parent of a path that decomposes. -/
theorem getParentPath_pathOf (hnames : ∀ s ∈ init ++ [last], IsFileName s)
    (hdec : Decomposable (init ++ [last])) :
    PathUtils.getParentPath (pathOf (init ++ [last])) = .ok (pathOf init) := by
  have hparent := (namesOf_eq_ok_iff hnames).1 (namesOf_of_decomposable hnames hdec)
  unfold PathUtils.getParentPath
  rw [isRoot_pathOf hnames]
  exact hparent.2

/-- Such a path under the root. -/
theorem normalizePath_rooted (hnames : ∀ s ∈ init ++ [last], IsFileName s)
    (hback : ∀ s ∈ init ++ [last], '\\' ∉ s.toList ∧ ':' ∉ s.toList) :
    PathUtils.normalizePath ("/" ++ pathOf (init ++ [last])) = .ok (pathOf (init ++ [last])) := by
  obtain ⟨s, tail, hchars, hall, -⟩ := exists_chars hnames
  have hchar : ∀ x ∈ s :: tail, Unseparated x ∧ ':' ∉ x := by
    rw [← hchars]
    intro x hx
    obtain ⟨name, hname, rfl⟩ := List.mem_map.1 hx
    exact ⟨⟨(hnames name hname).notMem, (hback name hname).1⟩, (hback name hname).2⟩
  have hcolon : s.head? ≠ some ':' := fun heq =>
    (hchar s List.mem_cons_self).2 (List.mem_of_head? heq)
  have hpath : ("/" ++ pathOf (init ++ [last])).toList = '/' :: join (s :: tail) := by
    rw [String.toList_append, toList_pathOf, hchars]
    rfl
  have hnormal := normalize_rooted (fun x hx => ⟨hall x hx, (hchar x hx).1⟩) hcolon
  rw [← hpath] at hnormal
  rw [normalizePath_of_slash (hnormal.trans (by rw [hpath])), pathOf_eq_iff.2 (by rw [hchars])]

/-- **A path whose parent and name are as they should decomposes.** -/
theorem decomposable_of_names (hnames : ∀ s ∈ init ++ [last], IsFileName s)
    (h : PathUtils.namesOf (pathOf (init ++ [last])) = .ok (last, pathOf init)) :
    Decomposable (init ++ [last]) := by
  obtain ⟨hname, hparent⟩ := (namesOf_eq_ok_iff hnames).1 h
  obtain ⟨y, hy, hy'⟩ := normalizePath_eq_ok hparent
  obtain ⟨s, tail, hchars, -, hinit, -⟩ := exists_chars hnames
  -- a backslash would have been cut off the name, or made a separator in the parent
  have hback : ∀ name ∈ init ++ [last], '\\' ∉ name.toList := by
    intro name hmem hback
    rcases List.mem_append.1 hmem with hmem | hmem
    · have hparent : '\\' ∈ (pathOf init).toList := by
        rw [toList_pathOf]
        exact mem_join_of_mem (List.mem_map_of_mem hmem) hback
      refine backslash_notMem_normalize hy ?_
      rcases hy' with rfl | rfl
      · exact hparent
      · exact List.mem_cons_of_mem _ hparent
    · rw [List.mem_singleton.1 hmem, hname, PathUtils.getFileName, LawfulFilenameUtils.getName_eq,
        String.toList_ofList] at hback
      exact (unseparated_getName _).2 hback
  have hboth := isName_unseparated hnames hback
  rw [hchars] at hboth
  refine ⟨hback, (rooted_iff hchars).2 ?_⟩
  by_contra hrooted
  rw [toList_up hchars] at hy
  obtain ⟨hslash, hne⟩ := normalize_parent_of_not hboth hrooted hy
  rcases hy' with rfl | rfl
  · refine hne ?_
    rw [hinit, toList_pathOf]
  · exact hslash rfl

/-- **Parent and name decompose a path** exactly when no name has a
backslash and the first makes no prefix of it: then the record built for
the path has the last name, the path of the others as its parent, and the
two build the path. -/
theorem decomposes_iff {b : FileInfo.Builder} (hnames : ∀ s ∈ init ++ [last], IsFileName s)
    (hpath : b.path = pathOf (init ++ [last])) (hfolder : b.folder ≠ "")
    (htyped : b.type = .FILE → b.size.isSome = true ∧ ∃ hash, b.hash = some hash ∧ hash ≠ "") :
    (∃ info, b.build = .ok info ∧ info.fileName = last ∧ info.parent = pathOf init ∧
      PathUtils.buildPath info.parent info.fileName = .ok b.path) ↔
    Decomposable (init ++ [last]) := by
  constructor
  · rintro ⟨info, hbuild, rfl, hparent, -⟩
    obtain ⟨-, hinfo, -⟩ := FileInfo.Builder.build_eq_ok hbuild
    refine decomposable_of_names hnames ?_
    rw [← hpath, ← hinfo, info.names_eq, hparent]
  · intro hdec
    have hok := namesOf_of_decomposable hnames hdec
    have hbuilt := buildPath_of_decomposable hnames hdec
    have hbuild : b.build.isOk = true := by
      rw [FileInfo.Builder.build_isOk_iff, hpath, hok]
      exact ⟨hfolder, rfl, htyped⟩
    cases hinfo : b.build with
    | error e =>
      rw [hinfo] at hbuild
      cases hbuild
    | ok info =>
      have hkept := (FileInfo.Builder.build_eq_ok hinfo).2.1
      have hsame := info.names_eq
      rw [hkept, hpath, hok] at hsame
      obtain ⟨hname, hparent⟩ := Prod.mk.inj (Except.ok.inj hsame)
      exact ⟨info, rfl, hname.symm, hparent.symm, by rw [← hname, ← hparent, hbuilt, hpath]⟩

end Paths

/-! ## Sample paths -/

section Sample

attribute [local instance] FilenameUtils.commonsIo

theorem lawfulFilenameUtils : LawfulFilenameUtils := ⟨fun _ => rfl, fun _ => rfl⟩

attribute [local instance] lawfulFilenameUtils

/-- A directory record of a path. -/
def directoryAt (path : String) : FileInfo.Builder :=
  { folder := "default", path, type := .DIRECTORY }

theorem decomposes_iff_sample :
    ∃ info, (directoryAt "photos/~2016/a:b").build = .ok info ∧ info.fileName = "a:b" ∧
      info.parent = pathOf ["photos", "~2016"] ∧
      PathUtils.buildPath info.parent info.fileName = .ok "photos/~2016/a:b" := by
  have hrooted : Rooted "photos".toList 3 :=
    rooted_of_cons (c := 'p') (t := "hotos".toList) (by decide) (by decide) (by simp)
  have hdec : Decomposable (["photos", "~2016"] ++ ["a:b"]) :=
    ⟨by decide, fun s hs => by cases hs; exact hrooted⟩
  exact (decomposes_iff (b := directoryAt "photos/~2016/a:b") (by decide) (by decide) (by decide)
    nofun).2 hdec

/-- **Three names that decompose no path.** A record of the lock file is
refused, one of a name with a colon gets the colon's drive for its parent,
and one of a name with a backslash is split at it. -/
theorem names_are_misread :
    IsFileName "~lock" ∧ IsFileName "a:b" ∧ IsFileName "x\\y" ∧
    (directoryAt "~lock").build = .error (.nullPointer "") ∧
    (∃ info, (directoryAt "a:b").build = .ok info ∧ info.fileName = "a:b" ∧ info.parent = "a:") ∧
    ∃ info, (directoryAt "x\\y").build = .ok info ∧ info.fileName = "y" ∧ info.parent = "x" := by
  have hbuilt : ∀ (b : FileInfo.Builder) (p : FileInfo → Bool), b.build.toOption.any p = true →
      ∃ info, b.build = .ok info ∧ p info = true := by
    intro b p h
    cases hinfo : b.build with
    | error e =>
      rw [hinfo] at h
      cases h
    | ok info =>
      rw [hinfo] at h
      exact ⟨info, rfl, h⟩
  obtain ⟨colon, hcolon, hnames⟩ := hbuilt (directoryAt "a:b")
    (fun info => info.fileName = "a:b" ∧ info.parent = "a:") (by decide +kernel)
  obtain ⟨back, hback, hnames'⟩ := hbuilt (directoryAt "x\\y")
    (fun info => info.fileName = "y" ∧ info.parent = "x") (by decide +kernel)
  rw [decide_eq_true_eq] at hnames hnames'
  exact ⟨by decide, by decide, by decide, by decide +kernel, ⟨colon, hcolon, hnames⟩, back, hback,
    hnames'⟩

end Sample

end Core

end ASync
