import ASync.Core.Model.FilenameUtils
/-!
# The normal form of a path of names

A path of names is normalised by its prefix and its segments
(`normalize_eq`), and its prefix is decided by its first name
(`prefixed`). From the two follow the normal form of such a path, and of
the path with a step to the parent at its end.
-/

namespace ASync

namespace CommonsIo

/-! ## Joined segments -/

section Joined

variable {xs ys : List (List Char)} {x y : List Char} {c : Char}

/-- Segments with a separator between any two. -/
def join (segments : List (List Char)) : List Char := ['/'].intercalate segments

@[simp] theorem join_nil : join [] = [] := rfl

@[simp] theorem join_singleton : join [x] = x := List.intercalate_singleton

theorem join_cons (h : xs ≠ []) : join (x :: xs) = x ++ '/' :: join xs := by
  rw [join, List.intercalate_cons_of_ne_nil h, List.append_assoc]
  rfl

/-- One more segment at the end. -/
theorem join_concat (h : xs ≠ []) : join (xs ++ [y]) = join xs ++ '/' :: y := by
  induction xs with
  | nil => exact absurd rfl h
  | cons x xs ih =>
    by_cases hxs : xs = []
    · subst hxs
      rw [List.cons_append, List.nil_append, join_cons (List.cons_ne_nil _ _), join_singleton,
        join_singleton]
    · rw [List.cons_append, join_cons (List.append_ne_nil_of_left_ne_nil hxs _), ih hxs,
        join_cons hxs, List.append_assoc, List.cons_append]

/-- What the first segment begins with, split off. -/
theorem join_append_cons (xs : List (List Char)) : join ((x ++ y) :: xs) = x ++ join (y :: xs) := by
  by_cases hxs : xs = []
  · rw [hxs, join_singleton, join_singleton]
  · rw [join_cons hxs, join_cons hxs, List.append_assoc]

theorem mem_join (h : c ∈ join xs) : c = '/' ∨ ∃ x ∈ xs, c ∈ x := by
  induction xs with
  | nil => cases h
  | cons x xs ih =>
    by_cases hxs : xs = []
    · rw [hxs, join_singleton] at h
      exact Or.inr ⟨x, List.mem_cons_self, h⟩
    · rw [join_cons hxs, List.mem_append, List.mem_cons] at h
      rcases h with hx | hc | hrest
      · exact Or.inr ⟨x, List.mem_cons_self, hx⟩
      · exact Or.inl hc
      · rcases ih hrest with hc | ⟨y, hy, hcy⟩
        · exact Or.inl hc
        · exact Or.inr ⟨y, List.mem_cons_of_mem x hy, hcy⟩

theorem mem_join_of_mem (hx : x ∈ xs) (hc : c ∈ x) : c ∈ join xs := by
  induction xs with
  | nil => cases hx
  | cons y xs ih =>
    by_cases hxs : xs = []
    · subst hxs
      rw [join_singleton]
      rwa [List.mem_singleton.1 hx] at hc
    · rw [join_cons hxs, List.mem_append, List.mem_cons]
      rcases List.mem_cons.1 hx with rfl | hrest
      · exact Or.inl hc
      · exact Or.inr (Or.inr (ih hrest))

/-- The segments of joined segments that end with a separator. -/
theorem segments_join (h : ∀ x ∈ xs, '/' ∉ x) : segments (join (xs ++ [[]])) = xs := by
  have hall : ∀ x ∈ xs ++ [[]], '/' ∉ x := by
    intro x hx
    rcases List.mem_append.1 hx with hx | hx
    · exact h x hx
    · rw [List.mem_singleton.1 hx]
      exact List.not_mem_nil
  rw [segments, join, List.splitOn_intercalate _ hall
    (List.append_ne_nil_of_right_ne_nil _ (by simp)),
    List.dropLast_concat]

end Joined

/-! ## Normalising joined segments -/

section Normalize

variable {names segs done rest : List (List Char)} {filename pre : List Char} {k : ℕ}

/-- Both kinds of separator are absent. -/
def Unseparated (s : List Char) : Prop := '/' ∉ s ∧ '\\' ∉ s

/-- A path of segments gets its separator at the end. -/
theorem withEndSeparator_join {last : List Char} (h : ∀ s ∈ names ++ [last], Unseparated s)
    (hlast : last ≠ []) :
    withEndSeparator (join (names ++ [last])) = join (names ++ [last] ++ [[]]) := by
  have hkeep : (join (names ++ [last])).map (fun c => if c = '\\' then '/' else c) =
      join (names ++ [last]) := by
    refine (List.map_congr_left fun c hc => ?_).trans (List.map_id _)
    refine if_neg fun heq => ?_
    rcases mem_join hc with hc | ⟨s, hs, hcs⟩
    · rw [heq] at hc
      cases hc
    · exact (h s hs).2 (heq ▸ hcs)
  have hend : (join (names ++ [last])).getLast? ≠ some '/' := by
    intro hslash
    have hsuffix : ∃ pre, join (names ++ [last]) = pre ++ last := by
      by_cases hnames : names = []
      · exact ⟨[], by rw [hnames]; exact join_singleton⟩
      · exact ⟨join names ++ ['/'], by rw [join_concat hnames, List.append_assoc]; rfl⟩
    obtain ⟨pre, hpre⟩ := hsuffix
    rw [hpre, List.getLast?_append_of_ne_nil _ hlast] at hslash
    exact (h last (List.mem_append_right _ List.mem_cons_self)).1 (List.mem_of_getLast? hslash)
  rw [withEndSeparator, hkeep, if_neg hend,
    join_concat (List.append_ne_nil_of_right_ne_nil names (List.cons_ne_nil last []))]

/-- **The normal form of a path**, by its prefix and its segments. -/
theorem normalize_eq (hne : filename ≠ []) (hstart : getPrefixLength filename = some k)
    (harray : withEndSeparator filename = pre ++ join (segs ++ [[]])) (hk : pre.length = k)
    (hslash : ∀ s ∈ segs, '/' ∉ s) : normalizeNoEndSeparator filename =
      (resolve [] (dropDots (dropEmpty segs))).map fun segs => pre ++ join segs := by
  rw [normalizeNoEndSeparator, if_neg hne, hstart, harray, ← hk]
  simp only [List.drop_left, List.take_left, segments_join hslash]
  rfl

theorem resolve_append (h : ∀ s ∈ names, s ≠ ['.', '.']) :
    resolve done (names ++ rest) = resolve (done ++ names) rest := by
  induction names generalizing done with
  | nil => rw [List.nil_append, List.append_nil]
  | cons s names ih =>
    rw [List.cons_append, resolve, if_neg (h s List.mem_cons_self),
      ih fun s hs => h s (List.mem_cons_of_mem _ hs), List.append_assoc, List.singleton_append]

/-- A name that is no step within the tree. -/
def IsName (s : List Char) : Prop := s ≠ [] ∧ s ≠ ['.'] ∧ s ≠ ['.', '.']

theorem clean_eq (h : ∀ s ∈ segs, s ≠ [] ∧ s ≠ ['.']) : dropDots (dropEmpty segs) = segs := by
  have hempty : dropEmpty segs = segs := by
    cases segs with
    | nil => rfl
    | cons s segs =>
      rw [dropEmpty, List.filter_eq_self.2]
      intro s hs
      exact decide_eq_true (h s (List.mem_cons_of_mem _ hs)).1
  rw [hempty, dropDots, List.filter_eq_self.2]
  intro s hs
  exact decide_eq_true (h s hs).2

/-- A first `.` is dropped alone. -/
theorem clean_dot (h : ∀ s ∈ segs, s ≠ [] ∧ s ≠ ['.']) :
    dropDots (dropEmpty (['.'] :: segs)) = segs := by
  have hempty : segs.filter (fun s => decide (s ≠ [])) = segs :=
    List.filter_eq_self.2 fun s hs => decide_eq_true (h s hs).1
  have hdots : segs.filter (fun s => decide (s ≠ ['.'])) = segs :=
    List.filter_eq_self.2 fun s hs => decide_eq_true (h s hs).2
  rw [dropEmpty, hempty, dropDots, List.filter_cons_of_neg (by decide), hdots]

/-- Names stay, and `..` at their end takes the last along. -/
theorem resolve_names (h : ∀ s ∈ names, IsName s) :
    resolve [] (dropDots (dropEmpty names)) = some names ∧
      resolve [] (dropDots (dropEmpty (names ++ [['.', '.']]))) =
        if names = [] then none else some names.dropLast := by
  have hsteps : ∀ s ∈ names, s ≠ ['.', '.'] := fun s hs => (h s hs).2.2
  constructor
  · rw [clean_eq fun s hs => ⟨(h s hs).1, (h s hs).2.1⟩]
    have hall : resolve [] (names ++ []) = resolve ([] ++ names) [] := resolve_append hsteps
    rw [List.append_nil, List.nil_append] at hall
    rw [hall, resolve]
  · have hclean : ∀ s ∈ names ++ [['.', '.']], s ≠ [] ∧ s ≠ ['.'] := by
      intro s hs
      rcases List.mem_append.1 hs with hs | hs
      · exact ⟨(h s hs).1, (h s hs).2.1⟩
      · rw [List.mem_singleton.1 hs]
        decide
    rw [clean_eq hclean, resolve_append hsteps, List.nil_append, resolve, if_pos rfl]
    rfl

end Normalize

/-! ## The prefix -/

section Prefix

variable {s t : List Char} {n : ℕ} {names tail : List (List Char)}

/-- A first segment under which a path of `n` segments decomposes: it
does not begin with a colon; where it begins with `~`, the path has three
segments; and where it is a drive, followed by something or by nothing,
the path has two or three, and what follows is no step. -/
def Rooted (s : List Char) (n : ℕ) : Prop :=
  match s with
  | ':' :: _ => False
  | '~' :: _ => 3 ≤ n
  | c :: ':' :: rest =>
    c.toNat < 0x10000 → isDriveLetter c = true ∧
      (rest = [] → 3 ≤ n) ∧ (rest ≠ [] → 2 ≤ n ∧ rest ≠ ['.'] ∧ rest ≠ ['.', '.'])
  | _ => True

/-- How a first segment of a longer path acts on its prefix. -/
inductive Prefixed (s : List Char) (n : ℕ) : Option ℕ → Prop
  | illegal (h : ¬ Rooted s n) : Prefixed s n none
  | relative (h : Rooted s n) : Prefixed s n (some 0)
  | whole (h : Rooted s n ↔ 3 ≤ n) : Prefixed s n (some (s.length + 1))
  | drive (c : Char) (rest : List Char) (hs : s = c :: ':' :: rest) (hrest : rest ≠ [])
      (h : Rooted s n ↔ 2 ≤ n ∧ rest ≠ ['.'] ∧ rest ≠ ['.', '.']) : Prefixed s n (some 2)

theorem isSeparator_eq_false (hs : Unseparated s) {c : Char} (hc : c ∈ s) :
    isSeparator c = false := by
  have hslash : c ≠ '/' := fun heq => hs.1 (heq ▸ hc)
  have hback : c ≠ '\\' := fun heq => hs.2 (heq ▸ hc)
  simp [isSeparator, hslash, hback]

theorem findIdx?_isSeparator (hs : Unseparated s) (more : List Char) :
    (s ++ '/' :: more).findIdx? isSeparator = some s.length := by
  have hslash : ('/' :: more).findIdx? isSeparator = some 0 := by
    rw [List.findIdx?_cons, if_pos (by decide)]
  rw [List.findIdx?_append, List.findIdx?_eq_none_iff.2 fun c hc =>
    isSeparator_eq_false hs hc, hslash,
    Option.none_or, Option.map_some, Nat.zero_add]

/-- A path that begins with neither mark. -/
theorem getPrefixLength_cons_cons {c d : Char} (hcolon : c ≠ ':') (htilde : c ≠ '~')
    (hc : isSeparator c = false) (rest : List Char) : getPrefixLength (c :: d :: rest) =
      if d = ':' ∧ c.toNat < 0x10000 then
        if isDriveLetter c then
          some (if (rest.head?.map isSeparator) = some true then 3 else 2)
        else none
      else some 0 := by
  unfold getPrefixLength
  split
  · next h => cases h
  · next h => exact absurd (List.cons.inj h).1 hcolon
  · next h => exact absurd (List.cons.inj h).1 htilde
  · next h => cases h
  · next h =>
    cases h
    rw [hc]
    cases rest with
    | nil => simp
    | cons e rest =>
      cases isSeparator e <;> simp

theorem rooted_of_cons {c : Char} (hcolon : c ≠ ':') (htilde : c ≠ '~')
    (hdrive : ∀ rest, t = ':' :: rest → ¬ c.toNat < 0x10000) : Rooted (c :: t) n := by
  unfold Rooted
  split
  · next h => exact absurd (List.cons.inj h).1 hcolon
  · next h => exact absurd (List.cons.inj h).1 htilde
  · next h =>
    obtain ⟨rfl, hrest⟩ := List.cons.inj h
    exact fun hlt => absurd hlt (hdrive _ hrest)
  · trivial

/-- A drive's letter and colon. -/
theorem rooted_drive {c : Char} (hcolon : c ≠ ':') (htilde : c ≠ '~') (hlt : c.toNat < 0x10000)
    (rest : List Char) : Rooted (c :: ':' :: rest) n ↔ isDriveLetter c = true ∧
      (rest = [] → 3 ≤ n) ∧ (rest ≠ [] → 2 ≤ n ∧ rest ≠ ['.'] ∧ rest ≠ ['.', '.']) := by
  unfold Rooted
  split
  · next h => exact absurd (List.cons.inj h).1 hcolon
  · next h => exact absurd (List.cons.inj h).1 htilde
  · next h =>
    cases h
    exact ⟨fun h => h hlt, fun h _ => h⟩
  · next h => exact absurd rfl (h c rest)

/-- **The prefix of a path is decided by its first segment.** -/
theorem prefixed (hs : Unseparated s) (hne : s ≠ []) (n : ℕ) (more : List Char) :
    Prefixed s n (getPrefixLength (s ++ '/' :: more)) := by
  obtain ⟨c, t, rfl⟩ := List.exists_cons_of_ne_nil hne
  have hrest : Unseparated t :=
    ⟨fun h => hs.1 (List.mem_cons_of_mem _ h), fun h => hs.2 (List.mem_cons_of_mem _ h)⟩
  have hc : isSeparator c = false := isSeparator_eq_false hs List.mem_cons_self
  by_cases hcolon : c = ':'
  · subst hcolon
    exact Prefixed.illegal fun h => h
  by_cases htilde : c = '~'
  · subst htilde
    rw [List.cons_append, getPrefixLength, findIdx?_isSeparator hrest more]
    exact Prefixed.whole Iff.rfl
  -- what is left is a drive or a relative path
  cases t with
  | nil =>
    rw [List.singleton_append, getPrefixLength_cons_cons hcolon htilde hc, if_neg (by simp)]
    exact Prefixed.relative (rooted_of_cons hcolon htilde (by simp))
  | cons d t =>
    rw [List.cons_append, List.cons_append, getPrefixLength_cons_cons hcolon htilde hc]
    by_cases hdrive : d = ':' ∧ c.toNat < 0x10000
    · obtain ⟨rfl, hlt⟩ := hdrive
      have hrooted := rooted_drive (n := n) hcolon htilde hlt t
      rw [if_pos ⟨rfl, hlt⟩]
      by_cases hletter : isDriveLetter c = true
      · rw [if_pos hletter]
        cases t with
        | nil => exact Prefixed.whole (by rw [hrooted]; simp [hletter])
        | cons e t =>
          have he : isSeparator e = false := by
            refine isSeparator_eq_false hrest (List.mem_cons_of_mem _ List.mem_cons_self)
          rw [List.cons_append, List.head?_cons, Option.map_some, he, if_neg (by simp)]
          exact Prefixed.drive c (e :: t) rfl (List.cons_ne_nil _ _)
            (by rw [hrooted]; simp [hletter])
      · rw [if_neg hletter]
        exact Prefixed.illegal fun h => hletter (hrooted.1 h).1
    · rw [if_neg hdrive]
      refine Prefixed.relative (rooted_of_cons hcolon htilde fun rest hrest hlt => hdrive ⟨?_, hlt⟩)
      exact (List.cons.inj hrest).1

/-! ## The parent -/

/-- The step to the parent directory. -/
abbrev up : List Char := ['.', '.']

theorem unseparated_up : Unseparated up := ⟨by decide, by decide⟩

/-- The path of the parent, before it is normalised. -/
theorem join_up : join (s :: tail ++ [up]) = s ++ '/' :: join (tail ++ [up]) := by
  rw [List.cons_append, join_cons (List.append_ne_nil_of_right_ne_nil _ (List.cons_ne_nil _ _))]

theorem withEnd_up (hall : ∀ x ∈ s :: tail, IsName x ∧ Unseparated x) :
    withEndSeparator (join (s :: tail ++ [up])) = join (s :: (tail ++ [up] ++ [[]])) := by
  have hsep : ∀ x ∈ s :: tail ++ [up], Unseparated x := by
    intro x hx
    rcases List.mem_append.1 hx with hx | hx
    · exact (hall x hx).2
    · rw [List.mem_singleton.1 hx]
      exact unseparated_up
  exact withEndSeparator_join hsep (List.cons_ne_nil _ _)

theorem slash_notMem_up (hall : ∀ x ∈ tail, IsName x ∧ Unseparated x) :
    ∀ x ∈ tail ++ [up], '/' ∉ x := by
  intro x hx
  rcases List.mem_append.1 hx with hx | hx
  · exact (hall x hx).2.1
  · rw [List.mem_singleton.1 hx]
    exact unseparated_up.1

theorem parent_of_relative (hall : ∀ x ∈ s :: tail, IsName x ∧ Unseparated x)
    (hstart : getPrefixLength (join (s :: tail ++ [up])) = some 0) :
    normalizeNoEndSeparator (join (s :: tail ++ [up])) = some (join (s :: tail).dropLast) := by
  have hne : join (s :: tail ++ [up]) ≠ [] := by
    rw [join_up]
    exact List.append_ne_nil_of_right_ne_nil _ (List.cons_ne_nil _ _)
  have harray : withEndSeparator (join (s :: tail ++ [up])) =
      [] ++ join (s :: tail ++ [up] ++ [[]]) := withEnd_up hall
  rw [normalize_eq hne hstart harray rfl (slash_notMem_up hall),
    (resolve_names fun x hx => (hall x hx).1).2, if_neg (List.cons_ne_nil _ _)]
  rfl

theorem parent_of_whole (hall : ∀ x ∈ s :: tail, IsName x ∧ Unseparated x)
    (hstart : getPrefixLength (join (s :: tail ++ [up])) = some (s.length + 1)) :
    normalizeNoEndSeparator (join (s :: tail ++ [up])) =
      if tail = [] then none else some (s ++ '/' :: join tail.dropLast) := by
  have hne : join (s :: tail ++ [up]) ≠ [] := by
    rw [join_up]
    exact List.append_ne_nil_of_right_ne_nil _ (List.cons_ne_nil _ _)
  have hrest : ∀ x ∈ tail, IsName x ∧ Unseparated x := fun x hx =>
    hall x (List.mem_cons_of_mem s hx)
  have harray : withEndSeparator (join (s :: tail ++ [up])) =
      (s ++ ['/']) ++ join (tail ++ [up] ++ [[]]) := by
    rw [withEnd_up hall, join_cons (by simp)]
    exact List.append_cons _ _ _
  rw [normalize_eq hne hstart harray (by simp) (slash_notMem_up hrest),
    (resolve_names fun x hx => (hrest x hx).1).2]
  split
  · rfl
  · rw [Option.map_some, List.append_assoc, List.singleton_append]

/-- What follows a drive decides. -/
theorem parent_of_drive {c : Char} {rest : List Char} (hs : s = c :: ':' :: rest)
    (hall : ∀ x ∈ s :: tail, IsName x ∧ Unseparated x)
    (hstart : getPrefixLength (join (s :: tail ++ [up])) = some 2) :
    normalizeNoEndSeparator (join (s :: tail ++ [up])) =
      (resolve [] (dropDots (dropEmpty (rest :: tail ++ [up])))).map fun segs =>
        [c, ':'] ++ join segs := by
  have hne : join (s :: tail ++ [up]) ≠ [] := by
    rw [join_up]
    exact List.append_ne_nil_of_right_ne_nil _ (List.cons_ne_nil _ _)
  have harray : withEndSeparator (join (s :: tail ++ [up])) =
      [c, ':'] ++ join (rest :: tail ++ [up] ++ [[]]) := by
    rw [withEnd_up hall, hs]
    exact join_append_cons (x := [c, ':']) (y := rest) _
  refine normalize_eq hne hstart harray rfl fun x hx => ?_
  rcases List.mem_cons.1 (List.cons_append ▸ hx) with rfl | hx
  · intro hslash
    refine (hall s List.mem_cons_self).2.1 ?_
    rw [hs]
    exact List.mem_cons_of_mem _ (List.mem_cons_of_mem _ hslash)
  · exact slash_notMem_up (fun x hx => hall x (List.mem_cons_of_mem s hx)) x hx

/-- The segment after a drive's colon, if it is no step. -/
theorem isName_rest {c : Char} {rest : List Char} (hrest : rest ≠ [])
    (hdot : rest ≠ ['.']) (hup : rest ≠ up) (hall : ∀ x ∈ (c :: ':' :: rest) :: tail,
      IsName x ∧ Unseparated x) : ∀ x ∈ rest :: tail, IsName x := by
  intro x hx
  rcases List.mem_cons.1 hx with rfl | hx
  · exact ⟨hrest, hdot, hup⟩
  · exact (hall x (List.mem_cons_of_mem _ hx)).1

/-- **The parent of a path that decomposes.** -/
theorem normalize_parent (hall : ∀ x ∈ s :: tail, IsName x ∧ Unseparated x)
    (hrooted : Rooted s (tail.length + 1)) :
    normalizeNoEndSeparator (join (s :: tail ++ [up])) = some (join (s :: tail).dropLast) := by
  obtain ⟨hname, hsep⟩ := hall s List.mem_cons_self
  have hcases := prefixed hsep hname.1 (tail.length + 1) (join (tail ++ [up]))
  rw [← join_up] at hcases
  generalize hk : getPrefixLength (join (s :: tail ++ [up])) = k at hcases
  cases hcases with
  | illegal h => exact absurd hrooted h
  | relative _ => exact parent_of_relative hall hk
  | whole h =>
    have hlength : 3 ≤ tail.length + 1 := h.1 hrooted
    have htail : tail ≠ [] := fun heq => by rw [heq] at hlength; simp at hlength
    have hinit : tail.dropLast ≠ [] := by
      intro heq
      have hlast := congrArg List.length heq
      rw [List.length_dropLast, List.length_nil] at hlast
      omega
    rw [parent_of_whole hall hk, if_neg htail, List.dropLast_cons_of_ne_nil htail, join_cons hinit]
  | drive c rest hs hrest h =>
    obtain ⟨hlength, hdot, hup⟩ := h.1 hrooted
    have htail : tail ≠ [] := fun heq => by rw [heq] at hlength; simp at hlength
    have hnames := isName_rest hrest hdot hup (hs ▸ hall)
    rw [parent_of_drive hs hall hk, (resolve_names hnames).2, if_neg (List.cons_ne_nil _ _), hs,
      Option.map_some, List.dropLast_cons_of_ne_nil htail, List.dropLast_cons_of_ne_nil htail]
    exact congrArg some (join_append_cons (x := [c, ':']) (y := rest) _).symm

/-- **Where it does not decompose, the parent is another path or none.** -/
theorem normalize_parent_of_not (hall : ∀ x ∈ s :: tail, IsName x ∧ Unseparated x)
    (hrooted : ¬ Rooted s (tail.length + 1)) {y : List Char}
    (hy : normalizeNoEndSeparator (join (s :: tail ++ [up])) = some y) :
    y.head? ≠ some '/' ∧ y ≠ join (s :: tail).dropLast := by
  obtain ⟨hname, hsep⟩ := hall s List.mem_cons_self
  have hhead : ∀ c t, s = c :: t → c ≠ '/' := fun c t hs heq =>
    hsep.1 (by rw [hs, heq]; exact List.mem_cons_self)
  have hcases := prefixed hsep hname.1 (tail.length + 1) (join (tail ++ [up]))
  rw [← join_up] at hcases
  generalize hk : getPrefixLength (join (s :: tail ++ [up])) = k at hcases
  cases hcases with
  | illegal h =>
    rw [normalizeNoEndSeparator, if_neg, hk] at hy
    · cases hy
    · rw [join_up]
      exact List.append_ne_nil_of_right_ne_nil _ (List.cons_ne_nil _ _)
  | relative h => exact absurd h hrooted
  | whole h =>
    rw [parent_of_whole hall hk] at hy
    split at hy
    · cases hy
    · next htail =>
      -- two segments are left: the prefix comes out with its separator
      have hlength : ¬ 3 ≤ tail.length + 1 := fun hle => hrooted (h.2 hle)
      have hone : tail.dropLast = [] := by
        rw [← List.length_eq_zero_iff, List.length_dropLast]
        omega
      cases hy
      obtain ⟨c, t, hs⟩ := List.exists_cons_of_ne_nil hname.1
      refine ⟨?_, fun heq => ?_⟩
      · rw [hs, List.cons_append, List.head?_cons]
        exact fun hc => hhead c t hs (Option.some.inj hc)
      · rw [List.dropLast_cons_of_ne_nil htail, hone, join_singleton, join_nil] at heq
        have hlen := congrArg List.length heq
        rw [List.length_append, List.length_singleton] at hlen
        omega
  | drive c rest hs hrest h =>
    have hc : c ≠ '/' := hhead c _ hs
    rw [parent_of_drive hs hall hk, Option.map_eq_some_iff] at hy
    obtain ⟨segs, hsegs, rfl⟩ := hy
    refine ⟨fun hslash => hc (Option.some.inj hslash), fun heq => ?_⟩
    have hrest' : ∀ x ∈ tail, IsName x := fun x hx => (hall x (List.mem_cons_of_mem s hx)).1
    have hkept : ∀ x ∈ tail ++ [up], x ≠ [] ∧ x ≠ ['.'] := by
      intro x hx
      rcases List.mem_append.1 hx with hx | hx
      · exact ⟨(hrest' x hx).1, (hrest' x hx).2.1⟩
      · rw [List.mem_singleton.1 hx]
        decide
    by_cases hdot : rest = ['.']
    · -- the step is dropped, and its name is missing from the parent
      have hup := (resolve_names hrest').2
      rw [hdot, List.cons_append, clean_dot hkept] at hsegs
      rw [clean_eq hkept, hsegs] at hup
      by_cases htail : tail = []
      · rw [if_pos htail] at hup
        cases hup
      · rw [if_neg htail] at hup
        obtain rfl := Option.some.inj hup
        have hlength := congrArg List.length heq
        rw [List.dropLast_cons_of_ne_nil htail, hs, hdot] at hlength
        by_cases hinit : tail.dropLast = []
        · rw [hinit, join_singleton] at hlength
          simp at hlength
        · rw [join_cons hinit] at hlength
          simp at hlength
    · by_cases hup : rest = up
      · -- the step would leave the drive
        have hclean : ∀ x ∈ rest :: tail ++ [up], x ≠ [] ∧ x ≠ ['.'] := by
          intro x hx
          rcases List.mem_cons.1 (List.cons_append ▸ hx) with rfl | hx
          · exact ⟨hrest, hdot⟩
          · exact hkept x hx
        rw [clean_eq hclean, hup, List.cons_append, resolve, if_pos rfl, if_pos rfl] at hsegs
        cases hsegs
      · -- a drive alone: its name is missing too
        have htail : tail = [] := by
          by_contra hne
          have hlength := List.length_pos_iff.2 hne
          exact hrooted (h.2 ⟨by omega, hdot, hup⟩)
        rw [(resolve_names (isName_rest hrest hdot hup (hs ▸ hall))).2,
          if_neg (List.cons_ne_nil _ _), htail] at hsegs
        cases hsegs
        rw [htail] at heq
        cases heq

/-- **A path that decomposes is in normal form.** -/
theorem normalize_self (hall : ∀ x ∈ s :: tail, IsName x ∧ Unseparated x) (htail : tail ≠ [])
    (hrooted : Rooted s (tail.length + 1)) :
    normalizeNoEndSeparator (join (s :: tail)) = some (join (s :: tail)) := by
  obtain ⟨hname, hsep⟩ := hall s List.mem_cons_self
  have hrest : ∀ x ∈ tail, IsName x ∧ Unseparated x := fun x hx =>
    hall x (List.mem_cons_of_mem s hx)
  have hslash : ∀ x ∈ tail, '/' ∉ x := fun x hx => (hrest x hx).2.1
  have hne : join (s :: tail) ≠ [] := by
    rw [join_cons htail]
    exact List.append_ne_nil_of_right_ne_nil _ (List.cons_ne_nil _ _)
  -- the separator added at the end makes one more, empty, part
  have hend : withEndSeparator (join (s :: tail)) = join (s :: (tail ++ [[]])) := by
    obtain ⟨init, last, hinit⟩ : ∃ init last, tail = init ++ [last] :=
      ⟨tail.dropLast, tail.getLast htail, (List.dropLast_append_getLast htail).symm⟩
    have hlast : last ∈ s :: tail := by
      rw [hinit]
      exact List.mem_cons_of_mem _ (List.mem_append_right _ List.mem_cons_self)
    have hjoined : withEndSeparator (join (s :: init ++ [last])) = _ :=
      withEndSeparator_join (fun x hx => (hall x (by rw [hinit]; exact hx)).2) (hall last hlast).1.1
    rw [hinit]
    exact hjoined
  -- what commons-io takes for the prefix decides what is resolved
  have hcases := prefixed hsep hname.1 (tail.length + 1) (join tail)
  rw [← join_cons htail] at hcases
  generalize hk : getPrefixLength (join (s :: tail)) = k at hcases
  cases hcases with
  | illegal h => exact absurd hrooted h
  | relative _ =>
    have harray : withEndSeparator (join (s :: tail)) = [] ++ join (s :: tail ++ [[]]) := hend
    rw [normalize_eq hne hk harray rfl fun x hx => (hall x hx).2.1,
      (resolve_names fun x hx => (hall x hx).1).1]
    rfl
  | whole _ =>
    have harray : withEndSeparator (join (s :: tail)) = (s ++ ['/']) ++ join (tail ++ [[]]) := by
      rw [hend, join_cons (List.append_ne_nil_of_right_ne_nil _ (List.cons_ne_nil _ _))]
      exact List.append_cons _ _ _
    rw [normalize_eq hne hk harray (by simp) hslash, (resolve_names fun x hx => (hrest x hx).1).1,
      Option.map_some, join_cons htail, List.append_assoc, List.singleton_append]
  | drive c rest hs hne' h =>
    obtain ⟨_, hdot, hup⟩ := h.1 hrooted
    have harray : withEndSeparator (join (s :: tail)) = [c, ':'] ++
        join (rest :: tail ++ [[]]) := by
      rw [hend, hs]
      exact join_append_cons (x := [c, ':']) (y := rest) _
    have hslash' : ∀ x ∈ rest :: tail, '/' ∉ x := by
      intro x hx
      rcases List.mem_cons.1 hx with rfl | hx
      · intro hmem
        refine hsep.1 ?_
        rw [hs]
        exact List.mem_cons_of_mem _ (List.mem_cons_of_mem _ hmem)
      · exact hslash x hx
    rw [normalize_eq hne hk harray rfl hslash',
      (resolve_names (isName_rest hne' hdot hup (hs ▸ hall))).1, hs, Option.map_some]
    exact congrArg some (join_append_cons (x := [c, ':']) (y := rest) _).symm

/-- Names under the root. -/
theorem normalize_rooted (hall : ∀ x ∈ s :: tail, IsName x ∧ Unseparated x)
    (hcolon : s.head? ≠ some ':') :
    normalizeNoEndSeparator ('/' :: join (s :: tail)) = some ('/' :: join (s :: tail)) := by
  obtain ⟨hname, hsep⟩ := hall s List.mem_cons_self
  obtain ⟨c, t, rfl⟩ := List.exists_cons_of_ne_nil hname.1
  have hc : c ≠ ':' := fun heq => hcolon (by rw [heq]; rfl)
  obtain ⟨more, hmore⟩ : ∃ more, join ((c :: t) :: tail) = c :: more := by
    by_cases htail : tail = []
    · exact ⟨t, by rw [htail, join_singleton]⟩
    · exact ⟨t ++ '/' :: join tail, by rw [join_cons htail, List.cons_append]⟩
  have hstart : getPrefixLength ('/' :: join ((c :: t) :: tail)) = some 1 := by
    rw [hmore]
    simp [getPrefixLength, hc, isSeparator_eq_false hsep (c := c) List.mem_cons_self]
    decide
  have hjoin : ∀ xs : List (List Char), xs ≠ [] → join ([] :: xs) = '/' :: join xs := by
    intro xs hxs
    rw [join_cons hxs, List.nil_append]
  have hend : withEndSeparator ('/' :: join ((c :: t) :: tail)) =
      ['/'] ++ join ((c :: t) :: tail ++ [[]]) := by
    obtain ⟨init, last, hinit⟩ : ∃ init last, (c :: t) :: tail = init ++ [last] :=
      ⟨_, _, (List.dropLast_append_getLast (List.cons_ne_nil (c :: t) tail)).symm⟩
    have hboth : ∀ x ∈ ([] :: init) ++ [last], Unseparated x := by
      intro x hx
      rw [List.cons_append, ← hinit] at hx
      rcases List.mem_cons.1 hx with rfl | hx
      · exact ⟨List.not_mem_nil, List.not_mem_nil⟩
      · exact (hall x hx).2
    have hlast : last ≠ [] := by
      refine (hall last ?_).1.1
      rw [hinit]
      exact List.mem_append_right _ List.mem_cons_self
    have hclosed := withEndSeparator_join hboth hlast
    rw [List.cons_append, List.cons_append, ← hinit, hjoin _ (List.cons_ne_nil _ _),
      hjoin _ (List.append_ne_nil_of_left_ne_nil (List.cons_ne_nil _ _) _)] at hclosed
    exact hclosed
  rw [normalize_eq (List.cons_ne_nil _ _) hstart hend rfl fun x hx => (hall x hx).2.1,
    (resolve_names fun x hx => (hall x hx).1).1, Option.map_some, List.singleton_append]

end Prefix

/-! ## What the functions return -/

section Returned

variable {done segs out : List (List Char)} {filename y : List Char}

theorem resolve_subset (h : resolve done segs = some out) : ∀ x ∈ out, x ∈ done ∨ x ∈ segs := by
  induction segs generalizing done with
  | nil =>
    cases h
    exact fun x hx => Or.inl hx
  | cons s segs ih =>
    intro x hx
    rw [resolve] at h
    split at h
    · split at h
      · cases h
      · rcases ih h x hx with hdone | hsegs
        · exact Or.inl (List.dropLast_subset _ hdone)
        · exact Or.inr (List.mem_cons_of_mem _ hsegs)
    · rcases ih h x hx with hdone | hsegs
      · rcases List.mem_append.1 hdone with hdone | hs
        · exact Or.inl hdone
        · exact Or.inr (List.mem_cons.2 (Or.inl (List.mem_singleton.1 hs)))
      · exact Or.inr (List.mem_cons_of_mem _ hsegs)

theorem clean_subset : ∀ x ∈ dropDots (dropEmpty segs), x ∈ segs := by
  intro x hx
  have hkept := List.mem_of_mem_filter hx
  cases segs with
  | nil => exact hkept
  | cons s segs =>
    rcases List.mem_cons.1 hkept with rfl | hrest
    · exact List.mem_cons_self
    · exact List.mem_cons_of_mem _ (List.mem_of_mem_filter hrest)

/-- **No backslash comes out of the normaliser.** -/
theorem backslash_notMem_normalize (h : normalizeNoEndSeparator filename = some y) :
    '\\' ∉ y := by
  have harray : ∀ c ∈ withEndSeparator filename, c ≠ '\\' := by
    intro c hc
    have hmap : ∀ c ∈ filename.map (fun c => if c = '\\' then '/' else c), c ≠ '\\' := by
      intro c hc
      obtain ⟨d, _, rfl⟩ := List.mem_map.1 hc
      split
      · decide
      · assumption
    rw [withEndSeparator] at hc
    split at hc
    · exact hmap c hc
    · rcases List.mem_append.1 hc with hc | hc
      · exact hmap c hc
      · rw [List.mem_singleton.1 hc]
        decide
  rw [normalizeNoEndSeparator] at h
  split at h
  · cases h
    exact List.not_mem_nil
  · split at h
    · cases h
    · next k _ =>
      obtain ⟨out, hout, rfl⟩ := Option.map_eq_some_iff.1 h
      intro hmem
      rcases List.mem_append.1 hmem with hpre | hsegs
      · exact harray _ (List.mem_of_mem_take hpre) rfl
      · rcases mem_join hsegs with heq | ⟨x, hx, hc⟩
        · exact absurd heq (by decide)
        · rcases resolve_subset hout x hx with hnil | hx
          · cases hnil
          · have hsplit := List.dropLast_subset _ (clean_subset x hx)
            have hin : '\\' ∈ join ((List.drop k (withEndSeparator filename)).splitOn '/') :=
              mem_join_of_mem hsplit hc
            rw [join, List.intercalate_splitOn] at hin
            exact harray _ (List.mem_of_mem_drop hin) rfl

/-- The name is what follows the last separator. -/
theorem getName_join {init : List (List Char)} {last : List Char} (hlast : Unseparated last) :
    getName (join (init ++ [last])) = last := by
  have hall : ∀ c ∈ last, (!isSeparator c) = true := fun c hc => by
    rw [isSeparator_eq_false hlast hc]
    rfl
  by_cases hinit : init = []
  · rw [hinit, List.nil_append, join_singleton, getName, List.rtakeWhile_eq_self_iff.2 hall]
  · rw [join_concat hinit, getName, List.rtakeWhile, List.reverse_append, List.reverse_cons,
      List.append_assoc, List.takeWhile_append_of_pos fun c hc => hall c (List.mem_reverse.1 hc),
      List.singleton_append, List.takeWhile_cons_of_neg (by decide), List.append_nil,
      List.reverse_reverse]

theorem unseparated_getName (filename : List Char) : Unseparated (getName filename) := by
  have hnone : ∀ c, isSeparator c = true → c ∉ getName filename := by
    intro c hc hmem
    have hkept := List.mem_rtakeWhile_imp hmem
    rw [hc] at hkept
    cases hkept
  exact ⟨hnone '/' rfl, hnone '\\' rfl⟩

end Returned

end CommonsIo

end ASync
