import Mathlib
/-!
# Regular expressions with backtracking

The expressions of `java.util.regex` with character classes, repetition
of a class, options and one group, and their matcher. `run` lists the
places an expression may end at, the preferred one first: a repetition
takes as much as it can and gives back one character at a time. `find`
tries the places of a text from left to right, and `replaceFirst` puts a
text in the place of what is found.

What follows a repetition most often cannot begin with a character of its
class; then nothing is ever given back (`run_many_seq`).
-/

namespace ASync

/-- What `.` does not match. -/
def isLineTerminator (c : Char) : Bool :=
  c = '\n' || c = '\r' || c = '\u0085' || c = '\u2028' || c = '\u2029'

/-- A place in a text, with what lies before it, the last character
first, what lies after it, and what the group has taken. -/
structure Place where
  before : List Char
  after : List Char
  group : Option (List Char) := none
  deriving DecidableEq

namespace Place

/-- The end of the text, or its last line terminator. -/
def atEnd (x : Place) : Bool :=
  match x.after with
  | [] => true
  | [c] => isLineTerminator c && !(decide (c = '\n') && decide (x.before.head? = some '\r'))
  | [c, d] => decide (c = '\r' ∧ d = '\n')
  | _ => false

/-- The place some characters on. -/
def skip (x : Place) (taken after : List Char) : Place :=
  { x with before := taken.reverse ++ x.before, after }

end Place

inductive Regex
  /-- `^` -/
  | start
  /-- `$` -/
  | ending
  /-- A character of a class. -/
  | char (p : Char → Bool)
  /-- `*` on a class, as much as possible. -/
  | many (p : Char → Bool)
  /-- `?` on an expression, rather with it. -/
  | opt (r : Regex)
  | seq (r s : Regex)
  /-- `( )` -/
  | group (r : Regex)

namespace Regex

/-- `+` on a class. -/
def many1 (p : Char → Bool) : Regex := .seq (.char p) (.many p)

/-- The characters of a text one after the other, then an expression. -/
def lit (s : List Char) (r : Regex) : Regex := s.foldr (fun c r => .seq (.char (· = c)) r) r

/-- The places `p*` may end at. -/
def runMany (p : Char → Bool) (group : Option (List Char)) :
    List Char → List Char → List Place
  | before, [] => [⟨before, [], group⟩]
  | before, c :: after =>
    if p c then runMany p group (c :: before) after ++ [⟨before, c :: after, group⟩]
    else [⟨before, c :: after, group⟩]

/-- **The places an expression may end at**, the preferred one first. -/
def run : Regex → Place → List Place
  | .start, x => if x.before = [] then [x] else []
  | .ending, x => if x.atEnd then [x] else []
  | .char p, x =>
    match x.after with
    | [] => []
    | c :: after => if p c then [x.skip [c] after] else []
  | .many p, x => runMany p x.group x.before x.after
  | .opt r, x => r.run x ++ [x]
  | .seq r s, x => (r.run x).flatMap s.run
  | .group r, x => (r.run x).map fun y =>
    { y with group := some (y.before.take (y.before.length - x.before.length)).reverse }

/-- `String.matches`: the expression matches the whole text. -/
def matchesAll (r : Regex) (s : List Char) : Bool :=
  (r.run ⟨[], s, none⟩).any fun y => y.after.isEmpty

/-- The first place an expression matches from, and the preferred place
it ends at. -/
def find (r : Regex) : List Char → List Char → Option (List Char × Place)
  | before, [] => (r.run ⟨before, [], none⟩).head?.map fun y => (before, y)
  | before, c :: after =>
    match (r.run ⟨before, c :: after, none⟩).head? with
    | some y => some (before, y)
    | none => find r (c :: before) after

/-- `String.replaceFirst`, where the replacement may use the group. -/
def replaceFirst (r : Regex) (replacement : Option (List Char) → List Char) (s : List Char) :
    List Char :=
  match r.find [] s with
  | none => s
  | some (before, y) => before.reverse ++ replacement y.group ++ y.after

variable {p q : Char → Bool} {r s : Regex} {x y : Place} {before after taken : List Char}
variable {c : Char} {group : Option (List Char)}

/-! ## Classes and their repetition -/

theorem run_char_cons (h : p c = true) :
    (char p).run ⟨before, c :: after, group⟩ = [⟨c :: before, after, group⟩] := if_pos h

theorem run_char_cons_of_not (h : p c = false) :
    (char p).run ⟨before, c :: after, group⟩ = [] := if_neg (Bool.eq_false_iff.1 h)

theorem runMany_cons (h : p c = true) : runMany p group before (c :: after) =
    runMany p group (c :: before) after ++ [⟨before, c :: after, group⟩] := if_pos h

/-- A repetition takes nothing where the class does not have the next
character. -/
theorem runMany_of_not (h : ∀ c ∈ after.head?, p c = false) :
    runMany p group before after = [⟨before, after, group⟩] := by
  cases after with
  | nil => rfl
  | cons c after => exact if_neg (Bool.eq_false_iff.1 (h c rfl))

/-- The expression matches nothing from a character of the class on. -/
def Rejects (r : Regex) (p : Char → Bool) : Prop :=
  ∀ before c after group, p c = true → r.run ⟨before, c :: after, group⟩ = []

theorem rejects_char_seq (h : ∀ c, p c = true → q c = false) : (seq (char q) r).Rejects p := by
  intro before c after group hc
  show ((char q).run _).flatMap r.run = []
  rw [run_char_cons_of_not (h c hc)]
  rfl

/-- **Nothing is given back**: what follows the repetition cannot begin
with a character of its class. -/
theorem run_many_seq (hr : r.Rejects p) (htaken : ∀ c ∈ taken, p c = true)
    (hafter : ∀ c ∈ after.head?, p c = false) :
    (seq (many p) r).run ⟨before, taken ++ after, group⟩ =
      r.run ⟨taken.reverse ++ before, after, group⟩ := by
  show (runMany p group before (taken ++ after)).flatMap r.run = _
  induction taken generalizing before with
  | nil =>
    rw [List.nil_append, runMany_of_not hafter, List.flatMap_singleton]
    rfl
  | cons c taken ih =>
    have hc := htaken c List.mem_cons_self
    rw [List.cons_append, runMany_cons hc, List.flatMap_append,
      ih fun d hd => htaken d (List.mem_cons_of_mem c hd),
      List.flatMap_singleton, hr before c _ group hc, List.append_nil, List.reverse_cons,
      List.append_assoc]
    rfl

/-- The same where one character at least is taken. -/
theorem run_many1_seq (hr : r.Rejects p) (htaken : ∀ c ∈ taken, p c = true) (hne : taken ≠ [])
    (hafter : ∀ c ∈ after.head?, p c = false) :
    (seq (many1 p) r).run ⟨before, taken ++ after, group⟩ =
      r.run ⟨taken.reverse ++ before, after, group⟩ := by
  obtain ⟨c, taken, rfl⟩ := List.exists_cons_of_ne_nil hne
  have hc := htaken c List.mem_cons_self
  have hrest : (seq (many p) r).run ⟨c :: before, taken ++ after, group⟩ =
      r.run ⟨taken.reverse ++ c :: before, after, group⟩ :=
    run_many_seq hr (fun d hd => htaken d (List.mem_cons_of_mem c hd)) hafter
  show (((char p).run _).flatMap (many p).run).flatMap r.run = _
  rw [List.cons_append, run_char_cons hc, List.flatMap_singleton]
  rw [List.reverse_cons, List.append_assoc]
  exact hrest

theorem run_many1_of_not (hafter : ∀ c ∈ after.head?, p c = false) :
    (many1 p).run ⟨before, after, group⟩ = [] := by
  show ((char p).run _).flatMap (many p).run = _
  cases after with
  | nil => rfl
  | cons c after =>
    rw [run_char_cons_of_not (hafter c rfl)]
    rfl

/-- The preferred end of a repetition is its last. -/
theorem head?_run_many (htaken : ∀ c ∈ taken, p c = true)
    (hafter : ∀ c ∈ after.head?, p c = false) :
    ((many p).run ⟨before, taken ++ after, group⟩).head? =
      some ⟨taken.reverse ++ before, after, group⟩ := by
  show (runMany p group before (taken ++ after)).head? = _
  induction taken generalizing before with
  | nil =>
    rw [List.nil_append, runMany_of_not hafter]
    rfl
  | cons c taken ih =>
    have hrest := @ih (c :: before) fun d hd => htaken d (List.mem_cons_of_mem c hd)
    rw [List.cons_append, runMany_cons (htaken c List.mem_cons_self), List.head?_append, hrest,
      List.reverse_cons,
      List.append_assoc]
    rfl

theorem head?_run_many1 (htaken : ∀ c ∈ taken, p c = true) (hne : taken ≠ [])
    (hafter : ∀ c ∈ after.head?, p c = false) :
    ((many1 p).run ⟨before, taken ++ after, group⟩).head? =
      some ⟨taken.reverse ++ before, after, group⟩ := by
  obtain ⟨c, taken, rfl⟩ := List.exists_cons_of_ne_nil hne
  have hrest : ((many p).run ⟨c :: before, taken ++ after, group⟩).head? =
      some ⟨taken.reverse ++ c :: before, after, group⟩ :=
    head?_run_many (fun d hd => htaken d (List.mem_cons_of_mem c hd)) hafter
  show (((char p).run _).flatMap (many p).run).head? = _
  rw [List.cons_append, run_char_cons (htaken c List.mem_cons_self), List.flatMap_singleton,
    List.reverse_cons, List.append_assoc]
  exact hrest

/-! ## The preferred end -/

/-- The preferred end of a sequence goes through that of its first part,
where the second matches from there. -/
theorem head?_run_seq {z : Place} (hr : (r.run x).head? = some y) (hs : (s.run y).head? = some z) :
    ((seq r s).run x).head? = some z := by
  show ((r.run x).flatMap s.run).head? = some z
  obtain ⟨ys, hys⟩ := List.head?_eq_some_iff.1 hr
  rw [hys, List.flatMap_cons, List.head?_append, hs]
  rfl

theorem head?_run_opt (h : (r.run x).head? = some y) : ((opt r).run x).head? = some y := by
  show (r.run x ++ [x]).head? = some y
  rw [List.head?_append, h]
  rfl

theorem run_opt_of_nil (h : r.run x = []) : (opt r).run x = [x] := by
  show r.run x ++ [x] = [x]
  rw [h, List.nil_append]

/-- The group is what its expression took. -/
theorem head?_run_group (h : (r.run ⟨before, taken ++ after, group⟩).head? =
      some ⟨taken.reverse ++ before, after, group⟩) :
    ((Regex.group r).run ⟨before, taken ++ after, group⟩).head? =
      some ⟨taken.reverse ++ before, after, some taken⟩ := by
  have hlength : (taken.reverse ++ before).length - before.length = taken.reverse.length := by
    rw [List.length_append, Nat.add_sub_cancel]
  show ((r.run _).map _).head? = _
  rw [List.head?_map, h, Option.map_some]
  simp only [hlength, List.take_left, List.reverse_reverse]

/-- The characters of a literal are taken, or it does not match. -/
theorem run_lit (s : List Char) (r : Regex) (before after : List Char)
    (group : Option (List Char)) :
    (lit s r).run ⟨before, s ++ after, group⟩ = r.run ⟨s.reverse ++ before, after, group⟩ := by
  induction s generalizing before with
  | nil => rfl
  | cons c s ih =>
    show ((char (· = c)).run _).flatMap (lit s r).run = _
    rw [List.cons_append, run_char_cons (decide_eq_true rfl), List.flatMap_singleton, ih,
      List.reverse_cons, List.append_assoc]
    rfl

/-! ## What an expression consumes -/

/-- Some class of the expression has the character. -/
def Reads : Regex → Char → Prop
  | .char p, c | .many p, c => p c = true
  | .opt r, c | .group r, c => r.Reads c
  | .seq r s, c => r.Reads c ∨ s.Reads c
  | .start, _ | .ending, _ => False

end Regex

namespace Place

variable {P Q : Char → Prop} {x y z : Place}

/-- The place lies further on, over characters that pass a test. -/
def Beyond (P : Char → Prop) (x y : Place) : Prop :=
  ∃ taken, x.after = taken ++ y.after ∧ y.before = taken.reverse ++ x.before ∧ ∀ c ∈ taken, P c

theorem Beyond.refl (x : Place) : x.Beyond P x := ⟨[], rfl, rfl, fun _ hmem => (nomatch hmem)⟩

theorem Beyond.trans (h₁ : x.Beyond P y) (h₂ : y.Beyond Q z) : x.Beyond (fun c => P c ∨ Q c) z := by
  obtain ⟨taken₁, hafter₁, hbefore₁, hP⟩ := h₁
  obtain ⟨taken₂, hafter₂, hbefore₂, hQ⟩ := h₂
  refine ⟨taken₁ ++ taken₂, ?_, ?_, ?_⟩
  · rw [hafter₁, hafter₂, List.append_assoc]
  · rw [hbefore₂, hbefore₁, List.reverse_append, List.append_assoc]
  · intro c hc
    exact (List.mem_append.1 hc).imp (hP c) (hQ c)

end Place

namespace Regex

variable {p q : Char → Bool} {r s : Regex} {x y : Place} {before after : List Char}
variable {group : Option (List Char)}

theorem beyond_of_mem_runMany (h : y ∈ runMany p group before after) :
    Place.Beyond (fun c => p c = true) ⟨before, after, group⟩ y := by
  induction after generalizing before with
  | nil =>
    obtain rfl := List.mem_singleton.1 h
    exact Place.Beyond.refl _
  | cons c after ih =>
    by_cases hc : p c = true
    · rw [runMany_cons hc] at h
      rcases List.mem_append.1 h with hmore | hhere
      · obtain ⟨taken, hafter, hbefore, htaken⟩ := ih hmore
        refine ⟨c :: taken, congrArg (c :: ·) hafter, ?_, List.forall_mem_cons.2 ⟨hc, htaken⟩⟩
        rw [hbefore, List.reverse_cons, List.append_assoc]
        rfl
      · obtain rfl := List.mem_singleton.1 hhere
        exact Place.Beyond.refl _
    · rw [runMany_of_not (fun d hd => by
        obtain rfl := Option.some.inj hd
        exact Bool.eq_false_iff.2 hc)] at h
      obtain rfl := List.mem_singleton.1 h
      exact Place.Beyond.refl _

/-- **What an expression takes** is made of characters its classes have. -/
theorem beyond_of_mem_run (h : y ∈ r.run x) : x.Beyond r.Reads y := by
  induction r generalizing x y with
  | start =>
    rw [run] at h
    split at h
    · obtain rfl := List.mem_singleton.1 h
      exact Place.Beyond.refl _
    · cases h
  | ending =>
    rw [run] at h
    split at h
    · obtain rfl := List.mem_singleton.1 h
      exact Place.Beyond.refl _
    · cases h
  | char p =>
    rw [run] at h
    split at h
    · cases h
    · next c after hafter =>
      split at h
      · next hc =>
        obtain rfl := List.mem_singleton.1 h
        exact ⟨[c], hafter, rfl, List.forall_mem_singleton.2 hc⟩
      · cases h
  | many p => exact beyond_of_mem_runMany h
  | opt r ih =>
    rcases List.mem_append.1 h with hr | hskip
    · exact ih hr
    · obtain rfl := List.mem_singleton.1 hskip
      exact Place.Beyond.refl _
  | seq r s ihr ihs =>
    obtain ⟨z, hz, hy⟩ := List.mem_flatMap.1 h
    exact (ihr hz).trans (ihs hy)
  | group r ih =>
    obtain ⟨z, hz, rfl⟩ := List.mem_map.1 h
    obtain ⟨taken, hafter, hbefore, htaken⟩ := ih hz
    exact ⟨taken, hafter, hbefore, htaken⟩

/-- So a text with a character none of them has is not taken whole. -/
theorem after_ne_nil_of_mem_run {c : Char} (h : y ∈ r.run x) (hc : c ∈ x.after)
    (hreads : ¬ r.Reads c) : y.after ≠ [] := by
  obtain ⟨taken, hafter, _, htaken⟩ := beyond_of_mem_run h
  intro hnil
  rw [hafter, hnil, List.append_nil] at hc
  exact hreads (htaken c hc)

/-! ## The first match -/

theorem find_of_head? (h : (r.run ⟨before, after, none⟩).head? = some y) :
    r.find before after = some (before, y) := by
  cases after with
  | nil =>
    rw [find, h]
    rfl
  | cons c after => rw [find, h]

theorem find_cons_of_nil {c : Char} (h : r.run ⟨before, c :: after, none⟩ = []) :
    r.find before (c :: after) = r.find (c :: before) after := by
  rw [find, h, List.head?_nil]

/-- The places an expression matches nothing from are passed over. -/
theorem find_append {passed : List Char}
    (h : ∀ xs c ys, passed = xs ++ c :: ys →
      r.run ⟨xs.reverse ++ before, c :: ys ++ after, none⟩ = []) :
    r.find before (passed ++ after) = r.find (passed.reverse ++ before) after := by
  induction passed generalizing before with
  | nil => rfl
  | cons c passed ih =>
    have hfirst := h [] c passed rfl
    rw [List.cons_append, show r.find before (c :: (passed ++ after)) = _ from
      find_cons_of_nil hfirst, ih,
      List.reverse_cons, List.append_assoc]
    · rfl
    · intro xs d ys hpassed
      have hnext := h (c :: xs) d ys (congrArg (c :: ·) hpassed)
      rw [List.reverse_cons, List.append_assoc] at hnext
      exact hnext

/-- What is found is a match further on in the text. -/
theorem find_eq_some {found : List Char} (h : r.find before after = some (found, y)) :
    ∃ passed rest, after = passed ++ rest ∧ found = passed.reverse ++ before ∧
      y ∈ r.run ⟨found, rest, none⟩ := by
  induction after generalizing before with
  | nil =>
    obtain ⟨y', hhead, heq⟩ := Option.map_eq_some_iff.1 h
    cases heq
    exact ⟨[], [], rfl, rfl, List.mem_of_head? hhead⟩
  | cons c after ih =>
    cases hhead : (r.run ⟨before, c :: after, none⟩).head? with
    | some y' =>
      rw [find_of_head? hhead] at h
      cases h
      exact ⟨[], c :: after, rfl, rfl, List.mem_of_head? hhead⟩
    | none =>
      rw [find_cons_of_nil (List.head?_eq_none_iff.1 hhead)] at h
      obtain ⟨passed, rest, hafter, hfound, hmem⟩ := ih h
      refine ⟨c :: passed, rest, congrArg (c :: ·) hafter, ?_, hmem⟩
      rw [hfound, List.reverse_cons, List.append_assoc]
      rfl

end Regex

end ASync
