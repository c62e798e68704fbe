import Mathlib
import ASync.Core.Model.DeviceAddress
/-!
# Taking an address apart

Three expressions and a test of the beginning read one address, each on
its own. The one for the port knows only schemes of letters, and takes
any number after the first colon for the port, also one in the text after
the host. The one for the host needs that text on one line. `split_iff`
says exactly where all of them agree with how the address was put
together.
-/

namespace ASync

namespace Core

open Regex DeviceAddress

section Addresses

/-! ## Addresses -/

inductive Scheme
  | tcp
  | relay
  | relayHttp
  | relayHttps
  deriving DecidableEq

namespace Scheme

def text : Scheme → List Char
  | .tcp => "tcp".toList
  | .relay => "relay".toList
  | .relayHttp => "relay-http".toList
  | .relayHttps => "relay-https".toList

def type : Scheme → AddressType
  | .tcp => .TCP
  | .relay => .RELAY
  | .relayHttp => .HTTP_RELAY
  | .relayHttps => .HTTPS_RELAY

/-- The scheme is one word. -/
def isWord : Scheme → Bool
  | .tcp | .relay => true
  | .relayHttp | .relayHttps => false

end Scheme

/-- `:` and a port, if there is one. -/
def portPart (port : Option (List Char)) : List Char := port.elim [] (':' :: ·)

/-- `/` and a text, if there is one. -/
def restPart (rest : Option (List Char)) : List Char := rest.elim [] ('/' :: ·)

/-- An address put together. -/
def addressOf (scheme : Scheme) (host : List Char) (port rest : Option (List Char)) : String :=
  String.ofList (scheme.text ++ (':' :: '/' :: '/' :: (host ++ (portPart port ++ restPart rest))))

/-- A host: some characters other than `:`, `/` and `?`. -/
def IsHost (host : List Char) : Prop := host ≠ [] ∧ ∀ c ∈ host, c ≠ ':' ∧ c ≠ '/' ∧ c ≠ '?'

/-- A port in decimal. -/
def IsPort (port : List Char) : Prop :=
  port ≠ [] ∧ (∀ c ∈ port, isDigit c = true) ∧ decimal port ≤ 65535

/-- The text is on one line. -/
def OneLine (text : List Char) : Prop := ∀ c ∈ text, isLineTerminator c = false

/-- What follows the first colon of a text. -/
def afterColon (text : List Char) : List Char := (text.dropWhile notColon).drop 1

variable {scheme : Scheme} {host body before after text : List Char}
variable {port rest : Option (List Char)} {group : Option (List Char)}

/-! ## The type -/

theorem getType_addressOf (scheme : Scheme) (host : List Char) (port rest : Option (List Char)) :
    getType (addressOf scheme host port rest) = scheme.type := by
  have hne : addressOf scheme host port rest ≠ "" := by
    intro hnil
    have htext := congrArg String.toList hnil
    rw [addressOf, String.toList_ofList] at htext
    cases scheme <;> cases htext
  have hstarts : ∀ start, startsWith (addressOf scheme host port rest) start =
      start.toList.isPrefixOf (scheme.text ++ (':' :: '/' :: '/' ::
        (host ++ (portPart port ++ restPart rest)))) := by
    intro start
    rw [startsWith, addressOf, String.toList_ofList]
  unfold getType
  rw [if_neg hne]
  simp only [hstarts]
  cases scheme <;> rfl

/-! ## The host -/

theorem ne_nil_text (scheme : Scheme) : scheme.text ≠ [] := by
  cases scheme <;> exact List.cons_ne_nil _ _

theorem notColon_text (scheme : Scheme) : ∀ c ∈ scheme.text, notColon c = true := by
  have hall : scheme.text.all notColon = true := by cases scheme <;> rfl
  exact List.all_eq_true.1 hall

theorem rejects_lit {p : Char → Bool} {d : Char} {s : List Char} {r : Regex} (h : p d = false) :
    (lit (d :: s) r).Rejects p :=
  rejects_char_seq fun c hc => decide_eq_false fun heq => by
    rw [heq, h] at hc
    cases hc

/-- **The scheme is cut off.** -/
theorem replaceFirst_scheme (scheme : Scheme) (body : List Char) :
    schemeRegex.replaceFirst (fun _ => []) (scheme.text ++ (':' :: '/' :: '/' :: body)) = body := by
  have hrun : schemeRegex.run ⟨[], scheme.text ++ (':' :: '/' :: '/' :: body), none⟩ =
      [⟨'/' :: ([':', '/'].reverse ++ (scheme.text.reverse ++ [])), body, none⟩] := by
    show ([_].flatMap (seq (many1 notColon) (lit [':', '/'] (.char (· = '/')))).run) = _
    rw [List.flatMap_singleton, run_many1_seq (rejects_lit rfl) (notColon_text scheme)
      (ne_nil_text scheme) (by rintro c ⟨⟩; rfl)]
    exact run_lit [':', '/'] (.char (· = '/')) _ ('/' :: body) none
  have hhead : (schemeRegex.run ⟨[], scheme.text ++ (':' :: '/' :: '/' :: body), none⟩).head? =
      some ⟨'/' :: ([':', '/'].reverse ++ (scheme.text.reverse ++ [])), body, none⟩ := by
    rw [hrun]
    rfl
  rw [replaceFirst, find_of_head? hhead]
  rfl

/-- Away from colons and slashes the expression for the end of a host
matches nothing, and only at the end. -/
theorem run_suffix_of_plain (h : ∀ c ∈ after.head?, c ≠ ':' ∧ c ≠ '/') :
    suffixRegex.run ⟨before, after, group⟩ = Regex.ending.run ⟨before, after, group⟩ := by
  have hport : (Regex.seq (.char (· = ':')) (many1 isDigit)).run ⟨before, after, group⟩ = [] := by
    cases after with
    | nil => rfl
    | cons c after =>
      show ((Regex.char (· = ':')).run _).flatMap _ = []
      rw [run_char_cons_of_not (decide_eq_false (h c rfl).1)]
      rfl
  have hrest : (Regex.seq (.char (· = '/')) (.many dot)).run ⟨before, after, group⟩ = [] := by
    cases after with
    | nil => rfl
    | cons c after =>
      show ((Regex.char (· = '/')).run _).flatMap _ = []
      rw [run_char_cons_of_not (decide_eq_false (h c rfl).2)]
      rfl
  show ((Regex.opt _).run _).flatMap (Regex.seq (.opt _) .ending).run = _
  rw [run_opt_of_nil hport, List.flatMap_singleton]
  show ((Regex.opt _).run _).flatMap Regex.ending.run = _
  rw [run_opt_of_nil hrest, List.flatMap_singleton]

/-- A host alone is left as it is. -/
theorem replaceFirst_suffix_of_plain (h : ∀ c ∈ text, c ≠ ':' ∧ c ≠ '/') :
    suffixRegex.replaceFirst (fun _ => []) text = text := by
  unfold replaceFirst
  cases hfind : suffixRegex.find [] text with
  | none => rfl
  | some match_ =>
    obtain ⟨found, y⟩ := match_
    obtain ⟨passed, after, rfl, hfound, hmem⟩ := find_eq_some hfind
    have hplain : ∀ c ∈ after.head?, c ≠ ':' ∧ c ≠ '/' := fun c hc =>
      h c (List.mem_append_right _ (List.mem_of_head? hc))
    rw [run_suffix_of_plain hplain, Regex.run] at hmem
    split at hmem
    · obtain rfl := List.mem_singleton.1 hmem
      show found.reverse ++ [] ++ after = passed ++ after
      rw [hfound, List.append_nil, List.append_nil, List.reverse_reverse]
    · cases hmem

/-- Before a colon or a slash no text ends. -/
theorem atEnd_eq_false {c d : Char} {xs ys : List Char} (hd : d = ':' ∨ d = '/') :
    Place.atEnd ⟨before, c :: xs ++ d :: ys, group⟩ = false := by
  rcases xs with _ | ⟨x, xs⟩
  · rcases ys with _ | ⟨y, ys⟩
    · show decide (c = '\r' ∧ d = '\n') = false
      refine decide_eq_false fun heq => ?_
      rcases hd with rfl | rfl
      · cases heq.2
      · cases heq.2
    · rfl
  · rcases xs with _ | ⟨x', xs⟩
    · rfl
    · rfl

/-- Nothing is found within a host that is not the end. -/
theorem find_suffix_append {d : Char} {ys : List Char} (hhost : ∀ c ∈ host, c ≠ ':' ∧ c ≠ '/')
    (hd : d = ':' ∨ d = '/') :
    suffixRegex.find [] (host ++ d :: ys) = suffixRegex.find host.reverse (d :: ys) := by
  rw [find_append, List.append_nil]
  intro xs c zs hsplit
  have hc : c ≠ ':' ∧ c ≠ '/' := hhost c (by rw [hsplit]; simp)
  rw [List.cons_append, run_suffix_of_plain (by rintro _ ⟨⟩; exact hc), Regex.run, if_neg]
  rw [← List.cons_append, atEnd_eq_false hd]
  exact Bool.false_ne_true

/-- The port goes, if there is one. -/
theorem head?_run_portPart (hport : ∀ p ∈ port, IsPort p) (before : List Char) :
    ((Regex.opt (.seq (.char (· = ':')) (many1 isDigit))).run
        ⟨before, portPart port ++ restPart rest, none⟩).head? =
      some ⟨(portPart port).reverse ++ before, restPart rest, none⟩ := by
  cases port with
  | none =>
    have hnone : (Regex.seq (.char (· = ':')) (many1 isDigit)).run
        ⟨before, restPart rest, none⟩ = [] := by
      cases rest with
      | none => rfl
      | some r => rfl
    show ((Regex.opt _).run ⟨before, restPart rest, none⟩).head? = _
    rw [run_opt_of_nil hnone]
    rfl
  | some p =>
    obtain ⟨hne, hdigits, _⟩ := hport p rfl
    have hend : ∀ c ∈ (restPart rest).head?, isDigit c = false := by
      intro c hc
      cases rest with
      | none => cases hc
      | some r =>
        cases hc
        rfl
    refine head?_run_opt (head?_run_seq (y := ⟨':' :: before, p ++ restPart rest, none⟩) ?_ ?_)
    · show ((Regex.char (· = ':')).run ⟨before, ':' :: (p ++ restPart rest), none⟩).head? = _
      rw [run_char_cons (decide_eq_true rfl)]
      rfl
    · rw [head?_run_many1 hdigits hne hend]
      show some _ = some (Place.mk ((':' :: p).reverse ++ before) _ none)
      rw [List.reverse_cons, List.append_assoc]
      rfl

/-- And a line after it. -/
theorem head?_run_restPart (hline : ∀ r ∈ rest, OneLine r) (before : List Char) :
    ((Regex.opt (.seq (.char (· = '/')) (.many dot))).run ⟨before, restPart rest, none⟩).head? =
      some ⟨(restPart rest).reverse ++ before, [], none⟩ := by
  cases rest with
  | none => rfl
  | some r =>
    have hdots : ∀ c ∈ r, dot c = true := fun c hc => by rw [dot, hline r rfl c hc]; rfl
    have hmany : ((Regex.many dot).run ⟨'/' :: before, r ++ [], none⟩).head? =
        some ⟨r.reverse ++ '/' :: before, [], none⟩ :=
      head?_run_many hdots fun _ hc => (nomatch hc)
    rw [List.append_nil] at hmany
    refine head?_run_opt (head?_run_seq (y := ⟨'/' :: before, r, none⟩) ?_ ?_)
    · show ((Regex.char (· = '/')).run ⟨before, '/' :: r, none⟩).head? = _
      rw [run_char_cons (decide_eq_true rfl)]
      rfl
    · rw [hmany]
      show _ = some (Place.mk (('/' :: r).reverse ++ before) [] none)
      rw [List.reverse_cons, List.append_assoc]
      rfl

/-- The classes after the scheme have no line terminator. -/
theorem classes_of_isLineTerminator {c : Char} (hc : isLineTerminator c = true) :
    isDigit c = false ∧ dot c = false ∧ c ≠ ':' ∧ c ≠ '/' := by
  have hcases : c = '\n' ∨ c = '\r' ∨ c = '\u0085' ∨ c = '\u2028' ∨ c = '\u2029' := by
    simpa [isLineTerminator, or_assoc] using hc
  refine ⟨?_, by rw [dot, hc]; rfl, ?_, ?_⟩
  · rcases hcases with rfl | rfl | rfl | rfl | rfl <;> rfl
  · rintro rfl
    cases hc
  · rintro rfl
    cases hc

theorem not_reads_suffix {c : Char} (hc : isLineTerminator c = true) : ¬ suffixRegex.Reads c := by
  obtain ⟨hdigit, hdot, hcolon, hslash⟩ := classes_of_isLineTerminator hc
  have hdigit' : ¬ isDigit c = true := Bool.eq_false_iff.1 hdigit
  rintro ((hread | hread | hread) | (hread | hread) | hread)
  · exact hcolon (of_decide_eq_true hread)
  · exact hdigit' hread
  · exact hdigit' hread
  · exact hslash (of_decide_eq_true hread)
  · exact Bool.eq_false_iff.1 hdot hread
  · exact hread

/-- What follows the host begins with a colon or a slash. -/
theorem parts_cases (port rest : Option (List Char)) :
    (port = none ∧ rest = none) ∨
      ∃ d ys, portPart port ++ restPart rest = d :: ys ∧ (d = ':' ∨ d = '/') := by
  cases port with
  | some p => exact .inr ⟨':', p ++ restPart rest, rfl, .inl rfl⟩
  | none =>
    cases rest with
    | some r => exact .inr ⟨'/', r, rfl, .inr rfl⟩
    | none => exact .inl ⟨rfl, rfl⟩

/-- **What is left of a host and what follows it.** -/
theorem replaceFirst_suffix_iff (hhost : IsHost host) (hport : ∀ p ∈ port, IsPort p) :
    suffixRegex.replaceFirst (fun _ => []) (host ++ (portPart port ++ restPart rest)) = host ↔
      ∀ r ∈ rest, OneLine r := by
  have hplain : ∀ c ∈ host, c ≠ ':' ∧ c ≠ '/' := fun c hc =>
    ⟨(hhost.2 c hc).1, (hhost.2 c hc).2.1⟩
  rcases parts_cases port rest with ⟨rfl, rfl⟩ | ⟨d, ys, htail, hd⟩
  · refine iff_of_true ?_ fun _ hr => (nomatch hr)
    show suffixRegex.replaceFirst _ (host ++ []) = host
    rw [List.append_nil, replaceFirst_suffix_of_plain hplain]
  have hfind : suffixRegex.find [] (host ++ (portPart port ++ restPart rest)) =
      suffixRegex.find host.reverse (portPart port ++ restPart rest) := by
    rw [htail]
    exact find_suffix_append hplain hd
  unfold replaceFirst
  rw [hfind]
  constructor
  · intro heq r hr c hc
    by_contra hterminator
    have hmem : c ∈ portPart port ++ restPart rest := by
      obtain rfl : rest = some r := hr
      exact List.mem_append_right _ (List.mem_cons_of_mem '/' hc)
    cases hfound : suffixRegex.find host.reverse (portPart port ++ restPart rest) with
    | none =>
      -- nothing is replaced
      rw [hfound] at heq
      have hlength := congrArg List.length heq
      rw [htail, List.length_append, List.length_cons] at hlength
      omega
    | some found =>
      obtain ⟨before, y⟩ := found
      rw [hfound] at heq
      obtain ⟨passed, after, hsplit, rfl, hy⟩ := find_eq_some hfound
      have hleft : host ++ (passed ++ y.after) = host := by
        simpa only [List.append_nil, List.reverse_append, List.reverse_reverse,
          List.append_assoc] using heq
      obtain ⟨rfl, hnil⟩ := List.append_eq_nil_iff.1 (List.append_right_eq_self.1 hleft)
      have hafter : c ∈ after := by
        rw [hsplit] at hmem
        exact hmem
      exact after_ne_nil_of_mem_run hy hafter (not_reads_suffix (by simpa using hterminator)) hnil
  · intro hline
    have hhead : (suffixRegex.run
        ⟨host.reverse, portPart port ++ restPart rest, none⟩).head? =
        some ⟨(restPart rest).reverse ++ ((portPart port).reverse ++ host.reverse), [], none⟩ :=
      head?_run_seq (head?_run_portPart hport _)
        (head?_run_seq (head?_run_restPart hline _) rfl)
    rw [find_of_head? hhead]
    show host.reverse.reverse ++ [] ++ [] = host
    rw [List.append_nil, List.append_nil, List.reverse_reverse]

theorem inetName_addressOf_iff (hhost : IsHost host) (hport : ∀ p ∈ port, IsPort p) :
    inetName (addressOf scheme host port rest) = String.ofList host ↔ ∀ r ∈ rest, OneLine r := by
  rw [inetName, addressOf, String.toList_ofList, replaceFirst_scheme, String.ofList_inj]
  exact replaceFirst_suffix_iff hhost hport

/-! ## The port -/

/-- What the expression for the port reads after the scheme. -/
def portTail : Regex :=
  .seq (many1 notColon) (.seq (.char (· = ':')) (.seq (.group (many1 isDigit)) (.many dot)))

/-- **A scheme that is one word is passed**, and at another the
expression fails. -/
theorem run_port (scheme : Scheme) (body : List Char) :
    portRegex.run ⟨[], scheme.text ++ (':' :: '/' :: '/' :: body), none⟩ =
      if scheme.isWord then
        portTail.run ⟨(scheme.text ++ [':', '/', '/']).reverse, body, none⟩
      else [] := by
  have hrest : ∀ taken after : List Char, taken.all isLower = true → taken ≠ [] →
      (∀ c ∈ after.head?, isLower c = false) →
      portRegex.run ⟨[], taken ++ after, none⟩ =
        (lit [':', '/', '/'] portTail).run ⟨taken.reverse ++ [], after, none⟩ := by
    intro taken after htaken hne hafter
    show ([_].flatMap (seq (many1 isLower) (lit [':', '/', '/'] portTail)).run) = _
    rw [List.flatMap_singleton, run_many1_seq (rejects_lit rfl) (List.all_eq_true.1 htaken) hne
      hafter]
  have hword : ∀ word : List Char, word.all isLower = true → word ≠ [] →
      portRegex.run ⟨[], word ++ (':' :: '/' :: '/' :: body), none⟩ =
        portTail.run ⟨(word ++ [':', '/', '/']).reverse, body, none⟩ := by
    intro word hall hne
    rw [hrest word _ hall hne (by rintro c ⟨⟩; rfl), List.reverse_append, List.append_nil]
    exact run_lit [':', '/', '/'] portTail _ body none
  have hother : ∀ after : List Char,
      portRegex.run ⟨[], "relay".toList ++ '-' :: after, none⟩ = [] := by
    intro after
    rw [hrest "relay".toList ('-' :: after) rfl (List.cons_ne_nil _ _) (by rintro c ⟨⟩; rfl)]
    rfl
  cases scheme with
  | tcp => exact hword "tcp".toList rfl (List.cons_ne_nil _ _)
  | relay => exact hword "relay".toList rfl (List.cons_ne_nil _ _)
  | relayHttp => exact hother ("http".toList ++ (':' :: '/' :: '/' :: body))
  | relayHttps => exact hother ("https".toList ++ (':' :: '/' :: '/' :: body))

/-- The digits a text begins with. -/
def digitsOf (text : List Char) : List Char := text.takeWhile isDigit

theorem isDigit_digitsOf (text : List Char) : ∀ c ∈ digitsOf text, isDigit c = true := by
  intro c hc
  exact List.mem_takeWhile_imp hc

theorem head?_dropWhile {p : Char → Bool} (text : List Char) :
    ∀ c ∈ (text.dropWhile p).head?, p c = false := by
  intro c hc
  have hnot := List.head?_dropWhile_not p text
  rw [show (text.dropWhile p).head? = some c from hc] at hnot
  exact hnot

/-- The expression for the port, from the first colon on. -/
theorem run_portTail (hbody : ∀ c ∈ body.head?, notColon c = true) (hne : body ≠ [])
    (before : List Char) :
    portTail.run ⟨before, body, none⟩ =
      (Regex.seq (.char (· = ':')) (.seq (.group (many1 isDigit)) (.many dot))).run
        ⟨(body.takeWhile notColon).reverse ++ before, body.dropWhile notColon, none⟩ := by
  have hrejects : (Regex.seq (.char (· = ':'))
      (.seq (.group (many1 isDigit)) (.many dot))).Rejects notColon := by
    refine rejects_char_seq fun c hc => decide_eq_false fun heq => ?_
    rw [heq] at hc
    cases hc
  have htaken : body.takeWhile notColon ≠ [] := by
    obtain ⟨c, body, rfl⟩ := List.exists_cons_of_ne_nil hne
    rw [List.takeWhile_cons_of_pos (hbody c rfl)]
    exact List.cons_ne_nil _ _
  rw [portTail, ← run_many1_seq hrejects (fun c hc => List.mem_takeWhile_imp hc) htaken
    (head?_dropWhile body), List.takeWhile_append_dropWhile]

/-- The digits are the group, and a line after them is taken whole. -/
theorem head?_run_digits {b : List Char} (hdigits : digitsOf b ≠ []) (hline : OneLine b)
    (before : List Char) :
    ∃ y, ((Regex.seq (.group (many1 isDigit)) (.many dot)).run ⟨before, b, none⟩).head? = some y ∧
      y.after = [] ∧ y.group = some (digitsOf b) := by
  have hdots : ∀ c ∈ b.dropWhile isDigit, dot c = true := by
    intro c hc
    rw [dot, hline c ((List.dropWhile_suffix isDigit).subset hc)]
    rfl
  have hgroup : ((Regex.group (many1 isDigit)).run ⟨before, b, none⟩).head? =
      some ⟨(digitsOf b).reverse ++ before, b.dropWhile isDigit, some (digitsOf b)⟩ := by
    have hmany : ((many1 isDigit).run ⟨before, digitsOf b ++ b.dropWhile isDigit, none⟩).head? =
        some ⟨(digitsOf b).reverse ++ before, b.dropWhile isDigit, none⟩ :=
      head?_run_many1 (isDigit_digitsOf b) hdigits (head?_dropWhile b)
    have hhead := head?_run_group hmany
    rw [digitsOf, List.takeWhile_append_dropWhile] at hhead
    exact hhead
  have hrest : ((Regex.many dot).run ⟨(digitsOf b).reverse ++ before, b.dropWhile isDigit ++ [],
      some (digitsOf b)⟩).head? = some ⟨(b.dropWhile isDigit).reverse ++
        ((digitsOf b).reverse ++ before), [], some (digitsOf b)⟩ :=
    head?_run_many hdots fun _ hc => (nomatch hc)
  rw [List.append_nil] at hrest
  exact ⟨_, head?_run_seq hgroup hrest, rfl, rfl⟩

/-- **What is taken for the port**: the digits after the first colon, where
all that follows that colon is on one line. -/
theorem portTail_cases (hbody : ∀ c ∈ body.head?, notColon c = true) (hne : body ≠ [])
    (before : List Char) :
    (digitsOf (afterColon body) ≠ [] ∧ OneLine (afterColon body) ∧
      ∃ y, (portTail.run ⟨before, body, none⟩).head? = some y ∧ y.after = [] ∧
        y.group = some (digitsOf (afterColon body))) ∨
    (¬(digitsOf (afterColon body) ≠ [] ∧ OneLine (afterColon body)) ∧
      ∀ y ∈ portTail.run ⟨before, body, none⟩, y.after ≠ []) := by
  rw [run_portTail hbody hne, afterColon]
  have hhead : ∀ c ∈ (body.dropWhile notColon).head?, notColon c = false := head?_dropWhile body
  generalize body.dropWhile notColon = colon at hhead ⊢
  rcases colon with _ | ⟨c, b⟩
  · exact .inr ⟨fun h => h.1 rfl, fun y hy => (nomatch hy)⟩
  obtain rfl : c = ':' := by simpa [notColon] using hhead c rfl
  have hrun : ∀ before, (Regex.seq (.char (· = ':')) (.seq (.group (many1 isDigit))
      (.many dot))).run ⟨before, ':' :: b, none⟩ =
        (Regex.seq (.group (many1 isDigit)) (.many dot)).run ⟨':' :: before, b, none⟩ := by
    intro before
    show ((Regex.char (· = ':')).run _).flatMap _ = _
    rw [run_char_cons (decide_eq_true rfl), List.flatMap_singleton]
  rw [hrun, List.drop_one, List.tail_cons]
  by_cases hdigits : digitsOf b = []
  · -- no digit follows the colon
    refine .inr ⟨fun h => h.1 hdigits, ?_⟩
    have hfirst : ∀ c ∈ b.head?, isDigit c = false := by
      have hdrop : b.dropWhile isDigit = b := by
        have hsplit := List.takeWhile_append_dropWhile (p := isDigit) (l := b)
        rw [show b.takeWhile isDigit = [] from hdigits] at hsplit
        exact hsplit
      rw [← hdrop]
      exact head?_dropWhile b
    intro y hy
    have hnone : (Regex.seq (.group (many1 isDigit)) (.many dot)).run
        ⟨':' :: ((body.takeWhile notColon).reverse ++ before), b, none⟩ = [] := by
      show (((many1 isDigit).run _).map _).flatMap _ = []
      rw [run_many1_of_not hfirst]
      rfl
    rw [hnone] at hy
    cases hy
  by_cases hline : OneLine b
  · exact .inl ⟨hdigits, hline, head?_run_digits hdigits hline _⟩
  · refine .inr ⟨fun h => hline h.2, fun y hy => ?_⟩
    obtain ⟨c, hc, hterminator⟩ : ∃ c ∈ b, isLineTerminator c = true := by
      simpa [OneLine] using hline
    obtain ⟨hdigit, hdot, _⟩ := classes_of_isLineTerminator hterminator
    have hdigit' : ¬ isDigit c = true := Bool.eq_false_iff.1 hdigit
    refine after_ne_nil_of_mem_run hy hc ?_
    rintro ((hread | hread) | hread)
    · exact hdigit' hread
    · exact hdigit' hread
    · exact Bool.eq_false_iff.1 hdot hread

theorem toList_addressOf : (addressOf scheme host port rest).toList =
    scheme.text ++ (':' :: '/' :: '/' :: (host ++ (portPart port ++ restPart rest))) :=
  String.toList_ofList

theorem host_append (hhost : IsHost host) (tail : List Char) :
    (∀ c ∈ (host ++ tail).head?, notColon c = true) ∧ host ++ tail ≠ [] := by
  obtain ⟨c, host, rfl⟩ := List.exists_cons_of_ne_nil hhost.1
  refine ⟨?_, List.cons_ne_nil _ _⟩
  rintro d hd
  obtain rfl : c = d := Option.some.inj hd
  simpa [notColon] using (hhost.2 c List.mem_cons_self).1

/-- The port that is read. -/
theorem getPort_of_read (hhost : IsHost host) (hword : scheme.isWord = true)
    (hdigits : digitsOf (afterColon (host ++ (portPart port ++ restPart rest))) ≠ [])
    (hline : OneLine (afterColon (host ++ (portPart port ++ restPart rest)))) :
    getPort (addressOf scheme host port rest) =
      parseInt (digitsOf (afterColon (host ++ (portPart port ++ restPart rest)))) := by
  obtain ⟨hfirst, hne⟩ := host_append hhost (portPart port ++ restPart rest)
  rcases portTail_cases hfirst hne ((scheme.text ++ [':', '/', '/']).reverse) with
    ⟨_, _, y, hhead, hend, hgroup⟩ | ⟨hnot, _⟩
  · have hrun := run_port scheme (host ++ (portPart port ++ restPart rest))
    rw [if_pos hword] at hrun
    rw [← hrun] at hhead
    have hmatches : portRegex.matchesAll (addressOf scheme host port rest).toList = true := by
      rw [toList_addressOf]
      exact List.any_eq_true.2 ⟨y, List.mem_of_head? hhead, by rw [hend]; rfl⟩
    rw [getPort, if_pos hmatches, toList_addressOf, replaceFirst, find_of_head? hhead]
    show parseInt ([].reverse ++ y.group.getD [] ++ y.after) = _
    rw [hgroup, hend, List.append_nil]
    rfl
  · exact absurd ⟨hdigits, hline⟩ hnot

/-- The default port, where none is read. -/
theorem getPort_of_not_read (hhost : IsHost host) (hnot : ¬(scheme.isWord = true ∧
      digitsOf (afterColon (host ++ (portPart port ++ restPart rest))) ≠ [] ∧
      OneLine (afterColon (host ++ (portPart port ++ restPart rest))))) :
    getPort (addressOf scheme host port rest) = DEFAULT_PORT_BY_PROTOCOL scheme.type := by
  have hmatches : ¬ portRegex.matchesAll (addressOf scheme host port rest).toList = true := by
    rw [toList_addressOf, matchesAll, run_port]
    by_cases hword : scheme.isWord = true
    · obtain ⟨hfirst, hne⟩ := host_append hhost (portPart port ++ restPart rest)
      rcases portTail_cases hfirst hne ((scheme.text ++ [':', '/', '/']).reverse) with
        ⟨hdigits, hline, _⟩ | ⟨_, hnone⟩
      · exact absurd ⟨hword, hdigits, hline⟩ hnot
      · rw [if_pos hword, List.any_eq_true]
        rintro ⟨y, hy, hend⟩
        exact hnone y hy (List.isEmpty_iff.1 hend)
    · rw [if_neg hword]
      exact Bool.false_ne_true
  rw [getPort, if_neg hmatches, getType_addressOf]

/-! ## What follows the first colon -/

theorem notColon_host (hhost : IsHost host) : ∀ c ∈ host, notColon c = true := by
  intro c hc
  simpa [notColon] using (hhost.2 c hc).1

/-- It is the port where there is one. -/
theorem afterColon_some (hhost : IsHost host) (p : List Char) (rest : Option (List Char)) :
    afterColon (host ++ (portPart (some p) ++ restPart rest)) = p ++ restPart rest := by
  rw [afterColon, List.dropWhile_append_of_pos (notColon_host hhost)]
  rfl

/-- Else it is in what follows the host. -/
theorem afterColon_none (hhost : IsHost host) (rest : Option (List Char)) :
    afterColon (host ++ (portPart none ++ restPart rest)) = rest.elim [] afterColon := by
  rw [afterColon, List.dropWhile_append_of_pos (notColon_host hhost)]
  cases rest with
  | none => rfl
  | some r => rfl

theorem digitsOf_port {p : List Char} (hp : IsPort p) (rest : Option (List Char)) :
    digitsOf (p ++ restPart rest) = p := by
  rw [digitsOf, List.takeWhile_append_of_pos hp.2.1]
  cases rest with
  | none => exact List.append_nil p
  | some r => exact List.append_nil p

/-! ## The address as a whole -/

theorem oneLine_port {p : List Char} (hp : IsPort p) (hline : ∀ r ∈ rest, OneLine r) :
    OneLine (p ++ restPart rest) := by
  intro c hc
  rcases List.mem_append.1 hc with hport | hrest
  · -- a digit
    by_contra hterminator
    obtain ⟨hdigit, _⟩ := classes_of_isLineTerminator (by simpa using hterminator)
    rw [hp.2.1 c hport] at hdigit
    cases hdigit
  · cases rest with
    | none => cases hrest
    | some r =>
      rcases List.mem_cons.1 hrest with rfl | hmem
      · rfl
      · exact hline r rfl c hmem

theorem parseInt_eq_default_iff (digits : List Char) :
    parseInt digits = DEFAULT_PORT_BY_PROTOCOL scheme.type ↔
      DEFAULT_PORT_BY_PROTOCOL scheme.type = .ok (decimal digits) := by
  unfold parseInt
  by_cases hlt : decimal digits < 2 ^ 31
  · rw [if_pos hlt, eq_comm]
  · rw [if_neg hlt]
    have hbig : ∀ n : ℤ, n < 2 ^ 31 →
        ¬ (Except.ok n : Except JavaException ℤ) = .ok (decimal digits : ℤ) := by
      intro n hn heq
      cases heq
      omega
    cases scheme
    · exact iff_of_false (fun h => nomatch h) (hbig 22000 (by norm_num))
    · exact iff_of_false (fun h => nomatch h) (hbig 22067 (by norm_num))
    · exact iff_of_false (fun h => nomatch h) (hbig 80 (by norm_num))
    · exact iff_of_false (fun h => nomatch h) (hbig 443 (by norm_num))

/-- A port that is given is returned where the scheme is a word, and
otherwise where it is the default. -/
theorem getPort_some_iff {p : List Char} (hhost : IsHost host) (hp : IsPort p)
    (hline : ∀ r ∈ rest, OneLine r) :
    getPort (addressOf scheme host (some p) rest) = .ok (decimal p) ↔
      scheme.isWord = true ∨ DEFAULT_PORT_BY_PROTOCOL scheme.type = .ok (decimal p) := by
  have hafter := afterColon_some hhost p rest
  by_cases hword : scheme.isWord = true
  · have hdigits : digitsOf (afterColon (host ++ (portPart (some p) ++ restPart rest))) ≠ [] := by
      rw [hafter, digitsOf_port hp]
      exact hp.1
    have hbound := hp.2.2
    rw [getPort_of_read hhost hword hdigits (by rw [hafter]; exact oneLine_port hp hline), hafter,
      digitsOf_port hp, parseInt, if_pos (by omega)]
    exact iff_of_true rfl (.inl hword)
  · rw [getPort_of_not_read hhost fun h => hword h.1]
    exact ⟨.inr, fun h => h.resolve_left hword⟩

/-- Without one the default is, unless a number in what follows the host
is taken for the port. -/
theorem getPort_none_iff (hhost : IsHost host) (hline : ∀ r ∈ rest, OneLine r) :
    getPort (addressOf scheme host none rest) = DEFAULT_PORT_BY_PROTOCOL scheme.type ↔
      (scheme.isWord = true → ∀ r ∈ rest, digitsOf (afterColon r) = [] ∨
        DEFAULT_PORT_BY_PROTOCOL scheme.type = .ok (decimal (digitsOf (afterColon r)))) := by
  have hafter := afterColon_none hhost rest
  cases rest with
  | none =>
    rw [getPort_of_not_read hhost fun h => h.2.1 (by rw [hafter]; rfl)]
    exact iff_of_true rfl fun _ _ hr => (nomatch hr)
  | some r =>
    by_cases hread : scheme.isWord = true ∧ digitsOf (afterColon r) ≠ []
    · have hone : OneLine (afterColon r) := fun c hc =>
        hline r rfl c ((List.dropWhile_suffix notColon).subset (List.mem_of_mem_drop hc))
      rw [getPort_of_read hhost hread.1 (by rw [hafter]; exact hread.2)
        (by rw [hafter]; exact hone), hafter]
      show parseInt (digitsOf (afterColon r)) = _ ↔ _
      rw [parseInt_eq_default_iff]
      constructor
      · rintro hdefault _ _ ⟨⟩
        exact .inr hdefault
      · intro h
        exact (h hread.1 r rfl).resolve_left hread.2
    · rw [getPort_of_not_read hhost fun h => hread ⟨h.1, by rw [hafter] at h; exact h.2.1⟩]
      refine iff_of_true rfl ?_
      rintro hword _ ⟨⟩
      exact .inl (by_contra fun hdigits => hread ⟨hword, hdigits⟩)

/-- The port an address of a type should have. -/
def portOf (type : AddressType) (port : Option (List Char)) : Except JavaException ℤ :=
  port.elim (DEFAULT_PORT_BY_PROTOCOL type) fun p => .ok (decimal p)

/-- **Which addresses are read as they were put together**: what follows
the host is on one line; a port is given only with a scheme that is one
word, or is the default; and where none is given with such a scheme, no
number follows the first colon after the host, or it is the default. -/
def ReadsRight (scheme : Scheme) (port rest : Option (List Char)) : Prop :=
  (∀ r ∈ rest, OneLine r) ∧
  (∀ p ∈ port, scheme.isWord = true ∨ DEFAULT_PORT_BY_PROTOCOL scheme.type = .ok (decimal p)) ∧
  (port = none → scheme.isWord = true → ∀ r ∈ rest, digitsOf (afterColon r) = [] ∨
    DEFAULT_PORT_BY_PROTOCOL scheme.type = .ok (decimal (digitsOf (afterColon r))))

theorem getPort_addressOf_iff (hhost : IsHost host) (hport : ∀ p ∈ port, IsPort p)
    (hline : ∀ r ∈ rest, OneLine r) :
    getPort (addressOf scheme host port rest) = portOf scheme.type port ↔
      ReadsRight scheme port rest := by
  cases port with
  | none =>
    rw [portOf, Option.elim_none, getPort_none_iff hhost hline]
    exact ⟨fun h => ⟨hline, fun _ hp => (nomatch hp), fun _ => h⟩, fun h => h.2.2 rfl⟩
  | some p =>
    rw [portOf, Option.elim_some, getPort_some_iff hhost (hport p rfl) hline]
    constructor
    · intro h
      refine ⟨hline, ?_, fun hnone => (nomatch hnone)⟩
      rintro _ ⟨⟩
      exact h
    · intro h
      exact h.2.1 p rfl

/-- **Taking an address apart.** The type is that of the scheme, and the
port and the host are those the address was put together from exactly
where `ReadsRight` says so. -/
theorem split_iff (scheme : Scheme) {host : List Char} {port rest : Option (List Char)}
    (hhost : IsHost host) (hport : ∀ p ∈ port, IsPort p) :
    getType (addressOf scheme host port rest) = scheme.type ∧
      ((getPort (addressOf scheme host port rest) =
            portOf (getType (addressOf scheme host port rest)) port ∧
          inetName (addressOf scheme host port rest) = String.ofList host) ↔
        ReadsRight scheme port rest) := by
  refine ⟨getType_addressOf scheme host port rest, ?_⟩
  rw [getType_addressOf, inetName_addressOf_iff hhost hport]
  constructor
  · rintro ⟨hread, hline⟩
    exact (getPort_addressOf_iff hhost hport hline).1 hread
  · intro h
    exact ⟨(getPort_addressOf_iff hhost hport h.1).2 h, h.1⟩

theorem Sample.isHost : IsHost "host".toList := by
  have hall : ("host".toList.all fun c => decide (c ≠ ':' ∧ c ≠ '/' ∧ c ≠ '?')) = true := rfl
  exact ⟨List.cons_ne_nil _ _, fun c hc => of_decide_eq_true (List.all_eq_true.1 hall c hc)⟩

theorem Sample.isPort : IsPort "8080".toList :=
  ⟨List.cons_ne_nil _ _, List.all_eq_true.1 rfl, by decide⟩

/-- An address with a port and a query. -/
theorem split_iff_sample : ReadsRight .tcp (some "8080".toList) (some "?id=a:1".toList) :=
  ((split_iff .tcp Sample.isHost (by rintro _ ⟨⟩; exact Sample.isPort)).2).1
    ⟨by decide +kernel, by decide +kernel⟩

/-- **Addresses that are misread**: a relay behind HTTP with a port, a
number in a query, and a text of two lines. -/
theorem addresses_are_misread : IsHost "host".toList ∧ IsPort "8080".toList ∧
    getPort (addressOf .relayHttp "host".toList (some "8080".toList) none) = .ok 80 ∧
    getPort (addressOf .tcp "host".toList none (some "?id=a:8080".toList)) = .ok 8080 ∧
    DEFAULT_PORT_BY_PROTOCOL .TCP = .ok 22000 ∧
    inetName (addressOf .tcp "host".toList (some "8080".toList) (some "\n".toList)) = "host\n" :=
  ⟨Sample.isHost, Sample.isPort, by decide +kernel⟩

/-- **A connection goes where the address says**: the socket address has
what the host resolves to, and the port. -/
theorem getSocketAddress_addressOf {α : Type} {getByName : String → Option α} {inetAddress : α}
    (hhost : IsHost host) (hport : ∀ p ∈ port, IsPort p) (hright : ReadsRight scheme port rest)
    (hname : getByName (String.ofList host) = some inetAddress) :
    getSocketAddress getByName (addressOf scheme host port rest) =
      (portOf scheme.type port).map fun n => (inetAddress, n) := by
  have hinet : getInetAddress getByName (addressOf scheme host port rest) = .ok inetAddress := by
    rw [getInetAddress, (inetName_addressOf_iff hhost hport).2 hright.1, hname]
  have hrange : ∃ n, portOf scheme.type port = .ok n ∧ 0 ≤ n ∧ n ≤ 65535 := by
    cases port with
    | some p =>
      have hbound := (hport p rfl).2.2
      exact ⟨decimal p, rfl, by omega, by omega⟩
    | none =>
      cases scheme
      · exact ⟨22000, rfl, by norm_num⟩
      · exact ⟨22067, rfl, by norm_num⟩
      · exact ⟨80, rfl, by norm_num⟩
      · exact ⟨443, rfl, by norm_num⟩
  obtain ⟨n, hn, hlo, hhi⟩ := hrange
  have hread := (getPort_addressOf_iff hhost hport hright.1).2 hright
  have hcheck : checkArgument (decide (0 ≤ n ∧ n ≤ 65535)) ("port out of range:" ++ toString n) =
      .ok () := if_pos (decide_eq_true ⟨hlo, hhi⟩)
  rw [getSocketAddress, hinet, hread, hn]
  show (do checkArgument _ _; return (inetAddress, n)) = _
  rw [hcheck]
  rfl

end Addresses

end Core

end ASync
