import Mathlib
import ASync.Common.Threads
import ASync.Core.Helpers.Beans
import ASync.Bep.Model.FileUpload
import ASync.Bep.Transfer
/-!
# One answer a request

The handler of a request reads the block, sends the answer, and then
submits a task to an executor that `close` shuts down; what is thrown in
between is caught by the handler, which answers once more. As long as no
handler submits its task after `close`, each sends one response: the
block where the request describes one, an error everywhere else
(`answered_once`).
-/

namespace ASync

namespace Bep

open ASync.Core BlockExchageProtos Wire

section FileUpload

variable [Guava] [FilenameUtils] {source : DataSource} {folder path : String}
variable {request : Request} {u u' : FileUpload} {es : List UploadEvent} {i : ℕ}
variable {phase : HandlerPhase} {sent : List Response} {thread : UploadThread}

/-! ## What a request describes -/

/-- The content in a range. -/
def DataSource.slice (source : DataSource) (offset size : ℤ) : Bytes :=
  (source.content.drop offset.toNat).take size.toNat

/-- The request is for a range of the content, with its hash. -/
def Describes (source : DataSource) (request : Request) : Prop :=
  0 ≤ request.offset ∧ 0 ≤ request.size ∧
    request.offset + request.size ≤ source.content.length ∧
    sha256 (source.slice request.offset request.size) = request.hash

instance (source : DataSource) (request : Request) : Decidable (Describes source request) :=
  inferInstanceAs (Decidable (_ ∧ _))

/-- The response a request should have. -/
def responseTo (source : DataSource) (request : Request) : Response :=
  if Describes source request then
    ⟨request.id, source.slice request.offset request.size, .NO_ERROR⟩
  else ⟨request.id, [], .GENERIC⟩

omit [Guava] [FilenameUtils] in
/-- `skipFully` within the stream. -/
theorem skipFully_eq {offset : ℤ} {stream : Bytes} (hpos : 0 ≤ offset)
    (hle : offset ≤ stream.length) : DataSource.skipFully offset stream =
      .ok (stream.drop offset.toNat) := by
  rw [DataSource.skipFully, if_neg (by omega), readFully, if_neg (by omega)]

omit [FilenameUtils] in
/-- **A block is read exactly for a request that describes one.** -/
theorem getBlock_cases [LawfulBase16] (source : DataSource) (request : Request) :
    (Describes source request ∧
      source.getBlock request.offset request.size (base16Encode request.hash) =
        .ok (source.slice request.offset request.size)) ∨
    (¬ Describes source request ∧
      ∃ ex, source.getBlock request.offset request.size (base16Encode request.hash) =
        .error ex) := by
  -- the five ways out, in the order the source meets them
  by_cases hsize : request.size < 0
  · refine .inr ⟨fun h => ?_, _, by rw [DataSource.getBlock, if_pos hsize]⟩
    have hpos := h.2.1
    omega
  by_cases hoffset : request.offset < 0
  · refine .inr ⟨fun h => ?_, _, by
      rw [DataSource.getBlock, if_neg hsize, DataSource.skipFully, if_pos hoffset]; rfl⟩
    have hpos := h.1
    omega
  by_cases hskip : (source.content.length : ℤ) < request.offset
  · refine .inr ⟨fun h => ?_, _, by
      rw [DataSource.getBlock, if_neg hsize, DataSource.skipFully, if_neg hoffset, readFully,
        if_pos (by omega)]; rfl⟩
    have hle := h.2.2.1
    omega
  -- from here on the stream can be skipped to the offset
  have hstream : DataSource.skipFully request.offset source.content =
      .ok (source.content.drop request.offset.toNat) :=
    skipFully_eq (not_lt.1 hoffset) (not_lt.1 hskip)
  have hlength : (source.content.drop request.offset.toNat).length =
      source.content.length - request.offset.toNat := List.length_drop
  by_cases hread : (source.content.length : ℤ) < request.offset + request.size
  · refine .inr ⟨fun h => ?_, _, by
      rw [DataSource.getBlock, if_neg hsize, hstream, except_ok_bind, DataSource.readBlock,
        readFully, if_pos (by omega)]; rfl⟩
    have hle := h.2.2.1
    omega
  have hblock : DataSource.readBlock request.size (source.content.drop request.offset.toNat) =
      .ok (source.slice request.offset request.size) := by
    rw [DataSource.readBlock, readFully, if_neg (by omega)]
    rfl
  have hget : source.getBlock request.offset request.size (base16Encode request.hash) =
      (do checkArgument (sha256Hex (source.slice request.offset request.size) =
            base16Encode request.hash) "block hash mismatch!"
          return source.slice request.offset request.size) := by
    rw [DataSource.getBlock, if_neg hsize, hstream, except_ok_bind, hblock, except_ok_bind]
  by_cases hhash : sha256 (source.slice request.offset request.size) = request.hash
  · refine .inl ⟨⟨not_lt.1 hoffset, not_lt.1 hsize, not_lt.1 hread, hhash⟩, ?_⟩
    have hhex : sha256Hex (source.slice request.offset request.size) =
        base16Encode request.hash := congrArg base16Encode hhash
    rw [hget, checkArgument, if_pos (decide_eq_true hhex)]
    rfl
  · refine .inr ⟨fun h => hhash h.2.2.2, .illegalArgument "block hash mismatch!", ?_⟩
    -- two hashes with one text in base 16 are one hash
    have hne : ¬ sha256Hex (source.slice request.offset request.size) =
        base16Encode request.hash := by
      intro heq
      have hdecode := congrArg base16Decode heq
      rw [sha256Hex, LawfulBase16.base16Decode_base16Encode,
        LawfulBase16.base16Decode_base16Encode] at hdecode
      exact hhash (Option.some.inj hdecode)
    rw [hget, checkArgument, if_neg (by simpa using hne)]
    rfl

/-! ## One handler -/

/-- What a handler has sent, by where it is. -/
def Sent (source : DataSource) (request : Request) (sent : List Response) : HandlerPhase → Prop
  | .delivered => sent = []
  | .answered => Describes source request ∧ sent = [responseTo source request]
  | .caught _ => ¬ Describes source request ∧ sent = []
  | _ => sent = [responseTo source request]

/-- What a thread has sent, if it is the handler of a request. -/
def ThreadSent (source : DataSource) : UploadThread → Prop
  | .handler request phase sent => Sent source request sent phase
  | _ => True

/-- The request a thread handles. -/
def UploadThread.request? : UploadThread → Option Request
  | .handler request _ _ => some request
  | _ => none

/-- The requests handled, in the order of their delivery. -/
def FileUpload.handled (u : FileUpload) : List Request := u.threads.filterMap UploadThread.request?

/-- The requests delivered for the file. -/
def requestsOf (folder path : String) (es : List UploadEvent) : List Request :=
  es.filterMap fun
    | .deliver request =>
      if request.folder = folder ∧ request.name = path then some request else none
    | _ => none

/-- How many steps a handler is from its end. -/
def HandlerPhase.remaining : HandlerPhase → ℕ
  | .delivered => 5
  | .answered => 4
  | .caught _ => 3
  | .refused _ => 2
  | .notifying => 1
  | .finished => 0

/-- The steps allowed: no handler submits its task to the executor after
it was shut down, none fails for want of memory, and the connection sends
what the handlers hand it. -/
def mayStep (u : FileUpload) : UploadEvent → Bool
  | .run i failure =>
    match u.threads[i]? with
    | some (.handler _ phase _) =>
      decide (failure = none) && !(decide (phase = .answered) && u.isShutdown)
    | _ => true
  | .outOfMemory _ => false
  | _ => true

/-- **A handler that has not ended has a step**, which brings it nearer
to its end and keeps what it has to have sent. -/
theorem exists_handlerStep [LawfulBase16] (source : DataSource) (request : Request)
    (sent : List Response) (u : FileUpload) (i : ℕ) (hphase : phase ≠ .finished) :
    ∃ u' phase' sent' more, u.handlerStep source i none request sent phase = some u' ∧
      u'.threads = u.threads.set i (.handler request phase' sent') ++ more ∧
      (∀ thread ∈ more, thread.request? = none) ∧ phase'.remaining < phase.remaining ∧
      (Sent source request sent phase → (phase = .answered → u.isShutdown = false) →
        Sent source request sent' phase') := by
  cases phase with
  | delivered =>
    rcases getBlock_cases source request with ⟨hdescribes, hget⟩ | ⟨hnot, ex, hget⟩
    · refine ⟨u.setThread i (.handler request .answered (sent ++
          [⟨request.id, source.slice request.offset request.size, .NO_ERROR⟩])), .answered, _, [],
        by simp only [FileUpload.handlerStep, hget], (List.append_nil _).symm, nofun, by decide,
        fun hsent _ => ⟨hdescribes, ?_⟩⟩
      rw [show sent = [] from hsent, responseTo, if_pos hdescribes, List.nil_append]
    · exact ⟨u.setThread i (.handler request (.caught ex) sent), .caught ex, sent, [],
        by simp only [FileUpload.handlerStep, hget], (List.append_nil _).symm, nofun,
        by simp only [HandlerPhase.remaining]; omega, fun hsent _ => ⟨hnot, hsent⟩⟩
  | answered =>
    by_cases hshut : u.isShutdown = true
    · -- the executor refuses the task, and the `catch` is next
      refine ⟨_, .caught _, _, [], by rw [FileUpload.handlerStep, if_pos hshut],
        (List.append_nil _).symm, nofun, by simp only [HandlerPhase.remaining]; omega,
        fun _ hopen => ?_⟩
      rw [hopen rfl] at hshut
      cases hshut
    · refine ⟨_, .finished, _, [.task (base16Encode request.hash) .getting],
        by rw [FileUpload.handlerStep, if_neg hshut], rfl, ?_, by decide, fun hsent _ => hsent.2⟩
      intro thread hthread
      rw [List.mem_singleton.1 hthread]
      rfl
  | caught ex =>
    refine ⟨_, .refused ex, _, [], rfl, (List.append_nil _).symm, nofun,
      by simp only [HandlerPhase.remaining]; omega, fun hsent _ => ?_⟩
    obtain ⟨hnot, hnil⟩ := hsent
    show sent ++ [_] = [responseTo source request]
    rw [hnil, responseTo, if_neg hnot, List.nil_append]
  | refused ex =>
    exact ⟨_, .notifying, sent, [], rfl, (List.append_nil _).symm, nofun,
      by simp only [HandlerPhase.remaining]; omega, fun hsent _ => hsent⟩
  | notifying =>
    exact ⟨_, .finished, sent, [], rfl, (List.append_nil _).symm, nofun, by decide,
      fun hsent _ => hsent⟩
  | finished => exact absurd rfl hphase

/-! ## The other steps -/

omit [Guava] in
theorem threads_taskStep {failure : Option JavaException} {hash : String} {phase : TaskPhase}
    (h : u.taskStep i failure hash phase = some u') :
    ∃ phase', u'.threads = u.threads.set i (.task hash phase') := by
  cases phase with
  | getting =>
    cases failure with
    | none =>
      cases h
      exact ⟨_, rfl⟩
    | some ex =>
      cases h
      exact ⟨_, rfl⟩
  | notifying =>
    cases h
    exact ⟨_, rfl⟩
  | finished => cases h

theorem threads_listenerStep {newRecords : List Core.FileInfo} {notifying : Bool}
    (h : u.listenerStep source path i newRecords notifying = some u') :
    ∃ rest notifying', u'.threads = u.threads.set i (.indexListener rest notifying') := by
  cases notifying with
  | true =>
    cases newRecords <;> cases h <;> exact ⟨_, _, rfl⟩
  | false =>
    cases newRecords with
    | nil => cases h
    | cons fileInfo newRecords =>
      rw [FileUpload.listenerStep] at h
      split at h
      · cases h
        exact ⟨_, _, rfl⟩
      · cases h
        exact ⟨_, _, rfl⟩

omit [Guava] in
theorem threads_waiterStep (h : u.waiterStep = some u') : u'.threads = u.threads := by
  unfold FileUpload.waiterStep at h
  split at h
  · cases h
    rfl
  · cases h
    rfl
  · cases h
    rfl
  · split at h
    · cases h
      rfl
    · cases h
      rfl
  · cases h

/-! ## The run -/

/-- What a run keeps: each delivered request has its handler, and each
handler has sent what it has to have sent. -/
structure Answering (source : DataSource) (folder path : String) (es : List UploadEvent)
    (u : FileUpload) : Prop where
  handled : u.handled = requestsOf folder path es
  sent : ∀ thread ∈ u.threads, ThreadSent source thread

omit [Guava] in
theorem requestsOf_append (folder path : String) (es more : List UploadEvent) :
    requestsOf folder path (es ++ more) =
      requestsOf folder path es ++ requestsOf folder path more := List.filterMap_append

/-- A step that starts a thread or none, and moves none. -/
theorem Answering.add {e : UploadEvent} {more : List UploadThread}
    (h : Answering source folder path es u) (hthreads : u'.threads = u.threads ++ more)
    (hmore : more.filterMap UploadThread.request? = requestsOf folder path [e])
    (hsent : ∀ thread ∈ more, ThreadSent source thread) :
    Answering source folder path (es ++ [e]) u' := by
  refine ⟨?_, ?_⟩
  · rw [requestsOf_append, ← h.handled, ← hmore, FileUpload.handled, hthreads,
      List.filterMap_append, FileUpload.handled]
  · intro thread hthread
    rw [hthreads] at hthread
    rcases List.mem_append.1 hthread with hold | hnew
    · exact h.sent thread hold
    · exact hsent thread hnew

/-- A step that leaves the threads as they are. -/
theorem Answering.keep {e : UploadEvent} (h : Answering source folder path es u)
    (hthreads : u'.threads = u.threads) (he : requestsOf folder path [e] = []) :
    Answering source folder path (es ++ [e]) u' := by
  have hnone : u'.threads = u.threads ++ [] := hthreads.trans (List.append_nil _).symm
  exact h.add hnone he.symm nofun

/-- A step that moves a thread. -/
theorem Answering.move {e : UploadEvent} {moved : UploadThread} {more : List UploadThread}
    (h : Answering source folder path es u) (hi : u.threads[i]? = some thread)
    (hthreads : u'.threads = u.threads.set i moved ++ more)
    (hrequest : moved.request? = thread.request?) (hsent : ThreadSent source moved)
    (hmore : ∀ thread ∈ more, thread.request? = none) (he : requestsOf folder path [e] = []) :
    Answering source folder path (es ++ [e]) u' := by
  have hmoved : Answering source folder path es (u.setThread i moved) := by
    refine ⟨?_, Threads.forall_mem_set h.sent hsent⟩
    exact (Threads.filterMap_set hi hrequest).trans h.handled
  refine hmoved.add hthreads ?_ ?_
  · rw [he, List.filterMap_eq_nil_iff]
    exact hmore
  · intro thread hthread
    have hnone := hmore thread hthread
    cases thread with
    | handler => cases hnone
    | task => trivial
    | indexListener => trivial

omit [Guava] in
theorem mayStep_handler {failure : Option JavaException}
    (hi : u.threads[i]? = some (.handler request phase sent))
    (hok : mayStep u (.run i failure) = true) :
    failure = none ∧ (phase = .answered → u.isShutdown = false) := by
  simp only [mayStep, hi, Bool.and_eq_true, decide_eq_true_eq, Bool.not_eq_true',
    Bool.and_eq_false_iff, decide_eq_false_iff_not] at hok
  refine ⟨hok.1, ?_⟩
  intro hphase
  exact hok.2.resolve_left (not_not.2 hphase)

/-- **Every run keeps it.** -/
theorem answering_of_run [LawfulBase16]
    (hrun : (FileUpload.uploads source folder path).Run (fun _ u e => mayStep u e = true) es u) :
    Answering source folder path es u := by
  refine hrun.invariant ?_ ?_
  · rintro u rfl
    exact ⟨rfl, nofun⟩
  · intro es u e u' _ h hok hstep
    change FileUpload.step source folder path u e = some u' at hstep
    cases e with
    | deliver request =>
      rw [FileUpload.step] at hstep
      split at hstep
      · next hfile =>
        cases hstep
        refine h.add rfl ?_ ?_
        · simp only [requestsOf, List.filterMap_cons, List.filterMap_nil, if_pos hfile,
            UploadThread.request?]
        · intro thread hthread
          rw [List.mem_singleton.1 hthread]
          exact rfl
      · next hfile =>
        cases hstep
        refine h.keep rfl ?_
        simp only [requestsOf, List.filterMap_cons, List.filterMap_nil, if_neg hfile]
    | indexRecordAquired eventFolder newRecords =>
      rw [FileUpload.step] at hstep
      split at hstep
      · cases hstep
        refine h.add rfl rfl ?_
        intro thread hthread
        rw [List.mem_singleton.1 hthread]
        trivial
      · cases hstep
        exact h.keep rfl rfl
    | shutdown =>
      cases hstep
      exact h.keep rfl rfl
    | wait =>
      exact h.keep (threads_waiterStep hstep) rfl
    | outOfMemory i => cases hok
    | run i failure =>
      obtain ⟨thread, hi, hstep⟩ := Option.bind_eq_some_iff.1 hstep
      cases thread with
      | task hash phase =>
        obtain ⟨phase', hthreads⟩ := threads_taskStep hstep
        exact h.move hi (hthreads.trans (List.append_nil _).symm) rfl trivial nofun rfl
      | indexListener newRecords notifying =>
        obtain ⟨rest, notifying', hthreads⟩ := threads_listenerStep hstep
        exact h.move hi (hthreads.trans (List.append_nil _).symm) rfl trivial nofun rfl
      | handler request phase sent =>
        -- the handler meets no failure, and its task is not refused after `close`
        obtain ⟨rfl, hshut⟩ := mayStep_handler hi hok
        have hphase : phase ≠ .finished := by
          rintro rfl
          cases hstep
        obtain ⟨u'', phase', sent', more, heq, hthreads, hmore, _, hsent⟩ :=
          exists_handlerStep source request sent u i hphase
        obtain rfl : u'' = u' := Option.some.inj (heq.symm.trans hstep)
        exact h.move hi hthreads rfl
          (hsent (h.sent _ (List.mem_of_getElem? hi)) hshut) hmore rfl

/-- **One answer a request.** In every run in which no handler submits
its task after `close`, each delivered request has its handler; a handler
that has ended has sent the one response its request should have, one
that has not has sent that or nothing yet, and runs on to its end. -/
theorem answered_once [LawfulBase16] (source : DataSource) (folder path : String)
    {es : List UploadEvent} {u : FileUpload}
    (hrun : (FileUpload.uploads source folder path).Run (fun _ u e => mayStep u e = true) es u) :
    u.handled = requestsOf folder path es ∧
      ∀ i request phase sent, u.threads[i]? = some (.handler request phase sent) →
        (sent = [] ∨ sent = [responseTo source request]) ∧
        (phase = .finished → sent = [responseTo source request]) ∧
        (phase ≠ .finished → ∃ u' phase' sent',
          FileUpload.step source folder path u (.run i none) = some u' ∧
            u'.threads[i]? = some (.handler request phase' sent') ∧
            phase'.remaining < phase.remaining) := by
  have h := answering_of_run hrun
  refine ⟨h.handled, ?_⟩
  intro i request phase sent hi
  have hsent : Sent source request sent phase := h.sent _ (List.mem_of_getElem? hi)
  refine ⟨?_, ?_, ?_⟩
  · cases phase with
    | delivered => exact .inl hsent
    | answered => exact .inr hsent.2
    | caught ex => exact .inl hsent.2
    | refused ex => exact .inr hsent
    | notifying => exact .inr hsent
    | finished => exact .inr hsent
  · rintro rfl
    exact hsent
  · intro hphase
    obtain ⟨u', phase', sent', more, heq, hthreads, _, hlt, _⟩ :=
      exists_handlerStep source request sent u i hphase
    obtain ⟨hlength, _⟩ := List.getElem?_eq_some_iff.1 hi
    refine ⟨u', phase', sent', ?_, ?_, hlt⟩
    · rw [FileUpload.step, hi]
      exact heq
    · rw [hthreads, List.getElem?_append_left (by rwa [List.length_set]),
        List.getElem?_set_self hlength]

end FileUpload

section Sample

attribute [local instance] Sample.guavaOfLetters Sample.lawfulBase16OfLetters
attribute [local instance] Sample.filenameUtils

/-- A request for the first byte of the file `ab`. -/
def Sample.firstRequest : Request where
  id := 7
  folder := "default"
  name := "f"
  offset := 0
  size := 1
  hash := Sample.digestOfA

/-- One for two bytes from the last one on. -/
def Sample.longRequest : Request := { Sample.firstRequest with id := 8, offset := 1, size := 2 }

/-- Both are handled, and `close` comes when neither has a task to
submit. -/
def Sample.answeredEvents : List UploadEvent :=
  [.deliver Sample.firstRequest, .deliver Sample.longRequest, .run 0 none, .run 1 none, .run 0 none,
    .shutdown, .run 1 none, .run 1 none, .run 1 none]

theorem answered_once_sample : ∃ u : FileUpload,
    u.handled = requestsOf "default" "f" Sample.answeredEvents ∧
      ∀ i request phase sent, u.threads[i]? = some (.handler request phase sent) →
        (sent = [] ∨ sent = [responseTo sampleSource request]) ∧
        (phase = .finished → sent = [responseTo sampleSource request]) ∧
        (phase ≠ .finished → ∃ u' phase' sent',
          FileUpload.step sampleSource "default" "f" u (.run i none) = some u' ∧
            u'.threads[i]? = some (.handler request phase' sent') ∧
            phase'.remaining < phase.remaining) := by
  have hany : (Sample.answeredEvents.foldlM (fun u e => if mayStep u e then
      FileUpload.step sampleSource "default" "f" u e else none) {}).any
        (fun _ => true) = true := by decide +kernel
  obtain ⟨u, hsteps, _⟩ := Machine.exists_run_of_any hany
  exact ⟨u, answered_once sampleSource "default" "f" hsteps⟩

/-- `close` shuts the executor down between the answer and the task. -/
def Sample.shutEvents : List UploadEvent :=
  [.deliver Sample.firstRequest, .run 0 none, .shutdown, .run 0 none, .run 0 none, .run 0 none,
    .run 0 none]

/-- The request that was answered with its block is answered once more
with an error. -/
theorem answered_twice : ∃ u,
    (FileUpload.uploads sampleSource "default" "f").Reaches Sample.shutEvents u ∧
      u.threads[0]? = some (.handler Sample.firstRequest .finished
        [⟨7, [0x61], .NO_ERROR⟩, ⟨7, [], .GENERIC⟩]) := by
  have hany : (Sample.shutEvents.foldlM (fun u e => if (fun _ _ => true : FileUpload →
      UploadEvent → Bool) u e then FileUpload.step sampleSource "default" "f" u e else none) {}).any
        (fun u => decide (u.threads[0]? = some (.handler Sample.firstRequest .finished
          [⟨7, [0x61], .NO_ERROR⟩, ⟨7, [], .GENERIC⟩]))) = true := by decide +kernel
  obtain ⟨u, hsteps, hlast⟩ := Machine.exists_run_of_any hany
  exact ⟨u, hsteps.reaches, of_decide_eq_true hlast⟩

end Sample

end Bep

end ASync
