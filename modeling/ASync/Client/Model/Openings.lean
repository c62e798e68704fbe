import ASync.Common.Run
/-!
# Opening and closing connections

Many threads open connections at once, and any thread may close one: its
user, a thread the connection starts when its stream fails, the thread
that opened it, or one that closes the client. A call of `close` tests
whether the connection is closed and marks it in two steps, and posts the
closed event after that; the event takes the connection from the client's
list. `close` of the client goes through a copy of that list.
-/

namespace ASync

namespace Client

/-- Where a call of a connection's `close` is. -/
inductive Closing
  | testing
  | marking
  | posting
  deriving DecidableEq, Repr

/-- Where the call of `openConnection` is that made a handler. -/
inductive Opening
  | loadingKeystore
  | connecting
  | adding
  | checking
  /-- `connect` failed, and closes the handler. -/
  | failing (closing : Closing)
  /-- A folder was shared anew, and the handler is closed for another. -/
  | restarting (closing : Closing)
  | returned
  /-- `connect` threw before it made a socket. -/
  | refused
  | failed
  | restarted
  deriving DecidableEq, Repr

/-- A `BlockExchangeConnectionHandler`. -/
structure OpenedHandler where
  isClosed : Bool := false
  opening : Opening := .loadingKeystore
  /-- The closed event was posted before the handler was added to the list. -/
  late : Bool := false
  deriving DecidableEq, Repr

/-- A thread that closes. -/
inductive ClosingThread
  /-- A connection, by its number. -/
  | connection (id : ℕ) (closing : Closing)
  /-- The client: `remaining` is yet to be closed of the copy. The handlers
  that were added when the copy was made are `known`. -/
  | client (known remaining : List ℕ) (closing : Closing)
  deriving DecidableEq, Repr

/-- The handlers that were made, in order, and the client's list. -/
structure ClientConnections where
  handlers : List OpenedHandler := []
  connections : List ℕ := []
  threads : List ClosingThread := []
  deriving DecidableEq, Repr

/-- What one turn of a thread meets. -/
structure TurnOutcome where
  throws : Bool := false
  shouldRestartForNewFolder : Bool := false

inductive ConnectionEvent
  | openConnection
  /-- The thread that opens a handler takes a turn. -/
  | opening (id : ℕ) (outcome : TurnOutcome)
  /-- Some thread calls a connection's `close`. -/
  | close (id : ℕ)
  | closeClient
  /-- A thread that closes takes a turn. -/
  | closing (n : ℕ)

/-- The handler is, or was, in the client's list. -/
def Opening.isAdded : Opening → Bool
  | .checking | .restarting _ | .returned | .restarted => true
  | _ => false

namespace ClientConnections

variable (s : ClientConnections)

def setHandler (id : ℕ) (handler : OpenedHandler) : ClientConnections :=
  { s with handlers := s.handlers.set id handler }

/-- One step of a call of `close`, and the next of it. The closed event is
handled where it is posted. -/
def closeStep (id : ℕ) (handler : OpenedHandler) : Closing → ClientConnections × Option Closing
  | .testing => (s, if handler.isClosed then none else some .marking)
  | .marking => (s.setHandler id { handler with isClosed := true }, some .posting)
  | .posting =>
    ({ s.setHandler id { handler with late := handler.late || !handler.opening.isAdded } with
      connections := s.connections.erase id }, none)

/-- The thread that opened a handler is somewhere else with it. -/
def setOpening (id : ℕ) (opening : Opening) : ClientConnections :=
  { s with handlers := s.handlers.modify id fun handler => { handler with opening } }

def newHandler : ClientConnections := { s with handlers := s.handlers ++ [{}] }

/-- A turn of `openConnection`. -/
def openingStep (id : ℕ) (handler : OpenedHandler) (outcome : TurnOutcome) :
    Option ClientConnections :=
  match handler.opening with
  | .loadingKeystore => some (s.setOpening id (if outcome.throws then .refused else .connecting))
  | .connecting => some (s.setOpening id (if outcome.throws then .failing .testing else .adding))
  | .adding => some { s.setOpening id .checking with connections := s.connections ++ [id] }
  | .checking =>
    some (s.setOpening id
      (if outcome.shouldRestartForNewFolder then .restarting .testing else .returned))
  | .failing closing =>
    match s.closeStep id handler closing with
    | (s, some next) => some (s.setOpening id (.failing next))
    | (s, none) => some (s.setOpening id .failed)
  | .restarting closing =>
    match s.closeStep id handler closing with
    | (s, some next) => some (s.setOpening id (.restarting next))
    | (s, none) => some (s.setOpening id .restarted).newHandler
  | .returned | .refused | .failed | .restarted => none

/-- A turn of a thread that closes. -/
def closingStep (n : ℕ) : ClosingThread → Option ClientConnections
  | .connection id closing => do
    let handler ← s.handlers[id]?
    match s.closeStep id handler closing with
    | (s, some next) => some { s with threads := s.threads.set n (.connection id next) }
    | (s, none) => some { s with threads := s.threads.eraseIdx n }
  | .client _ [] _ => none
  | .client known (id :: remaining) closing => do
    let handler ← s.handlers[id]?
    match s.closeStep id handler closing with
    | (s, some next) =>
      some { s with threads := s.threads.set n (.client known (id :: remaining) next) }
    | (s, none) => some { s with threads := s.threads.set n (.client known remaining .testing) }

/-- The handlers that are, or were, in the list. -/
def added : List ℕ :=
  (List.range s.handlers.length).filter fun id => s.handlers[id]?.any fun h => h.opening.isAdded

def step : ConnectionEvent → Option ClientConnections
  | .openConnection => some s.newHandler
  | .opening id outcome => do
    let handler ← s.handlers[id]?
    s.openingStep id handler outcome
  | .close id =>
    if id < s.handlers.length then some { s with threads := s.threads ++ [.connection id .testing] }
    else none
  | .closeClient =>
    some { s with threads := s.threads ++ [.client s.added s.connections .testing] }
  | .closing n => do
    let thread ← s.threads[n]?
    s.closingStep n thread

end ClientConnections

end Client

end ASync
