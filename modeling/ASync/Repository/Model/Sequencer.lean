import Mathlib
import ASync.Common.Run
import ASync.Core.Model.Libraries
/-!
# The sequencer

The row of `index_sequence`, written when the database is made, and the
sequencer that counts it up. The sequencer reads the row when it is first
asked; its methods run one at a time. A statement the database fails does
nothing.
-/

namespace ASync

namespace Repository

/-- `Math.abs` of a `long`. -/
def mathAbs (a : Int64) : Int64 := if a < 0 then -a else a

/-- The row of `index_sequence`. -/
structure IndexSequence where
  indexId : Int64
  currentSequence : Int64
  deriving DecidableEq

/-- The row `initDb` inserts, of two random numbers. -/
def IndexSequence.init (indexId startingSequence : Int64) : IndexSequence where
  indexId := mathAbs indexId + 1
  currentSequence := mathAbs startingSequence + 1

/-- The fields of the sequencer, and the row they are read from. -/
structure IndexRepoSequencer where
  row : IndexSequence
  indexId : Option Int64 := none
  currentSequence : Option Int64 := none
  deriving DecidableEq

/-- The statements of the sequencer. -/
inductive SequencerStatement
  | select
  | update
  deriving DecidableEq

/-- A call on the sequencer. -/
abbrev SequencerM := EStateM JavaException IndexRepoSequencer

namespace IndexRepoSequencer

/-- A statement runs, unless it is the one that fails. -/
def execute (fault : Option SequencerStatement) (statement : SequencerStatement) :
    SequencerM Unit :=
  if fault = some statement then throw (.runtime "SQLException") else pure ()

def loadFromDb (fault : Option SequencerStatement) : SequencerM Unit := do
  execute fault .select
  modify fun s => { s with
    indexId := some s.row.indexId
    currentSequence := some s.row.currentSequence }

def getIndexId (fault : Option SequencerStatement) : SequencerM Int64 := do
  if (← get).indexId.isNone then loadFromDb fault
  ofExcept (checkNotNull (← get).indexId "")

def getCurrentSequence (fault : Option SequencerStatement) : SequencerM Int64 := do
  if (← get).currentSequence.isNone then loadFromDb fault
  ofExcept (checkNotNull (← get).currentSequence "")

def nextSequence (fault : Option SequencerStatement) : SequencerM Int64 := do
  let nextSequence := (← getCurrentSequence fault) + 1
  execute fault .update
  modify fun s => { s with row := { s.row with currentSequence := nextSequence } }
  modify fun s => { s with currentSequence := some nextSequence }
  return nextSequence

end IndexRepoSequencer

/-- A sequencer in use, and what its calls have returned. -/
structure Sequencing where
  sequencer : IndexRepoSequencer
  nextSequences : List Int64 := []
  indexIds : List Int64 := []

/-- A call, with the statement at which the database fails it, if it does. -/
inductive SequencerCall
  | nextSequence (fault : Option SequencerStatement)
  | currentSequence (fault : Option SequencerStatement)
  | indexId (fault : Option SequencerStatement)
  /-- The process ends, and another one opens the database. -/
  | restart

namespace Sequencing

def step (s : Sequencing) : SequencerCall → Sequencing
  | .nextSequence fault =>
    match (IndexRepoSequencer.nextSequence fault).run s.sequencer with
    | .ok value sequencer => { s with sequencer, nextSequences := s.nextSequences ++ [value] }
    | .error _ sequencer => { s with sequencer }
  | .currentSequence fault =>
    match (IndexRepoSequencer.getCurrentSequence fault).run s.sequencer with
    | .ok _ sequencer => { s with sequencer }
    | .error _ sequencer => { s with sequencer }
  | .indexId fault =>
    match (IndexRepoSequencer.getIndexId fault).run s.sequencer with
    | .ok value sequencer => { s with sequencer, indexIds := s.indexIds ++ [value] }
    | .error _ sequencer => { s with sequencer }
  | .restart => { s with sequencer := { row := s.sequencer.row } }

end Sequencing

/-- A database that was made of two random numbers, and the calls on its
sequencer. -/
def sequencing (indexId startingSequence : Int64) : Machine Sequencing SequencerCall :=
  Machine.ofStep { sequencer := { row := .init indexId startingSequence } }
    fun s call => some (s.step call)

end Repository

end ASync
