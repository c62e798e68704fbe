import ASync.Bep.Model.BlockPuller
import ASync.Bep.Model.DataSource
/-!
# The progress of a download

What a `FileDownloadObserver` says of how far its download is. Sizes of
collections and `BLOCK_SIZE` are of type `int`, and so are their sum and
product, which are widened to `long` when they are returned.
-/

namespace ASync

namespace Integer

/-- An `int`: an integer wrapped to 32 bits. -/
def wrap (x : ℤ) : ℤ := Int.bmod x (2 ^ 32)

end Integer

namespace Bep

namespace BlockPuller

def getReceivedData (p : BlockPuller) : ℤ :=
  Integer.wrap (Integer.wrap p.blocksByHash.keys.card * BLOCK_SIZE)

def getTotalData (p : BlockPuller) : ℤ :=
  Integer.wrap
    (Integer.wrap (Integer.wrap p.blocksByHash.keys.card + Integer.wrap p.missingHashes.card) *
      BLOCK_SIZE)

/-- The fraction, before it is rounded to a `double`. -/
def getProgress (p : BlockPuller) : ℚ :=
  if p.isCompleted then 1 else p.getReceivedData / p.getTotalData

end BlockPuller

end Bep

end ASync
