import ASync.Bep.Model.IndexMessageProcessor
/-!
# The cluster configuration of a connection

What `connect` tells the peer of its index of a folder: how much of it was
received, so that the peer need not send that again.
-/

namespace ASync

namespace Bep

open ASync.Core Repository BlockExchageProtos

variable [Guava] [FilenameUtils]

/-- The record of the peer in a folder, with what is known of its index
where there is an index handler. -/
def peerDevice (hasIndexHandler : Bool) (address folder : String) : HandlerM Device := do
  let id ← ofExcept (KeystoreHandler.deviceIdStringToHashData address)
  if hasIndexHandler then otherDevice id address folder else return ⟨id, none, none⟩

end Bep

end ASync
