import ASync.Common.Effect
import ASync.Core.Model.Libraries
/-!
# The messages of the HTTP relay

The messages between a peer and the server of an HTTP relay, with the
fields read once a session is open.
-/

namespace ASync

namespace HttpRelay

namespace HttpRelayProtos

inductive HttpRelayPeerMessageType
  | CONNECT
  | PEER_TO_RELAY
  | WAIT_FOR_DATA
  | PEER_CLOSING
  deriving DecidableEq

inductive HttpRelayServerMessageType
  | PEER_CONNECTED
  | DATA_ACCEPTED
  | RELAY_TO_PEER
  | SERVER_CLOSING
  | ERROR
  deriving DecidableEq

structure HttpRelayPeerMessage where
  messageType : HttpRelayPeerMessageType
  sessionId : String
  sequence : ℤ := 0
  data : Bytes := []
  deriving DecidableEq

structure HttpRelayServerMessage where
  messageType : HttpRelayServerMessageType
  sequence : ℤ := 0
  data : Bytes := []
  deriving DecidableEq

end HttpRelayProtos

end HttpRelay

end ASync
