import P2PTransmission.Domain.Room

/-!
# Realtime messages

What the server puts into the queue of a connection. Protocol versions and event ids, which no code of the server or of
the reducers looks at, are left out.
-/

set_option autoImplicit false

namespace P2PTransmission

inductive ParticipantRoleWire where
  | owner
  | receiver
  deriving DecidableEq, Repr

structure ParticipantSnapshot where
  sessionId : SessionId
  displayName : String
  role : ParticipantRoleWire
  online : Bool
  peerId : Option PeerId
  deriving DecidableEq

structure JoinRequestSnapshot where
  requestId : RequestId
  sessionId : SessionId
  displayName : String
  expiresAtMs : Nat
  deriving DecidableEq

structure RoomBootstrapResponse where
  roomId : RoomId
  roomCode : RoomCode
  revision : Nat
  expiresAtMs : Nat
  participants : List ParticipantSnapshot
  pendingJoinRequests : List JoinRequestSnapshot
  deriving DecidableEq

inductive JoinDecisionWire where
  | approved
  | rejected
  deriving DecidableEq, Repr

inductive ServerRealtimeMessage where
  | attached (roomId : RoomId) (revision : Nat)
  | joinWatching (roomId : RoomId) (requestId : RequestId) (revision : Nat)
  | roomSnapshot (snapshot : RoomBootstrapResponse)
  | joinRequested (revision : Nat) (request : JoinRequestSnapshot)
  | joinDecided (revision : Nat) (requestId : RequestId) (decision : JoinDecisionWire)
  | peerOnline (revision : Nat) (sessionId : SessionId) (peerId : PeerId)
  | peerOffline (revision : Nat) (sessionId : SessionId)
  | roomExpired (revision : Nat)
  | error (code message : String) (retryable : Bool)
  | signal (fromPeerId : PeerId) (negotiationId : String) (signal : String)
  deriving DecidableEq

/-- The revision that a room event announces. -/
def ServerRealtimeMessage.eventRevision : ServerRealtimeMessage → Option Nat
  | .joinRequested revision _ | .joinDecided revision _ _ | .peerOnline revision _ _ | .peerOffline revision _
  | .roomExpired revision => some revision
  | .attached _ _ | .joinWatching _ _ _ | .roomSnapshot _ | .error _ _ _ | .signal _ _ _ => none

inductive Outbound where
  | message (message : ServerRealtimeMessage)
  | close (code : Nat) (reason : String)
  deriving DecidableEq

end P2PTransmission
