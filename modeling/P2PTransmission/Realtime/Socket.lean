import P2PTransmission.Realtime.Cleanup

/-!
# Sockets

`serve_socket` and the handlers of the client's messages, cut at their await points: a `SocketPoint` names the call that
the task makes next, with the values the rest of the handler needs, and `Socket.step` makes that call.
-/

set_option autoImplicit false

namespace P2PTransmission

open Storage (RoomMutation)

/-! ## Messages and errors -/

inductive ClientRealtimeMessage where
  | attachRoom (roomCode peerId : String) (lastRevision : Option Nat)
  | watchJoinRequest (roomCode requestId : String) (lastRevision : Option Nat)
  | detachRoom (roomCode : String)
  | signal (roomCode toPeerId negotiationId signal : String)
  | heartbeat
  | ackEvent
  deriving DecidableEq

/-- What the socket reads. -/
inductive Frame where
  | text (message : ClientRealtimeMessage)
  | invalidText
  | binary
  | ping
  deriving DecidableEq

def MAX_PROTOCOL_VIOLATIONS : Nat := 3

structure SocketCommandError where
  code : String
  message : String
  retryable : Bool
  fatal : Bool
  deriving DecidableEq

namespace SocketCommandError

def invalid : SocketCommandError :=
  { code := "invalid_message", message := "realtime message contains an invalid value", retryable := false
    fatal := false }

def forbidden : SocketCommandError :=
  { code := "signal_forbidden", message := "peer is not authorized for this realtime operation", retryable := false
    fatal := false }

def notFound : SocketCommandError :=
  { code := "room_not_found", message := "room does not exist", retryable := false, fatal := true }

def expired : SocketCommandError :=
  { code := "room_expired", message := "room has expired", retryable := false, fatal := true }

def unavailable : SocketCommandError :=
  { code := "realtime_unavailable", message := "realtime service is temporarily unavailable", retryable := true
    fatal := false }

def attachRequired : SocketCommandError :=
  { code := "attach_required", message := "connection must attach a room first", retryable := false, fatal := false }

def joinResolved : SocketCommandError :=
  { code := "join_request_resolved", message := "join request is no longer pending", retryable := false, fatal := true }

def rateLimited : SocketCommandError :=
  { code := "rate_limited", message := "signaling rate limit exceeded", retryable := true, fatal := false }

def slowConsumer : SocketCommandError :=
  { code := "slow_consumer", message := "realtime outbound queue is full", retryable := true, fatal := true }

def connectionClosed : SocketCommandError :=
  { code := "connection_closed", message := "realtime connection is no longer active", retryable := true, fatal := true }

/-- The errors that `serve_socket` itself sends; `last` says that the socket is closed after it. -/
def invalidText (last : Bool) : SocketCommandError :=
  { code := "invalid_message", message := "realtime message is invalid", retryable := false, fatal := last }

def binaryNotAllowed (last : Bool) : SocketCommandError :=
  { code := "binary_not_allowed", message := "realtime control messages must use JSON text frames", retryable := false
    fatal := last }

def firstMustAttach : SocketCommandError :=
  { code := "attach_required", message := "the first realtime message must attach a room", retryable := false
    fatal := true }

end SocketCommandError

def mapStorageError : StorageError → SocketCommandError
  | .roomNotFound => .notFound
  | .room .membershipNotFound | .room .membershipLeft | .room .unauthorized => .forbidden
  | .room .inactive | .room .requestExpired => .expired
  | _ => .unavailable

def mapHubError : HubError → SocketCommandError
  | .notAttached => .attachRequired
  | .targetNotFound | .cannotSignalSelf => .forbidden
  | .slowConsumer => .slowConsumer
  | .connectionNotFound => .connectionClosed

/-! ## Where a socket stands -/

/-- What `attach_room` knows once its command is committed. -/
structure Attaching where
  code : RoomCode
  peerId : PeerId
  lastRevision : Option Nat
  mutation : RoomMutation
  deriving DecidableEq

/-- What `watch_join_request` knows once it has read the status. -/
structure Watching where
  code : RoomCode
  requestId : RequestId
  lastRevision : Option Nat
  status : JoinRequestResponse
  deriving DecidableEq

structure Signalling where
  code : RoomCode
  toPeerId : PeerId
  negotiationId : String
  signal : String
  deriving DecidableEq

inductive SocketPoint where
  | listening
  | attachCommit (code : RoomCode) (peerId : PeerId) (lastRevision : Option Nat)
  | attachHub (attaching : Attaching)
  | attachSend (attaching : Attaching)
  | attachRead (attaching : Attaching)
  | attachSnapshot (attaching : Attaching) (snapshot : RoomBootstrapResponse)
  | attachAnnounce (attaching : Attaching)
  | watchStatus (code : RoomCode) (requestId : RequestId) (lastRevision : Option Nat)
  | watchRead (watching : Watching)
  | watchHub (watching : Watching) (snapshot : RoomBootstrapResponse)
  | watchSend (watching : Watching) (snapshot : RoomBootstrapResponse)
  | watchSnapshot (snapshot : RoomBootstrapResponse)
  | detachCheck (code : RoomCode)
  | detachHub
  | signalCheck (signalling : Signalling)
  | signalRoom (signalling : Signalling) (attachment : Attachment)
  | signalLimit (signalling : Signalling) (attachment : Attachment)
  | signalSend (signalling : Signalling) (attachment : Attachment)
  | failing (error : SocketCommandError)
  | closing
  | closed
  deriving DecidableEq

structure Socket where
  session : Session
  attached : Bool
  violations : Nat
  point : SocketPoint
  deriving DecidableEq

namespace Socket

/-- The socket of a session after the upgrade. -/
def opened (session : Session) : Socket := { session, attached := false, violations := 0, point := .listening }

variable (socket : Socket)

def goto (point : SocketPoint) : Socket := { socket with point }

def fail (error : SocketCommandError) : Socket := { socket with point := .failing error }

/-! ## Reading a message -/

def receiveMessage : ClientRealtimeMessage → Socket
  | .attachRoom roomCode peerId lastRevision =>
    match RoomCode.parse roomCode, Identifier.parse "peer id" peerId with
    | .ok code, .ok peerId => socket.goto (.attachCommit code peerId lastRevision)
    | _, _ => socket.fail .invalid
  | .watchJoinRequest roomCode requestId lastRevision =>
    match RoomCode.parse roomCode, Identifier.parse "request id" requestId with
    | .ok code, .ok requestId => socket.goto (.watchStatus code requestId lastRevision)
    | _, _ => socket.fail .invalid
  | .detachRoom roomCode =>
    match RoomCode.parse roomCode with
    | .ok code => socket.goto (.detachCheck code)
    | .error _ => socket.fail .invalid
  | .signal roomCode toPeerId negotiationId signal =>
    match RoomCode.parse roomCode, Identifier.parse "peer id" toPeerId with
    | .ok code, .ok toPeerId => socket.goto (.signalCheck { code, toPeerId, negotiationId, signal })
    | _, _ => socket.fail .invalid
  | .heartbeat | .ackEvent => socket

/-- The messages that a socket which is not attached may send. -/
def mayBeFirst : ClientRealtimeMessage → Bool
  | .attachRoom _ _ _ | .watchJoinRequest _ _ _ => true
  | .detachRoom _ | .signal _ _ _ _ | .heartbeat | .ackEvent => false

def violation (error : Bool → SocketCommandError) : Socket :=
  { socket with
    violations := socket.violations + 1
    point := .failing (error (MAX_PROTOCOL_VIOLATIONS ≤ socket.violations + 1)) }

def receive : Frame → Socket
  | .text message =>
    if !socket.attached && !mayBeFirst message then socket.fail .firstMustAttach else socket.receiveMessage message
  | .invalidText => socket.violation .invalidText
  | .binary => socket.violation .binaryNotAllowed
  | .ping => socket

/-! ## The handlers -/

/-- The end of a handler with `SocketAction::Attached`. -/
def finishAttached : Socket := { socket with attached := true, point := .listening }

/-- The rest of `attach_room` after the snapshot. -/
def announceAttached (attaching : Attaching) : Socket :=
  if attaching.mutation.outcome.changed then socket.goto (.attachAnnounce attaching) else socket.finishAttached

/-- Whether the sender and the target of a signal are online in the room as the hub has them. -/
def signalIsCurrent (room : Room) (signalling : Signalling) (attachment : Attachment) : Bool :=
  room.membershipState attachment.sessionId = some (.online attachment.peerId) ∧
    room.membershipSnapshots.any fun membership => membership.state = .online signalling.toPeerId

/-- The next call of the task of connection `c`, and the attachments it has to clean up before the one after. -/
def step (c : ConnectionId) (choice : Choice) (server : Server) : Option (Server × List Attachment × Socket) :=
  match socket.point with
  | .attachCommit code peerId lastRevision =>
    match choice.now with
    | none => some (server, [], socket.fail .unavailable)
    | some now =>
      match server.applyRoomCommand choice.fault code none (.attach socket.session.id peerId now) with
      | (.error error, server) => some (server, [], socket.fail (mapStorageError error))
      | (.ok mutation, server) => some (server, [], socket.goto (.attachHub { code, peerId, lastRevision, mutation }))
  | .attachHub attaching =>
    let roomId := attaching.mutation.room.id
    if choice.order.Perm (server.hub.attachConflicts c roomId attaching.peerId) then
      match server.hub.attach c roomId attaching.code attaching.peerId choice.order with
      | .error error => some (server, [], socket.fail (mapHubError error))
      | .ok (replaced, hub) => some ({ server with hub }, replaced, socket.goto (.attachSend attaching))
    else none
  | .attachSend attaching =>
    match server.hub.send c (.message (.attached attaching.mutation.room.id attaching.mutation.room.revision)) with
    | (.error error, hub) => some ({ server with hub }, [], socket.fail (mapHubError error))
    | (.ok (), hub) =>
      some ({ server with hub }, [],
        if attaching.lastRevision ≠ some attaching.mutation.room.revision then socket.goto (.attachRead attaching)
        else socket.announceAttached attaching)
  | .attachRead attaching =>
    match server.bootstrapRoom choice socket.session attaching.code with
    | .error _ => some (server, [], socket.fail .unavailable)
    | .ok snapshot => some (server, [], socket.goto (.attachSnapshot attaching snapshot))
  | .attachSnapshot attaching snapshot =>
    match server.hub.send c (.message (.roomSnapshot snapshot)) with
    | (.error error, hub) => some ({ server with hub }, [], socket.fail (mapHubError error))
    | (.ok (), hub) => some ({ server with hub }, [], socket.announceAttached attaching)
  | .attachAnnounce attaching =>
    (server.broadcast attaching.mutation.room.id
      (.peerOnline attaching.mutation.room.revision socket.session.id attaching.peerId) choice.order).map
      fun (evicted, server) => (server, evicted, socket.finishAttached)
  | .watchStatus code requestId lastRevision =>
    match server.joinRequestStatus choice socket.session code requestId with
    | .error _ => some (server, [], socket.fail .forbidden)
    | .ok status =>
      some (server, [],
        if status.state ≠ .pending then socket.fail .joinResolved
        else socket.goto (.watchRead { code, requestId, lastRevision, status }))
  | .watchRead watching =>
    match server.bootstrapRoom choice socket.session watching.code with
    | .error _ => some (server, [], socket.fail .unavailable)
    | .ok snapshot => some (server, [], socket.goto (.watchHub watching snapshot))
  | .watchHub watching snapshot =>
    match server.hub.watchJoin c watching.status.roomId with
    | .error error => some (server, [], socket.fail (mapHubError error))
    | .ok (replaced, hub) => some ({ server with hub }, replaced, socket.goto (.watchSend watching snapshot))
  | .watchSend watching snapshot =>
    match server.hub.send c
        (.message (.joinWatching watching.status.roomId watching.requestId watching.status.revision)) with
    | (.error error, hub) => some ({ server with hub }, [], socket.fail (mapHubError error))
    | (.ok (), hub) =>
      some ({ server with hub }, [],
        if watching.lastRevision ≠ some snapshot.revision then socket.goto (.watchSnapshot snapshot)
        else socket.finishAttached)
  | .watchSnapshot snapshot =>
    match server.hub.send c (.message (.roomSnapshot snapshot)) with
    | (.error error, hub) => some ({ server with hub }, [], socket.fail (mapHubError error))
    | (.ok (), hub) => some ({ server with hub }, [], socket.finishAttached)
  | .detachCheck code =>
    match server.hub.attachment c with
    | .error error => some (server, [], socket.fail (mapHubError error))
    | .ok current =>
      some (server, [], if current.roomCode ≠ code then socket.fail .forbidden else socket.goto .detachHub)
  | .detachHub =>
    match server.hub.detach c with
    | .error error => some (server, [], socket.fail (mapHubError error))
    | .ok (attachment, hub) =>
      some ({ server with hub }, attachment.toList, { socket with attached := false, point := .listening })
  | .signalCheck signalling =>
    match server.hub.attachment c with
    | .error error => some (server, [], socket.fail (mapHubError error))
    | .ok attachment =>
      some (server, [],
        if attachment.roomCode ≠ signalling.code ∨ attachment.peerId = signalling.toPeerId then socket.fail .forbidden
        else socket.goto (.signalRoom signalling attachment))
  | .signalRoom signalling attachment =>
    match server.findRoomByCode choice.fault signalling.code with
    | .error _ => some (server, [], socket.fail .unavailable)
    | .ok none => some (server, [], socket.fail .forbidden)
    | .ok (some room) =>
      some (server, [],
        if signalIsCurrent room signalling attachment then socket.goto (.signalLimit signalling attachment)
        else socket.fail .forbidden)
  | .signalLimit signalling attachment =>
    match choice.now with
    | none => some (server, [], socket.fail .unavailable)
    | some _ =>
      some (server, [],
        if choice.fault then socket.fail .rateLimited else socket.goto (.signalSend signalling attachment))
  | .signalSend signalling attachment =>
    match server.hub.sendToPeer c signalling.toPeerId
        (.signal attachment.peerId signalling.negotiationId signalling.signal) with
    | (.error error, hub) => some ({ server with hub }, [], socket.fail (mapHubError error))
    | (.ok (), hub) => some ({ server with hub }, [], socket.goto .listening)
  | .failing error =>
    -- `send_socket_error` does not look at what the hub answers
    let (_, hub) := server.hub.send c (.message (.error error.code error.message error.retryable))
    some ({ server with hub }, [], socket.goto (if error.fatal then .closing else .listening))
  | .closing =>
    let (attachment, hub) := server.hub.unregister c
    some ({ server with hub }, attachment.toList, socket.goto .closed)
  | .listening | .closed => none

end Socket

end P2PTransmission
