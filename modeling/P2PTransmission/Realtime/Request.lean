import P2PTransmission.Realtime.Cleanup

/-!
# HTTP requests and maintenance

The handlers of `http_api` that change a room, and `run_once` of the maintenance, cut at their await points like the
handlers of a socket. A request starts here once its body, its origin, its rate limit and its session are accepted:
what is refused before touches nothing.
-/

set_option autoImplicit false

namespace P2PTransmission

open Storage (RoomMutation)

/-! ## Requests -/

inductive RequestCall where
  | requestJoin (code : RoomCode) (requestId : RequestId) (expectedRevision : Option Nat)
  | decideJoin (code : RoomCode) (requestId : RequestId) (decision : JoinDecision) (expectedRevision : Option Nat)
  | leaveRoom (code : RoomCode) (expectedRevision : Option Nat)
  deriving DecidableEq

inductive RequestPoint where
  | start (call : RequestCall)
  | joinCommit (code : RoomCode) (requestId : RequestId) (expectedRevision : Option Nat) (now expiresAt : Nat)
  | announce (event : Broadcast)
  | leaveAnnounce (room : Room)
  | leaveDisconnect (room : Room) (cleanup : List Attachment)
  | answered
  deriving DecidableEq

def JoinDecision.wire : JoinDecision → JoinDecisionWire
  | .approve => .approved
  | .reject => .rejected

structure Request where
  session : Session
  point : RequestPoint
  deriving DecidableEq

namespace Request

variable (request : Request)

def goto (point : RequestPoint) : Request := { request with point }

def answer : Request := request.goto .answered

/-- The event of a join request, from the response of the service. -/
def joinRequested (room : Room) (requestId : RequestId) (joinRequest : RoomJoinRequestSnapshot) : Broadcast :=
  { roomId := room.id
    message := .joinRequested room.revision
      { requestId, sessionId := request.session.id, displayName := request.session.displayName.value
        expiresAtMs := joinRequest.expiresAt } }

/-- The event of a leave. -/
def left (room : Room) : Broadcast :=
  { roomId := room.id
    message := if room.state = .expired then .roomExpired room.revision
      else .peerOffline room.revision request.session.id }

def step (choice : Choice) (server : Server) : Option (Server × List Attachment × Request) :=
  match request.point with
  | .start (.requestJoin code requestId expectedRevision) =>
    -- `fault` also stands for an invite that is not valid
    match choice.now, server.findRoomByCode choice.fault code with
    | some now, .ok (some room) =>
      match request.session.ensureActive now, EpochMillis.checkedAdd now server.joinRequestTtl with
      | .ok (), .ok requestedExpiry =>
        some (server, [],
          request.goto (.joinCommit code requestId expectedRevision now (min requestedExpiry room.expiresAt)))
      | _, _ => some (server, [], request.answer)
    | _, _ => some (server, [], request.answer)
  | .joinCommit code requestId expectedRevision now expiresAt =>
    match server.applyRoomCommand choice.fault code expectedRevision
        (.requestJoin requestId request.session.id now expiresAt) with
    | (.error _, server) => some (server, [], request.answer)
    | (.ok mutation, server) =>
      match mutation.room.joinRequestSnapshots.find? fun joinRequest => joinRequest.requestId = requestId with
      | none => some (server, [], request.answer)
      | some joinRequest =>
        some (server, [], request.goto (.announce (request.joinRequested mutation.room requestId joinRequest)))
  | .start (.decideJoin code requestId decision expectedRevision) =>
    match choice.now with
    | none => some (server, [], request.answer)
    | some now =>
      match request.session.ensureActive now with
      | .error _ => some (server, [], request.answer)
      | .ok () =>
        match server.applyRoomCommand choice.fault code expectedRevision
            (.decideJoin request.session.id requestId decision now) with
        | (.error _, server) => some (server, [], request.answer)
        | (.ok mutation, server) =>
          let message := .joinDecided mutation.room.revision requestId decision.wire
          some (server, [], request.goto (.announce { roomId := mutation.room.id, message }))
  | .announce event =>
    (server.broadcast event.roomId event.message choice.order).map fun (evicted, server) =>
      (server, evicted, request.answer)
  | .start (.leaveRoom code expectedRevision) =>
    match choice.now with
    | none => some (server, [], request.answer)
    | some _ =>
      match server.applyRoomCommand choice.fault code expectedRevision (.leave request.session.id) with
      | (.error _, server) => some (server, [], request.answer)
      | (.ok mutation, server) => some (server, [], request.goto (.leaveAnnounce mutation.room))
  | .leaveAnnounce room =>
    (server.broadcast room.id (request.left room).message choice.order).map fun (evicted, server) =>
      (server, [], request.goto (.leaveDisconnect room evicted))
  | .leaveDisconnect room cleanup =>
    if room.state = .expired then
      (server.disconnectRoom room.id choice.order 4002 "room expired").map fun (disconnected, server) =>
        (server, cleanup ++ disconnected, request.answer)
    else
      let (disconnected, hub) :=
        server.hub.disconnectSession room.id request.session.id 4003 "room membership ended"
      some ({ server with hub }, cleanup ++ disconnected, request.answer)
  | .answered => none

end Request

/-! ## Maintenance -/

def MAINTENANCE_BATCH : Nat := 100

inductive Maintenance where
  | start
  | expireRooms (now : Nat) (due : List RoomCode) (mutations : List RoomMutation)
  | announceRooms (now : Nat) (mutations : List RoomMutation)
  | disconnectRoom (now : Nat) (room : Room) (cleanup : List Attachment) (mutations : List RoomMutation)
  | dueRequests (now : Nat)
  | expireRequests (now : Nat) (due : List Server.DueRequest) (mutations : List RoomMutation)
  | readSnapshots (now : Nat) (mutations : List RoomMutation)
  | announceSnapshot (now : Nat) (room : Room) (snapshot : RoomBootstrapResponse) (mutations : List RoomMutation)
  | expireSessions (now : Nat)
  | finished
  deriving DecidableEq

namespace Maintenance

def step (choice : Choice) (server : Server) : Maintenance → Option (Server × List Attachment × Maintenance)
  | .start =>
    match choice.now with
    | none => some (server, [], .finished)
    | some now =>
      if choice.fault then some (server, [], .finished)
      else some (server, [], .expireRooms now (server.dueRooms now MAINTENANCE_BATCH) [])
  | .expireRooms now [] mutations => some (server, [], .announceRooms now mutations)
  | .expireRooms now (code :: due) mutations =>
    match server.applyRoomCommand choice.fault code none (.expire now) with
    -- the error ends the pass, with the rooms that it has already expired
    | (.error _, server) => some (server, [], .finished)
    | (.ok mutation, server) =>
      some (server, [],
        .expireRooms now due (if mutation.outcome.changed then mutations ++ [mutation] else mutations))
  | .announceRooms now [] => some (server, [], .dueRequests now)
  | .announceRooms now (mutation :: mutations) =>
    (server.broadcast mutation.room.id (.roomExpired mutation.room.revision) choice.order).map
      fun (evicted, server) => (server, [], .disconnectRoom now mutation.room evicted mutations)
  | .disconnectRoom now room cleanup mutations =>
    (server.disconnectRoom room.id choice.order 4002 "room expired").map fun (disconnected, server) =>
      (server, cleanup ++ disconnected, .announceRooms now mutations)
  | .dueRequests now =>
    if choice.fault then some (server, [], .finished)
    else some (server, [], .expireRequests now (server.dueJoinRequests now MAINTENANCE_BATCH) [])
  | .expireRequests now [] mutations => some (server, [], .readSnapshots now mutations)
  | .expireRequests now (due :: rest) mutations =>
    match server.applyRoomCommand choice.fault due.code none (.expireJoinRequest due.requestId now) with
    | (.error _, server) => some (server, [], .finished)
    | (.ok mutation, server) =>
      some (server, [],
        .expireRequests now rest (if mutation.outcome.changed then mutations ++ [mutation] else mutations))
  | .readSnapshots now [] => some (server, [], .expireSessions now)
  | .readSnapshots now (mutation :: mutations) =>
    if choice.fault then some (server, [], .finished)
    else match server.sessions[mutation.room.owner]? with
      | none => some (server, [], .readSnapshots now mutations)
      | some owner =>
        match server.bootstrapRoom choice owner mutation.room.code with
        | .error _ => some (server, [], .readSnapshots now mutations)
        | .ok snapshot => some (server, [], .announceSnapshot now mutation.room snapshot mutations)
  | .announceSnapshot now room snapshot mutations =>
    (server.broadcast room.id (.roomSnapshot snapshot) choice.order).map fun (evicted, server) =>
      (server, evicted, .readSnapshots now mutations)
  | .expireSessions now =>
    some (if choice.fault then server else server.expireDueSessions now MAINTENANCE_BATCH, [], .finished)
  | .finished => none

end Maintenance

end P2PTransmission
