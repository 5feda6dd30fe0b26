import P2PTransmission.Realtime.Hub
import P2PTransmission.Storage.Store

/-!
# The server

The state that the handlers share: the stored rooms and sessions, and the hub. A transaction of the storage and an
operation of the hub are one step each. The rooms are kept as values here, one for each code; `Storage` relates
a value to its rows in the database.

`produced` and `broadcasts` record what happened: every revision with the command that produced it, and every message
given to a room.
-/

set_option autoImplicit false

namespace P2PTransmission

open Storage (RoomMutation)

structure Produced where
  roomId : RoomId
  revision : Nat
  command : RoomCommand
  deriving DecidableEq

structure Broadcast where
  roomId : RoomId
  message : ServerRealtimeMessage
  deriving DecidableEq

structure Server where
  joinRequestTtl : Nat
  rooms : BTreeMap RoomCode Room
  sessions : BTreeMap SessionId Session
  hub : HubState
  produced : List Produced
  broadcasts : List Broadcast
  deriving DecidableEq

/-- What a step meets: the clock, which may fail, a refusal by the storage or the rate limiter, and the order in which a
loop over a hash set takes its elements. -/
structure Choice where
  now : Option Nat
  fault : Bool
  order : List ConnectionId
  deriving DecidableEq

inductive ServiceError where
  | clock
  | unauthorized
  | forbidden
  | notFound
  | invariant (message : String)
  | time (error : TimeError)
  | session (error : SessionError)
  | storage (error : StorageError)
  deriving DecidableEq

structure JoinRequestResponse where
  roomId : RoomId
  requestId : RequestId
  state : JoinRequestState
  revision : Nat
  expiresAtMs : Nat
  deriving DecidableEq

namespace Server

variable (server : Server)

/-! ## Storage -/

/-- `apply_room_command`. A storage that fails leaves the rooms as they were. -/
def applyRoomCommand (fault : Bool) (code : RoomCode) (expectedRevision : Option Nat) (command : RoomCommand) :
    Except StorageError RoomMutation × Server :=
  if fault then (.error .database, server)
  else match server.rooms[code]? with
    | none => (.error .roomNotFound, server)
    | some loaded =>
      match expectedRevision.filter (· ≠ loaded.revision) with
      | some expected => (.error (.revisionConflict expected loaded.revision), server)
      | none =>
        match loaded.handle command with
        | (.error error, _) => (.error (.room error), server)
        | (.ok outcome, room) =>
          (.ok { room, outcome },
            if outcome.changed then
              { server with
                rooms := server.rooms.insert code room
                produced := { roomId := room.id, revision := room.revision, command } :: server.produced }
            else server)

def findRoomByCode (fault : Bool) (code : RoomCode) : Except StorageError (Option Room) :=
  if fault then .error .database else .ok server.rooms[code]?

/-- `SELECT … WHERE state = 'active' AND expires_at_ms <= ? ORDER BY expires_at_ms LIMIT ?` -/
def dueRooms (now limit : Nat) : List RoomCode :=
  ((((server.rooms.toList.map (·.2)).filter fun room => room.state = .active ∧ room.expiresAt ≤ now).insertionSort
    fun a b => a.expiresAt ≤ b.expiresAt).take limit).map (·.code)

structure DueRequest where
  code : RoomCode
  requestId : RequestId
  expiresAt : Nat
  deriving DecidableEq

def dueJoinRequests (now limit : Nat) : List DueRequest :=
  ((((server.rooms.toList.map (·.2)).filter fun room => room.state = .active ∧ now < room.expiresAt).flatMap fun room =>
    (room.joinRequestSnapshots.filter fun request => request.state = .pending ∧ request.expiresAt ≤ now).map fun request =>
      { code := room.code, requestId := request.requestId, expiresAt := request.expiresAt : DueRequest }).insertionSort
    fun a b => a.expiresAt ≤ b.expiresAt).take limit

def dueSessions (now limit : Nat) : List Session :=
  (((server.sessions.toList.map (·.2)).filter fun session => session.state = .active ∧ session.expiresAt ≤ now).insertionSort
    fun a b => a.expiresAt ≤ b.expiresAt).take limit

def expireDueSessions (now limit : Nat) : Server :=
  { server with
    sessions := (server.dueSessions now limit).foldl
      (fun sessions session => sessions.insert session.id { session with state := .expired }) server.sessions }

/-! ## Services -/

def authenticate (now : Nat) (sessionId : SessionId) : Except ServiceError Session :=
  match server.sessions[sessionId]? with
  | none => .error .unauthorized
  | some session =>
    match session.ensureActive now with
    | .ok () => .ok session
    | .error _ => .error .unauthorized

def participant (membership : RoomMembershipSnapshot) : Except ServiceError ParticipantSnapshot :=
  match server.sessions[membership.sessionId]? with
  | none => .error (.invariant "room member session missing")
  | some member => .ok
    { sessionId := member.id
      displayName := member.displayName.value
      role := match membership.role with
        | .owner => .owner
        | .receiver => .receiver
      online := match membership.state with
        | .online _ => true
        | .offline | .left => false
      peerId := match membership.state with
        | .online peerId => some peerId
        | .offline | .left => none }

def pendingRequest (request : RoomJoinRequestSnapshot) : Except ServiceError JoinRequestSnapshot :=
  match server.sessions[request.sessionId]? with
  | none => .error (.invariant "join requester session missing")
  | some requester => .ok
    { requestId := request.requestId, sessionId := request.sessionId, displayName := requester.displayName.value
      expiresAtMs := request.expiresAt }

def bootstrapRoom (choice : Choice) (session : Session) (code : RoomCode) :
    Except ServiceError RoomBootstrapResponse :=
  match choice.now with
  | none => .error .clock
  | some now =>
    match session.ensureActive now with
    | .error error => .error (.session error)
    | .ok () =>
      match server.findRoomByCode choice.fault code with
      | .error error => .error (.storage error)
      | .ok none => .error .notFound
      | .ok (some room) =>
        let membership := room.membershipState session.id
        let ownRequest := room.joinRequestSnapshots.find? fun request => request.sessionId = session.id
        if (membership = none ∨ membership = some .left) ∧ ownRequest = none then .error .forbidden
        else do
          let participants ← (room.membershipSnapshots.filter fun membership => membership.state ≠ .left).mapM
            server.participant
          let pendingJoinRequests ← (room.joinRequestSnapshots.filter fun request =>
            request.state = .pending ∧ (room.owner = session.id ∨ request.sessionId = session.id)).mapM
            server.pendingRequest
          return { roomId := room.id, roomCode := room.code, revision := room.revision, expiresAtMs := room.expiresAt
                   participants, pendingJoinRequests }

def joinRequestStatus (choice : Choice) (session : Session) (code : RoomCode) (requestId : RequestId) :
    Except ServiceError JoinRequestResponse :=
  match choice.now with
  | none => .error .clock
  | some now =>
    match session.ensureActive now with
    | .error error => .error (.session error)
    | .ok () =>
      match server.findRoomByCode choice.fault code with
      | .error error => .error (.storage error)
      | .ok none => .error .notFound
      | .ok (some room) =>
        match room.joinRequestSnapshots.find? fun request =>
          request.requestId = requestId ∧ request.sessionId = session.id with
        | none => .error .notFound
        | some request => .ok
          { roomId := room.id, requestId := request.requestId, state := request.state, revision := room.revision
            expiresAtMs := request.expiresAt }

/-! ## The hub -/

/-- A broadcast to a room. -/
def broadcast (roomId : RoomId) (message : ServerRealtimeMessage) (order : List ConnectionId) :
    Option (List Attachment × Server) :=
  if order.Perm (server.hub.connectionsOf roomId) then
    let (evicted, hub) := server.hub.broadcast message order
    some (evicted, { server with hub, broadcasts := { roomId, message } :: server.broadcasts })
  else none

def disconnectRoom (roomId : RoomId) (order : List ConnectionId) (code : Nat) (reason : String) :
    Option (List Attachment × Server) :=
  if order.Perm (server.hub.connectionsOf roomId) then
    let (disconnected, hub) := server.hub.disconnectRoom order code reason
    some (disconnected, { server with hub })
  else none

end Server

end P2PTransmission
