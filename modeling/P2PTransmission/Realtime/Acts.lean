import P2PTransmission.Domain.Invariant
import P2PTransmission.Realtime.World

/-!
# What a step of a task can do

`Cleanup.Acts`, `Socket.Acts`, `Request.Acts` and `Maintenance.Acts` list the outcomes of one step of each kind of task,
with what was read or called. The step functions are unfolded here and nowhere else: every invariant of the server is a
case analysis over these relations.
-/

set_option autoImplicit false

namespace P2PTransmission

open Storage (RoomMutation)

theorem HubState.attachment_ok {hub : HubState} {c : ConnectionId} {attachment : Attachment}
    (h : hub.attachment c = .ok attachment) : hub.attachmentOf c = some attachment := by
  unfold HubState.attachment at h
  split at h
  · rename_i ha
    cases h
    exact ha
  · cases h

/-! ## Commands on the store -/

namespace Server

variable {server server' : Server} {fault : Bool} {code : RoomCode} {expected : Option Nat} {command : RoomCommand}

/-- The server after a command that turned the room of `code` into `room`. -/
def commit (server : Server) (code : RoomCode) (room : Room) (command : RoomCommand) : Server :=
  { server with
    rooms := server.rooms.insert code room
    produced := { roomId := room.id, revision := room.revision, command } :: server.produced }

/-- A command that is accepted: it found nothing to do, or it changed the room. -/
inductive Applies (server : Server) (code : RoomCode) (command : RoomCommand) : RoomMutation → Server → Prop
  | unchanged {room : Room} : server.rooms[code]? = some room → room.handle command = (.ok .UNCHANGED, room) →
      Applies server code command { room, outcome := .UNCHANGED } server
  | changed {room next : Room} : server.rooms[code]? = some room → room.handle command = (.ok .CHANGED, next) →
      Applies server code command { room := next, outcome := .CHANGED } (server.commit code next command)

/-- A refused command changes nothing; an accepted one is applied. -/
theorem applyRoomCommand_cases {result : Except StorageError RoomMutation}
    (h : server.applyRoomCommand fault code expected command = (result, server')) :
    (∃ error, result = .error error ∧ server' = server) ∨
      ∃ mutation, result = .ok mutation ∧ Applies server code command mutation server' := by
  unfold applyRoomCommand at h
  split at h
  · cases h
    exact .inl ⟨_, rfl, rfl⟩
  split at h
  · cases h
    exact .inl ⟨_, rfl, rfl⟩
  rename_i loaded hloaded
  split at h
  · cases h
    exact .inl ⟨_, rfl, rfl⟩
  split at h
  · cases h
    exact .inl ⟨_, rfl, rfl⟩
  rename_i outcome room hhandle
  obtain ⟨changed⟩ := outcome
  cases changed with
  | true =>
    cases h
    exact .inr ⟨_, rfl, .changed hloaded hhandle⟩
  | false =>
    have hsame : room = loaded := Room.handle_unchanged hhandle
    subst hsame
    cases h
    exact .inr ⟨_, rfl, .unchanged hloaded hhandle⟩

theorem applyRoomCommand_ok {mutation : RoomMutation}
    (h : server.applyRoomCommand fault code expected command = (.ok mutation, server')) :
    Applies server code command mutation server' := by
  rcases applyRoomCommand_cases h with ⟨_, he, -⟩ | ⟨m, he, happlies⟩
  · cases he
  · cases he
    exact happlies

/-- The storage answers, and the room is at the revision that the request expects, if it expects one. -/
def Admits (server : Server) (choice : Choice) (code : RoomCode) (expected : Option Nat) : Prop :=
  choice.fault = false ∧ ∀ room, server.rooms[code]? = some room → ∀ revision, expected = some revision →
    revision = room.revision

theorem applyRoomCommand_admits {choice : Choice} {mutation : RoomMutation}
    (h : server.applyRoomCommand choice.fault code expected command = (.ok mutation, server')) :
    server.Admits choice code expected := by
  unfold applyRoomCommand at h
  split at h
  · cases h
  rename_i hfault
  refine ⟨by simpa using hfault, fun room hroom revision hexpected => ?_⟩
  rw [hroom] at h
  subst hexpected
  by_contra hne
  simp [Option.filter, hne] at h

theorem applyRoomCommand_error {error : StorageError}
    (h : server.applyRoomCommand fault code expected command = (.error error, server')) : server' = server := by
  rcases applyRoomCommand_cases h with ⟨_, -, hs⟩ | ⟨m, he, -⟩
  · exact hs
  · cases he

/-- A broadcast to a room: the room's connections are tried one by one. -/
structure Broadcasts (server : Server) (event : Broadcast) (order : List ConnectionId) (evicted : List Attachment)
    (server' : Server) : Prop where
  listed : order.Perm (server.hub.connectionsOf event.roomId)
  result : evicted = (HubState.broadcastEach event.message order server.hub).1
  server : server' = { server with
    hub := (HubState.broadcastEach event.message order server.hub).2
    broadcasts := event :: server.broadcasts }

theorem broadcast_some {roomId : RoomId} {message : ServerRealtimeMessage} {order : List ConnectionId}
    {evicted : List Attachment} (h : server.broadcast roomId message order = some (evicted, server')) :
    Broadcasts server { roomId, message } order evicted server' := by
  unfold broadcast at h
  split at h
  · rename_i horder
    have hresult := Prod.mk.inj (Option.some.inj h)
    exact ⟨horder, hresult.1.symm, hresult.2.symm⟩
  · cases h

theorem findRoomByCode_some {room : Room} (h : server.findRoomByCode fault code = .ok (some room)) :
    server.rooms[code]? = some room := by
  unfold findRoomByCode at h
  split at h
  · cases h
  · exact Except.ok.inj h

structure Disconnects (server : Server) (roomId : RoomId) (order : List ConnectionId) (notices : List Outbound)
    (disconnected : List Attachment) (server' : Server) : Prop where
  listed : order.Perm (server.hub.connectionsOf roomId)
  result : disconnected = (HubState.evictEach notices order server.hub).1
  server : server' = { server with hub := (HubState.evictEach notices order server.hub).2 }

theorem disconnectRoom_some {roomId : RoomId} {code : Nat} {reason : String} {order : List ConnectionId}
    {disconnected : List Attachment} (h : server.disconnectRoom roomId order code reason = some (disconnected, server')) :
    Disconnects server roomId order [.close code reason] disconnected server' := by
  unfold disconnectRoom at h
  split at h
  · rename_i horder
    have hresult := Prod.mk.inj (Option.some.inj h)
    exact ⟨horder, hresult.1.symm, hresult.2.symm⟩
  · cases h

end Server

/-! ## Cleanup -/

namespace Cleanup

variable {cleanup cleanup' : Cleanup} {choice : Choice} {server server' : Server}

/-- The event of a detach. -/
def offline (attachment : Attachment) (room : Room) : Broadcast :=
  { roomId := attachment.roomId, message := .peerOffline room.revision attachment.sessionId }

inductive Acts (cleanup : Cleanup) (choice : Choice) (server : Server) : Server → Cleanup → Prop
  | announced {event : Broadcast} {evicted : List Attachment} {server' : Server} :
      cleanup.announcing = some event → server.Broadcasts event choice.order evicted server' →
      Acts cleanup choice server server'
        { cleanup with announcing := none, pending := cleanup.pending ++ evicted }
  | seen {attachment : Attachment} : cleanup.announcing = none → cleanup.pending.getLast? = some attachment →
      attachment.key ∈ cleanup.seen →
      Acts cleanup choice server server { cleanup with pending := cleanup.pending.dropLast }
  | failed {attachment : Attachment} : cleanup.announcing = none → cleanup.pending.getLast? = some attachment →
      (choice.now = none ∨ ∃ error, server.applyRoomCommand choice.fault attachment.roomCode none
        (.detach attachment.sessionId attachment.peerId) = (.error error, server)) →
      Acts cleanup choice server server
        { cleanup with pending := cleanup.pending.dropLast, seen := attachment.key :: cleanup.seen }
  | unchanged {attachment : Attachment} {room : Room} : cleanup.announcing = none →
      cleanup.pending.getLast? = some attachment → server.rooms[attachment.roomCode]? = some room →
      room.handle (.detach attachment.sessionId attachment.peerId) = (.ok .UNCHANGED, room) →
      Acts cleanup choice server server
        { cleanup with pending := cleanup.pending.dropLast, seen := attachment.key :: cleanup.seen }
  | detached {attachment : Attachment} {room next : Room} : cleanup.announcing = none →
      cleanup.pending.getLast? = some attachment → server.rooms[attachment.roomCode]? = some room →
      room.handle (.detach attachment.sessionId attachment.peerId) = (.ok .CHANGED, next) →
      Acts cleanup choice server
        (server.commit attachment.roomCode next (.detach attachment.sessionId attachment.peerId))
        { cleanup with
          pending := cleanup.pending.dropLast, seen := attachment.key :: cleanup.seen
          announcing := some (offline attachment next) }

theorem step_acts (h : cleanup.step choice server = some (server', cleanup')) :
    Acts cleanup choice server server' cleanup' := by
  unfold step at h
  split at h
  · rename_i event hannouncing
    obtain ⟨⟨evicted, next⟩, hbroadcast, hresult⟩ := Option.map_eq_some_iff.mp h
    cases hresult
    exact .announced hannouncing (Server.broadcast_some hbroadcast)
  rename_i hannouncing
  obtain ⟨attachment, hlast, hresult⟩ := Option.map_eq_some_iff.mp h
  unfold detach at hresult
  dsimp only at hresult
  split at hresult
  · rename_i hseen
    cases hresult
    exact .seen hannouncing hlast hseen
  split at hresult
  · rename_i hnow
    cases hresult
    exact .failed hannouncing hlast (.inl hnow)
  split at hresult
  · rename_i error _ happly
    obtain rfl := Server.applyRoomCommand_error happly
    cases hresult
    exact .failed hannouncing hlast (.inr ⟨error, happly⟩)
  rename_i mutation _ happly
  cases Server.applyRoomCommand_ok happly with
  | unchanged hroom hhandle =>
    cases hresult
    exact .unchanged hannouncing hlast hroom hhandle
  | changed hroom hhandle =>
    cases hresult
    exact .detached hannouncing hlast hroom hhandle

end Cleanup

/-! ## Sockets -/

namespace Socket

variable {socket socket' : Socket} {c : ConnectionId} {choice : Choice} {server server' : Server} {out : List Attachment}

/-- The event of an attach. -/
def online (socket : Socket) (attaching : Attaching) : Broadcast :=
  { roomId := attaching.mutation.room.id
    message := .peerOnline attaching.mutation.room.revision socket.session.id attaching.peerId }

/-- What is left of `attach_room` after `Attached`. -/
def attachSent (socket : Socket) (attaching : Attaching) : Socket :=
  if attaching.lastRevision ≠ some attaching.mutation.room.revision then socket.goto (.attachRead attaching)
  else socket.announceAttached attaching

/-- What is left of `watch_join_request` after `JoinWatching`. -/
def watchSent (socket : Socket) (watching : Watching) (snapshot : RoomBootstrapResponse) : Socket :=
  if watching.lastRevision ≠ some snapshot.revision then socket.goto (.watchSnapshot snapshot)
  else socket.finishAttached

/-- A message that a handler sends to its own connection, and where the handler goes once it is in the queue. -/
inductive Sends (socket : Socket) : ServerRealtimeMessage → Socket → Prop
  | attached {attaching : Attaching} : socket.point = .attachSend attaching →
      Sends socket (.attached attaching.mutation.room.id attaching.mutation.room.revision) (socket.attachSent attaching)
  | attachSnapshot {attaching : Attaching} {snapshot : RoomBootstrapResponse} :
      socket.point = .attachSnapshot attaching snapshot →
      Sends socket (.roomSnapshot snapshot) (socket.announceAttached attaching)
  | watching {watching : Watching} {snapshot : RoomBootstrapResponse} : socket.point = .watchSend watching snapshot →
      Sends socket (.joinWatching watching.status.roomId watching.requestId watching.status.revision)
        (socket.watchSent watching snapshot)
  | watchSnapshot {snapshot : RoomBootstrapResponse} : socket.point = .watchSnapshot snapshot →
      Sends socket (.roomSnapshot snapshot) socket.finishAttached

/-- A call that only reads, and where the handler goes with the answer. -/
inductive Reads (socket : Socket) (c : ConnectionId) (choice : Choice) (server : Server) : Socket → Prop
  | attachRead {attaching : Attaching} {snapshot : RoomBootstrapResponse} : socket.point = .attachRead attaching →
      server.bootstrapRoom choice socket.session attaching.code = .ok snapshot →
      Reads socket c choice server (socket.goto (.attachSnapshot attaching snapshot))
  | watchStatus {code : RoomCode} {requestId : RequestId} {lastRevision : Option Nat} {status : JoinRequestResponse} :
      socket.point = .watchStatus code requestId lastRevision →
      server.joinRequestStatus choice socket.session code requestId = .ok status → status.state = .pending →
      Reads socket c choice server (socket.goto (.watchRead { code, requestId, lastRevision, status }))
  | watchRead {watching : Watching} {snapshot : RoomBootstrapResponse} : socket.point = .watchRead watching →
      server.bootstrapRoom choice socket.session watching.code = .ok snapshot →
      Reads socket c choice server (socket.goto (.watchHub watching snapshot))
  | detachCheck {code : RoomCode} {current : Attachment} : socket.point = .detachCheck code →
      server.hub.attachmentOf c = some current → current.roomCode = code →
      Reads socket c choice server (socket.goto .detachHub)
  | signalCheck {signalling : Signalling} {attachment : Attachment} : socket.point = .signalCheck signalling →
      server.hub.attachmentOf c = some attachment → attachment.roomCode = signalling.code →
      attachment.peerId ≠ signalling.toPeerId →
      Reads socket c choice server (socket.goto (.signalRoom signalling attachment))
  | signalRoom {signalling : Signalling} {attachment : Attachment} {room : Room} :
      socket.point = .signalRoom signalling attachment → server.rooms[signalling.code]? = some room →
      signalIsCurrent room signalling attachment = true →
      Reads socket c choice server (socket.goto (.signalLimit signalling attachment))
  | signalLimit {signalling : Signalling} {attachment : Attachment} :
      socket.point = .signalLimit signalling attachment →
      Reads socket c choice server (socket.goto (.signalSend signalling attachment))

/-- The points whose call may be refused without any effect. -/
def Refusable : SocketPoint → Prop
  | .attachSend _ | .attachSnapshot _ _ | .attachAnnounce _ | .watchSend _ _ | .watchSnapshot _ | .signalSend _ _
  | .failing _ | .closing | .listening | .closed => False
  | _ => True

inductive Acts (c : ConnectionId) (choice : Choice) (server : Server) (socket : Socket) :
    Server → List Attachment → Socket → Prop
  | refused {error : SocketCommandError} : Refusable socket.point →
      Acts c choice server socket server [] (socket.fail error)
  | read {socket' : Socket} : Reads socket c choice server socket' → Acts c choice server socket server [] socket'
  | committed {code : RoomCode} {peerId : PeerId} {lastRevision : Option Nat} {now : Nat} {mutation : RoomMutation}
      {server' : Server} : socket.point = .attachCommit code peerId lastRevision →
      server.Applies code (.attach socket.session.id peerId now) mutation server' →
      Acts c choice server socket server' [] (socket.goto (.attachHub { code, peerId, lastRevision, mutation }))
  | attached {attaching : Attaching} {replaced : List Attachment} {hub : HubState} :
      socket.point = .attachHub attaching →
      choice.order.Perm (server.hub.attachConflicts c attaching.mutation.room.id attaching.peerId) →
      server.hub.attach c attaching.mutation.room.id attaching.code attaching.peerId choice.order = .ok (replaced, hub) →
      Acts c choice server socket { server with hub } replaced (socket.goto (.attachSend attaching))
  | watched {watching : Watching} {snapshot : RoomBootstrapResponse} {replaced : List Attachment} {hub : HubState} :
      socket.point = .watchHub watching snapshot →
      server.hub.watchJoin c watching.status.roomId = .ok (replaced, hub) →
      Acts c choice server socket { server with hub } replaced (socket.goto (.watchSend watching snapshot))
  | sent {message : ServerRealtimeMessage} {socket' : Socket} {hub : HubState} : Sends socket message socket' →
      server.hub.send c (.message message) = (.ok (), hub) →
      Acts c choice server socket { server with hub } [] socket'
  | notSent {message : ServerRealtimeMessage} {socket' : Socket} {error : HubError} {hub : HubState} :
      Sends socket message socket' → server.hub.send c (.message message) = (.error error, hub) →
      Acts c choice server socket { server with hub } [] (socket.fail (mapHubError error))
  | announced {attaching : Attaching} {evicted : List Attachment} {server' : Server} :
      socket.point = .attachAnnounce attaching →
      server.Broadcasts (socket.online attaching) choice.order evicted server' →
      Acts c choice server socket server' evicted socket.finishAttached
  | detached {attachment : Option Attachment} {hub : HubState} : socket.point = .detachHub →
      server.hub.detach c = .ok (attachment, hub) →
      Acts c choice server socket { server with hub } attachment.toList
        { socket with attached := false, point := .listening }
  | signalled {signalling : Signalling} {attachment : Attachment} {hub : HubState} {result : Except HubError Unit}
      {socket' : Socket} : socket.point = .signalSend signalling attachment →
      server.hub.sendToPeer c signalling.toPeerId
        (.signal attachment.peerId signalling.negotiationId signalling.signal) = (result, hub) →
      (socket' = socket.goto .listening ∨ ∃ error, socket' = socket.fail (mapHubError error)) →
      Acts c choice server socket { server with hub } [] socket'
  | replied {error : SocketCommandError} {result : Except HubError Unit} {hub : HubState} :
      socket.point = .failing error →
      server.hub.send c (.message (.error error.code error.message error.retryable)) = (result, hub) →
      Acts c choice server socket { server with hub } [] (socket.goto (if error.fatal then .closing else .listening))
  | unregistered {attachment : Option Attachment} {hub : HubState} : socket.point = .closing →
      server.hub.unregister c = (attachment, hub) →
      Acts c choice server socket { server with hub } attachment.toList (socket.goto .closed)

theorem step_acts (h : socket.step c choice server = some (server', out, socket')) :
    Acts c choice server socket server' out socket' := by
  unfold step at h
  split at h
  all_goals rename_i hpoint
  -- attach_room
  · split at h
    · cases h
      exact .refused (by rw [hpoint]; trivial)
    split at h
    · rename_i happly
      obtain rfl := Server.applyRoomCommand_error happly
      cases h
      exact .refused (by rw [hpoint]; trivial)
    · rename_i happly
      cases h
      exact .committed hpoint (Server.applyRoomCommand_ok happly)
  · dsimp only at h
    split at h
    · rename_i horder
      split at h
      · cases h
        exact .refused (by rw [hpoint]; trivial)
      · rename_i hattach
        cases h
        exact .attached hpoint horder hattach
    · cases h
  · split at h
    · rename_i hsend
      cases h
      exact .notSent (.attached hpoint) hsend
    · rename_i hsend
      cases h
      exact .sent (.attached hpoint) hsend
  · split at h
    · cases h
      exact .refused (by rw [hpoint]; trivial)
    · rename_i hread
      cases h
      exact .read (.attachRead hpoint hread)
  · split at h
    · rename_i hsend
      cases h
      exact .notSent (.attachSnapshot hpoint) hsend
    · rename_i hsend
      cases h
      exact .sent (.attachSnapshot hpoint) hsend
  · obtain ⟨⟨evicted, next⟩, hbroadcast, hresult⟩ := Option.map_eq_some_iff.mp h
    cases hresult
    exact .announced hpoint (Server.broadcast_some hbroadcast)
  -- watch_join_request
  · split at h
    · cases h
      exact .refused (by rw [hpoint]; trivial)
    rename_i status hstatus
    split at h
    · cases h
      exact .refused (by rw [hpoint]; trivial)
    · rename_i hpending
      rw [not_not] at hpending
      cases h
      exact .read (.watchStatus hpoint hstatus hpending)
  · split at h
    · cases h
      exact .refused (by rw [hpoint]; trivial)
    · rename_i hread
      cases h
      exact .read (.watchRead hpoint hread)
  · split at h
    · cases h
      exact .refused (by rw [hpoint]; trivial)
    · rename_i hwatch
      cases h
      exact .watched hpoint hwatch
  · split at h
    · rename_i hsend
      cases h
      exact .notSent (.watching hpoint) hsend
    · rename_i hsend
      cases h
      exact .sent (.watching hpoint) hsend
  · split at h
    · rename_i hsend
      cases h
      exact .notSent (.watchSnapshot hpoint) hsend
    · rename_i hsend
      cases h
      exact .sent (.watchSnapshot hpoint) hsend
  -- detach_room
  · split at h
    · cases h
      exact .refused (by rw [hpoint]; trivial)
    rename_i current hcurrent
    split at h
    · cases h
      exact .refused (by rw [hpoint]; trivial)
    · rename_i hcode
      rw [not_not] at hcode
      cases h
      exact .read (.detachCheck hpoint (HubState.attachment_ok hcurrent) hcode)
  · split at h
    · cases h
      exact .refused (by rw [hpoint]; trivial)
    · rename_i hdetach
      cases h
      exact .detached hpoint hdetach
  -- relay_signal
  · split at h
    · cases h
      exact .refused (by rw [hpoint]; trivial)
    rename_i attachment hattachment
    split at h
    · cases h
      exact .refused (by rw [hpoint]; trivial)
    · rename_i hcode
      rw [not_or, not_not] at hcode
      cases h
      exact .read (.signalCheck hpoint (HubState.attachment_ok hattachment) hcode.1 hcode.2)
  · split at h
    · cases h
      exact .refused (by rw [hpoint]; trivial)
    · cases h
      exact .refused (by rw [hpoint]; trivial)
    rename_i room hroom
    split at h
    · rename_i hcurrent
      cases h
      exact .read (.signalRoom hpoint (Server.findRoomByCode_some hroom) hcurrent)
    · cases h
      exact .refused (by rw [hpoint]; trivial)
  · split at h
    · cases h
      exact .refused (by rw [hpoint]; trivial)
    split at h
    · cases h
      exact .refused (by rw [hpoint]; trivial)
    · cases h
      exact .read (.signalLimit hpoint)
  · split at h
    · rename_i error hub hsend
      cases h
      exact .signalled hpoint hsend (.inr ⟨error, rfl⟩)
    · rename_i hsend
      cases h
      exact .signalled hpoint hsend (.inl rfl)
  -- the end of a handler that failed, and of the socket
  · cases h
    exact .replied hpoint rfl
  · cases h
    exact .unregistered hpoint rfl
  · cases h
  · cases h

end Socket

/-! ## Requests -/

namespace Request

variable {request request' : Request} {choice : Choice} {server server' : Server} {out : List Attachment}

inductive Acts (choice : Choice) (server : Server) (request : Request) : Server → List Attachment → Request → Prop
  | answered : (∀ event, request.point ≠ .announce event) → (∀ room, request.point ≠ .leaveAnnounce room) →
      (∀ room cleanup, request.point ≠ .leaveDisconnect room cleanup) → Acts choice server request server [] request.answer
  | joining {code : RoomCode} {requestId : RequestId} {expected : Option Nat} {now expiresAt : Nat} :
      request.point = .start (.requestJoin code requestId expected) →
      Acts choice server request server [] (request.goto (.joinCommit code requestId expected now expiresAt))
  | joinUnread {code : RoomCode} {requestId : RequestId} {expected : Option Nat} {now expiresAt : Nat}
      {mutation : RoomMutation} {server' : Server} : request.point = .joinCommit code requestId expected now expiresAt →
      server.Applies code (.requestJoin requestId request.session.id now expiresAt) mutation server' →
      (mutation.room.joinRequestSnapshots.find? fun joinRequest => joinRequest.requestId = requestId) = none →
      Acts choice server request server' [] request.answer
  | joined {code : RoomCode} {requestId : RequestId} {expected : Option Nat} {now expiresAt : Nat}
      {mutation : RoomMutation} {joinRequest : RoomJoinRequestSnapshot} {server' : Server} :
      request.point = .joinCommit code requestId expected now expiresAt →
      server.Applies code (.requestJoin requestId request.session.id now expiresAt) mutation server' →
      (mutation.room.joinRequestSnapshots.find? fun joinRequest => joinRequest.requestId = requestId) = some joinRequest →
      server.Admits choice code expected → Acts choice server request server' []
        (request.goto (.announce (request.joinRequested mutation.room requestId joinRequest)))
  | decided {code : RoomCode} {requestId : RequestId} {decision : JoinDecision} {expected : Option Nat} {now : Nat}
      {mutation : RoomMutation} {server' : Server} : request.point = .start (.decideJoin code requestId decision expected) →
      server.Applies code (.decideJoin request.session.id requestId decision now) mutation server' →
      choice.now = some now → server.Admits choice code expected →
      Acts choice server request server' [] (request.goto (.announce
        { roomId := mutation.room.id, message := .joinDecided mutation.room.revision requestId decision.wire }))
  | left {code : RoomCode} {expected : Option Nat} {mutation : RoomMutation} {server' : Server} :
      request.point = .start (.leaveRoom code expected) →
      server.Applies code (.leave request.session.id) mutation server' → server.Admits choice code expected →
      Acts choice server request server' [] (request.goto (.leaveAnnounce mutation.room))
  | announced {event : Broadcast} {evicted : List Attachment} {server' : Server} : request.point = .announce event →
      server.Broadcasts event choice.order evicted server' → Acts choice server request server' evicted request.answer
  | leaveAnnounced {room : Room} {evicted : List Attachment} {server' : Server} : request.point = .leaveAnnounce room →
      server.Broadcasts (request.left room) choice.order evicted server' →
      Acts choice server request server' [] (request.goto (.leaveDisconnect room evicted))
  | roomDisconnected {room : Room} {cleanup disconnected : List Attachment} {server' : Server} :
      request.point = .leaveDisconnect room cleanup → room.state = .expired →
      server.Disconnects room.id choice.order [.close 4002 "room expired"] disconnected server' →
      Acts choice server request server' (cleanup ++ disconnected) request.answer
  | sessionDisconnected {room : Room} {cleanup disconnected : List Attachment} {hub : HubState} :
      request.point = .leaveDisconnect room cleanup → room.state ≠ .expired →
      server.hub.disconnectSession room.id request.session.id 4003 "room membership ended" = (disconnected, hub) →
      Acts choice server request { server with hub } (cleanup ++ disconnected) request.answer

theorem step_acts (h : request.step choice server = some (server', out, request')) :
    Acts choice server request server' out request' := by
  unfold step at h
  split at h
  all_goals rename_i hpoint
  have hstart : ∀ {call : RequestCall}, request.point = .start call → Acts choice server request server [] request.answer :=
    fun hp => .answered (fun _ => by rw [hp]; nofun) (fun _ => by rw [hp]; nofun) (fun _ _ => by rw [hp]; nofun)
  · split at h
    · split at h
      · cases h
        exact .joining hpoint
      · cases h
        exact hstart hpoint
    · cases h
      exact hstart hpoint
  · split at h
    · rename_i happly
      obtain rfl := Server.applyRoomCommand_error happly
      cases h
      exact .answered (fun _ => by rw [hpoint]; nofun) (fun _ => by rw [hpoint]; nofun)
        (fun _ _ => by rw [hpoint]; nofun)
    · rename_i mutation next happly
      split at h
      · rename_i hfind
        cases h
        exact .joinUnread hpoint (Server.applyRoomCommand_ok happly) hfind
      · rename_i joinRequest hfind
        cases h
        exact .joined hpoint (Server.applyRoomCommand_ok happly) hfind (Server.applyRoomCommand_admits happly)
  · have hstart : Acts choice server request server [] request.answer :=
      .answered (fun _ => by rw [hpoint]; nofun) (fun _ => by rw [hpoint]; nofun) (fun _ _ => by rw [hpoint]; nofun)
    split at h
    · cases h
      exact hstart
    rename_i hnow
    split at h
    · cases h
      exact hstart
    split at h
    · rename_i happly
      obtain rfl := Server.applyRoomCommand_error happly
      cases h
      exact hstart
    · rename_i happly
      cases h
      exact .decided hpoint (Server.applyRoomCommand_ok happly) hnow (Server.applyRoomCommand_admits happly)
  · obtain ⟨⟨evicted, next⟩, hbroadcast, hresult⟩ := Option.map_eq_some_iff.mp h
    cases hresult
    exact .announced hpoint (Server.broadcast_some hbroadcast)
  · have hstart : Acts choice server request server [] request.answer :=
      .answered (fun _ => by rw [hpoint]; nofun) (fun _ => by rw [hpoint]; nofun) (fun _ _ => by rw [hpoint]; nofun)
    split at h
    · cases h
      exact hstart
    split at h
    · rename_i happly
      obtain rfl := Server.applyRoomCommand_error happly
      cases h
      exact hstart
    · rename_i happly
      cases h
      exact .left hpoint (Server.applyRoomCommand_ok happly) (Server.applyRoomCommand_admits happly)
  · obtain ⟨⟨evicted, next⟩, hbroadcast, hresult⟩ := Option.map_eq_some_iff.mp h
    cases hresult
    exact .leaveAnnounced hpoint (Server.broadcast_some hbroadcast)
  · split at h
    · rename_i hstate
      obtain ⟨⟨disconnected, next⟩, hdisconnect, hresult⟩ := Option.map_eq_some_iff.mp h
      cases hresult
      exact .roomDisconnected hpoint hstate (Server.disconnectRoom_some hdisconnect)
    · rename_i hstate
      cases h
      exact .sessionDisconnected hpoint hstate rfl
  · cases h

end Request

/-! ## Maintenance -/

namespace Maintenance

variable {maintenance maintenance' : Maintenance} {choice : Choice} {server server' : Server} {out : List Attachment}

/-- The event of an expired room. -/
def roomExpired (room : Room) : Broadcast := { roomId := room.id, message := .roomExpired room.revision }

/-- The mutations of a batch with one more, if it changed the room. -/
def collect (mutations : List RoomMutation) (mutation : RoomMutation) : List RoomMutation :=
  if mutation.outcome.changed then mutations ++ [mutation] else mutations

/-- The steps that touch nothing and go on to another point of the pass. -/
inductive Passes (server : Server) : Maintenance → Maintenance → Prop
  | startRooms {now : Nat} : Passes server .start (.expireRooms now (server.dueRooms now MAINTENANCE_BATCH) [])
  | startFailed : Passes server .start .finished
  | roomsExpired {now : Nat} {mutations : List RoomMutation} :
      Passes server (.expireRooms now [] mutations) (.announceRooms now mutations)
  | roomsFailed {now : Nat} {code : RoomCode} {due : List RoomCode} {mutations : List RoomMutation} :
      Passes server (.expireRooms now (code :: due) mutations) .finished
  | roomsAnnounced {now : Nat} : Passes server (.announceRooms now []) (.dueRequests now)
  | requestsFailed {now : Nat} : Passes server (.dueRequests now) .finished
  | startRequests {now : Nat} : Passes server (.dueRequests now)
      (.expireRequests now (server.dueJoinRequests now MAINTENANCE_BATCH) [])
  | requestsExpired {now : Nat} {mutations : List RoomMutation} :
      Passes server (.expireRequests now [] mutations) (.readSnapshots now mutations)
  | requestFailed {now : Nat} {due : Server.DueRequest} {rest : List Server.DueRequest} {mutations : List RoomMutation} :
      Passes server (.expireRequests now (due :: rest) mutations) .finished
  | snapshotsRead {now : Nat} : Passes server (.readSnapshots now []) (.expireSessions now)
  | snapshotsFailed {now : Nat} {mutation : RoomMutation} {mutations : List RoomMutation} :
      Passes server (.readSnapshots now (mutation :: mutations)) .finished
  | snapshotSkipped {now : Nat} {mutation : RoomMutation} {mutations : List RoomMutation} :
      Passes server (.readSnapshots now (mutation :: mutations)) (.readSnapshots now mutations)

inductive Acts (choice : Choice) (server : Server) : Maintenance → Server → List Attachment → Maintenance → Prop
  | passed {maintenance maintenance' : Maintenance} : Passes server maintenance maintenance' →
      Acts choice server maintenance server [] maintenance'
  | roomExpired {now : Nat} {code : RoomCode} {due : List RoomCode} {mutations : List RoomMutation}
      {mutation : RoomMutation} {server' : Server} : server.Applies code (.expire now) mutation server' →
      Acts choice server (.expireRooms now (code :: due) mutations) server' []
        (.expireRooms now due (collect mutations mutation))
  | roomAnnounced {now : Nat} {mutation : RoomMutation} {mutations : List RoomMutation} {evicted : List Attachment}
      {server' : Server} : server.Broadcasts (roomExpired mutation.room) choice.order evicted server' →
      Acts choice server (.announceRooms now (mutation :: mutations)) server' []
        (.disconnectRoom now mutation.room evicted mutations)
  | roomDisconnected {now : Nat} {room : Room} {cleanup disconnected : List Attachment} {mutations : List RoomMutation}
      {server' : Server} : server.Disconnects room.id choice.order [.close 4002 "room expired"] disconnected server' →
      Acts choice server (.disconnectRoom now room cleanup mutations) server' (cleanup ++ disconnected)
        (.announceRooms now mutations)
  | requestExpired {now : Nat} {due : Server.DueRequest} {rest : List Server.DueRequest} {mutations : List RoomMutation}
      {mutation : RoomMutation} {server' : Server} :
      server.Applies due.code (.expireJoinRequest due.requestId now) mutation server' →
      Acts choice server (.expireRequests now (due :: rest) mutations) server' []
        (.expireRequests now rest (collect mutations mutation))
  | snapshotRead {now : Nat} {mutation : RoomMutation} {mutations : List RoomMutation} {owner : Session}
      {snapshot : RoomBootstrapResponse} : server.sessions[mutation.room.owner]? = some owner →
      server.bootstrapRoom choice owner mutation.room.code = .ok snapshot →
      Acts choice server (.readSnapshots now (mutation :: mutations)) server []
        (.announceSnapshot now mutation.room snapshot mutations)
  | snapshotAnnounced {now : Nat} {room : Room} {snapshot : RoomBootstrapResponse} {mutations : List RoomMutation}
      {evicted : List Attachment} {server' : Server} :
      server.Broadcasts { roomId := room.id, message := .roomSnapshot snapshot } choice.order evicted server' →
      Acts choice server (.announceSnapshot now room snapshot mutations) server' evicted (.readSnapshots now mutations)
  | sessionsFailed {now : Nat} : Acts choice server (.expireSessions now) server [] .finished
  | sessionsExpired {now : Nat} :
      Acts choice server (.expireSessions now) (server.expireDueSessions now MAINTENANCE_BATCH) [] .finished

theorem step_acts (h : maintenance.step choice server = some (server', out, maintenance')) :
    Acts choice server maintenance server' out maintenance' := by
  unfold step at h
  split at h
  · split at h
    · cases h
      exact .passed .startFailed
    · split at h
      · cases h
        exact .passed .startFailed
      · cases h
        exact .passed .startRooms
  · cases h
    exact .passed .roomsExpired
  · split at h
    · rename_i happly
      obtain rfl := Server.applyRoomCommand_error happly
      cases h
      exact .passed .roomsFailed
    · rename_i happly
      cases h
      exact .roomExpired (Server.applyRoomCommand_ok happly)
  · cases h
    exact .passed .roomsAnnounced
  · obtain ⟨⟨evicted, next⟩, hbroadcast, hresult⟩ := Option.map_eq_some_iff.mp h
    cases hresult
    exact .roomAnnounced (Server.broadcast_some hbroadcast)
  · obtain ⟨⟨disconnected, next⟩, hdisconnect, hresult⟩ := Option.map_eq_some_iff.mp h
    cases hresult
    exact .roomDisconnected (Server.disconnectRoom_some hdisconnect)
  · split at h
    · cases h
      exact .passed .requestsFailed
    · cases h
      exact .passed .startRequests
  · cases h
    exact .passed .requestsExpired
  · split at h
    · rename_i happly
      obtain rfl := Server.applyRoomCommand_error happly
      cases h
      exact .passed .requestFailed
    · rename_i happly
      cases h
      exact .requestExpired (Server.applyRoomCommand_ok happly)
  · cases h
    exact .passed .snapshotsRead
  · split at h
    · cases h
      exact .passed .snapshotsFailed
    split at h
    · cases h
      exact .passed .snapshotSkipped
    rename_i owner howner
    split at h
    · cases h
      exact .passed .snapshotSkipped
    · rename_i hread
      cases h
      exact .snapshotRead howner hread
  · obtain ⟨⟨evicted, next⟩, hbroadcast, hresult⟩ := Option.map_eq_some_iff.mp h
    cases hresult
    exact .snapshotAnnounced (Server.broadcast_some hbroadcast)
  · cases h
    split
    · exact .sessionsFailed
    · exact .sessionsExpired
  · cases h

end Maintenance

/-! ## Tasks and worlds -/

variable {n : Nat} {choice : Choice} {server server' : Server}

/-- What a step of a task is: a round of its cleanup, or a call of its own. -/
inductive Task.Acts (n : Nat) (choice : Choice) (server : Server) : Task → Server → Task → Prop
  | cleanup {cleanup cleanup' : Cleanup} {work : Work} {server' : Server} : ¬cleanup.Done →
      Cleanup.Acts cleanup choice server server' cleanup' →
      Acts n choice server { cleanup, work } server' { cleanup := cleanup', work }
  | socket {cleanup : Cleanup} {socket socket' : Socket} {server' : Server} {out : List Attachment} : cleanup.Done →
      Socket.Acts n choice server socket server' out socket' →
      Acts n choice server { cleanup, work := .socket socket } server' { cleanup := .of out, work := .socket socket' }
  | request {cleanup : Cleanup} {request request' : Request} {server' : Server} {out : List Attachment} :
      cleanup.Done → Request.Acts choice server request server' out request' →
      Acts n choice server { cleanup, work := .request request } server' { cleanup := .of out, work := .request request' }
  | maintenance {cleanup : Cleanup} {maintenance maintenance' : Maintenance} {server' : Server}
      {out : List Attachment} : cleanup.Done → Maintenance.Acts choice server maintenance server' out maintenance' →
      Acts n choice server { cleanup, work := .maintenance maintenance } server'
        { cleanup := .of out, work := .maintenance maintenance' }

theorem Task.step_acts {task task' : Task} (h : task.step n choice server = some (server', task')) :
    Task.Acts n choice server task server' task' := by
  obtain ⟨cleanup, work⟩ := task
  unfold step at h
  split at h
  · rename_i hdone
    obtain ⟨⟨next, out, work'⟩, hwork, hresult⟩ := Option.map_eq_some_iff.mp h
    cases hresult
    cases work with
    | socket client =>
      obtain ⟨⟨next, out, client'⟩, hstep, hresult⟩ := Option.map_eq_some_iff.mp hwork
      cases hresult
      exact .socket hdone (Socket.step_acts hstep)
    | request handler =>
      obtain ⟨⟨next, out, handler'⟩, hstep, hresult⟩ := Option.map_eq_some_iff.mp hwork
      cases hresult
      exact .request hdone (Request.step_acts hstep)
    | maintenance pass =>
      obtain ⟨⟨next, out, pass'⟩, hstep, hresult⟩ := Option.map_eq_some_iff.mp hwork
      cases hresult
      exact .maintenance hdone (Maintenance.step_acts hstep)
  · rename_i hdone
    obtain ⟨⟨next, cleanup'⟩, hstep, hresult⟩ := Option.map_eq_some_iff.mp h
    cases hresult
    exact .cleanup hdone (Cleanup.step_acts hstep)

namespace World

variable {world world' : World} {label : Label}

/-- The worlds of the runs from an empty server. -/
def Reachable (world : World) : Prop :=
  ∃ queueCapacity joinRequestTtl labels, Run Step (World.initial queueCapacity joinRequestTtl) labels world

/-- What a socket does when it reads a frame or its end. -/
inductive Wakes (n : Nat) (socket : Socket) : Label → Socket → Prop
  | received (frame : Frame) : Wakes n socket (.receive n frame) (socket.receive frame)
  | hungUp : Wakes n socket (.hangUp n) (socket.goto .closing)

/-- The points at which a handler has done nothing yet. -/
inductive Starts : SocketPoint → Prop
  | listening : Starts .listening
  | attach {code : RoomCode} {peerId : PeerId} {lastRevision : Option Nat} : Starts (.attachCommit code peerId lastRevision)
  | watch {code : RoomCode} {requestId : RequestId} {lastRevision : Option Nat} :
      Starts (.watchStatus code requestId lastRevision)
  | detach {code : RoomCode} : Starts (.detachCheck code)
  | signal {signalling : Signalling} : Starts (.signalCheck signalling)
  | failing {error : SocketCommandError} : Starts (.failing error)
  | closing : Starts .closing

theorem Wakes.starts {n : Nat} {socket socket' : Socket} {label : Label} (h : Wakes n socket label socket')
    (hpoint : socket.point = .listening) : socket'.session = socket.session ∧ Starts socket'.point := by
  have hsame : Starts socket.point := by
    rw [hpoint]
    exact .listening
  have hmessage : ∀ message, (socket.receiveMessage message).session = socket.session ∧
      Starts (socket.receiveMessage message).point := by
    intro message
    cases message with
    | attachRoom =>
      unfold Socket.receiveMessage
      dsimp only
      split
      · exact ⟨rfl, .attach⟩
      · exact ⟨rfl, .failing⟩
    | watchJoinRequest =>
      unfold Socket.receiveMessage
      dsimp only
      split
      · exact ⟨rfl, .watch⟩
      · exact ⟨rfl, .failing⟩
    | detachRoom =>
      unfold Socket.receiveMessage
      dsimp only
      split
      · exact ⟨rfl, .detach⟩
      · exact ⟨rfl, .failing⟩
    | signal =>
      unfold Socket.receiveMessage
      dsimp only
      split
      · exact ⟨rfl, .signal⟩
      · exact ⟨rfl, .failing⟩
    | heartbeat => exact ⟨rfl, hsame⟩
    | ackEvent => exact ⟨rfl, hsame⟩
  cases h with
  | received frame =>
    cases frame with
    | text message =>
      unfold Socket.receive
      dsimp only
      split
      · exact ⟨rfl, .failing⟩
      · exact hmessage message
    | invalidText => exact ⟨rfl, .failing⟩
    | binary => exact ⟨rfl, .failing⟩
    | ping => exact ⟨rfl, hsame⟩
  | hungUp => exact ⟨rfl, .closing⟩

/-- What the writer of a connection does to its channel. -/
inductive Writes (hub : HubState) : Label → HubState → Prop
  | took (n : Nat) : Writes hub (.take n) (hub.take n)
  | closed (n : Nat) : Writes hub (.closeReceiver n) (hub.closeReceiver n)

inductive Acts (world : World) : Label → World → Prop
  | createSession {session : Session} : world.server.sessions[session.id]? = none →
      Acts world (.createSession session)
        (world.setServer { world.server with sessions := world.server.sessions.insert session.id session })
  | createRoom {id : RoomId} {code : RoomCode} {owner : SessionId} {now expiresAt : Nat} {room : Room}
      {outcome : RoomCommandOutcome} : world.server.rooms[code]? = none →
      (∀ (other : RoomCode) (stored : Room), world.server.rooms[other]? = some stored → stored.id ≠ id) →
      Room.create id code owner now expiresAt = .ok (room, outcome) →
      Acts world (.createRoom id code owner now expiresAt)
        (world.setServer { world.server with rooms := world.server.rooms.insert code room })
  | connect {n : Nat} {sessionId : SessionId} {session : Session} {now : Nat} : world.tasks[n]? = none →
      world.server.sessions[sessionId]? = some session →
      Acts world (.connect n sessionId now)
        ((world.setServer { world.server with hub := world.server.hub.register n session.id }).setTask n
          (.socket (.opened session)))
  | request {n : Nat} {sessionId : SessionId} {session : Session} {now : Nat} {call : RequestCall} :
      world.tasks[n]? = none → world.server.sessions[sessionId]? = some session →
      Acts world (.request n sessionId now call) (world.setTask n (.request { session, point := .start call }))
  | maintain {n : Nat} : world.tasks[n]? = none → Acts world (.maintain n) (world.setTask n (.maintenance .start))
  | woken {n : Nat} {label : Label} {cleanup : Cleanup} {socket socket' : Socket} :
      world.tasks[n]? = some { cleanup, work := .socket socket } → cleanup.Done → socket.point = .listening →
      Wakes n socket label socket' → Acts world label (world.setTask n (.socket socket'))
  | written {label : Label} {hub : HubState} : Writes world.server.hub label hub →
      Acts world label (world.setServer { world.server with hub })
  | ran {n : Nat} {choice : Choice} {task task' : Task} {server' : Server} : world.tasks[n]? = some task →
      task.Acts n choice world.server server' task' →
      Acts world (.run n choice) { server := server', tasks := world.tasks.insert n task' }
  | restarted : Acts world .restart
      { server := { world.server with hub := .new world.server.hub.queueCapacity }, tasks := ∅ }

theorem listening_some {socket : Socket} (h : world.listening n = some socket) :
    ∃ cleanup, world.tasks[n]? = some { cleanup, work := .socket socket } ∧ cleanup.Done ∧
      socket.point = .listening := by
  unfold listening at h
  split at h
  · rename_i cleanup client htask
    split at h
    · rename_i hdone
      cases h
      exact ⟨cleanup, htask, hdone⟩
    · cases h
  · cases h

theorem authenticate_ok {now : Nat} {sessionId : SessionId} {session : Session}
    (h : server.authenticate now sessionId = .ok session) : server.sessions[sessionId]? = some session := by
  unfold Server.authenticate at h
  split at h
  · cases h
  · rename_i hsession
    split at h
    · cases h
      exact hsession
    · cases h

theorem step_acts (h : Step world label world') : Acts world label world' := by
  have hfresh : ∀ {V : Type} {m : BTreeMap Nat V} {k : Nat}, ¬m.contains k = true → m[k]? = none := fun hk => by
    rw [Std.ExtTreeMap.contains_iff_mem] at hk
    exact Std.ExtTreeMap.getElem?_eq_none hk
  unfold Step step at h
  split at h
  · split at h
    · cases h
    · rename_i session hsession
      cases h
      rw [Std.ExtTreeMap.contains_iff_mem] at hsession
      exact .createSession (Std.ExtTreeMap.getElem?_eq_none hsession)
  · unfold createRoom at h
    split at h
    · rename_i hroom
      split at h
      · cases h
      · rename_i hcreate
        cases h
        refine .createRoom hroom.2.1 (fun other stored hstored => ?_) hcreate
        have := List.all_eq_true.mp hroom.2.2 (other, stored) (BTreeMap.mem_toList.mpr hstored)
        exact of_decide_eq_true this
    · cases h
  · split at h
    · cases h
    · rename_i hn
      split at h
      · cases h
      · rename_i hsession
        cases h
        exact .connect (hfresh hn) (authenticate_ok hsession)
  · split at h
    · cases h
    · rename_i hn
      split at h
      · cases h
      · rename_i hsession
        cases h
        exact .request (hfresh hn) (authenticate_ok hsession)
  · split at h
    · cases h
    · rename_i hn
      cases h
      exact .maintain (hfresh hn)
  · obtain ⟨socket, hlistening, hresult⟩ := Option.map_eq_some_iff.mp h
    cases hresult
    obtain ⟨cleanup, htask, hdone, hpoint⟩ := listening_some hlistening
    exact .woken htask hdone hpoint (.received _)
  · obtain ⟨socket, hlistening, hresult⟩ := Option.map_eq_some_iff.mp h
    cases hresult
    obtain ⟨cleanup, htask, hdone, hpoint⟩ := listening_some hlistening
    exact .woken htask hdone hpoint .hungUp
  · cases h
    exact .written (.took _)
  · cases h
    exact .written (.closed _)
  · split at h
    · cases h
    · rename_i task htask
      obtain ⟨⟨server', task'⟩, hstep, hresult⟩ := Option.map_eq_some_iff.mp h
      cases hresult
      exact .ran htask (Task.step_acts hstep)
  · cases h
    exact .restarted

end World

end P2PTransmission
