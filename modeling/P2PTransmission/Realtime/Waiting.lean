import P2PTransmission.Realtime.Reception
import P2PTransmission.Realtime.Visibility

/-!
# Waiting for a decision

A receiver watches its join request with `watch_join_request`, which reads the status and a snapshot, lets the hub add the
connection to the room, and then sends `JoinWatching` and the snapshot it has read. Whoever waits is told of the
resolution, or a handler that will tell or disconnect it is in flight (`World.Assured`). Two steps can break this: the
hub adds a connection whose request is resolved and announced already, and a maintenance pass that gives up a room it has
changed.
-/

set_option autoImplicit false

namespace P2PTransmission

/-! ## Reading and resolving -/

/-- The request was made by this session. -/
def Server.Asked (server : Server) (roomId : RoomId) (requestId : RequestId) (sessionId : SessionId) : Prop :=
  ∃ (code : RoomCode) (room : Room) (request : JoinRequest), server.rooms[code]? = some room ∧ room.id = roomId ∧
    room.joinRequests[requestId]? = some request ∧ request.sessionId = sessionId

/-- The stored request is no longer pending. -/
def Server.Resolved (server : Server) (roomId : RoomId) (requestId : RequestId) : Prop :=
  ∃ (code : RoomCode) (room : Room) (state : JoinRequestState), server.rooms[code]? = some room ∧ room.id = roomId ∧
    room.joinRequestState requestId = some state ∧ state ≠ .pending

theorem Stores.asked {before after : Server} (h : Stores before after) {roomId : RoomId} {requestId : RequestId}
    {sessionId : SessionId} (hasked : before.Asked roomId requestId sessionId) :
    after.Asked roomId requestId sessionId := by
  obtain ⟨code, room, request, hroom, hid, hrequest, hsession⟩ := hasked
  obtain ⟨next, hnext, rfl | ⟨command, effected, heffect, rfl⟩⟩ := h.next hroom
  · exact ⟨code, _, request, hnext, hid, hrequest, hsession⟩
  · obtain ⟨state, hkept⟩ := heffect.keepsRequest hrequest
    exact ⟨code, _, { request with state }, hnext, heffect.same.id.trans hid, hkept, hsession⟩

theorem Server.MovesOn.resolved {before after : Server} (h : before.MovesOn after) {roomId : RoomId}
    {requestId : RequestId} (hresolved : before.Resolved roomId requestId) : after.Resolved roomId requestId := by
  obtain ⟨code, room, state, hroom, hid, hstate, hne⟩ := hresolved
  obtain ⟨next, hnext, hsame, -, hsettled⟩ := h code room hroom
  exact ⟨code, next, state, hnext, hsame.trans hid, hsettled.request requestId state hstate hne, hne⟩

namespace World

variable {world world' : World} {label : Label}

/-- The step resolves a join request, with this revision. -/
def Resolves (world world' : World) (roomId : RoomId) (requestId : RequestId) (revision : Nat) : Prop :=
  ∃ room command next, Commits world.server world'.server room command next ∧ room.id = roomId ∧
    room.joinRequestState requestId = some .pending ∧ next.joinRequestState requestId ≠ some .pending ∧
    next.revision = revision

/-- A snapshot of the room at or after the revision with which the run resolves the request. -/
def Late (queueCapacity joinRequestTtl : Nat) (labels : List Label) (roomId : RoomId) (requestId : RequestId)
    (snapshot : RoomBootstrapResponse) : Prop :=
  snapshot.roomId = roomId ∧ ∀ world label world' revision,
    Taken Step (World.initial queueCapacity joinRequestTtl) labels world label world' →
      world.Resolves world' roomId requestId revision → revision ≤ snapshot.revision

theorem step_unique (world : World) (label : Label) (world' world'' : World) (h : Step world label world')
    (h' : Step world label world'') : world' = world'' := Option.some.inj (h.symm.trans h')

/-- The room of a request that is resolved has the revision that resolved it. -/
theorem resolved_revision {queueCapacity joinRequestTtl : Nat} {labels : List Label}
    (hvisited : Visited Step (World.initial queueCapacity joinRequestTtl) labels world) {code : RoomCode} {room : Room}
    {requestId : RequestId} {state : JoinRequestState} (hroom : world.server.rooms[code]? = some room)
    (hstate : room.joinRequestState requestId = some state) (hne : state ≠ .pending) {before : World} {label : Label}
    {after : World} {revision : Nat}
    (htaken : Taken Step (World.initial queueCapacity joinRequestTtl) labels before label after)
    (hresolves : before.Resolves after room.id requestId revision) : revision ≤ room.revision := by
  obtain ⟨changed, command, next, hcommits, hid, hpending, -, rfl⟩ := hresolves
  have hsane := visited_sane htaken.before
  rcases htaken.compare step_unique hvisited with ⟨between, hrun⟩ | ⟨between, hrun⟩
  · -- what is resolved here cannot be pending later
    exfalso
    obtain ⟨later, hlater, hsame, -, hsettled⟩ := run_movesOn hrun (visited_sane hvisited) code room hroom
    have hcode : code = changed.code :=
      hsane.server.rooms.id code changed.code later changed hlater hcommits.stored (hsame.trans hid.symm)
    subst hcode
    rw [hcommits.stored] at hlater
    cases hlater
    have := hsettled.request requestId state hstate hne
    rw [hpending] at this
    exact hne (Option.some.inj this).symm
  · have hsane' := visited_sane htaken.after
    have hnext : after.server.rooms[changed.code]? = some next := by
      rw [hcommits.rooms, BTreeMap.getElem?_insert, if_pos rfl]
    obtain ⟨later, hlater, hsame, hle, -⟩ := run_movesOn hrun hsane' changed.code next hnext
    have hnextId : next.id = changed.id := by
      have := changed.handle_same command
      rw [hcommits.handled] at this
      exact this.id
    have hcode : changed.code = code :=
      (visited_sane hvisited).server.rooms.id changed.code code later room hlater hroom
        (by rw [hsame, hnextId, hid])
    subst hcode
    rw [hroom] at hlater
    cases hlater
    exact hle

/-- A snapshot that is read once a request is resolved is late enough. -/
theorem late_of_read {queueCapacity joinRequestTtl : Nat} {labels : List Label}
    (hvisited : Visited Step (World.initial queueCapacity joinRequestTtl) labels world) {choice : Choice}
    {session : Session} {code : RoomCode} {snapshot : RoomBootstrapResponse}
    (hread : world.server.bootstrapRoom choice session code = .ok snapshot) {requestId : RequestId}
    (hresolved : world.server.Resolved snapshot.roomId requestId) :
    Late queueCapacity joinRequestTtl labels snapshot.roomId requestId snapshot := by
  obtain ⟨room, hroom, hid, hrevision⟩ := Server.bootstrapRoom_ok hread
  obtain ⟨other, stored, state, hstored, hsame, hstate, hne⟩ := hresolved
  have hcode : other = code :=
    (visited_sane hvisited).server.rooms.id other code stored room hstored hroom (hsame.trans hid)
  subst hcode
  obtain rfl : stored = room := Option.some.inj (hstored.symm.trans hroom)
  refine ⟨rfl, fun before label after revision htaken hresolves => ?_⟩
  rw [hid] at hresolves
  rw [hrevision]
  exact resolved_revision hvisited hroom hstate hne htaken hresolves

end World

/-! ## Waiting connections -/

/-- The request that a `JoinWatching` names. -/
def Outbound.watching? : Outbound → Option (RoomId × RequestId)
  | .message (.joinWatching roomId requestId _) => some (roomId, requestId)
  | _ => none

/-- The request that the last `JoinWatching` of a queue names. -/
def lastWatching (sent : List Outbound) : Option (RoomId × RequestId) := (sent.filterMap Outbound.watching?).getLast?

theorem lastWatching_quiet {sent new : List Outbound} (h : ∀ outbound ∈ new, outbound.watching? = none) :
    lastWatching (sent ++ new) = lastWatching sent := by
  rw [lastWatching, List.filterMap_append, List.filterMap_eq_nil_iff.mpr h, List.append_nil, lastWatching]

theorem lastWatching_concat (sent : List Outbound) (roomId : RoomId) (requestId : RequestId) (revision : Nat) :
    lastWatching (sent ++ [.message (.joinWatching roomId requestId revision)]) = some (roomId, requestId) := by
  rw [lastWatching, List.filterMap_append]
  exact List.getLast?_concat

namespace HubState

/-- The connection is registered to watch the room, and its handshake for the request ended last. -/
def Awaits (hub : HubState) (c : ConnectionId) (roomId : RoomId) (requestId : RequestId) : Prop :=
  (∃ watch, hub.watchOf c = some watch ∧ watch.roomId = roomId) ∧
    lastWatching (hub.sentTo c) = some (roomId, requestId)

/-- The queue of the connection has had the decision on the request, or a late enough snapshot. -/
def Informed (hub : HubState) (late : RoomBootstrapResponse → Prop) (c : ConnectionId) (requestId : RequestId) :
    Prop :=
  (∃ revision decision, .message (.joinDecided revision requestId decision) ∈ hub.sentTo c) ∨
    ∃ snapshot, .message (.roomSnapshot snapshot) ∈ hub.sentTo c ∧ late snapshot

end HubState

/-- The `JoinWatching` that a handler is about to send. -/
def Work.watching? : Work → Option Watching
  | .socket client =>
    match client.point with
    | .watchSend watching _ => some watching
    | _ => none
  | _ => none

/-- The handler is about to send its connection a late enough snapshot. -/
def Work.Brings (late : RoomBootstrapResponse → Prop) : Work → Prop
  | .socket client =>
    match client.point with
    | .watchSend watching snapshot => watching.lastRevision ≠ some snapshot.revision ∧ late snapshot
    | .watchSnapshot snapshot => late snapshot
    | _ => False
  | _ => False

/-- The rooms that a pass of the maintenance has changed and not announced. -/
def Maintenance.unannounced : Maintenance → List Room
  | .expireRooms _ _ mutations | .announceRooms _ mutations | .expireRequests _ _ mutations
  | .readSnapshots _ mutations | .announceSnapshot _ _ _ mutations => mutations.map (·.room)
  | .disconnectRoom _ room _ mutations => room :: mutations.map (·.room)
  | _ => []

/-- The task will tell the room that the request is resolved, or disconnect the session that waits for it. -/
inductive Work.Settles (late : RoomBootstrapResponse → Prop) (roomId : RoomId) (sessionId : SessionId)
    (requestId : RequestId) : Work → Prop
  | decided {request : Request} {revision : Nat} {decision : JoinDecisionWire} :
      request.point = .announce { roomId, message := .joinDecided revision requestId decision } →
      Settles late roomId sessionId requestId (.request request)
  | leaving {request : Request} {room : Room} :
      (request.point = .leaveAnnounce room ∨ ∃ cleanup, request.point = .leaveDisconnect room cleanup) →
      room.id = roomId → (room.state = .expired ∨ request.session.id = sessionId) →
      Settles late roomId sessionId requestId (.request request)
  | maintained {pass : Maintenance} {room : Room} : room ∈ pass.unannounced → room.id = roomId →
      Settles late roomId sessionId requestId (.maintenance pass)
  | snapshot {now : Nat} {room : Room} {snapshot : RoomBootstrapResponse} {mutations : List Storage.RoomMutation} :
      room.id = roomId → late snapshot →
      Settles late roomId sessionId requestId (.maintenance (.announceSnapshot now room snapshot mutations))

/-- The connection was told of the resolution, or a task of these will tell or disconnect it. -/
def Assured (hub : HubState) (tasks : BTreeMap Nat Task) (late : RoomBootstrapResponse → Prop) (c : ConnectionId)
    (watch : JoinWatch) (requestId : RequestId) : Prop :=
  hub.Informed late c requestId ∨
    (∃ (n : Nat) (task : Task), tasks[n]? = some task ∧
      task.work.Settles late watch.roomId watch.sessionId requestId) ∨
    ∃ task, tasks[c]? = some task ∧ task.work.Brings late

namespace World

variable (world : World)

/-- The connection watches the room of the request, at the end of its handshake or just before. -/
def Waits (c : ConnectionId) (watch : JoinWatch) (requestId : RequestId) : Prop :=
  world.server.hub.watchOf c = some watch ∧
    match (world.tasks[c]?).bind (·.work.watching?) with
    | some watching => watching.requestId = requestId
    | none => lastWatching (world.server.hub.sentTo c) = some (watch.roomId, requestId)

end World

/-- The pass ends without announcing a room that it has changed, or passes it over. -/
inductive Maintenance.GivesUp : Maintenance → Maintenance → RoomId → Prop
  | failed {pass : Maintenance} {room : Room} : room ∈ pass.unannounced → GivesUp pass .finished room.id
  | skipped {now : Nat} {mutation : Storage.RoomMutation} {mutations : List Storage.RoomMutation} :
      (∀ other ∈ mutations, other.room.id ≠ mutation.room.id) →
      GivesUp (.readSnapshots now (mutation :: mutations)) (.readSnapshots now mutations) mutation.room.id

namespace World

/-- The hub adds a connection to a room only while its request is pending or its resolution is still to be told, and the
maintenance gives up no room where someone waits for a resolved request without being told by another task. -/
structure Timely (late : RoomId → RequestId → RoomBootstrapResponse → Prop) (world : World) (label : Label)
    (world' : World) : Prop where
  watched : ∀ (n : Nat) (choice : Choice) (cleanup : Cleanup) (socket : Socket) (watching : Watching)
    (snapshot : RoomBootstrapResponse), label = .run n choice →
    world.tasks[n]? = some { cleanup, work := .socket socket } → cleanup.Done →
    socket.point = .watchHub watching snapshot → world.server.Resolved watching.status.roomId watching.requestId →
    Assured world.server.hub world.tasks (late watching.status.roomId watching.requestId) n
        { roomId := watching.status.roomId, sessionId := socket.session.id } watching.requestId ∨
      watching.lastRevision ≠ some snapshot.revision ∧ late watching.status.roomId watching.requestId snapshot
  maintained : ∀ (n : Nat) (choice : Choice) (cleanup cleanup' : Cleanup) (pass pass' : Maintenance) (roomId : RoomId),
    label = .run n choice → world.tasks[n]? = some { cleanup, work := .maintenance pass } → cleanup.Done →
    world'.tasks[n]? = some { cleanup := cleanup', work := .maintenance pass' } → pass.GivesUp pass' roomId →
    ∀ c watch requestId, world.Waits c watch requestId → watch.roomId = roomId →
      world.server.Resolved roomId requestId →
      Assured world.server.hub (world.tasks.erase n) (late roomId requestId) c watch requestId

end World

end P2PTransmission
