import P2PTransmission.Realtime.Events

/-!
# Repeating a join request

`request_join` reads the room, works out when the request would expire, and then applies the command. Its answer reports
the request that the room has under the id. A session that is not sure whether it was heard repeats the call with the
same id (`Retries`); the room knows the request again by its session and its expiry, and the expiry comes from the clock
of the repeat.
-/

set_option autoImplicit false

namespace P2PTransmission

open Storage (RoomMutation)

/-! ## The answer -/

namespace Request

variable (request : Request)

/-- The response of `request_join` to the mutation that it committed. -/
def joinResponse (mutation : RoomMutation) (requestId : RequestId) : Option JoinRequestResponse :=
  (mutation.room.joinRequestSnapshots.find? fun joinRequest => joinRequest.requestId = requestId).map fun joinRequest =>
    { roomId := mutation.room.id, requestId := joinRequest.requestId, state := joinRequest.state
      revision := mutation.room.revision, expiresAtMs := joinRequest.expiresAt }

/-- What `request_join` returns in the call that commits, if it succeeds. -/
def joinReply (choice : Choice) (server : Server) : Option JoinRequestResponse :=
  match request.point with
  | .joinCommit code requestId expectedRevision now expiresAt =>
    match (server.applyRoomCommand choice.fault code expectedRevision
        (.requestJoin requestId request.session.id now expiresAt)).1 with
    | .error _ => none
    | .ok mutation => joinResponse mutation requestId
  | _ => none

end Request

/-! ## What the server remembers -/

/-- The expiry of every room, and the session and the expiry of every request, are as they were. -/
structure Server.Remembers (before after : Server) : Prop where
  joinRequestTtl : after.joinRequestTtl = before.joinRequestTtl
  room : ∀ (code : RoomCode) (room : Room), before.rooms[code]? = some room → ∃ next, after.rooms[code]? = some next ∧
    next.expiresAt = room.expiresAt ∧ ∀ (requestId : RequestId) (request : JoinRequest),
      room.joinRequests[requestId]? = some request →
        ∃ state, next.joinRequests[requestId]? = some { request with state }

variable {before after last server server' : Server} {code : RoomCode} {requestId : RequestId} {choice : Choice}
  {out : List Attachment} {n : Nat}

theorem Server.Remembers.refl (server : Server) : server.Remembers server :=
  ⟨rfl, fun _ room hroom => ⟨room, hroom, rfl, fun _ request hrequest => ⟨request.state, hrequest⟩⟩⟩

theorem Server.Remembers.trans (h : before.Remembers after) (h' : after.Remembers last) : before.Remembers last := by
  refine ⟨h'.joinRequestTtl.trans h.joinRequestTtl, fun code room hroom => ?_⟩
  obtain ⟨next, hnext, hexpiry, hrequests⟩ := h.room code room hroom
  obtain ⟨third, hthird, hexpiry', hrequests'⟩ := h'.room code next hnext
  refine ⟨third, hthird, hexpiry'.trans hexpiry, fun requestId request hrequest => ?_⟩
  obtain ⟨state, hkept⟩ := hrequests requestId request hrequest
  exact hrequests' requestId { request with state } hkept

theorem Stores.remembers (h : Stores before after) (httl : after.joinRequestTtl = before.joinRequestTtl) :
    before.Remembers after := by
  refine ⟨httl, fun code room hroom => ?_⟩
  obtain ⟨next, hnext, rfl | ⟨command, effected, heffect, rfl⟩⟩ := h.next hroom
  · exact ⟨_, hnext, rfl, fun _ request hrequest => ⟨request.state, hrequest⟩⟩
  · exact ⟨_, hnext, heffect.same.expiresAt, fun _ _ hrequest => heffect.keepsRequest hrequest⟩

/-! ## The configured time to live -/

theorem Server.Applies.joinRequestTtl {command : RoomCommand} {mutation : RoomMutation}
    (h : server.Applies code command mutation server') : server'.joinRequestTtl = server.joinRequestTtl := by
  cases h <;> rfl

theorem Task.Acts.joinRequestTtl {task task' : Task} (h : Task.Acts n choice server task server' task') :
    server'.joinRequestTtl = server.joinRequestTtl := by
  cases h with
  | cleanup _ hacts =>
    cases hacts with
    | announced _ hbroadcast => rw [hbroadcast.server]
    | seen | failed | unchanged | detached => rfl
  | socket _ hacts =>
    cases hacts with
    | announced _ hbroadcast => rw [hbroadcast.server]
    | committed _ happlies => exact happlies.joinRequestTtl
    | refused | read | attached | watched | sent | notSent | detached | signalled | replied | unregistered => rfl
  | request _ hacts =>
    cases hacts with
    | announced _ hbroadcast => rw [hbroadcast.server]
    | leaveAnnounced _ hbroadcast => rw [hbroadcast.server]
    | joinUnread _ happlies => exact happlies.joinRequestTtl
    | joined _ happlies => exact happlies.joinRequestTtl
    | decided _ happlies => exact happlies.joinRequestTtl
    | left _ happlies => exact happlies.joinRequestTtl
    | roomDisconnected _ _ hdisconnect => rw [hdisconnect.server]
    | answered | joining | sessionDisconnected => rfl
  | maintenance _ hacts =>
    cases hacts with
    | roomAnnounced hbroadcast => rw [hbroadcast.server]
    | snapshotAnnounced hbroadcast => rw [hbroadcast.server]
    | roomExpired happlies => exact happlies.joinRequestTtl
    | requestExpired happlies => exact happlies.joinRequestTtl
    | roomDisconnected hdisconnect => rw [hdisconnect.server]
    | passed | snapshotRead | sessionsFailed | sessionsExpired => rfl

namespace World

theorem Step.joinRequestTtl {world world' : World} {label : Label} (h : Step world label world') :
    world'.server.joinRequestTtl = world.server.joinRequestTtl := by
  cases step_acts h with
  | ran _ hacts => exact hacts.joinRequestTtl
  | createSession | createRoom | connect | request | maintain | woken | written | restarted => rfl

theorem Step.remembers {world world' : World} {label : Label} (hsane : world.Sane) (h : Step world label world') :
    world.server.Remembers world'.server := (h.stores hsane).remembers h.joinRequestTtl

theorem run_remembers {world world' : World} {labels : List Label} (hsane : world.Sane)
    (h : Run Step world labels world') : world'.Sane ∧ world.server.Remembers world'.server := by
  constructor
  · exact h.invariant (fun _ _ _ hs hstep => hs.step hstep) hsane
  · exact h.relates (I := Sane) (R := fun w w' => w.server.Remembers w'.server) (fun w => .refl _)
      (fun h h' => h.trans h') (fun _ _ _ hs hstep => ⟨hs.step hstep, hstep.remembers hs⟩) hsane

/-! ## Calls -/

/-- Task `n` runs `request_join` at time `now`, without an expected revision, on a storage that answers. The call begins
in the first world; it ends with the step that leads from the second world to the last, and that step gives the reply. -/
inductive Joins (n : Nat) (session : Session) (code : RoomCode) (requestId : RequestId) (now : Nat) :
    World → World → Option JoinRequestResponse → World → Prop
  | refused {world after : World} {order : List ConnectionId} :
      world.tasks[n]? = some (.of (.request { session, point := .start (.requestJoin code requestId none) })) →
      Step world (.run n { now := some now, fault := false, order }) after →
      after.tasks[n]? = some (.of (.request { session, point := .answered })) →
      Joins n session code requestId now world world none after
  | committed {world read commit after : World} {order : List ConnectionId} {expiresAt : Nat} {between : List Label}
      {choice : Choice} :
      world.tasks[n]? = some (.of (.request { session, point := .start (.requestJoin code requestId none) })) →
      Step world (.run n { now := some now, fault := false, order }) read →
      read.tasks[n]? =
        some (.of (.request { session, point := .joinCommit code requestId none now expiresAt })) →
      Run Step read between commit →
      commit.tasks[n]? =
        some (.of (.request { session, point := .joinCommit code requestId none now expiresAt })) →
      choice.fault = false → Step commit (.run n choice) after →
      Joins n session code requestId now world commit
        (Request.joinReply { session, point := .joinCommit code requestId none now expiresAt } choice commit.server) after

/-- The reply reports the request that the first one reported, and the stored rooms are as they were. -/
def Repeats (first : JoinRequestResponse) (reply : Option JoinRequestResponse) (commit after : World) : Prop :=
  (∃ response, reply = some response ∧ response.requestId = first.requestId ∧
    response.expiresAtMs = first.expiresAtMs) ∧ after.server.rooms = commit.server.rooms

/-! ## What a call does -/

variable {world commit after : World} {session : Session} {now expiresAt : Nat}

theorem Step.of_request {request : Request} (htask : world.tasks[n]? = some (.of (.request request)))
    (h : Step world (.run n choice) after) : ∃ server' out request',
      request.step choice world.server = some (server', out, request') ∧
      after = { server := server', tasks := world.tasks.insert n { cleanup := .of out, work := .request request' } } := by
  have hdone : (Task.of (.request request)).cleanup.Done := ⟨rfl, rfl⟩
  simp only [Step, step, htask, Task.step, if_pos hdone, Option.map_eq_some_iff] at h
  obtain ⟨⟨server', task'⟩, hstep, rfl⟩ := h
  obtain ⟨⟨server', out, work'⟩, hwork, hresult⟩ := hstep
  obtain ⟨⟨server', out, request'⟩, hrequest, hresult'⟩ := Option.map_eq_some_iff.mp hwork
  cases hresult'
  cases hresult
  exact ⟨_, _, _, hrequest, rfl⟩

/-- Where the first call of `request_join` leads: to the commit, with the expiry that it has worked out. -/
def joinPoint (server : Server) (session : Session) (code : RoomCode) (requestId : RequestId) (now : Nat) :
    RequestPoint :=
  match server.rooms[code]? with
  | none => .answered
  | some room =>
    if session.ensureActive now = .ok () ∧ now + server.joinRequestTtl ≤ U64_MAX then
      .joinCommit code requestId none now (min (now + server.joinRequestTtl) room.expiresAt)
    else .answered

theorem Step.of_start {order : List ConnectionId}
    (htask : world.tasks[n]? = some (.of (.request { session, point := .start (.requestJoin code requestId none) })))
    (h : Step world (.run n { now := some now, fault := false, order }) after) : after.server = world.server ∧
      after.tasks[n]? =
        some (.of (.request { session, point := joinPoint world.server session code requestId now })) := by
  obtain ⟨server', out, request', hstep, rfl⟩ := Step.of_request htask h
  have hget : ∀ (tasks : BTreeMap Nat Task) (task : Task), (tasks.insert n task)[n]? = some task := fun tasks task => by
    rw [BTreeMap.getElem?_insert, if_pos rfl]
  rw [hget]
  unfold joinPoint
  unfold Request.step at hstep
  dsimp only at hstep
  split at hstep
  · rename_i room hnow hroom
    cases hnow
    rw [Server.findRoomByCode_some hroom]
    dsimp only
    split at hstep
    · rename_i hactive hexpiry
      rw [EpochMillis.checkedAdd] at hexpiry
      split at hexpiry
      · rename_i hfits
        cases hexpiry
        cases hstep
        rw [if_pos ⟨hactive, hfits⟩]
        exact ⟨rfl, rfl⟩
      · cases hexpiry
    · rename_i hrefused
      cases hstep
      rw [if_neg]
      · exact ⟨rfl, rfl⟩
      · intro hok
        exact hrefused _ hok.1 (if_pos hok.2)
  · rename_i hnone
    cases hstep
    cases hroom : world.server.rooms[code]? with
    | none => exact ⟨rfl, rfl⟩
    | some room => exact absurd (by rw [Server.findRoomByCode, hroom]; rfl) (hnone now room rfl)

/-- The request of an id, as the services look it up. -/
theorem find_joinRequest {room : Room} {request : JoinRequest} (h : room.joinRequests[requestId]? = some request) :
    (room.joinRequestSnapshots.find? fun joinRequest => joinRequest.requestId = requestId) =
      some { requestId, sessionId := request.sessionId, expiresAt := request.expiresAt, state := request.state } := by
  cases hfind : room.joinRequestSnapshots.find? fun joinRequest => joinRequest.requestId = requestId with
  | none =>
    have hmem : (⟨requestId, request.sessionId, request.expiresAt, request.state⟩ : RoomJoinRequestSnapshot) ∈
        room.joinRequestSnapshots := Server.mem_joinRequestSnapshots.mpr h
    have hne := List.find?_eq_none.mp hfind _ hmem
    simp at hne
  | some found =>
    have hid : found.requestId = requestId := by simpa using List.find?_some hfind
    have hmem := Server.mem_joinRequestSnapshots.mp (List.mem_of_find?_eq_some hfind)
    obtain ⟨id, sessionId, expiresAt, state⟩ := found
    cases hid
    rw [h] at hmem
    cases hmem
    rfl

/-- The second call commits the command, and gives the reply that the mutation leads to. -/
theorem Step.of_commit {request : Request} (hpoint : request.point = .joinCommit code requestId none now expiresAt)
    (htask : commit.tasks[n]? = some (.of (.request request))) (h : Step commit (.run n choice) after) :
    (∃ error, commit.server.applyRoomCommand choice.fault code none
        (.requestJoin requestId request.session.id now expiresAt) = (.error error, after.server) ∧
      request.joinReply choice commit.server = none) ∨
    ∃ mutation, commit.server.applyRoomCommand choice.fault code none
        (.requestJoin requestId request.session.id now expiresAt) = (.ok mutation, after.server) ∧
      request.joinReply choice commit.server = Request.joinResponse mutation requestId := by
  obtain ⟨server', out, request', hstep, rfl⟩ := Step.of_request htask h
  unfold Request.step at hstep
  rw [hpoint] at hstep
  dsimp only at hstep
  rw [Request.joinReply, hpoint]
  dsimp only
  split at hstep
  · rename_i error next happly
    cases hstep
    exact .inl ⟨error, happly, by rw [happly]⟩
  · rename_i mutation next happly
    refine .inr ⟨mutation, ?_, by rw [happly]⟩
    split at hstep
    · cases hstep
      exact happly
    · cases hstep
      exact happly

/-- A call that is answered leaves its request in the room, with the expiry of the answer. -/
theorem Joins.accepted {world : World} {response : JoinRequestResponse} (hsane : world.Sane)
    (h : Joins n session code requestId now world commit (some response) after) :
    response.requestId = requestId ∧ session.ensureActive now = .ok () ∧
      now + world.server.joinRequestTtl ≤ U64_MAX ∧ world.server.Remembers after.server ∧ after.Sane ∧
      ∃ room request, after.server.rooms[code]? = some room ∧ room.joinRequests[requestId]? = some request ∧
        request.sessionId = session.id ∧ request.expiresAt = response.expiresAtMs ∧
        response.expiresAtMs = min (now + world.server.joinRequestTtl) room.expiresAt := by
  generalize hreply : some response = reply at h
  cases h with
  | refused => cases hreply
  | committed hstart hread hpoint hbetween hcommit hfault hstep =>
    obtain ⟨hsame, htask⟩ := hread.of_start hstart
    obtain ⟨hcommitSane, hcommitted⟩ := run_remembers (hsane.step hread) hbetween
    have hafter := hstep.remembers hcommitSane
    have hremembers : world.server.Remembers after.server := by
      rw [← hsame]
      exact hcommitted.trans hafter
    rw [hpoint] at htask
    have hjoin : RequestPoint.joinCommit _ _ _ _ _ = joinPoint world.server session code requestId now :=
      (Request.mk.inj (Work.request.inj (Task.mk.inj (Option.some.inj htask)).2)).2
    unfold joinPoint at hjoin
    split at hjoin
    · cases hjoin
    rename_i room hroom
    split at hjoin
    · rename_i hok
      cases hjoin
      rcases hstep.of_commit rfl hcommit with ⟨error, -, hnone⟩ | ⟨mutation, happly, hresponse⟩
      · rw [hnone] at hreply
        cases hreply
      · rw [hresponse] at hreply
        obtain ⟨found, hfind, hfound⟩ := Option.map_eq_some_iff.mp hreply.symm
        have happlies := Server.applyRoomCommand_ok happly
        obtain ⟨stored, hstored, hhandle⟩ := happlies.handled
        obtain ⟨-, request, hrequest, hsession, hexpires⟩ := Room.requestJoin_accepted hhandle
        rw [find_joinRequest hrequest] at hfind
        cases hfind
        cases hfound
        obtain ⟨next, hnext, hexpiry, -⟩ := hremembers.room code room hroom
        have hmutation : mutation.room = next := Option.some.inj (happlies.stored.symm.trans hnext)
        refine ⟨rfl, hok.1, hok.2, hremembers, hcommitSane.step hstep, next, request, hnext, ?_, hsession, rfl, ?_⟩
        · rw [← hmutation]
          exact hrequest
        · rw [hexpiry]
          exact hexpires
    · cases hjoin

/-- A call that works out the expiry of its stored request is answered with it, and changes nothing. -/
theorem Joins.repeated {world : World} {reply : Option JoinRequestResponse}
    (h : Joins n session code requestId now world commit reply after) {read room : Room} {request : JoinRequest}
    (hread : world.server.rooms[code]? = some read) (hroom : commit.server.rooms[code]? = some room)
    (hactive : room.state = .active) (hlive : now < room.expiresAt)
    (hrequest : room.joinRequests[requestId]? = some request) (hsession : request.sessionId = session.id)
    (hnow : now < request.expiresAt) (hok : session.ensureActive now = .ok ())
    (hfits : now + world.server.joinRequestTtl ≤ U64_MAX) (hsame : read.expiresAt = room.expiresAt)
    (hexpiry : request.expiresAt = min (now + world.server.joinRequestTtl) room.expiresAt) :
    reply = some { roomId := room.id, requestId, state := request.state, revision := room.revision
                   expiresAtMs := request.expiresAt } ∧ after.server = commit.server := by
  have hjoin : joinPoint world.server session code requestId now =
      .joinCommit code requestId none now request.expiresAt := by
    rw [joinPoint, hread]
    dsimp only
    rw [if_pos ⟨hok, hfits⟩, hsame, hexpiry]
  cases h with
  | refused hstart hstep hrefused =>
    obtain ⟨-, htask⟩ := hstep.of_start hstart
    rw [hrefused, hjoin] at htask
    have := (Request.mk.inj (Work.request.inj (Task.mk.inj (Option.some.inj htask)).2)).2
    cases this
  | committed hstart hstep hpoint hbetween hcommit hfault hlast =>
    obtain ⟨-, htask⟩ := hstep.of_start hstart
    rw [hpoint, hjoin] at htask
    have hpoint := (Request.mk.inj (Work.request.inj (Task.mk.inj (Option.some.inj htask)).2)).2
    cases hpoint
    have hhandle : room.handle (.requestJoin requestId session.id now request.expiresAt) = room.unchanged := by
      show room.requestJoin requestId session.id now request.expiresAt = room.unchanged
      rw [Room.requestJoin, Room.ensureActive_of hactive hlive]
      dsimp only
      rw [if_neg (by omega), hrequest]
      exact if_pos ⟨hsession, rfl⟩
    have happly : commit.server.applyRoomCommand false code none
        (.requestJoin requestId session.id now request.expiresAt) =
          (.ok { room, outcome := .UNCHANGED }, commit.server) := by
      rw [Server.applyRoomCommand, if_neg (by simp), hroom]
      dsimp only [Option.filter]
      rw [hhandle]
      rfl
    rw [← hfault] at happly
    rcases hlast.of_commit rfl hcommit with ⟨error, herror, -⟩ | ⟨mutation, hmutation, hreply⟩
    · rw [happly] at herror
      cases herror
    · rw [happly] at hmutation
      obtain ⟨hcases, hserver⟩ := Prod.mk.inj hmutation
      cases hcases
      rw [hreply, Request.joinResponse, find_joinRequest hrequest]
      exact ⟨rfl, hserver.symm⟩

theorem Joins.remembers {world : World} {reply : Option JoinRequestResponse} (hsane : world.Sane)
    (h : Joins n session code requestId now world commit reply after) : world.server.Remembers commit.server := by
  cases h with
  | refused => exact .refl _
  | committed _ hread _ hbetween _ _ _ =>
    exact (hread.remembers hsane).trans (run_remembers (hsane.step hread) hbetween).2

/-! ## Retries -/

variable {queueCapacity joinRequestTtl t t' : Nat} {room : Room} {first : JoinRequestResponse}
  {reply : Option JoinRequestResponse}

/-- The guest's call at a point of it. -/
def guestCall (point : RequestPoint) : Request := { session := guestSession, point }

def callStart : RequestPoint := .start (.requestJoin roomCode Room.requestOne none)

def callCommit (now expiresAt : Nat) : RequestPoint := .joinCommit roomCode Room.requestOne none now expiresAt

/-- The task of a call where it starts and where it commits, and its reply. -/
structure CallTrace where
  start : Option Task
  commit : Option Task
  reply : Option JoinRequestResponse
  deriving DecidableEq

def calls (now expiresAt : Nat) (reply : Option JoinRequestResponse) : CallTrace :=
  { start := some (.of (.request (guestCall callStart)))
    commit := some (.of (.request (guestCall (callCommit now expiresAt)))), reply }

end World

end P2PTransmission
