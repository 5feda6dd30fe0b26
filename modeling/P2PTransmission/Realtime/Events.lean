import P2PTransmission.Realtime.Privacy

/-!
# One event for each revision

The server records which command made which revision of a room (`Server.Ledger`: no revision is made twice). An event is
true if it tells the room of the command that made its revision (`Server.Tells`); two true events of one revision are the
same. A handler that changes a room announces its own command, but a request that finds its work done announces it again
under the revision that the room has by then.
-/

set_option autoImplicit false

namespace P2PTransmission

open Storage (RoomMutation)
open Server (Applies Broadcasts Disconnects)

/-! ## The ledger -/

namespace Server

/-- No revision of a room is made twice, and none is made that its room does not have yet. -/
structure Ledger (server : Server) : Prop where
  unique : ∀ p ∈ server.produced, ∀ p' ∈ server.produced, p.roomId = p'.roomId → p.revision = p'.revision → p = p'
  reached : ∀ p ∈ server.produced, ∃ (code : RoomCode) (room : Room), server.rooms[code]? = some room ∧
    room.id = p.roomId ∧ p.revision ≤ room.revision

/-- The command made the revision that the room has. -/
def Made (server : Server) (room : Room) (command : RoomCommand) : Prop :=
  { roomId := room.id, revision := room.revision, command } ∈ server.produced

variable {server server' : Server}

end Server

namespace Commits

variable {before after : Server} {room next : Room} {command : RoomCommand}

theorem revision (h : Commits before after room command next) : next.id = room.id ∧ next.revision = room.revision + 1 := by
  obtain ⟨effected, heffect, rfl⟩ := Room.handle_changed h.handled
  exact ⟨heffect.same.id, rfl⟩

/-- What was made before is older than what the command makes. -/
theorem older (h : Commits before after room command next) (hok : Server.RoomsOk before.rooms) (hledger : before.Ledger)
    {p : Produced} (hp : p ∈ before.produced) (hroom : p.roomId = next.id) : p.revision < next.revision := by
  obtain ⟨hid, hrevision⟩ := h.revision
  obtain ⟨code, stored, hstored, hsame, hle⟩ := hledger.reached p hp
  have hcode : code = room.code := hok.id code room.code stored room hstored h.stored (by rw [hsame, hroom, hid])
  subst hcode
  rw [h.stored] at hstored
  cases hstored
  omega

end Commits

theorem Stores.ledger {before after : Server} (h : Stores before after) (hok : Server.RoomsOk before.rooms)
    (hledger : before.Ledger) : after.Ledger := by
  cases h with
  | same hrooms hproduced =>
    refine ⟨by rw [hproduced]; exact hledger.unique, fun p hp => ?_⟩
    rw [hproduced] at hp
    rw [hrooms]
    exact hledger.reached p hp
  | @created _ code _ _ _ created _ hfresh _ _ hrooms hproduced =>
    refine ⟨by rw [hproduced]; exact hledger.unique, fun p hp => ?_⟩
    rw [hproduced] at hp
    obtain ⟨c, room, hroom, hp⟩ := hledger.reached p hp
    refine ⟨c, room, ?_, hp⟩
    rw [hrooms, BTreeMap.getElem?_insert, if_neg]
    · exact hroom
    · rintro rfl
      rw [hfresh] at hroom
      cases hroom
  | @committed room next command hcommits =>
    obtain ⟨hid, hrevision⟩ := hcommits.revision
    refine ⟨fun p hp p' hp' hroom hsame => ?_, fun p hp => ?_⟩
    · rw [hcommits.produced] at hp hp'
      rcases List.mem_cons.mp hp with rfl | hp
      · rcases List.mem_cons.mp hp' with rfl | hp'
        · rfl
        · have := hcommits.older hok hledger hp' hroom.symm
          exact absurd hsame.symm (Nat.ne_of_lt this)
      · rcases List.mem_cons.mp hp' with rfl | hp'
        · have := hcommits.older hok hledger hp hroom
          exact absurd hsame (Nat.ne_of_lt this)
        · exact hledger.unique p hp p' hp' hroom hsame
    · rw [hcommits.produced] at hp
      rw [hcommits.rooms]
      rcases List.mem_cons.mp hp with rfl | hp
      · exact ⟨room.code, next, by rw [BTreeMap.getElem?_insert, if_pos rfl], rfl, Nat.le_refl _⟩
      · obtain ⟨code, stored, hstored, hsame, hle⟩ := hledger.reached p hp
        by_cases hcode : room.code = code
        · subst hcode
          rw [hcommits.stored] at hstored
          cases hstored
          exact ⟨room.code, next, by rw [BTreeMap.getElem?_insert, if_pos rfl], hid.trans hsame, by omega⟩
        · exact ⟨code, stored, by rw [BTreeMap.getElem?_insert, if_neg hcode, hstored], hsame, hle⟩

/-- What was made stays on record. -/
theorem Stores.produced {before after : Server} (h : Stores before after) {p : Produced} (hp : p ∈ before.produced) :
    p ∈ after.produced := by
  cases h with
  | same _ hproduced => exact hproduced ▸ hp
  | created _ _ _ _ hproduced => exact hproduced ▸ hp
  | committed hcommits =>
    rw [hcommits.produced]
    exact List.mem_cons_of_mem _ hp

/-! ## True events -/

namespace Server

/-- The event that tells a room of the command that made a revision. The expiry of a request has none: it is announced
with a snapshot. -/
def eventOf (server : Server) (owner : SessionId) (revision : Nat) : RoomCommand → Option ServerRealtimeMessage
  | .requestJoin requestId sessionId _ expiresAt => (server.displayName sessionId).map fun name =>
    .joinRequested revision { requestId, sessionId, displayName := name.value, expiresAtMs := expiresAt }
  | .decideJoin _ requestId decision _ => some (.joinDecided revision requestId decision.wire)
  | .expireJoinRequest _ _ => none
  | .attach sessionId peerId _ => some (.peerOnline revision sessionId peerId)
  | .detach sessionId _ => some (.peerOffline revision sessionId)
  | .leave sessionId => some (if sessionId = owner then .roomExpired revision else .peerOffline revision sessionId)
  | .expire _ => some (.roomExpired revision)

/-- The event tells the room of the command that made its revision. -/
def Tells (server : Server) (event : Broadcast) : Prop :=
  ∃ p ∈ server.produced, p.roomId = event.roomId ∧ ∃ owner, server.OwnerOf event.roomId owner ∧
    server.eventOf owner p.revision p.command = some event.message

/-- All broadcasts of a revision are the same event, and it describes the mutation that produced the revision. -/
structure OneEvent (server : Server) : Prop where
  unique : ∀ event ∈ server.broadcasts, ∀ event' ∈ server.broadcasts, event.roomId = event'.roomId →
    ∀ revision, event.message.eventRevision = some revision → event'.message.eventRevision = some revision →
      event.message = event'.message
  tells : ∀ event ∈ server.broadcasts, event.message.eventRevision ≠ none → server.Tells event

variable {server server' : Server} {owner : SessionId} {revision : Nat} {command : RoomCommand}

theorem eventOf_revision {message : ServerRealtimeMessage} (h : server.eventOf owner revision command = some message) :
    message.eventRevision = some revision := by
  cases command with
  | requestJoin requestId sessionId now expiresAt =>
    obtain ⟨name, -, rfl⟩ := Option.map_eq_some_iff.mp h
    rfl
  | leave sessionId =>
    cases h
    split <;> rfl
  | decideJoin | attach | detach | expire =>
    cases h
    rfl
  | expireJoinRequest => cases h

theorem OwnerOf.unique (hok : RoomsOk server.rooms) {roomId : RoomId} {owner owner' : SessionId}
    (h : server.OwnerOf roomId owner) (h' : server.OwnerOf roomId owner') : owner = owner' := by
  obtain ⟨code, room, hroom, hid, rfl⟩ := h
  obtain ⟨code', room', hroom', hid', rfl⟩ := h'
  have hcode := hok.id code code' room room' hroom hroom' (hid.trans hid'.symm)
  subst hcode
  rw [hroom] at hroom'
  cases hroom'
  rfl

/-- **True events of one revision are the same.** -/
theorem Tells.unique (hok : RoomsOk server.rooms) (hledger : server.Ledger) {event event' : Broadcast}
    (h : server.Tells event) (h' : server.Tells event') (hroom : event.roomId = event'.roomId)
    (hrevision : event.message.eventRevision = event'.message.eventRevision) : event.message = event'.message := by
  obtain ⟨p, hp, hid, owner, howner, hevent⟩ := h
  obtain ⟨p', hp', hid', owner', howner', hevent'⟩ := h'
  have hsame : p = p' := by
    refine hledger.unique p hp p' hp' (by rw [hid, hid', hroom]) ?_
    rw [eventOf_revision hevent, eventOf_revision hevent'] at hrevision
    exact Option.some.inj hrevision
  have hsession : owner = owner' := howner.unique hok (by rw [hroom]; exact howner')
  subst hsame hsession
  exact Option.some.inj (hevent.symm.trans hevent')

/-- A true event stays true. -/
theorem Tells.stays {event : Broadcast} (h : server.Tells event) (hstores : Stores server server')
    (hnames : ∀ sessionId name, server.displayName sessionId = some name → server'.displayName sessionId = some name) :
    server'.Tells event := by
  obtain ⟨p, hp, hid, owner, howner, hevent⟩ := h
  refine ⟨p, hstores.produced hp, hid, owner, hstores.ownerOf howner, ?_⟩
  cases hcommand : p.command with
  | requestJoin requestId sessionId now expiresAt =>
    rw [hcommand] at hevent
    obtain ⟨name, hname, hevent⟩ := Option.map_eq_some_iff.mp hevent
    rw [eventOf, hnames _ _ hname, ← hevent]
    rfl
  | decideJoin | expireJoinRequest | attach | detach | leave | expire =>
    rw [hcommand] at hevent
    exact hevent

/-- The event of a stored room and the command that made its revision is true. -/
theorem Made.tells {code : RoomCode} {room : Room} (h : server.Made room command)
    (hroom : server.rooms[code]? = some room) {message : ServerRealtimeMessage}
    (hevent : server.eventOf room.owner room.revision command = some message) :
    server.Tells { roomId := room.id, message } :=
  ⟨_, h, rfl, room.owner, ⟨code, room, hroom, rfl, rfl⟩, hevent⟩

/-- A command that changed a room made the revision that the room has now. -/
theorem Applies.made {code : RoomCode} {mutation : RoomMutation} (h : Applies server code command mutation server')
    (hchanged : mutation.outcome.changed = true) : server'.Made mutation.room command := by
  cases h with
  | unchanged => cases hchanged
  | changed => exact List.mem_cons_self

theorem Applies.broadcasts {code : RoomCode} {mutation : RoomMutation}
    (h : Applies server code command mutation server') : server'.broadcasts = server.broadcasts := by
  cases h <;> rfl

theorem Applies.tells {code : RoomCode} {mutation : RoomMutation} (h : Applies server code command mutation server')
    (hchanged : mutation.outcome.changed = true) {message : ServerRealtimeMessage}
    (hevent : server'.eventOf mutation.room.owner mutation.room.revision command = some message) :
    server'.Tells { roomId := mutation.room.id, message } := (h.made hchanged).tells h.stored hevent

end Server

/-! ## The events that a task owes -/

/-- The events that a handler has still to announce. -/
def Socket.owed (socket : Socket) : List Broadcast :=
  match socket.point with
  | .attachHub attaching | .attachSend attaching | .attachRead attaching | .attachSnapshot attaching _ =>
    if attaching.mutation.outcome.changed then [socket.online attaching] else []
  | .attachAnnounce attaching => [socket.online attaching]
  | _ => []

def Request.owed (request : Request) : List Broadcast :=
  match request.point with
  | .announce event => [event]
  | .leaveAnnounce room => [request.left room]
  | _ => []

def Maintenance.owed : Maintenance → List Broadcast
  | .expireRooms _ _ mutations | .announceRooms _ mutations | .disconnectRoom _ _ _ mutations =>
    mutations.map fun mutation => roomExpired mutation.room
  | _ => []

def Work.owed : Work → List Broadcast
  | .socket client => client.owed
  | .request handler => handler.owed
  | .maintenance pass => pass.owed

def Task.owed (task : Task) : List Broadcast := task.cleanup.announcing.toList ++ task.work.owed

variable {n : Nat} {choice : Choice} {server server' : Server} {out : List Attachment}

theorem Task.Announces.owed {task : Task} {event : Broadcast} (h : task.Announces event)
    (hrevision : event.message.eventRevision ≠ none) : event ∈ task.owed := by
  cases h with
  | cleanup hannouncing =>
    rw [Task.owed, hannouncing]
    exact List.mem_cons_self
  | attach _ hpoint =>
    refine List.mem_append_right _ ?_
    rw [Work.owed, Socket.owed, hpoint]
    exact List.mem_cons_self
  | request _ hpoint =>
    refine List.mem_append_right _ ?_
    rw [Work.owed, Request.owed, hpoint]
    exact List.mem_cons_self
  | leave _ hpoint =>
    refine List.mem_append_right _ ?_
    rw [Work.owed, Request.owed, hpoint]
    exact List.mem_cons_self
  | roomExpired => exact List.mem_append_right _ List.mem_cons_self
  | snapshot => exact absurd rfl hrevision

/-- **What a step of a task broadcasts**: nothing, or the event that the task announces. -/
theorem Task.Acts.broadcasts {task task' : Task} (h : Task.Acts n choice server task server' task') :
    server'.broadcasts = server.broadcasts ∨
      ∃ event, task.Announces event ∧ server'.broadcasts = event :: server.broadcasts := by
  cases h with
  | cleanup _ hacts =>
    cases hacts with
    | announced hannouncing hbroadcast => exact .inr ⟨_, .cleanup hannouncing, by rw [hbroadcast.server]⟩
    | seen | failed | unchanged | detached => exact .inl rfl
  | socket hdone hacts =>
    cases hacts with
    | announced hpoint hbroadcast => exact .inr ⟨_, .attach hdone hpoint, by rw [hbroadcast.server]⟩
    | committed _ happlies => exact .inl happlies.broadcasts
    | refused | read | attached | watched | sent | notSent | detached | signalled | replied | unregistered =>
      exact .inl rfl
  | request hdone hacts =>
    cases hacts with
    | announced hpoint hbroadcast => exact .inr ⟨_, .request hdone hpoint, by rw [hbroadcast.server]⟩
    | leaveAnnounced hpoint hbroadcast => exact .inr ⟨_, .leave hdone hpoint, by rw [hbroadcast.server]⟩
    | joinUnread _ happlies => exact .inl happlies.broadcasts
    | joined _ happlies => exact .inl happlies.broadcasts
    | decided _ happlies => exact .inl happlies.broadcasts
    | left _ happlies => exact .inl happlies.broadcasts
    | roomDisconnected _ _ hdisconnect => exact .inl (by rw [hdisconnect.server])
    | answered | joining | sessionDisconnected => exact .inl rfl
  | maintenance hdone hacts =>
    cases hacts with
    | roomAnnounced hbroadcast => exact .inr ⟨_, .roomExpired hdone, by rw [hbroadcast.server]⟩
    | snapshotAnnounced hbroadcast => exact .inr ⟨_, .snapshot hdone, by rw [hbroadcast.server]⟩
    | roomExpired happlies => exact .inl happlies.broadcasts
    | requestExpired happlies => exact .inl happlies.broadcasts
    | roomDisconnected hdisconnect => exact .inl (by rw [hdisconnect.server])
    | passed | snapshotRead | sessionsFailed | sessionsExpired => exact .inl rfl

/-! ## What a step owes anew -/

theorem Cleanup.Acts.owed {cleanup cleanup' : Cleanup} (h : Cleanup.Acts cleanup choice server server' cleanup')
    (hpending : ∀ a ∈ cleanup.pending, server.Proper a) {event : Broadcast}
    (hevent : cleanup'.announcing = some event) : cleanup.announcing = some event ∨ server'.Tells event := by
  cases h with
  | announced => cases hevent
  | seen | failed | unchanged => exact .inl hevent
  | @detached attachment room next _ hlast hroom hhandle =>
    cases hevent
    obtain ⟨stored, hstored, hid⟩ := hpending attachment (List.mem_of_getLast? hlast)
    rw [hroom] at hstored
    cases hstored
    have hsame := Room.handle_same room (.detach attachment.sessionId attachment.peerId)
    rw [hhandle] at hsame
    have htells := (Applies.changed hroom hhandle).tells rfl rfl
    refine .inr ?_
    rw [offline, ← hid, ← hsame.id]
    exact htells

theorem Socket.announceAttached_owed (socket : Socket) (attaching : Attaching) :
    (socket.announceAttached attaching).owed =
      if attaching.mutation.outcome.changed then [socket.online attaching] else [] := by
  unfold announceAttached
  split <;> rfl

theorem Socket.attachSent_owed (socket : Socket) (attaching : Attaching) :
    (socket.attachSent attaching).owed =
      if attaching.mutation.outcome.changed then [socket.online attaching] else [] := by
  unfold attachSent
  split
  · rfl
  · exact socket.announceAttached_owed attaching

theorem Socket.Acts.owed {socket socket' : Socket} (h : Socket.Acts n choice server socket server' out socket')
    {event : Broadcast} (hevent : event ∈ socket'.owed) : event ∈ socket.owed ∨ server'.Tells event := by
  cases h with
  | @committed code peerId lastRevision now mutation server' _ happlies =>
    have hevent : event ∈ if mutation.outcome.changed then [socket.online { code, peerId, lastRevision, mutation }]
      else [] := hevent
    split at hevent
    · rename_i hchanged
      rw [List.mem_singleton.mp hevent]
      exact .inr (happlies.tells hchanged rfl)
    · cases hevent
  | attached hpoint =>
    refine .inl ?_
    rw [Socket.owed, hpoint]
    exact hevent
  | read hread =>
    cases hread with
    | attachRead hpoint =>
      refine .inl ?_
      rw [Socket.owed, hpoint]
      exact hevent
    | watchStatus | watchRead | detachCheck | signalCheck | signalRoom | signalLimit => cases hevent
  | sent hsends =>
    cases hsends with
    | attached hpoint =>
      refine .inl ?_
      rw [Socket.attachSent_owed] at hevent
      rw [Socket.owed, hpoint]
      exact hevent
    | attachSnapshot hpoint =>
      refine .inl ?_
      rw [Socket.announceAttached_owed] at hevent
      rw [Socket.owed, hpoint]
      exact hevent
    | watching =>
      unfold Socket.watchSent at hevent
      split at hevent <;> cases hevent
    | watchSnapshot => cases hevent
  | signalled _ _ hsocket =>
    rcases hsocket with rfl | ⟨error, rfl⟩ <;> cases hevent
  | @replied error =>
    cases hfatal : error.fatal with
    | true =>
      rw [hfatal] at hevent
      cases hevent
    | false =>
      rw [hfatal] at hevent
      cases hevent
  | refused | watched | notSent | announced | detached | unregistered => cases hevent

theorem Maintenance.Acts.owed {maintenance maintenance' : Maintenance}
    (h : Maintenance.Acts choice server maintenance server' out maintenance') {event : Broadcast}
    (hevent : event ∈ maintenance'.owed) : event ∈ maintenance.owed ∨ server'.Tells event := by
  cases h with
  | passed hpasses =>
    cases hpasses with
    | roomsExpired => exact .inl hevent
    | startRooms | startFailed | roomsFailed | roomsAnnounced | requestsFailed | startRequests | requestsExpired
    | requestFailed | snapshotsRead | snapshotsFailed | snapshotSkipped => cases hevent
  | @roomExpired now code due mutations mutation server' happlies =>
    obtain ⟨expired, hmem, rfl⟩ := List.mem_map.mp hevent
    unfold collect at hmem
    split at hmem
    · rename_i hchanged
      rcases List.mem_append.mp hmem with hmem | hmem
      · exact .inl (List.mem_map_of_mem hmem)
      · rw [List.mem_singleton.mp hmem]
        exact .inr (happlies.tells hchanged rfl)
    · exact .inl (List.mem_map_of_mem hmem)
  | roomAnnounced => exact .inl (List.mem_cons_of_mem _ hevent)
  | roomDisconnected => exact .inl hevent
  | requestExpired | snapshotRead | snapshotAnnounced | sessionsFailed | sessionsExpired => cases hevent

/-! ## Answering a request -/

namespace Room

variable {room next : Room} {outcome : RoomCommandOutcome} {requestId : RequestId} {sessionId : SessionId}

theorem commit_ok (h : room.commit = (.ok outcome, next)) : next = { room with revision := room.revision + 1 } := by
  rcases commit_cases room with hc | hc
  · rw [hc] at h
    exact ((Prod.mk.inj h).2).symm
  · rw [hc] at h
    cases h

/-- A join request that is accepted is in the room, under the session and with the expiry that was asked for. -/
theorem requestJoin_accepted {now expiresAt : Nat}
    (h : room.handle (.requestJoin requestId sessionId now expiresAt) = (.ok outcome, next)) :
    room.state = .active ∧ ∃ request, next.joinRequests[requestId]? = some request ∧
      request.sessionId = sessionId ∧ request.expiresAt = expiresAt := by
  have h : room.requestJoin requestId sessionId now expiresAt = (.ok outcome, next) := h
  unfold requestJoin at h
  split at h
  · cases h
  rename_i hactive
  refine ⟨(ensureActive_ok hactive).1, ?_⟩
  split at h
  · cases h
  split at h
  · rename_i existing hexisting
    split at h
    · rename_i hsame
      cases h
      exact ⟨existing, hexisting, hsame.1, hsame.2⟩
    · cases h
  · split at h
    · cases h
    split at h
    · cases h
    · rw [commit_ok h]
      refine ⟨{ sessionId, expiresAt, state := .pending }, ?_, rfl, rfl⟩
      show (room.joinRequests.insert requestId _)[requestId]? = _
      rw [BTreeMap.getElem?_insert, if_pos rfl]

theorem decideJoin_accepted {actor : SessionId} {decision : JoinDecision} {now : Nat}
    (h : room.handle (.decideJoin actor requestId decision now) = (.ok outcome, next)) : room.state = .active := by
  have h : room.decideJoin actor requestId decision now = (.ok outcome, next) := h
  unfold decideJoin at h
  split at h
  · cases h
  · rename_i hactive
    exact (ensureActive_ok hactive).1

/-- Only the owner's leave ends an active room. -/
theorem leave_accepted (hactive : room.state = .active) (h : room.handle (.leave sessionId) = (.ok outcome, next)) :
    next.state = .expired ↔ sessionId = room.owner := by
  have h : room.leave sessionId = (.ok outcome, next) := h
  unfold leave at h
  split at h
  · rename_i howner
    split at h
    · rename_i hexpired
      rw [hactive] at hexpired
      cases hexpired
    · rw [commit_ok h]
      exact iff_of_true rfl howner
  rename_i howner
  have hsame : next.state = room.state → (next.state = .expired ↔ sessionId = room.owner) := by
    intro hstate
    refine iff_of_false (fun hexpired => ?_) howner
    rw [hstate, hactive] at hexpired
    cases hexpired
  apply hsame
  split at h
  · split at h
    · cases h
      rfl
    · rw [commit_ok h]
      rfl
  · split at h
    · rw [commit_ok h]
      rfl
    · cases h

/-- The command ended the room. -/
def EndedBy (room : Room) (command : RoomCommand) : Prop :=
  command = .leave room.owner ∨ ∃ now, command = .expire now

end Room

/-- The command does again what the other one did. -/
inductive RoomCommand.Repeats : RoomCommand → RoomCommand → Prop
  | requestJoin {requestId : RequestId} {sessionId : SessionId} {now now' expiresAt : Nat} :
      Repeats (.requestJoin requestId sessionId now expiresAt) (.requestJoin requestId sessionId now' expiresAt)
  | decideJoin {actor actor' : SessionId} {requestId : RequestId} {decision : JoinDecision} {now now' : Nat} :
      Repeats (.decideJoin actor requestId decision now) (.decideJoin actor' requestId decision now')
  | leave {sessionId : SessionId} : Repeats (.leave sessionId) (.leave sessionId)

namespace Server

variable {room : Room} {command last : RoomCommand} {code : RoomCode} {mutation : RoomMutation}

/-- A request that finds its work done finds it done by the room's last command, and nothing is done to a room that has
ended. -/
structure Current (server : Server) (room : Room) (command : RoomCommand) : Prop where
  changed : (room.handle command).1 = .ok .CHANGED → room.state = .active
  repeated : (room.handle command).1 = .ok .UNCHANGED → room.state = .active →
    ∃ last, server.Made room last ∧ command.Repeats last
  ended : (room.handle command).1 = .ok .UNCHANGED → room.state = .expired →
    ∃ last, server.Made room last ∧ room.EndedBy last

theorem eventOf_repeats (h : command.Repeats last) (owner : SessionId) (revision : Nat) :
    server.eventOf owner revision last = server.eventOf owner revision command := by
  cases h <;> rfl

theorem eventOf_ended (h : room.EndedBy last) (revision : Nat) :
    server.eventOf room.owner revision last = some (.roomExpired revision) := by
  rcases h with rfl | ⟨now, rfl⟩
  · rw [eventOf, if_pos rfl]
  · rfl

theorem Applies.handled (h : Applies server code command mutation server') :
    ∃ room, server.rooms[code]? = some room ∧ room.handle command = (.ok mutation.outcome, mutation.room) := by
  cases h with
  | unchanged hroom hhandle => exact ⟨_, hroom, hhandle⟩
  | changed hroom hhandle => exact ⟨_, hroom, hhandle⟩

/-- The event of a command on an active room is true. -/
theorem Applies.tells_active (h : Applies server code command mutation server')
    (hroom : server.rooms[code]? = some room) (hactive : room.state = .active) (hcurrent : server.Current room command)
    {message : ServerRealtimeMessage}
    (hevent : server'.eventOf mutation.room.owner mutation.room.revision command = some message) :
    server'.Tells { roomId := mutation.room.id, message } := by
  cases h with
  | @unchanged stored hstored hhandle =>
    rw [hroom] at hstored
    cases hstored
    obtain ⟨last, hmade, hrepeats⟩ := hcurrent.repeated (by rw [hhandle]) hactive
    exact hmade.tells hroom (by rw [eventOf_repeats hrepeats]; exact hevent)
  | changed hstored hhandle => exact (Applies.changed hstored hhandle).tells rfl hevent

end Server

/-- The command that the next call of a request applies, with the code of its room and the revision it expects. -/
def Request.command (request : Request) (choice : Choice) : Option (RoomCode × Option Nat × RoomCommand) :=
  match request.point with
  | .joinCommit code requestId expected now expiresAt =>
    some (code, expected, .requestJoin requestId request.session.id now expiresAt)
  | .start (.decideJoin code requestId decision expected) =>
    choice.now.map fun now => (code, expected, .decideJoin request.session.id requestId decision now)
  | .start (.leaveRoom code expected) => some (code, expected, .leave request.session.id)
  | _ => none

/-- If the next call of a request applies a command to a room, it is current there. -/
def Request.Current (request : Request) (choice : Choice) (server : Server) : Prop :=
  ∀ (code : RoomCode) (expected : Option Nat) (command : RoomCommand) (room : Room),
    request.command choice = some (code, expected, command) → server.Admits choice code expected →
      server.rooms[code]? = some room → server.Current room command

theorem Request.joinRequested_tells {request : Request} {code : RoomCode} {requestId : RequestId} {now expiresAt : Nat}
    {mutation : RoomMutation} {joinRequest : RoomJoinRequestSnapshot} (hknown : server.Known request.session)
    (happlies : Applies server code (.requestJoin requestId request.session.id now expiresAt) mutation server')
    (hcurrent : ∀ room, server.rooms[code]? = some room →
      server.Current room (.requestJoin requestId request.session.id now expiresAt))
    (hfind : (mutation.room.joinRequestSnapshots.find? fun joinRequest => joinRequest.requestId = requestId) =
      some joinRequest) :
    server'.Tells (request.joinRequested mutation.room requestId joinRequest) := by
  obtain ⟨room, hroom, hhandle⟩ := happlies.handled
  obtain ⟨hactive, stored, hstored, -, hexpiry⟩ := Room.requestJoin_accepted hhandle
  have hmem := Server.mem_joinRequestSnapshots.mp (List.mem_of_find?_eq_some hfind)
  have hid : joinRequest.requestId = requestId := by simpa using List.find?_some hfind
  rw [hid, hstored] at hmem
  cases hmem
  refine happlies.tells_active hroom hactive (hcurrent room hroom) ?_
  have hname := happlies.extends.known hknown
  have hexpiry : joinRequest.expiresAt = expiresAt := hexpiry
  rw [Server.eventOf, hname, ← hexpiry]
  rfl

theorem Request.left_tells {request : Request} {code : RoomCode} {mutation : RoomMutation}
    (happlies : Applies server code (.leave request.session.id) mutation server')
    (hcurrent : ∀ room, server.rooms[code]? = some room → server.Current room (.leave request.session.id)) :
    server'.Tells (request.left mutation.room) := by
  obtain ⟨room, hroom, hhandle⟩ := happlies.handled
  have hsame := Room.handle_same room (.leave request.session.id)
  rw [hhandle] at hsame
  by_cases hactive : room.state = .active
  · refine happlies.tells_active hroom hactive (hcurrent room hroom) ?_
    have hstate := Room.leave_accepted hactive hhandle
    rw [← hsame.owner] at hstate
    rw [Server.eventOf]
    simp only [hstate]
  · -- only an owner that leaves again is not excluded
    have hexpired : room.state = .expired := by
      cases hs : room.state with
      | active => exact absurd hs hactive
      | expired => rfl
    cases happlies with
    | changed hstored hchanged =>
      rw [hroom] at hstored
      cases hstored
      exact absurd ((hcurrent room hroom).changed (by rw [hchanged])) hactive
    | unchanged hstored hunchanged =>
      rw [hroom] at hstored
      cases hstored
      obtain ⟨last, hmade, hended⟩ := (hcurrent room hroom).ended (by rw [hunchanged]) hexpired
      have htells := hmade.tells hroom (Server.eventOf_ended hended room.revision)
      rw [Request.left, if_pos hexpired]
      exact htells

theorem Request.Acts.owed {request request' : Request} (h : Request.Acts choice server request server' out request')
    (hknown : server.Known request.session) (hcurrent : request.Current choice server) {event : Broadcast}
    (hevent : event ∈ request'.owed) : event ∈ request.owed ∨ server'.Tells event := by
  cases h with
  | joined hpoint happlies hfind hadmits =>
    rw [List.mem_singleton.mp hevent]
    refine .inr (Request.joinRequested_tells hknown happlies (fun room => ?_) hfind)
    exact hcurrent _ _ _ room (by rw [Request.command, hpoint]) hadmits
  | decided hpoint happlies hnow hadmits =>
    rw [List.mem_singleton.mp hevent]
    obtain ⟨room, hroom, hhandle⟩ := happlies.handled
    have hcommand := hcurrent _ _ _ room (by rw [Request.command, hpoint, hnow]; rfl) hadmits hroom
    exact .inr (happlies.tells_active hroom (Room.decideJoin_accepted hhandle) hcommand rfl)
  | left hpoint happlies hadmits =>
    rw [List.mem_singleton.mp hevent]
    refine .inr (Request.left_tells happlies fun room => ?_)
    exact hcurrent _ _ _ room (by rw [Request.command, hpoint]; rfl) hadmits
  | answered | joining | joinUnread | announced | leaveAnnounced | roomDisconnected | sessionDisconnected =>
    cases hevent

/-- **What a step of a task owes**: what it owed before, or a true event. -/
theorem Task.Acts.owed {task task' : Task} (h : Task.Acts n choice server task server' task') (htask : task.Ok server n)
    (hcurrent : ∀ request, task.cleanup.Done → task.work = .request request → request.Current choice server)
    {event : Broadcast} (hevent : event ∈ task'.owed) : event ∈ task.owed ∨ server'.Tells event := by
  rcases List.mem_append.mp hevent with hannouncing | hwork
  · cases h with
    | cleanup _ hacts =>
      rcases hacts.owed htask.pending (Option.mem_toList.mp hannouncing) with hbefore | htells
      · exact .inl (List.mem_append_left _ (Option.mem_toList.mpr hbefore))
      · exact .inr htells
    | socket | request | maintenance => cases hannouncing
  · cases h with
    | cleanup => exact .inl (List.mem_append_right _ hwork)
    | socket _ hacts => exact (hacts.owed hwork).imp_left (List.mem_append_right _)
    | request hdone hacts =>
      exact (hacts.owed htask.work.1 (hcurrent _ hdone rfl) hwork).imp_left (List.mem_append_right _)
    | maintenance _ hacts => exact (hacts.owed hwork).imp_left (List.mem_append_right _)

namespace World

variable {world world' : World} {label : Label}

/-- Display names never change. -/
theorem Step.names (hsane : world.Sane) (h : Step world label world') {sessionId : SessionId} {name : DisplayName}
    (hname : world.server.displayName sessionId = some name) : world'.server.displayName sessionId = some name := by
  cases step_acts h with
  | @createSession session hfresh =>
    show ((world.server.sessions.insert session.id session)[sessionId]?).map _ = some name
    rw [BTreeMap.getElem?_insert, if_neg]
    · exact hname
    · rintro rfl
      rw [Server.displayName, hfresh] at hname
      cases hname
  | ran hrunning hacts =>
    obtain ⟨⟨out, hsteps⟩, -⟩ := hacts.steps hsane.server (hsane.task _ _ hrunning)
    exact hsteps.extends_.names sessionId name hname
  | createRoom | connect | request | maintain | woken | written | restarted => exact hname

/-- What a step broadcasts, and which task does it. -/
theorem Step.broadcasts (h : Step world label world') : world'.server.broadcasts = world.server.broadcasts ∨
    ∃ (n : Nat) (task : Task) (event : Broadcast), world.tasks[n]? = some task ∧ task.Announces event ∧
      world'.server.broadcasts = event :: world.server.broadcasts := by
  cases step_acts h with
  | ran hrunning hacts =>
    refine hacts.broadcasts.imp_right ?_
    rintro ⟨event, hannounces, hmore⟩
    exact ⟨_, _, event, hrunning, hannounces, hmore⟩
  | createSession | createRoom | connect | request | maintain | woken | written | restarted => exact .inl rfl

/-- A request that the step answers is current. -/
def AnswersCurrent (world : World) (label : Label) : Prop :=
  ∀ (n : Nat) (choice : Choice) (task : Task) (request : Request), label = .run n choice →
    world.tasks[n]? = some task → task.cleanup.Done → task.work = .request request →
      request.Current choice world.server

/-- What was announced and what will be is true. -/
structure Truthful (world : World) : Prop where
  ledger : world.server.Ledger
  owed : ∀ (n : Nat) (task : Task), world.tasks[n]? = some task → ∀ event ∈ task.owed, world.server.Tells event
  told : ∀ event ∈ world.server.broadcasts, event.message.eventRevision ≠ none → world.server.Tells event

theorem Wakes.owed {n : Nat} {socket socket' : Socket} (h : Wakes n socket label socket')
    (hpoint : socket.point = .listening) : socket'.owed = [] := by
  obtain ⟨-, hstarts⟩ := h.starts hpoint
  unfold Socket.owed
  generalize socket'.point = point at hstarts
  cases hstarts <;> rfl

theorem Truthful.oneEvent (h : world.Truthful) (hsane : world.Sane) : world.server.OneEvent := by
  refine ⟨fun event hevent event' hevent' hroom revision hrevision hrevision' => ?_, h.told⟩
  have htells := h.told event hevent (by rw [hrevision]; simp)
  have htells' := h.told event' hevent' (by rw [hrevision']; simp)
  exact htells.unique hsane.server.rooms h.ledger htells' hroom (hrevision.trans hrevision'.symm)

theorem Truthful.step (h : world.Truthful) (hsane : world.Sane) (hstep : Step world label world')
    (hcurrent : AnswersCurrent world label) : world'.Truthful := by
  have hstays : ∀ {event : Broadcast}, world.server.Tells event → world'.server.Tells event := fun htells =>
    htells.stays (hstep.stores hsane) fun _ _ => hstep.names hsane
  refine ⟨(hstep.stores hsane).ledger hsane.server.rooms h.ledger, fun n task htask event hevent => ?_,
    fun event hevent hrevision => ?_⟩
  · cases hstep.becomes htask with
    | kept hkept => exact hstays (h.owed n task hkept event hevent)
    | opened | started | maintains => cases hevent
    | woken _ hpoint hwakes =>
      have hevent : event ∈ Socket.owed _ := hevent
      rw [hwakes.owed hpoint] at hevent
      cases hevent
    | acted hrunning hacts hlabel =>
      have hrequest := fun request => hcurrent n _ _ request hlabel hrunning
      rcases hacts.owed (hsane.task n _ hrunning) hrequest hevent with hbefore | htells
      · exact hstays (h.owed n _ hrunning event hbefore)
      · exact htells
  · rcases hstep.broadcasts with hsame | ⟨n, task, told, htask, hannounces, hmore⟩
    · rw [hsame] at hevent
      exact hstays (h.told event hevent hrevision)
    · rw [hmore] at hevent
      rcases List.mem_cons.mp hevent with rfl | hevent
      · exact hstays (h.owed n task htask event (hannounces.owed hrevision))
      · exact hstays (h.told event hevent hrevision)

/-- **In a run that answers no request for a command which another one has followed, and nothing from a room that has
ended, every revision of a room has one event at most, and it describes the mutation that produced the revision.** -/
theorem one_event_of_current (queueCapacity joinRequestTtl : Nat) (labels : List Label)
    (hcurrent : ∀ world label world', Taken Step (World.initial queueCapacity joinRequestTtl) labels world label world' →
      AnswersCurrent world label)
    (hvisited : Visited Step (World.initial queueCapacity joinRequestTtl) labels world) : world.server.OneEvent := by
  refine Truthful.oneEvent ?_ (visited_sane hvisited)
  refine hvisited.invariant (I := Truthful) (fun w label w' htaken h => ?_) ?_
  · exact h.step (visited_sane htaken.before) htaken.holds (hcurrent w label w' htaken)
  · refine ⟨⟨fun p hp => ?_, fun p hp => ?_⟩, fun n task htask => ?_, fun event hevent => ?_⟩
    · cases hp
    · cases hp
    · exact absurd (htask.symm.trans Std.ExtTreeMap.getElem?_empty) nofun
    · cases hevent

/-- A step that answers a request changes an active room. -/
def changesActive (world : World) : Label → Bool
  | .run n choice =>
    match world.tasks[n]? with
    | some { cleanup := _, work := .request request } =>
      (request.command choice).all fun (code, _, command) => (world.server.rooms[code]?).all fun room =>
        (room.handle command).1 = .ok .CHANGED ∧ room.state = .active
    | _ => true
  | _ => true

theorem changesActive_current (h : world.changesActive label = true) : AnswersCurrent world label := by
  rintro n choice ⟨cleanup, work⟩ request rfl htask - rfl code expected command room hcommand - hroom
  simp only [changesActive, htask, hcommand, hroom, Option.all_some, decide_eq_true_eq] at h
  refine ⟨fun _ => h.2, fun hunchanged => ?_, fun hunchanged => ?_⟩
  · rw [h.1] at hunchanged
    cases hunchanged
  · rw [h.1] at hunchanged
    cases hunchanged

theorem one_event_guest : ∃ world, (World.initial 64 100).runAll guestLet = some world ∧
    world.server.broadcasts.length = 2 ∧ world.server.OneEvent := by
  have hruns : ((World.initial 64 100).runAll guestLet).map (fun world => world.server.broadcasts.length) = some 2 := by
    decide +kernel
  obtain ⟨world, hworld, htwo⟩ := Option.map_eq_some_iff.mp hruns
  refine ⟨world, hworld, htwo, one_event_of_current 64 100 guestLet (fun w label w' htaken => ?_)
    (.last (run_of_runAll hworld))⟩
  have hpass : allPass World.step changesActive (World.initial 64 100) guestLet = true := by decide +kernel
  exact changesActive_current (Taken.pass htaken hpass)

/-- The guest is let in and attaches, and then the owner repeats the decision. -/
def decidesAgain : List Label :=
  guestLet ++ attaches 4 guestSession.id "peer_guest" [4] ++
    [.request 5 ownerSession.id 0 (.decideJoin roomCode Room.requestOne .approve none), go 5 [], go 5 [4]]

/-- The repeated decision is announced under the revision of the attach. -/
theorem one_event_breaks : ¬ ∀ labels world,
    Visited Step (World.initial 64 100) labels world → world.server.OneEvent := by
  intro hone
  let decided : Broadcast := { roomId, message := .joinDecided 4 Room.requestOne .approved }
  let attached : Broadcast := { roomId, message := .peerOnline 4 guestSession.id (.of "peer_guest") }
  have hruns : ((World.initial 64 100).runAll decidesAgain).map (fun world => world.server.broadcasts.take 2) =
      some [decided, attached] := by decide +kernel
  obtain ⟨world, hworld, hlast⟩ := Option.map_eq_some_iff.mp hruns
  have hmem : ∀ event ∈ [decided, attached], event ∈ world.server.broadcasts := by
    intro event hevent
    rw [← hlast] at hevent
    exact List.mem_of_mem_take hevent
  have hsame := (hone decidesAgain world (.last (run_of_runAll hworld))).unique decided (hmem _ (by simp)) attached
    (hmem _ (by simp)) rfl 4 rfl rfl
  cases hsame

end World

end P2PTransmission
