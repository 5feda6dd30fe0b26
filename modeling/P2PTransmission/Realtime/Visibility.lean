import P2PTransmission.Realtime.Commits

/-!
# Who may read a room

`bootstrap_room` refuses a session that is no member and has no join request in the room, whatever became of the
request. So it refuses everyone without standing as long as nobody has lost a standing (`bootstrap_private_iff`).
-/

set_option autoImplicit false

namespace P2PTransmission

open Room (Gone NoOutsiders EndsStanding)

/-- The call gets as far as the stored room: the clock answers, the session is live, the storage answers. -/
structure Choice.Reads (choice : Choice) (session : Session) : Prop where
  session : ∃ now, choice.now = some now ∧ session.ensureActive now = .ok ()
  storage : choice.fault = false

namespace Server

variable {server : Server} {choice : Choice} {session : Session} {code : RoomCode} {room : Room}

/-- Everyone without standing in a room is refused its data. -/
def BootstrapPrivate (server : Server) : Prop :=
  ∀ (choice : Choice) (session : Session) (code : RoomCode) (room : Room), choice.Reads session →
    server.rooms[code]? = some room → Gone room session.id →
    server.bootstrapRoom choice session code = .error .forbidden

theorem mem_joinRequestSnapshots {request : RoomJoinRequestSnapshot} :
    request ∈ room.joinRequestSnapshots ↔ room.joinRequests[request.requestId]? =
      some { sessionId := request.sessionId, expiresAt := request.expiresAt, state := request.state } := by
  unfold Room.joinRequestSnapshots
  rw [List.mem_map]
  constructor
  · rintro ⟨⟨q, r⟩, hmem, rfl⟩
    exact BTreeMap.mem_toList.mp hmem
  · intro hr
    exact ⟨(request.requestId, _), BTreeMap.mem_toList.mpr hr, rfl⟩

/-- A snapshot has the id and the revision of the room that was read. -/
theorem bootstrapRoom_ok {snapshot : RoomBootstrapResponse} (h : server.bootstrapRoom choice session code = .ok snapshot) :
    ∃ room, server.rooms[code]? = some room ∧ snapshot.roomId = room.id ∧ snapshot.revision = room.revision := by
  unfold bootstrapRoom at h
  split at h
  · cases h
  split at h
  · cases h
  split at h
  · cases h
  · cases h
  rename_i room hroom
  dsimp only at h
  split at h
  · cases h
  obtain ⟨participants, -, h⟩ := bind_ok.mp h
  obtain ⟨requests, -, h⟩ := bind_ok.mp h
  cases h
  exact ⟨room, findRoomByCode_some hroom, rfl, rfl⟩

theorem findRoomByCode_reads (hreads : choice.Reads session) (code : RoomCode) :
    server.findRoomByCode choice.fault code = .ok server.rooms[code]? := by
  rw [findRoomByCode, hreads.storage, if_neg (by simp)]

/-- What `bootstrap_room` does once it has the room. -/
theorem bootstrapRoom_reads (hreads : choice.Reads session) (hroom : server.rooms[code]? = some room) :
    server.bootstrapRoom choice session code =
      if (room.membershipState session.id = none ∨ room.membershipState session.id = some .left) ∧
          (room.joinRequestSnapshots.find? fun request => request.sessionId = session.id) = none then
        .error .forbidden
      else do
        let participants ← (room.membershipSnapshots.filter fun membership => membership.state ≠ .left).mapM
          server.participant
        let pendingJoinRequests ← (room.joinRequestSnapshots.filter fun request =>
          request.state = .pending ∧ (room.owner = session.id ∨ request.sessionId = session.id)).mapM
          server.pendingRequest
        return { roomId := room.id, roomCode := room.code, revision := room.revision, expiresAtMs := room.expiresAt
                 participants, pendingJoinRequests } := by
  obtain ⟨now, hnow, hactive⟩ := hreads.session
  unfold bootstrapRoom
  simp only [hnow, hactive, findRoomByCode_reads hreads, hroom]

theorem participant_error {membership : RoomMembershipSnapshot} {error : ServiceError}
    (h : server.participant membership = .error error) : error ≠ .forbidden := by
  unfold participant at h
  split at h
  · cases h
    simp
  · cases h

theorem pendingRequest_error {request : RoomJoinRequestSnapshot} {error : ServiceError}
    (h : server.pendingRequest request = .error error) : error ≠ .forbidden := by
  unfold pendingRequest at h
  split at h
  · cases h
    simp
  · cases h

/-- **`bootstrap_room` refuses a session without standing exactly if it has no join request in the room.** -/
theorem bootstrap_forbidden_iff (hreads : choice.Reads session) (hroom : server.rooms[code]? = some room)
    (hgone : Gone room session.id) :
    server.bootstrapRoom choice session code = .error .forbidden ↔
      ∀ request ∈ room.joinRequestSnapshots, request.sessionId ≠ session.id := by
  have hmember : room.membershipState session.id = none ∨ room.membershipState session.id = some .left := by
    unfold Room.membershipState
    cases hm : room.memberships[session.id]? with
    | none => exact .inl rfl
    | some membership => exact .inr (by rw [Option.map_some, hgone.member membership hm])
  have hfind : (room.joinRequestSnapshots.find? fun request => request.sessionId = session.id) = none ↔
      ∀ request ∈ room.joinRequestSnapshots, request.sessionId ≠ session.id := by
    rw [List.find?_eq_none]
    simp
  rw [bootstrapRoom_reads hreads hroom, ← hfind]
  by_cases hnone : (room.joinRequestSnapshots.find? fun request => request.sessionId = session.id) = none
  · rw [if_pos ⟨hmember, hnone⟩]
    exact iff_of_true rfl hnone
  · rw [if_neg fun h => hnone h.2]
    refine iff_of_false (fun h => ?_) hnone
    rcases bind_error h with h | ⟨participants, -, h⟩
    · obtain ⟨membership, -, he⟩ := mapM_error h
      exact participant_error he rfl
    · rcases bind_error h with h | ⟨requests, -, h⟩
      · obtain ⟨request, -, he⟩ := mapM_error h
        exact pendingRequest_error he rfl
      · cases h

/-- A session of an id that is live at `0`. -/
def liveSession (sessionId : SessionId) : Session :=
  { id := sessionId, displayName := World.guestSession.displayName, expiresAt := 1, state := .active }

theorem liveSession_reads (sessionId : SessionId) : ({ now := some 0, fault := false, order := [] } : Choice).Reads
    (liveSession sessionId) := ⟨⟨0, rfl, if_neg (by simp [liveSession])⟩, rfl⟩

theorem bootstrapPrivate_iff : BootstrapPrivate server ↔ World.Stored NoOutsiders server.rooms := by
  constructor
  · intro hprivate code room hroom requestId request hr hgone
    have hreads := liveSession_reads request.sessionId
    have hforbidden := (bootstrap_forbidden_iff hreads hroom hgone).mp (hprivate _ _ code room hreads hroom hgone)
    exact hforbidden (Room.requestSnapshot requestId request) (mem_joinRequestSnapshots.mpr hr) rfl
  · intro hstored choice session code room hreads hroom hgone
    refine (bootstrap_forbidden_iff hreads hroom hgone).mpr fun request hmem he => ?_
    refine hstored code room hroom request.requestId _ (mem_joinRequestSnapshots.mp hmem) ?_
    rw [he]
    exact hgone

end Server

/-- What a committed command does to the outsiders of its room. -/
theorem Commits.outsiders_iff {before after : Server} {room next : Room} {command : RoomCommand}
    (hcommits : Commits before after room command next) (hs : room.Standing) (h : NoOutsiders room) :
    NoOutsiders next ↔ ¬ EndsStanding room command := by
  obtain ⟨effected, heffect, rfl⟩ := Room.handle_changed hcommits.handled
  rw [← heffect.outsiders_iff hs h]
  exact ⟨fun h q r hr hg => h q r hr ⟨hg.member, hg.request⟩, fun h q r hr hg => h q r hr ⟨hg.member, hg.request⟩⟩

namespace World

theorem create_noOutsiders {id : RoomId} {code : RoomCode} {owner : SessionId} {now expiresAt : Nat} {room : Room}
    {outcome : RoomCommandOutcome} (h : Room.create id code owner now expiresAt = .ok (room, outcome)) :
    NoOutsiders room := by
  unfold Room.create at h
  split at h
  · cases h
  · cases h
    exact fun q r hr => absurd (hr.symm.trans Std.ExtTreeMap.getElem?_empty) nofun

/-- **In every world of a run the sessions without standing are refused exactly if no command of the run ends a
standing.** -/
theorem bootstrap_private_iff (queueCapacity joinRequestTtl : Nat) (labels : List Label) :
    (∀ world, Visited Step (World.initial queueCapacity joinRequestTtl) labels world → world.server.BootstrapPrivate) ↔
      ∀ world label world', Taken Step (World.initial queueCapacity joinRequestTtl) labels world label world' →
        ∀ room command next, Commits world.server world'.server room command next → ¬ EndsStanding room command := by
  constructor
  · intro hprivate world label world' htaken room command next hcommits
    have hbefore := Server.bootstrapPrivate_iff.mp (hprivate world htaken.before) room.code room hcommits.stored
    have hafter := Server.bootstrapPrivate_iff.mp (hprivate world' htaken.after) room.code next (by
      rw [hcommits.rooms, BTreeMap.getElem?_insert, if_pos rfl])
    exact (hcommits.outsiders_iff (visited_standing htaken.before _ _ hcommits.stored) hbefore).mp hafter
  · intro hends world hvisited
    rw [Server.bootstrapPrivate_iff]
    refine hvisited.invariant (I := fun world => Stored NoOutsiders world.server.rooms) ?_ (empty_stored _ _ _)
    intro w label w' htaken hstored
    have hstanding := visited_standing htaken.before
    refine hstored.step (htaken.holds.stores (visited_sane htaken.before)) create_noOutsiders ?_
    intro room command next hcommits hroom
    exact (hcommits.outsiders_iff (hstanding _ _ hcommits.stored) hroom).mpr
      (hends w label w' htaken room command next hcommits)

/-- The owner rejects the request of the guest. -/
def guestRejected : List Label :=
  opening ++ guestAsks [] ++ [.request 2 ownerSession.id 0 (.decideJoin roomCode Room.requestOne .reject none), go 2 []]

/-- The room afterwards. -/
def rejectedRoom : Room :=
  { id := roomId, code := roomCode, owner := ownerSession.id, expiresAt := 1000, state := .active, revision := 3
    memberships := (∅ : BTreeMap SessionId Membership).insert ownerSession.id { role := .owner, state := .offline }
    joinRequests := (∅ : BTreeMap RequestId JoinRequest).insert Room.requestOne
      { sessionId := guestSession.id, expiresAt := 110, state := .rejected } }

/-- The guest that was rejected still reads the participants of the room. -/
theorem bootstrap_private_breaks : ¬ ∀ labels world,
    Visited Step (World.initial 64 100) labels world → world.server.BootstrapPrivate := by
  intro hprivate
  have hruns : ((World.initial 64 100).runAll guestRejected).isSome = true := by decide +kernel
  obtain ⟨world, hworld⟩ := Option.isSome_iff_exists.mp hruns
  have hroom : ((World.initial 64 100).runAll guestRejected).bind (fun world => world.server.rooms[roomCode]?) =
      some rejectedRoom := by decide +kernel
  have hread : ((World.initial 64 100).runAll guestRejected).map (fun world => world.server.bootstrapRoom
      { now := some 20, fault := false, order := [] } guestSession roomCode) ≠ some (.error .forbidden) := by
    decide +kernel
  rw [hworld] at hroom hread
  refine hread (congrArg some (hprivate guestRejected world (.last (run_of_runAll hworld)) _ guestSession roomCode
    rejectedRoom ⟨⟨20, rfl, by decide⟩, rfl⟩ hroom ⟨fun m hm => ?_, fun q r hr _ => ?_⟩))
  · rw [show rejectedRoom.memberships[guestSession.id]? = none by decide +kernel] at hm
    cases hm
  · have hr : ((∅ : BTreeMap RequestId JoinRequest).insert Room.requestOne _)[q]? = some r := hr
    rw [BTreeMap.getElem?_insert] at hr
    split at hr
    · cases hr
      simp
    · exact absurd (hr.symm.trans Std.ExtTreeMap.getElem?_empty) nofun

end World

end P2PTransmission
