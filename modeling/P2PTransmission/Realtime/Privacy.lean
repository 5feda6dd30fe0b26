import P2PTransmission.Realtime.Signal
import P2PTransmission.Realtime.Visibility

/-!
# Who is shown the join requests

`bootstrap_room` filters the pending requests for the session that asks, so a snapshot that a handler sends to its own
connection holds nothing foreign (`Server.bootstrapRoom_private`, `World.SnapshotsOk`). A broadcast goes to all
connections of a room alike: the event of a new request, and the snapshot that the maintenance makes for the owner. Only
these two show a request to someone else (`requests_private_iff`).
-/

set_option autoImplicit false

namespace P2PTransmission

open HubState (Delivered)

/-! ## The requests in a message -/

namespace ServerRealtimeMessage

def joinRequests : ServerRealtimeMessage → List JoinRequestSnapshot
  | .roomSnapshot snapshot => snapshot.pendingJoinRequests
  | .joinRequested _ request => [request]
  | _ => []

/-- The room that an event for a room is about. -/
def roomOf (roomId : RoomId) : ServerRealtimeMessage → RoomId
  | .roomSnapshot snapshot => snapshot.roomId
  | _ => roomId

end ServerRealtimeMessage

/-- The stored room of this id has this owner. -/
def Server.OwnerOf (server : Server) (roomId : RoomId) (sessionId : SessionId) : Prop :=
  ∃ (code : RoomCode) (room : Room), server.rooms[code]? = some room ∧ room.id = roomId ∧ room.owner = sessionId

/-- The room that a message to a connection is about: a snapshot names it, an event is about the room of the connection. -/
def HubState.RoomOf (hub : HubState) (c : ConnectionId) (roomId : RoomId) : ServerRealtimeMessage → Prop
  | .roomSnapshot snapshot => snapshot.roomId = roomId
  | _ => ∃ place, hub.placeOf c = some place ∧ place.roomId = roomId

def HubState.sessionOf (hub : HubState) (c : ConnectionId) : Option SessionId := hub.connections[c]?.map (·.sessionId)

/-- A request in a message to a connection is the session's own, or the session owns the room. -/
def Server.MayRead (server : Server) (c : ConnectionId) (message : ServerRealtimeMessage)
    (request : JoinRequestSnapshot) : Prop :=
  ∃ sessionId, server.hub.sessionOf c = some sessionId ∧ (request.sessionId = sessionId ∨
    ∃ roomId, server.hub.RoomOf c roomId message ∧ server.OwnerOf roomId sessionId)

namespace World

/-- A step shows no join request to anyone but its requester and the owner of the room. -/
def Private (world world' : World) : Prop :=
  ∀ c message, Delivered world.server.hub world'.server.hub c (.message message) →
    ∀ request ∈ message.joinRequests, world.server.MayRead c message request

/-- The step announces a join request, or a snapshot that holds one, to a room where it reaches a connection of neither
the requester nor the owner. -/
def Leaks (world : World) (label : Label) : Prop :=
  ∃ (n : Nat) (choice : Choice) (task : Task) (event : Broadcast) (c : ConnectionId) (request : JoinRequestSnapshot)
    (sessionId : SessionId), label = .run n choice ∧ world.tasks[n]? = some task ∧ task.Announces event ∧ request ∈ event.message.joinRequests ∧
    world.server.hub.Reaches event.roomId c ∧ world.server.hub.sessionOf c = some sessionId ∧
    request.sessionId ≠ sessionId ∧ ¬ world.server.OwnerOf (event.message.roomOf event.roomId) sessionId

end World

variable {n : Nat} {choice : Choice} {server server' : Server} {out : List Attachment} {session : Session}
  {code : RoomCode}

/-! ## Snapshots -/

/-- A snapshot with no foreign request in it, for a session that does not own the room. -/
def Server.SnapshotFor (server : Server) (session : Session) (snapshot : RoomBootstrapResponse) : Prop :=
  ∀ request ∈ snapshot.pendingJoinRequests, request.sessionId = session.id ∨
    server.OwnerOf snapshot.roomId session.id

/-- **`bootstrap_room` shows a session its own requests only, unless it owns the room.** -/
theorem Server.bootstrapRoom_private {snapshot : RoomBootstrapResponse}
    (h : server.bootstrapRoom choice session code = .ok snapshot) : server.SnapshotFor session snapshot := by
  unfold Server.bootstrapRoom at h
  split at h
  · cases h
  split at h
  · cases h
  split at h
  · cases h
  · cases h
  rename_i room hroom
  have hstored := Server.findRoomByCode_some hroom
  dsimp only at h
  split at h
  · cases h
  obtain ⟨participants, -, h⟩ := bind_ok.mp h
  obtain ⟨requests, hrequests, h⟩ := bind_ok.mp h
  cases h
  intro request hmem
  obtain ⟨stored, hmem, hread⟩ := (mem_of_mapM hrequests).mp hmem
  have hfilter := of_decide_eq_true (List.mem_filter.mp hmem).2
  have hsame : request.sessionId = stored.sessionId := by
    unfold Server.pendingRequest at hread
    split at hread
    · cases hread
    · cases hread
      rfl
  rcases hfilter.2 with howner | hown
  · exact .inr ⟨code, room, hstored, rfl, howner⟩
  · exact .inl (hsame.trans hown)

/-- An owner of a room stays its owner. -/
theorem Stores.ownerOf {before after : Server} (h : Stores before after) {roomId : RoomId} {sessionId : SessionId}
    (howner : before.OwnerOf roomId sessionId) : after.OwnerOf roomId sessionId := by
  obtain ⟨code, room, hroom, hid, hsession⟩ := howner
  cases h with
  | same hrooms => exact ⟨code, room, hrooms ▸ hroom, hid, hsession⟩
  | @created _ fresh _ _ _ _ _ hfresh _ _ hrooms =>
    refine ⟨code, room, ?_, hid, hsession⟩
    rw [hrooms, BTreeMap.getElem?_insert, if_neg]
    · exact hroom
    · rintro rfl
      rw [hfresh] at hroom
      cases hroom
  | @committed changed next command hcommits =>
    by_cases hcode : changed.code = code
    · subst hcode
      rw [hcommits.stored] at hroom
      cases hroom
      have hsame := Room.handle_same room command
      rw [hcommits.handled] at hsame
      refine ⟨room.code, next, ?_, hsame.id.trans hid, hsame.owner.trans hsession⟩
      rw [hcommits.rooms, BTreeMap.getElem?_insert, if_pos rfl]
    · refine ⟨code, room, ?_, hid, hsession⟩
      rw [hcommits.rooms, BTreeMap.getElem?_insert, if_neg hcode]
      exact hroom

/-- The snapshot that a handler is about to send to its own connection. -/
def Socket.snapshot? (socket : Socket) : Option RoomBootstrapResponse :=
  match socket.point with
  | .attachSnapshot _ snapshot | .watchHub _ snapshot | .watchSend _ snapshot | .watchSnapshot snapshot => some snapshot
  | _ => none

theorem Socket.Acts.snapshot? {socket socket' : Socket} (h : Socket.Acts n choice server socket server' out socket')
    {snapshot : RoomBootstrapResponse} (hsnapshot : socket'.snapshot? = some snapshot) :
    socket'.session = socket.session ∧ (server.SnapshotFor socket.session snapshot ∨
      socket.snapshot? = some snapshot) := by
  cases h with
  | read hread =>
    refine ⟨hread.socket.1, ?_⟩
    cases hread with
    | attachRead _ hbootstrap =>
      cases hsnapshot
      exact .inl (Server.bootstrapRoom_private hbootstrap)
    | watchRead _ hbootstrap =>
      cases hsnapshot
      exact .inl (Server.bootstrapRoom_private hbootstrap)
    | watchStatus | detachCheck | signalCheck | signalRoom | signalLimit => cases hsnapshot
  | watched hpoint =>
    cases hsnapshot
    exact ⟨rfl, .inr (by rw [Socket.snapshot?, hpoint])⟩
  | sent hsends =>
    refine ⟨hsends.socket.1, ?_⟩
    cases hsends with
    | attached =>
      unfold Socket.attachSent Socket.announceAttached at hsnapshot
      split at hsnapshot
      · cases hsnapshot
      · split at hsnapshot <;> cases hsnapshot
    | attachSnapshot =>
      unfold Socket.announceAttached at hsnapshot
      split at hsnapshot <;> cases hsnapshot
    | watching hpoint =>
      unfold Socket.watchSent at hsnapshot
      split at hsnapshot
      · cases hsnapshot
        exact .inr (by rw [Socket.snapshot?, hpoint])
      · cases hsnapshot
    | watchSnapshot => cases hsnapshot
  | signalled _ _ hsocket =>
    rcases hsocket with rfl | ⟨error, rfl⟩
    · cases hsnapshot
    · cases hsnapshot
  | @replied error _ _ _ =>
    exfalso
    cases hfatal : error.fatal with
    | true =>
      rw [hfatal] at hsnapshot
      cases hsnapshot
    | false =>
      rw [hfatal] at hsnapshot
      cases hsnapshot
  | refused | committed | attached | notSent | announced | detached | unregistered => cases hsnapshot

theorem Socket.Sends.snapshot? {socket socket' : Socket} {message : ServerRealtimeMessage}
    (h : Socket.Sends socket message socket') {request : JoinRequestSnapshot} (hmem : request ∈ message.joinRequests) :
    ∃ snapshot, message = .roomSnapshot snapshot ∧ socket.snapshot? = some snapshot := by
  cases h with
  | attached | watching => exact absurd hmem List.not_mem_nil
  | attachSnapshot hpoint => exact ⟨_, rfl, by rw [Socket.snapshot?, hpoint]⟩
  | watchSnapshot hpoint => exact ⟨_, rfl, by rw [Socket.snapshot?, hpoint]⟩

namespace World

variable {world world' : World} {label : Label}

theorem Wakes.snapshot? {socket socket' : Socket} (h : Wakes n socket label socket')
    (hpoint : socket.point = .listening) : socket'.snapshot? = none := by
  obtain ⟨-, hstarts⟩ := h.starts hpoint
  unfold Socket.snapshot?
  generalize socket'.point = point at hstarts
  cases hstarts <;> rfl

/-- The snapshots that handlers are about to send hold nothing foreign. -/
def SnapshotsOk (world : World) : Prop :=
  ∀ (n : Nat) (cleanup : Cleanup) (socket : Socket) (snapshot : RoomBootstrapResponse),
    world.tasks[n]? = some { cleanup, work := .socket socket } → socket.snapshot? = some snapshot →
      world.server.SnapshotFor socket.session snapshot

theorem SnapshotsOk.step (hsane : world.Sane) (h : world.SnapshotsOk) (hstep : Step world label world') :
    world'.SnapshotsOk := by
  intro n cleanup socket snapshot htask hsnapshot
  have hstays : ∀ {session : Session}, world.server.SnapshotFor session snapshot →
      world'.server.SnapshotFor session snapshot := fun hfor request hmem =>
    (hfor request hmem).imp_right (hstep.stores hsane).ownerOf
  cases hstep.becomes htask with
  | kept hclient => exact hstays (h n cleanup socket snapshot hclient hsnapshot)
  | opened => cases hsnapshot
  | woken _ hpoint hwakes =>
    rw [hwakes.snapshot? hpoint] at hsnapshot
    cases hsnapshot
  | acted hrunning hacts =>
    cases hacts with
    | cleanup => exact hstays (h n _ socket snapshot hrunning hsnapshot)
    | socket _ hacts =>
      obtain ⟨hsession, hread | hremembered⟩ := hacts.snapshot? hsnapshot
      · rw [hsession]
        exact hstays hread
      · rw [hsession]
        exact hstays (h n _ _ snapshot hrunning hremembered)

theorem visited_snapshotsOk {queueCapacity joinRequestTtl : Nat} {labels : List Label}
    (h : Visited Step (World.initial queueCapacity joinRequestTtl) labels world) : world.SnapshotsOk := by
  refine h.invariant (I := SnapshotsOk) (fun w label w' htaken hok => ?_) fun n _ _ _ htask => ?_
  · exact hok.step (visited_sane htaken.before) htaken.holds
  · exact absurd (htask.symm.trans Std.ExtTreeMap.getElem?_empty) nofun

/-! ## Deliveries -/

/-- The place of a connection that a broadcast reaches is in the room. -/
theorem reaches_place (hi : world.server.hub.Indexed) {roomId : RoomId} {c : ConnectionId}
    (h : world.server.hub.Reaches roomId c) : ∃ place, world.server.hub.placeOf c = some place ∧ place.roomId = roomId :=
  (hi.index.member roomId c).mp h.member

theorem roomOf_reached {hub : HubState} {c : ConnectionId} {place : Place} (hplace : hub.placeOf c = some place)
    {message : ServerRealtimeMessage} {roomId : RoomId} :
    hub.RoomOf c roomId message ↔ message.roomOf place.roomId = roomId := by
  have hevent : (∃ p, hub.placeOf c = some p ∧ p.roomId = roomId) ↔ place.roomId = roomId := by
    rw [hplace]
    simp
  cases message with
  | roomSnapshot snapshot => exact Iff.rfl
  | _ => exact hevent

theorem sessionOf_registered {hub : HubState} {c : ConnectionId} (h : hub.connections.contains c = true) :
    ∃ entry, hub.connections[c]? = some entry ∧ hub.sessionOf c = some entry.sessionId := by
  rw [Std.ExtTreeMap.contains_eq_isSome_getElem?, Option.isSome_iff_exists] at h
  obtain ⟨entry, hentry⟩ := h
  exact ⟨entry, hentry, by rw [HubState.sessionOf, hentry, Option.map_some]⟩

theorem private_iff (hsane : world.Sane) (hsnapshots : world.SnapshotsOk) (hstep : Step world label world') :
    Private world world' ↔ ¬ Leaks world label := by
  constructor
  · rintro hprivate ⟨n, choice, task, event, c, request, sessionId, rfl, htask, hannounces, hmem, hreaches, hsession,
      hother, howner⟩
    have hi := hsane.server.indexed
    obtain ⟨task', hacts⟩ := hstep.run_acts htask
    obtain ⟨out, hbroadcast⟩ := hacts.announces hannounces
    have hmay := hprivate c event.message ((hbroadcast.delivered hi).mpr ⟨rfl, hreaches⟩) request hmem
    obtain ⟨place, hplace, hroomId⟩ := reaches_place hi hreaches
    obtain ⟨reader, hreader, hown | ⟨roomId, hroom, howns⟩⟩ := hmay
    · cases hsession.symm.trans hreader
      exact hother hown
    · cases hsession.symm.trans hreader
      rw [← (roomOf_reached hplace).mp hroom, hroomId] at howns
      exact howner howns
  · intro hleaks c message hdelivered request hmem
    obtain ⟨m, choice, task, task', hlabel, htask, -, hputs⟩ := Step.puts hsane hstep hdelivered
    generalize houtbound : Outbound.message message = outbound at hputs
    cases hputs with
    | notice hnotice =>
      -- an error holds no request
      subst houtbound
      cases message with
      | error => exact absurd hmem List.not_mem_nil
      | _ => exact hnotice.elim
    | signal =>
      cases houtbound
      exact absurd hmem List.not_mem_nil
    | @own cleanup socket socket' _ hwork _ hsends hregistered =>
      cases houtbound
      subst hwork
      obtain ⟨entry, hentry, hsession⟩ := sessionOf_registered hregistered
      have hsame : entry.sessionId = socket.session.id := (hsane.task _ _ htask).work.2.1 entry hentry
      -- the only message of a handler to its own connection that holds requests is its snapshot
      obtain ⟨snapshot, rfl, hsnapshot⟩ := hsends.snapshot? hmem
      refine ⟨entry.sessionId, hsession, ?_⟩
      rw [hsame]
      exact (hsnapshots _ cleanup socket snapshot htask hsnapshot request hmem).imp_right fun howner =>
        ⟨snapshot.roomId, rfl, howner⟩
    | @event event _ hannounces hreaches =>
      cases houtbound
      obtain ⟨entry, -, hsession⟩ := sessionOf_registered hreaches.registered
      obtain ⟨place, hplace, hroomId⟩ := reaches_place hsane.server.indexed hreaches
      refine ⟨entry.sessionId, hsession, ?_⟩
      by_cases hown : request.sessionId = entry.sessionId
      · exact .inl hown
      · refine .inr ⟨event.message.roomOf event.roomId, ?_, ?_⟩
        · rw [roomOf_reached hplace, hroomId]
        by_contra howner
        exact hleaks ⟨m, choice, task, event, c, request, entry.sessionId, hlabel, htask, hannounces, hmem, hreaches,
          hsession, hown, howner⟩

/-- **A run shows every join request to its requester and the owner of the room only exactly if no step of it announces a
request, or a snapshot with one, to a room where someone else listens.** -/
theorem requests_private_iff (queueCapacity joinRequestTtl : Nat) (labels : List Label) :
    (∀ world label world', Taken Step (World.initial queueCapacity joinRequestTtl) labels world label world' →
      Private world world') ↔
      ∀ world label world', Taken Step (World.initial queueCapacity joinRequestTtl) labels world label world' →
        ¬ Leaks world label := by
  constructor
  · intro h world label world' htaken
    have hsane := visited_sane htaken.before
    exact (private_iff hsane (visited_snapshotsOk htaken.before) htaken.holds).mp (h world label world' htaken)
  · intro h world label world' htaken
    have hsane := visited_sane htaken.before
    exact (private_iff hsane (visited_snapshotsOk htaken.before) htaken.holds).mpr (h world label world' htaken)

def thirdSession : Session :=
  { id := .of "session_third", displayName := guestSession.displayName, expiresAt := 1000, state := .active }

/-- The guest is a member and attached, and a third session has asked to join. -/
def thirdAsks : List Label :=
  guestLet ++ attaches 3 guestSession.id "peer_guest" [3] ++ [.createSession thirdSession,
    .request 4 thirdSession.id 0 (.requestJoin roomCode (.of "request_third") none), go 4 [], go 4 []]

/-- The event goes to the guest, who is not the owner. -/
theorem requests_private_breaks : ¬ ∀ labels world label world',
    Taken Step (World.initial 64 100) labels world label world' → Private world world' := by
  intro hprivate
  have hruns : (((World.initial 64 100).runAll thirdAsks).bind fun world => world.step (go 4 [3])).isSome = true := by
    decide +kernel
  obtain ⟨world', hworld'⟩ := Option.isSome_iff_exists.mp hruns
  obtain ⟨world, hworld, hstep⟩ := Option.bind_eq_some_iff.mp hworld'
  let request : JoinRequestSnapshot :=
    { requestId := .of "request_third", sessionId := thirdSession.id, displayName := "Guest", expiresAtMs := 110 }
  have hsent : ((World.initial 64 100).runAll thirdAsks).map (fun world =>
      (world.step (go 4 [3])).map fun world' => world'.server.hub.sentTo 3) =
      ((World.initial 64 100).runAll thirdAsks).map (fun world => some (world.server.hub.sentTo 3 ++
        [.message (.joinRequested 5 request)])) := by decide +kernel
  have hsession : ((World.initial 64 100).runAll thirdAsks).map (fun world => world.server.hub.sessionOf 3) =
      some (some guestSession.id) := by decide +kernel
  have howners : ((World.initial 64 100).runAll thirdAsks).map (fun world =>
      world.server.rooms.toList.all fun e => e.2.owner = ownerSession.id) = some true := by decide +kernel
  rw [hworld] at hsent hsession howners
  have hsent : (world.step (go 4 [3])).map (fun world' => world'.server.hub.sentTo 3) =
      some (world.server.hub.sentTo 3 ++ [.message (.joinRequested 5 request)]) := Option.some.inj hsent
  have hsession : world.server.hub.sessionOf 3 = some guestSession.id := Option.some.inj hsession
  rw [hstep] at hsent
  have hmay := hprivate (thirdAsks ++ [go 4 [3]]) world (go 4 [3]) world' ⟨thirdAsks, [], rfl, run_of_runAll hworld, hstep⟩
    3 (.joinRequested 5 request) ⟨_, Option.some.inj hsent, List.mem_singleton_self _⟩ request (List.mem_singleton_self _)
  obtain ⟨reader, hreader, hown | ⟨roomId, -, code, room, hroom, -, howner⟩⟩ := hmay
  · rw [hsession] at hreader
    cases hreader
    revert hown
    decide
  · rw [hsession] at hreader
    cases hreader
    have hall := List.all_eq_true.mp (Option.some.inj howners) (code, room) (BTreeMap.mem_toList.mpr hroom)
    rw [of_decide_eq_true hall] at howner
    revert howner
    decide

end World

end P2PTransmission
