import P2PTransmission.Realtime.Signal

/-!
# What a connection of a room receives

Through a step a connection keeps its place and its task, unless the task is its own (`World.Step.keeps`); its
queue only grows (`Task.Acts.grows`); and a broadcast to its room reaches it if it is still there afterwards
(`Server.Broadcasts.received`).
-/

set_option autoImplicit false

namespace P2PTransmission

namespace HubState

variable {hub hub' hub'' : HubState} {c d : ConnectionId}

/-! ## Growing queues -/

/-- The queues have only taken more. -/
def Grows (hub hub' : HubState) : Prop := ∀ c, ∃ new, hub'.sentTo c = hub.sentTo c ++ new

theorem Delivers.grows {P : ConnectionId → Outbound → Prop} (h : Delivers hub hub' P) : Grows hub hub' := by
  intro c
  obtain ⟨new, hnew, -⟩ := h c
  exact ⟨new, hnew⟩

theorem Grows.refl (hub : HubState) : Grows hub hub := fun c => ⟨[], (List.append_nil _).symm⟩

theorem Grows.of_channels (h : hub'.channels = hub.channels) : Grows hub hub' := fun c =>
  ⟨[], by rw [sentTo_congr h, List.append_nil]⟩

theorem Grows.mem (h : Grows hub hub') {outbound : Outbound} (hmem : outbound ∈ hub.sentTo c) :
    outbound ∈ hub'.sentTo c := by
  obtain ⟨new, hnew⟩ := h c
  rw [hnew]
  exact List.mem_append_left _ hmem

/-! ## Broadcasts -/

/-- A connection that is still there after a broadcast to it could take the message. -/
theorem broadcastEach_accepts (message : ServerRealtimeMessage) {order : List ConnectionId} (hub : HubState)
    {entry : ConnectionEntry} (hmem : d ∈ order)
    (hentry : (broadcastEach message order hub).2.connections[d]? = some entry) : hub.accepts d = true := by
  have hgone : ∀ {next : HubState} {cs : List ConnectionId}, next.connections[d]? = none →
      (broadcastEach message cs next).2.connections[d]? ≠ some entry := by
    intro next cs hnone hsome
    rcases (broadcastEach_spec message cs next).kept d with hkept | hkept
    · rw [hkept, hnone] at hsome
      cases hsome
    · rw [hkept] at hsome
      cases hsome
  induction order generalizing hub with
  | nil => cases hmem
  | cons c cs ih =>
    rw [broadcastEach] at hentry
    split at hentry
    · rename_i hcontains
      split at hentry
      · rename_i next hsend
        by_cases hd : d = c
        · subst hd
          exact (trySend_accepts hub d _).mp ⟨next, hsend⟩
        · rw [← trySend_accepts_other hsend hd]
          exact ih next ((List.mem_cons.mp hmem).resolve_left hd) hentry
      · by_cases hd : d = c
        · subst hd
          exact absurd hentry (hgone (evictConnectionLocked_spec hub d).2.1)
        · rw [← evictConnectionLocked_accepts hub c d]
          exact ih _ ((List.mem_cons.mp hmem).resolve_left hd) hentry
    · rename_i hcontains
      by_cases hd : d = c
      · subst hd
        refine absurd hentry (hgone ?_)
        rw [Std.ExtTreeMap.contains_eq_isSome_getElem?, Bool.not_eq_true, Option.isSome_eq_false_iff,
          Option.isNone_iff_eq_none] at hcontains
        exact hcontains
      · exact ih hub ((List.mem_cons.mp hmem).resolve_left hd) hentry

theorem contains_of_entry {entry : ConnectionEntry} (h : hub.connections[c]? = some entry) :
    hub.connections.contains c = true := by
  rw [Std.ExtTreeMap.contains_eq_isSome_getElem?, h]
  rfl

end HubState

open HubState (Grows)

namespace Server

variable {server server' : Server} {out : List Attachment} {order : List ConnectionId} {c : ConnectionId}
  {entry : ConnectionEntry} {place : Place}

/-- **A connection in a room receives what is broadcast to the room, or is gone afterwards.** -/
theorem Broadcasts.received (hi : server.hub.Indexed) {event : Broadcast}
    (h : Broadcasts server event order out server') (hentry : server'.hub.connections[c]? = some entry)
    (hplace : entry.place = some place) (hroom : place.roomId = event.roomId) :
    server.hub.connections[c]? = some entry ∧
      server'.hub.sentTo c = server.hub.sentTo c ++ [.message event.message] := by
  obtain ⟨horder, -, rfl⟩ := h
  have hbefore : server.hub.connections[c]? = some entry := by
    rcases (HubState.broadcastEach_spec event.message order server.hub).kept c with hkept | hkept
    · exact hkept.symm.trans hentry
    · rw [hkept] at hentry
      cases hentry
  have hmem : c ∈ order := by
    rw [horder.mem_iff]
    exact (hi.index.member event.roomId c).mpr
      ⟨place, HubState.placeOf_some.mpr ⟨entry, hbefore, hplace⟩, hroom⟩
  have hnodup : order.Nodup := horder.nodup_iff.mpr (HubState.SetsOk.nodup hi.index.set event.roomId)
  refine ⟨hbefore, (HubState.broadcastEach_sentTo event.message hnodup server.hub c).trans ?_⟩
  rw [if_pos ⟨hmem, HubState.contains_of_entry hbefore, HubState.broadcastEach_accepts event.message _ hmem hentry⟩]

theorem Disconnects.gone (hi : server.hub.Indexed) {roomId : RoomId} {notices : List Outbound}
    (h : Disconnects server roomId order notices out server') (hentry : server'.hub.connections[c]? = some entry)
    (hplace : entry.place = some place) : place.roomId ≠ roomId := by
  rintro rfl
  obtain ⟨horder, -, rfl⟩ := h
  obtain ⟨-, hgone, hkept⟩ := HubState.evictEach_spec notices order server.hub
  by_cases hmem : c ∈ order
  · rw [hgone c hmem] at hentry
    cases hentry
  · rw [hkept c hmem] at hentry
    refine hmem (horder.mem_iff.mpr ?_)
    exact (hi.index.member place.roomId c).mpr ⟨place, HubState.placeOf_some.mpr ⟨entry, hentry, hplace⟩, rfl⟩

/-- No connection of the session is left in the room. -/
theorem disconnectSession_gone {hub hub' : HubState} (hi : hub.Indexed) {roomId : RoomId} {sessionId : SessionId}
    {code : Nat} {reason : String} (h : hub.disconnectSession roomId sessionId code reason = (out, hub'))
    (hentry : hub'.connections[c]? = some entry) (hplace : entry.place = some place) (hroom : place.roomId = roomId) :
    place.sessionId ≠ sessionId := by
  rintro rfl
  obtain ⟨-, hgone, hkept⟩ := HubState.evictEach_spec [.close code reason]
    hub.sessionRoutes[(⟨roomId, place.sessionId⟩ : Route "session id")]?.toList hub
  have hresult : HubState.evictEach [.close code reason]
      hub.sessionRoutes[(⟨roomId, place.sessionId⟩ : Route "session id")]?.toList hub = (out, hub') := h
  rw [hresult] at hgone hkept
  by_cases hmem : c ∈ hub.sessionRoutes[(⟨roomId, place.sessionId⟩ : Route "session id")]?.toList
  · rw [hgone c hmem] at hentry
    cases hentry
  · rw [hkept c hmem] at hentry
    refine hmem (Option.mem_toList.mpr ((hi.index.session _ c).mpr ⟨place, ?_, ?_⟩))
    · exact HubState.placeOf_some.mpr ⟨entry, hentry, hplace⟩
    · rw [← hroom]
      rfl

end Server

/-! ## One step -/

variable {n : Nat} {choice : Choice} {server server' : Server}

theorem Task.Acts.grows (hi : server.hub.Indexed) {task task' : Task}
    (h : Task.Acts n choice server task server' task') : Grows server.hub server'.hub := by
  have hbroadcast : ∀ {event : Broadcast} {order : List ConnectionId} {out : List Attachment} {server' : Server},
      Server.Broadcasts server event order out server' → Grows server.hub server'.hub := by
    intro event order out server' hbroadcast c
    obtain ⟨horder, -, rfl⟩ := hbroadcast
    have hnodup : order.Nodup := horder.nodup_iff.mpr (HubState.SetsOk.nodup hi.index.set event.roomId)
    exact ⟨_, HubState.broadcastEach_sentTo event.message hnodup server.hub c⟩
  have hdisconnect : ∀ {roomId : RoomId} {order : List ConnectionId} {notices : List Outbound}
      {out : List Attachment} {server' : Server},
      Server.Disconnects server roomId order notices out server' → Grows server.hub server'.hub := by
    intro roomId order notices out server' hdisconnect
    obtain ⟨-, -, rfl⟩ := hdisconnect
    exact (HubState.evictEach_delivers notices order server.hub).grows
  have happlies : ∀ {code : RoomCode} {command : RoomCommand} {mutation : Storage.RoomMutation} {server' : Server},
      Server.Applies server code command mutation server' → Grows server.hub server'.hub := by
    intro code command mutation server' happlies
    rw [happlies.hub]
    exact .refl _
  have hsend : ∀ {outbound : Outbound} {result : Except HubError Unit} {hub : HubState},
      server.hub.send n outbound = (result, hub) → Grows server.hub hub := by
    intro outbound result hub hsend
    have hdelivers := (HubState.send_delivers server.hub n outbound).grows
    rwa [hsend] at hdelivers
  cases h with
  | cleanup _ hacts =>
    cases hacts with
    | announced _ h => exact hbroadcast h
    | seen | failed | unchanged => exact .refl _
    | detached _ _ hroom hhandle => exact happlies (.changed hroom hhandle)
  | socket _ hacts =>
    cases hacts with
    | refused | read => exact .refl _
    | committed _ h => exact happlies h
    | attached _ _ h => exact (HubState.attach_delivers h).grows
    | watched _ h => exact (HubState.watchJoin_delivers h).grows
    | sent _ h => exact hsend h
    | notSent _ h => exact hsend h
    | announced _ h => exact hbroadcast h
    | detached _ h =>
      obtain ⟨_, -, -, -, -, hchannels, -⟩ := HubState.detach_ok h
      exact .of_channels hchannels
    | @signalled signalling attachment _ _ _ _ h =>
      have hdelivers := (HubState.sendToPeer_delivers hi n signalling.toPeerId
        (.signal attachment.peerId signalling.negotiationId signalling.signal)).grows
      rwa [h] at hdelivers
    | replied _ h => exact hsend h
    | unregistered _ h =>
      obtain ⟨-, hchannels, -⟩ := HubState.unregister_spec server.hub n
      rw [h] at hchannels
      exact .of_channels hchannels
  | @request _ request _ _ _ _ hacts =>
    cases hacts with
    | answered | joining => exact .refl _
    | joinUnread _ h => exact happlies h
    | joined _ h => exact happlies h
    | decided _ h => exact happlies h
    | left _ h => exact happlies h
    | announced _ h => exact hbroadcast h
    | leaveAnnounced _ h => exact hbroadcast h
    | roomDisconnected _ _ h => exact hdisconnect h
    | @sessionDisconnected room _ _ _ _ _ h =>
      have hdelivers := (HubState.disconnectSession_delivers server.hub room.id request.session.id 4003
        "room membership ended").grows
      rwa [h] at hdelivers
  | maintenance _ hacts =>
    cases hacts with
    | passed | snapshotRead | sessionsFailed | sessionsExpired => exact .refl _
    | roomExpired h => exact happlies h
    | requestExpired h => exact happlies h
    | roomAnnounced h => exact hbroadcast h
    | snapshotAnnounced h => exact hbroadcast h
    | roomDisconnected h => exact hdisconnect h

/-- A handler moves its own connection. -/
inductive Socket.Relocates (c : ConnectionId) (choice : Choice) (hub : HubState) (socket : Socket) :
    HubState → Socket → Prop
  | attached {attaching : Attaching} {replaced : List Attachment} {hub' : HubState} :
      socket.point = .attachHub attaching →
      choice.order.Perm (hub.attachConflicts c attaching.mutation.room.id attaching.peerId) →
      hub.attach c attaching.mutation.room.id attaching.code attaching.peerId choice.order = .ok (replaced, hub') →
      Relocates c choice hub socket hub' (socket.goto (.attachSend attaching))
  | watched {watching : Watching} {snapshot : RoomBootstrapResponse} {replaced : List Attachment} {hub' : HubState} :
      socket.point = .watchHub watching snapshot → hub.watchJoin c watching.status.roomId = .ok (replaced, hub') →
      Relocates c choice hub socket hub' (socket.goto (.watchSend watching snapshot))
  | detached {attachment : Option Attachment} {hub' : HubState} : socket.point = .detachHub →
      hub.detach c = .ok (attachment, hub') →
      Relocates c choice hub socket hub' { socket with attached := false, point := .listening }
  | unregistered {attachment : Option Attachment} {hub' : HubState} : socket.point = .closing →
      hub.unregister c = (attachment, hub') → Relocates c choice hub socket hub' (socket.goto .closed)

/-- Any other step only takes connections away. -/
theorem Task.Acts.relocates {task task' : Task} (h : Task.Acts n choice server task server' task') :
    (∃ out, server.hub.Releases server'.hub out) ∨ ∃ cleanup socket out socket',
      task = { cleanup, work := .socket socket } ∧ cleanup.Done ∧
        task' = { cleanup := .of out, work := .socket socket' } ∧
        socket.Relocates n choice server.hub server'.hub socket' := by
  have hsame : ∃ out, server.hub.Releases server.hub out := ⟨[], .refl _⟩
  have hbroadcast : ∀ {event : Broadcast} {order : List ConnectionId} {out : List Attachment} {server' : Server},
      Server.Broadcasts server event order out server' → ∃ out, server.hub.Releases server'.hub out := by
    intro event order out server' hbroadcast
    obtain ⟨-, -, rfl⟩ := hbroadcast
    exact ⟨_, HubState.broadcastEach_spec event.message order server.hub⟩
  have hdisconnect : ∀ {roomId : RoomId} {order : List ConnectionId} {notices : List Outbound}
      {out : List Attachment} {server' : Server},
      Server.Disconnects server roomId order notices out server' → ∃ out, server.hub.Releases server'.hub out := by
    intro roomId order notices out server' hdisconnect
    obtain ⟨-, -, rfl⟩ := hdisconnect
    exact ⟨_, (HubState.evictEach_spec notices order server.hub).1⟩
  have happlies : ∀ {code : RoomCode} {command : RoomCommand} {mutation : Storage.RoomMutation} {server' : Server},
      Server.Applies server code command mutation server' → ∃ out, server.hub.Releases server'.hub out := by
    intro code command mutation server' happlies
    rw [happlies.hub]
    exact hsame
  have hsend : ∀ {outbound : Outbound} {result : Except HubError Unit} {hub : HubState},
      server.hub.send n outbound = (result, hub) → ∃ out, server.hub.Releases hub out := by
    intro outbound result hub hsend
    obtain ⟨released, hreleases⟩ := (HubState.send_spec server.hub n outbound).1
    rw [hsend] at hreleases
    exact ⟨released, hreleases⟩
  cases h with
  | cleanup _ hacts =>
    left
    cases hacts with
    | announced _ h => exact hbroadcast h
    | seen | failed | unchanged => exact hsame
    | detached _ _ hroom hhandle => exact happlies (.changed hroom hhandle)
  | @socket cleanup socket socket' _ out hdone hacts =>
    cases hacts with
    | attached hpoint horder hattach =>
      exact .inr ⟨cleanup, socket, _, _, rfl, hdone, rfl, .attached hpoint horder hattach⟩
    | watched hpoint hwatch => exact .inr ⟨cleanup, socket, _, _, rfl, hdone, rfl, .watched hpoint hwatch⟩
    | detached hpoint hdetach => exact .inr ⟨cleanup, socket, _, _, rfl, hdone, rfl, .detached hpoint hdetach⟩
    | unregistered hpoint hunregister =>
      exact .inr ⟨cleanup, socket, _, _, rfl, hdone, rfl, .unregistered hpoint hunregister⟩
    | refused | read => exact .inl hsame
    | committed _ h => exact .inl (happlies h)
    | sent _ h => exact .inl (hsend h)
    | notSent _ h => exact .inl (hsend h)
    | announced _ h => exact .inl (hbroadcast h)
    | @signalled signalling attachment _ _ _ _ h =>
      obtain ⟨released, hreleases⟩ := (HubState.sendToPeer_spec server.hub n signalling.toPeerId
        (.signal attachment.peerId signalling.negotiationId signalling.signal)).1
      rw [h] at hreleases
      exact .inl ⟨released, hreleases⟩
    | replied _ h => exact .inl (hsend h)
  | @request _ request _ _ _ _ hacts =>
    left
    cases hacts with
    | answered | joining => exact hsame
    | joinUnread _ h => exact happlies h
    | joined _ h => exact happlies h
    | decided _ h => exact happlies h
    | left _ h => exact happlies h
    | announced _ h => exact hbroadcast h
    | leaveAnnounced _ h => exact hbroadcast h
    | roomDisconnected _ _ h => exact hdisconnect h
    | @sessionDisconnected room _ _ _ _ _ h =>
      have hreleases := (HubState.evictEach_spec [.close 4003 "room membership ended"]
        server.hub.sessionRoutes[(⟨room.id, request.session.id⟩ : Route "session id")]?.toList server.hub).1
      have h : HubState.evictEach _ _ server.hub = _ := h
      rw [h] at hreleases
      exact ⟨_, hreleases⟩
  | maintenance _ hacts =>
    left
    cases hacts with
    | passed | snapshotRead | sessionsFailed | sessionsExpired => exact hsame
    | roomExpired h => exact happlies h
    | requestExpired h => exact happlies h
    | roomAnnounced h => exact hbroadcast h
    | snapshotAnnounced h => exact hbroadcast h
    | roomDisconnected h => exact hdisconnect h

theorem HubState.Releases.entry {hub hub' : HubState} {out : List Attachment} (h : hub.Releases hub' out)
    {c : ConnectionId} {entry : ConnectionEntry} (hentry : hub'.connections[c]? = some entry) :
    hub.connections[c]? = some entry := by
  rcases h.kept c with hkept | hkept
  · exact hkept.symm.trans hentry
  · rw [hkept] at hentry
    cases hentry

/-- A connection whose own send fails is gone. -/
theorem HubState.send_error {hub hub' : HubState} {c : ConnectionId} {outbound : Outbound} {error : HubError}
    (h : hub.send c outbound = (.error error, hub')) : hub'.connections[c]? = none := by
  unfold send at h
  split at h
  · unfold sendOrEvict at h
    split at h
    · cases h
    · cases h
      exact (evictConnectionLocked_spec hub c).2.1
    · cases h
      exact (evictConnectionLocked_spec hub c).2.1
  · rename_i hcontains
    cases h
    rwa [Std.ExtTreeMap.contains_eq_isSome_getElem?, Bool.not_eq_true, Option.isSome_eq_false_iff,
      Option.isNone_iff_eq_none] at hcontains

/-- What a connection sends to itself is the last item of its queue. -/
theorem HubState.send_sentTo {hub hub' : HubState} {c : ConnectionId} {outbound : Outbound}
    (h : hub.send c outbound = (.ok (), hub')) : hub'.sentTo c = hub.sentTo c ++ [outbound] := by
  unfold send at h
  split at h
  · unfold sendOrEvict at h
    split at h
    · rename_i hsend
      cases h
      rw [trySend_sentTo hsend, if_pos rfl]
    · cases h
    · cases h
  · cases h

/-- A task moves no connection but its own. -/
theorem Task.Touches.others {task : Task} {hub hub' : HubState} (hi : hub.Indexed) (h : task.Touches n hub hub')
    {c : ConnectionId} (hc : c ≠ n) {entry : ConnectionEntry} (hentry : hub'.connections[c]? = some entry) :
    hub.connections[c]? = some entry := by
  cases h with
  | released hreleases => exact hreleases.entry hentry
  | attached _ horder hattach =>
    obtain ⟨_, hub₁, -, hreleases, -, hconnections, -⟩ := HubState.attach_ok hi horder hattach
    rw [hconnections, BTreeMap.getElem?_insert, if_neg (Ne.symm hc)] at hentry
    exact hreleases.entry hentry
  | watched hwatch =>
    obtain ⟨_, hub₁, -, hreleases, -, hconnections, -⟩ := HubState.watchJoin_ok hi hwatch
    rw [hconnections, BTreeMap.getElem?_insert, if_neg (Ne.symm hc)] at hentry
    exact hreleases.entry hentry
  | detached hdetach =>
    obtain ⟨_, -, -, hconnections, -⟩ := HubState.detach_ok hdetach
    rw [hconnections, BTreeMap.getElem?_insert, if_neg (Ne.symm hc)] at hentry
    exact hentry
  | unregistered hunregister =>
    obtain ⟨hconnections, -⟩ := HubState.unregister_spec hub n
    rw [hunregister] at hconnections
    rw [hconnections, BTreeMap.getElem?_erase] at hentry
    split at hentry
    · cases hentry
    · exact hentry

namespace World

variable {world world' : World} {label : Label} {c : ConnectionId} {entry : ConnectionEntry}

/-- What a step was to a connection that is registered afterwards. -/
inductive Keeps (world : World) (label : Label) (world' : World) (c : ConnectionId) (entry : ConnectionEntry) : Prop
  | kept {new : List Outbound} : world.server.hub.connections[c]? = some entry →
      world'.server.hub.sentTo c = world.server.hub.sentTo c ++ new → world'.tasks[c]? = world.tasks[c]? →
      Keeps world label world' c entry
  | woken {cleanup : Cleanup} {socket socket' : Socket} : world.server.hub.connections[c]? = some entry →
      world'.server.hub = world.server.hub → world.tasks[c]? = some { cleanup, work := .socket socket } →
      socket.point = .listening → Wakes c socket label socket' → world'.tasks[c]? = some (.of (.socket socket')) →
      Keeps world label world' c entry
  | connected {session : Session} : world.tasks[c]? = none → entry.attachment = none → entry.joinWatch = none →
      world'.server.hub.sentTo c = [] → world'.tasks[c]? = some (.of (.socket (.opened session))) →
      Keeps world label world' c entry
  | acted {choice : Choice} {task task' : Task} : label = .run c choice → world.tasks[c]? = some task →
      world'.tasks[c]? = some task' → task.Acts c choice world.server world'.server task' →
      Keeps world label world' c entry

/-- **A registered connection keeps its entry and its task through the steps of the others, and its queue grows.** -/
theorem Step.keeps (hsane : world.Sane) (h : Step world label world')
    (hentry : world'.server.hub.connections[c]? = some entry) : Keeps world label world' c entry := by
  have hnil : world.server.hub.sentTo c = world.server.hub.sentTo c ++ [] := (List.append_nil _).symm
  -- the number of a registered connection is taken
  have hfresh : ∀ {n : Nat} {task : Task}, world.tasks[n]? = none → world.server.hub.connections[c]? = some entry →
      (world.tasks.insert n task)[c]? = world.tasks[c]? := by
    intro n task hnone hentry
    rw [BTreeMap.getElem?_insert, if_neg]
    rintro rfl
    obtain ⟨task, htask⟩ := hsane.connected n entry hentry
    rw [hnone] at htask
    cases htask
  cases step_acts h with
  | createSession | createRoom => exact .kept hentry hnil rfl
  | request hnone | maintain hnone => exact .kept hentry hnil (hfresh hnone hentry)
  | @woken n _ cleanup socket socket' htask hdone hpoint hwakes =>
    by_cases hn : n = c
    · subst hn
      refine .woken hentry rfl htask hpoint hwakes ?_
      show (world.tasks.insert n _)[n]? = _
      rw [BTreeMap.getElem?_insert, if_pos rfl]
    · refine .kept hentry hnil ?_
      show (world.tasks.insert n _)[c]? = _
      rw [BTreeMap.getElem?_insert, if_neg hn]
  | @connect n sessionId session now hnone =>
    have hentry : (world.server.hub.connections.insert n _)[c]? = some entry := hentry
    rw [BTreeMap.getElem?_insert] at hentry
    split at hentry
    · rename_i hn
      cases hentry
      refine @Keeps.connected _ _ _ _ _ session (hn ▸ hnone) rfl rfl ?_ ?_
      · show HubState.sentTo (world.server.hub.register n session.id) c = []
        simp [HubState.sentTo, HubState.register, hn]
      · show (world.tasks.insert n _)[c]? = _
        rw [BTreeMap.getElem?_insert, if_pos hn]
    · rename_i hn
      refine .kept hentry (?_ : _ = _ ++ []) (hfresh hnone hentry)
      show HubState.sentTo (world.server.hub.register n session.id) c = _
      simp [HubState.sentTo, HubState.register, BTreeMap.getElem?_insert, hn]
  | written hwrites =>
    have hsent := hwrites.sentTo c
    obtain ⟨channels, rfl⟩ := hwrites.channels
    exact .kept hentry (hsent.trans hnil) rfl
  | @ran n choice task task' server' hrunning hacts =>
    by_cases hn : n = c
    · subst hn
      refine .acted rfl hrunning ?_ hacts
      show (world.tasks.insert n task')[n]? = some task'
      rw [BTreeMap.getElem?_insert, if_pos rfl]
    · obtain ⟨new, hnew⟩ := hacts.grows hsane.server.indexed c
      refine .kept (hacts.touches.others hsane.server.indexed (Ne.symm hn) hentry) hnew ?_
      show (world.tasks.insert n task')[c]? = _
      rw [BTreeMap.getElem?_insert, if_neg hn]
  | restarted =>
    have hentry : (∅ : BTreeMap ConnectionId ConnectionEntry)[c]? = some entry := hentry
    have hnone : some entry = none := hentry.symm.trans Std.ExtTreeMap.getElem?_empty
    cases hnone

end World

end P2PTransmission
