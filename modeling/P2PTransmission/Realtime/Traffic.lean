import P2PTransmission.Realtime.Delivery
import P2PTransmission.Realtime.Sane

/-!
# What the tasks put into the queues

A task puts four kinds of items into queues: notices, which are errors and the end of a connection; what a handler sends
to its own connection; signals; and the events that it announces to a room (`Task.Puts`). Everything that a step of the
server puts into a queue is one of these (`World.Step.puts`).
-/

set_option autoImplicit false

namespace P2PTransmission

open HubState (Delivered Delivers)

/-- An item that carries nothing about a room. -/
def Outbound.Notice : Outbound → Prop
  | .message (.error _ _ _) | .close _ _ => True
  | _ => False

/-- The event that a task gives to a room with its next call. -/
inductive Task.Announces : Task → Broadcast → Prop
  | cleanup {cleanup : Cleanup} {work : Work} {event : Broadcast} : cleanup.announcing = some event →
      Announces { cleanup, work } event
  | attach {cleanup : Cleanup} {socket : Socket} {attaching : Attaching} : cleanup.Done →
      socket.point = .attachAnnounce attaching → Announces { cleanup, work := .socket socket } (socket.online attaching)
  | request {cleanup : Cleanup} {request : Request} {event : Broadcast} : cleanup.Done →
      request.point = .announce event → Announces { cleanup, work := .request request } event
  | leave {cleanup : Cleanup} {request : Request} {room : Room} : cleanup.Done → request.point = .leaveAnnounce room →
      Announces { cleanup, work := .request request } (request.left room)
  | roomExpired {cleanup : Cleanup} {now : Nat} {mutation : Storage.RoomMutation}
      {mutations : List Storage.RoomMutation} : cleanup.Done →
      Announces { cleanup, work := .maintenance (.announceRooms now (mutation :: mutations)) }
        (Maintenance.roomExpired mutation.room)
  | snapshot {cleanup : Cleanup} {now : Nat} {room : Room} {snapshot : RoomBootstrapResponse}
      {mutations : List Storage.RoomMutation} : cleanup.Done →
      Announces { cleanup, work := .maintenance (.announceSnapshot now room snapshot mutations) }
        { roomId := room.id, message := .roomSnapshot snapshot }

/-- The connections that a broadcast to a room reaches. -/
structure HubState.Reaches (hub : HubState) (roomId : RoomId) (d : ConnectionId) : Prop where
  member : d ∈ hub.connectionsOf roomId
  registered : hub.connections.contains d = true
  accepts : hub.accepts d = true

inductive Task.Puts (n : Nat) (server : Server) (task : Task) : ConnectionId → Outbound → Prop
  | notice {d : ConnectionId} {outbound : Outbound} : outbound.Notice → Puts n server task d outbound
  | own {cleanup : Cleanup} {socket socket' : Socket} {message : ServerRealtimeMessage} :
      task = { cleanup, work := .socket socket } → cleanup.Done → Socket.Sends socket message socket' →
      server.hub.connections.contains n = true → Puts n server task n (.message message)
  | signal {cleanup : Cleanup} {socket : Socket} {signalling : Signalling} {attachment a b : Attachment}
      {d : ConnectionId} : task = { cleanup, work := .socket socket } → cleanup.Done →
      socket.point = .signalSend signalling attachment → server.hub.attachmentOf n = some a →
      server.hub.attachmentOf d = some b → b.roomId = a.roomId → b.peerId = signalling.toPeerId →
      a.peerId ≠ signalling.toPeerId →
      Puts n server task d (.message (.signal attachment.peerId signalling.negotiationId signalling.signal))
  | event {event : Broadcast} {d : ConnectionId} : task.Announces event → server.hub.Reaches event.roomId d →
      Puts n server task d (.message event.message)

variable {n : Nat} {choice : Choice} {server server' : Server} {out : List Attachment} {d : ConnectionId}
  {outbound : Outbound}

namespace Server

theorem Broadcasts.delivered (hi : server.hub.Indexed) {event : Broadcast} {order : List ConnectionId}
    (h : Broadcasts server event order out server') :
    Delivered server.hub server'.hub d outbound ↔
      outbound = .message event.message ∧ server.hub.Reaches event.roomId d := by
  obtain ⟨horder, -, rfl⟩ := h
  have hnodup : order.Nodup := horder.nodup_iff.mpr (HubState.SetsOk.nodup hi.index.set event.roomId)
  rw [HubState.broadcastEach_delivered event.message hnodup server.hub, horder.mem_iff]
  exact and_congr_right fun _ => ⟨fun ⟨hm, hr, ha⟩ => ⟨hm, hr, ha⟩, fun ⟨hm, hr, ha⟩ => ⟨hm, hr, ha⟩⟩

theorem Disconnects.notice {roomId : RoomId} {order : List ConnectionId} {code : Nat} {reason : String}
    (h : Disconnects server roomId order [.close code reason] out server')
    (hd : Delivered server.hub server'.hub d outbound) : outbound.Notice := by
  obtain ⟨-, -, rfl⟩ := h
  have := (HubState.evictEach_delivers [.close code reason] order server.hub).delivered hd
  rw [List.mem_singleton.mp this]
  trivial

theorem not_delivered (h : server'.hub.channels = server.hub.channels) :
    ¬ Delivered server.hub server'.hub d outbound :=
  fun hd => (Delivers.of_sentTo (HubState.sentTo_congr h) fun _ _ => False).delivered hd

theorem Applies.not_delivered {code : RoomCode} {command : RoomCommand} {mutation : Storage.RoomMutation}
    (h : Applies server code command mutation server') : ¬ Delivered server.hub server'.hub d outbound :=
  Server.not_delivered (by rw [h.hub])

end Server

open Server

theorem Socket.Acts.puts (hi : server.hub.Indexed) {cleanup : Cleanup} (hdone : cleanup.Done) {socket socket' : Socket}
    (h : Socket.Acts n choice server socket server' out socket') (hd : Delivered server.hub server'.hub d outbound) :
    Task.Puts n server { cleanup, work := .socket socket } d outbound := by
  cases h with
  | refused | read => exact absurd hd (Server.not_delivered rfl)
  | committed _ happlies => exact absurd hd happlies.not_delivered
  | attached _ _ hattach =>
    refine .notice ?_
    rcases List.mem_cons.mp ((HubState.attach_delivers hattach).delivered hd) with rfl | hmem
    · trivial
    · rw [List.mem_singleton.mp hmem]
      trivial
  | watched _ hwatch => exact absurd ((HubState.watchJoin_delivers hwatch).delivered hd) id
  | @sent message _ hub hsends hsend =>
    obtain ⟨rfl, rfl, hcontains⟩ :=
      (HubState.send_delivers server.hub n (.message message)).delivered (by rw [hsend]; exact hd)
    exact .own rfl hdone hsends hcontains
  | @notSent message _ error hub hsends hsend =>
    obtain ⟨rfl, rfl, hcontains⟩ :=
      (HubState.send_delivers server.hub n (.message message)).delivered (by rw [hsend]; exact hd)
    exact .own rfl hdone hsends hcontains
  | announced hpoint hbroadcast =>
    obtain ⟨rfl, hreaches⟩ := (hbroadcast.delivered hi).mp hd
    exact .event (.attach hdone hpoint) hreaches
  | detached _ hdetach =>
    obtain ⟨entry, -, -, -, -, hchannels, -⟩ := HubState.detach_ok hdetach
    exact absurd hd (Server.not_delivered hchannels)
  | signalled hpoint hsend _ =>
    obtain ⟨rfl, a, b, ha, hb, hroom, hpeer, hself⟩ :=
      (HubState.sendToPeer_delivers hi n _ _).delivered (by rw [hsend]; exact hd)
    exact .signal rfl hdone hpoint ha hb hroom hpeer hself
  | replied _ hsend =>
    obtain ⟨-, rfl, -⟩ := (HubState.send_delivers server.hub n _).delivered (by rw [hsend]; exact hd)
    exact .notice trivial
  | unregistered _ hunregister =>
    obtain ⟨-, hchannels, -⟩ := HubState.unregister_spec server.hub n
    rw [hunregister] at hchannels
    exact absurd hd (Server.not_delivered hchannels)

theorem Request.Acts.puts (hi : server.hub.Indexed) {cleanup : Cleanup} (hdone : cleanup.Done)
    {request request' : Request} (h : Request.Acts choice server request server' out request')
    (hd : Delivered server.hub server'.hub d outbound) :
    Task.Puts n server { cleanup, work := .request request } d outbound := by
  cases h with
  | answered | joining => exact absurd hd (Server.not_delivered rfl)
  | joinUnread _ happlies => exact absurd hd happlies.not_delivered
  | joined _ happlies => exact absurd hd happlies.not_delivered
  | decided _ happlies => exact absurd hd happlies.not_delivered
  | left _ happlies => exact absurd hd happlies.not_delivered
  | announced hpoint hbroadcast =>
    obtain ⟨rfl, hreaches⟩ := (hbroadcast.delivered hi).mp hd
    exact .event (.request hdone hpoint) hreaches
  | leaveAnnounced hpoint hbroadcast =>
    obtain ⟨rfl, hreaches⟩ := (hbroadcast.delivered hi).mp hd
    exact .event (.leave hdone hpoint) hreaches
  | roomDisconnected _ _ hdisconnect => exact .notice (hdisconnect.notice hd)
  | @sessionDisconnected room _ _ _ _ _ hdisconnect =>
    have hdelivers :=
      HubState.disconnectSession_delivers server.hub room.id request.session.id 4003 "room membership ended"
    rw [hdisconnect] at hdelivers
    rw [hdelivers.delivered hd]
    exact .notice trivial

theorem Maintenance.Acts.puts (hi : server.hub.Indexed) {cleanup : Cleanup} (hdone : cleanup.Done)
    {maintenance maintenance' : Maintenance} (h : Maintenance.Acts choice server maintenance server' out maintenance')
    (hd : Delivered server.hub server'.hub d outbound) :
    Task.Puts n server { cleanup, work := .maintenance maintenance } d outbound := by
  cases h with
  | passed | snapshotRead | sessionsFailed | sessionsExpired => exact absurd hd (Server.not_delivered rfl)
  | roomExpired happlies => exact absurd hd happlies.not_delivered
  | requestExpired happlies => exact absurd hd happlies.not_delivered
  | roomAnnounced hbroadcast =>
    obtain ⟨rfl, hreaches⟩ := (hbroadcast.delivered hi).mp hd
    exact .event (.roomExpired hdone) hreaches
  | snapshotAnnounced hbroadcast =>
    obtain ⟨rfl, hreaches⟩ := (hbroadcast.delivered hi).mp hd
    exact .event (.snapshot hdone) hreaches
  | roomDisconnected hdisconnect => exact .notice (hdisconnect.notice hd)

/-- **What a step of a task puts into the queues.** -/
theorem Task.Acts.puts (hi : server.hub.Indexed) {task task' : Task} (h : Task.Acts n choice server task server' task')
    (hd : Delivered server.hub server'.hub d outbound) : task.Puts n server d outbound := by
  cases h with
  | cleanup hdone hacts =>
    cases hacts with
    | announced hannouncing hbroadcast =>
      obtain ⟨rfl, hreaches⟩ := (hbroadcast.delivered hi).mp hd
      exact .event (.cleanup hannouncing) hreaches
    | seen | failed | unchanged => exact absurd hd (Server.not_delivered rfl)
    | detached _ _ hroom hhandle => exact absurd hd (Applies.changed hroom hhandle).not_delivered
  | socket hdone hacts => exact hacts.puts hi hdone hd
  | request hdone hacts => exact hacts.puts hi hdone hd
  | maintenance hdone hacts => exact hacts.puts hi hdone hd

/-- A task that has an event to announce announces it. -/
theorem Task.Acts.announces {task task' : Task} (h : Task.Acts n choice server task server' task') {event : Broadcast}
    (hannounces : task.Announces event) : ∃ out, Broadcasts server event choice.order out server' := by
  cases hannounces with
  | cleanup hannouncing =>
    have hopen : ∀ {cleanup : Cleanup}, cleanup.announcing = some event → ¬cleanup.Done := by
      rintro cleanup ha ⟨-, hnone⟩
      rw [ha] at hnone
      cases hnone
    cases h with
    | cleanup _ hacts =>
      cases hacts with
      | announced ha hbroadcast =>
        rw [hannouncing] at ha
        cases ha
        exact ⟨_, hbroadcast⟩
      | seen hnone | failed hnone | unchanged hnone | detached hnone =>
        rw [hannouncing] at hnone
        cases hnone
    | socket hdone | request hdone | maintenance hdone => exact absurd hdone (hopen hannouncing)
  | attach hdone hpoint =>
    cases h with
    | cleanup hopen => exact absurd hdone hopen
    | socket _ hacts =>
      cases hacts with
      | announced hat hbroadcast =>
        cases hpoint.symm.trans hat
        exact ⟨_, hbroadcast⟩
      | refused hrefusable =>
        rw [hpoint] at hrefusable
        exact hrefusable.elim
      | read hread =>
        cases hread with
        | attachRead hat | watchStatus hat | watchRead hat | detachCheck hat | signalCheck hat | signalRoom hat
        | signalLimit hat => cases hpoint.symm.trans hat
      | sent hsends | notSent hsends =>
        cases hsends with
        | attached hat | attachSnapshot hat | watching hat | watchSnapshot hat => cases hpoint.symm.trans hat
      | committed hat | attached hat | watched hat | detached hat | signalled hat | replied hat | unregistered hat =>
        cases hpoint.symm.trans hat
  | request hdone hpoint =>
    cases h with
    | cleanup hopen => exact absurd hdone hopen
    | request _ hacts =>
      cases hacts with
      | announced hat hbroadcast =>
        cases hpoint.symm.trans hat
        exact ⟨_, hbroadcast⟩
      | answered hnot => exact absurd hpoint (hnot event)
      | joining hat | joinUnread hat | joined hat | decided hat | left hat | leaveAnnounced hat | roomDisconnected hat
      | sessionDisconnected hat => cases hpoint.symm.trans hat
  | leave hdone hpoint =>
    cases h with
    | cleanup hopen => exact absurd hdone hopen
    | request _ hacts =>
      cases hacts with
      | leaveAnnounced hat hbroadcast =>
        cases hpoint.symm.trans hat
        exact ⟨_, hbroadcast⟩
      | answered _ hnot => exact absurd hpoint (hnot _)
      | joining hat | joinUnread hat | joined hat | decided hat | left hat | announced hat | roomDisconnected hat
      | sessionDisconnected hat => cases hpoint.symm.trans hat
  | roomExpired hdone =>
    cases h with
    | cleanup hopen => exact absurd hdone hopen
    | maintenance _ hacts =>
      cases hacts with
      | roomAnnounced hbroadcast => exact ⟨_, hbroadcast⟩
      | passed hpass => cases hpass
  | snapshot hdone =>
    cases h with
    | cleanup hopen => exact absurd hdone hopen
    | maintenance _ hacts =>
      cases hacts with
      | snapshotAnnounced hbroadcast => exact ⟨_, hbroadcast⟩
      | passed hpass => cases hpass

namespace World

variable {world world' : World} {label : Label}

/-- The writer of a connection puts nothing into its queue. -/
theorem Writes.sentTo {hub hub' : HubState} (h : Writes hub label hub') (c : ConnectionId) :
    hub'.sentTo c = hub.sentTo c := by
  cases h with
  | took n =>
    unfold HubState.take
    split
    · rfl
    · rename_i channel hn
      simp only [HubState.sentTo, BTreeMap.getElem?_insert]
      by_cases hc : n = c
      · subst hc
        simp [hn]
      · simp [hc]
  | closed n =>
    unfold HubState.closeReceiver
    split
    · rfl
    · rename_i channel hn
      simp only [HubState.sentTo, BTreeMap.getElem?_insert]
      by_cases hc : n = c
      · subst hc
        simp [hn]
      · simp [hc]

/-- **What a step of the server puts into the queues**, and which task does it. -/
theorem Step.puts (hsane : world.Sane) (h : Step world label world')
    (hd : Delivered world.server.hub world'.server.hub d outbound) :
    ∃ n choice task task', label = .run n choice ∧ world.tasks[n]? = some task ∧
      task.Acts n choice world.server world'.server task' ∧ task.Puts n world.server d outbound := by
  have hnothing : ∀ {hub hub' : HubState}, (∀ c, hub'.sentTo c = [] ∨ hub'.sentTo c = hub.sentTo c) →
      ¬ Delivered hub hub' d outbound := by
    rintro hub hub' hempty ⟨new, hnew, hmem⟩
    rcases hempty d with hd | hd
    · rw [hd] at hnew
      have := (List.append_eq_nil_iff.mp hnew.symm).2
      rw [this] at hmem
      exact absurd hmem List.not_mem_nil
    · rw [hd] at hnew
      have := List.append_cancel_left ((List.append_nil _).trans hnew)
      rw [← this] at hmem
      exact absurd hmem List.not_mem_nil
  cases step_acts h with
  | createSession | createRoom | request | maintain | woken => exact absurd hd (hnothing fun _ => .inr rfl)
  | @connect n sessionId session =>
    refine absurd hd (hnothing fun c => ?_)
    by_cases hc : n = c
    · refine .inl ?_
      show HubState.sentTo (world.server.hub.register n session.id) c = []
      subst hc
      simp [HubState.sentTo, HubState.register]
    · refine .inr ?_
      show HubState.sentTo (world.server.hub.register n session.id) c = _
      simp [HubState.sentTo, HubState.register, BTreeMap.getElem?_insert, hc]
  | written hwrites => exact absurd hd (hnothing fun c => .inr (hwrites.sentTo c))
  | @ran n choice task task' server' htask hacts =>
    exact ⟨n, choice, task, task', rfl, htask, hacts, hacts.puts hsane.server.indexed hd⟩
  | restarted =>
    refine absurd hd (hnothing fun c => .inl ?_)
    show HubState.sentTo (HubState.new _) c = []
    simp [HubState.sentTo, HubState.new]

theorem Step.run_acts {n : Nat} {choice : Choice} {task : Task} (h : Step world (.run n choice) world')
    (htask : world.tasks[n]? = some task) : ∃ task', task.Acts n choice world.server world'.server task' := by
  cases step_acts h with
  | woken _ _ _ hwakes => cases hwakes
  | written hwrites => cases hwrites
  | ran hrunning hacts =>
    cases htask.symm.trans hrunning
    exact ⟨_, hacts⟩

/-! ## Where a task comes from -/

/-- What the task of a number was before a step. -/
inductive Becomes (world : World) (label : Label) (world' : World) (n : Nat) : Task → Prop
  | kept {task : Task} : world.tasks[n]? = some task → Becomes world label world' n task
  | opened {session : Session} : Becomes world label world' n (.of (.socket (.opened session)))
  | started {session : Session} {call : RequestCall} :
      Becomes world label world' n (.of (.request { session, point := .start call }))
  | maintains : Becomes world label world' n (.of (.maintenance .start))
  | woken {cleanup : Cleanup} {socket socket' : Socket} :
      world.tasks[n]? = some { cleanup, work := .socket socket } → socket.point = .listening →
      Wakes n socket label socket' → Becomes world label world' n (.of (.socket socket'))
  | acted {choice : Choice} {task task' : Task} : world.tasks[n]? = some task →
      task.Acts n choice world.server world'.server task' → label = .run n choice → Becomes world label world' n task'

theorem Step.becomes (h : Step world label world') {n : Nat} {task : Task} (htask : world'.tasks[n]? = some task) :
    Becomes world label world' n task := by
  have hinsert : ∀ {m : Nat} {new : Task}, (world.tasks.insert m new)[n]? = some task →
      m = n ∧ new = task ∨ world.tasks[n]? = some task := by
    intro m new hget
    rw [BTreeMap.getElem?_insert] at hget
    split at hget
    · rename_i hm
      exact .inl ⟨hm, Option.some.inj hget⟩
    · exact .inr hget
  cases step_acts h with
  | createSession | createRoom | written => exact .kept htask
  | connect =>
    rcases hinsert htask with ⟨-, rfl⟩ | hkept
    · exact .opened
    · exact .kept hkept
  | request =>
    rcases hinsert htask with ⟨-, rfl⟩ | hkept
    · exact .started
    · exact .kept hkept
  | maintain =>
    rcases hinsert htask with ⟨-, rfl⟩ | hkept
    · exact .maintains
    · exact .kept hkept
  | woken hclient _ hpoint hwakes =>
    rcases hinsert htask with ⟨rfl, rfl⟩ | hkept
    · exact .woken hclient hpoint hwakes
    · exact .kept hkept
  | ran hrunning hacts =>
    rcases hinsert htask with ⟨rfl, rfl⟩ | hkept
    · exact .acted hrunning hacts rfl
    · exact .kept hkept
  | restarted => exact absurd (htask.symm.trans Std.ExtTreeMap.getElem?_empty) nofun

end World

/-! ## The events in flight -/

/-- A cleanup announces that someone went offline, a request that someone asked or was decided on. -/
structure Task.EventsOk (task : Task) : Prop where
  cleanup : ∀ event, task.cleanup.announcing = some event →
    ∃ revision sessionId, event.message = .peerOffline revision sessionId
  request : ∀ (request : Request) event, task.work = .request request → request.point = .announce event →
    (∃ revision joinRequest, event.message = .joinRequested revision joinRequest ∧
      joinRequest.sessionId = request.session.id) ∨
    ∃ revision requestId decision, event.message = .joinDecided revision requestId decision

theorem Task.EventsOk.of (work : Work) (h : ∀ (request : Request) event, work = .request request →
    request.point ≠ .announce event) : (Task.of work).EventsOk :=
  ⟨fun event hannouncing => (by cases hannouncing), fun request event hwork hpoint =>
    absurd hpoint (h request event hwork)⟩

theorem Task.Acts.eventsOk {task task' : Task} (h : Task.Acts n choice server task server' task') (hok : task.EventsOk) :
    task'.EventsOk := by
  cases h with
  | cleanup _ hacts =>
    refine ⟨fun event hannouncing => ?_, hok.request⟩
    cases hacts with
    | announced => cases hannouncing
    | detached =>
      cases hannouncing
      exact ⟨_, _, rfl⟩
    | seen | failed | unchanged => exact hok.cleanup event hannouncing
  | socket | maintenance =>
    exact ⟨fun event hannouncing => (by cases hannouncing), fun request event hwork => by cases hwork⟩
  | request _ hacts =>
    refine ⟨fun event hannouncing => (by cases hannouncing), fun request event hwork hpoint => ?_⟩
    cases hwork
    cases hacts with
    | joined =>
      cases hpoint
      exact .inl ⟨_, _, rfl, rfl⟩
    | decided =>
      cases hpoint
      exact .inr ⟨_, _, _, rfl⟩
    | answered | joining | joinUnread | left | announced | leaveAnnounced | roomDisconnected | sessionDisconnected =>
      cases hpoint

namespace World

variable {world : World}

/-- The events in flight in every world of a run. -/
theorem visited_eventsOk {queueCapacity joinRequestTtl : Nat} {labels : List Label}
    (h : Visited Step (World.initial queueCapacity joinRequestTtl) labels world) {n : Nat} {task : Task}
    (htask : world.tasks[n]? = some task) : task.EventsOk := by
  refine h.invariant (I := fun world => ∀ (n : Nat) (task : Task), world.tasks[n]? = some task → task.EventsOk)
    (fun w label w' htaken hok n task htask => ?_) (fun n task htask => ?_) n task htask
  · cases htaken.holds.becomes htask with
    | kept hkept => exact hok n task hkept
    | opened | maintains | woken => exact .of _ fun request event hwork => by cases hwork
    | started =>
      refine .of _ fun request event hwork hpoint => ?_
      cases hwork
      cases hpoint
    | acted hbefore hacts => exact hacts.eventsOk (hok n _ hbefore)
  · exact absurd (htask.symm.trans Std.ExtTreeMap.getElem?_empty) nofun

end World

end P2PTransmission
