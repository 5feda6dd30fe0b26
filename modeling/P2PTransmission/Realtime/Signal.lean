import P2PTransmission.Realtime.Commits
import P2PTransmission.Realtime.Traffic

/-!
# Signals

`relay_signal` reads the attachment of its connection, checks it against the stored room, waits for the rate limiter and
then sends. A connection is attached by its own task only, which is busy with the signal; so whatever the others do
meanwhile, the connection is still attached as it was read, or it is not attached at all (`SignalOk`).
-/

set_option autoImplicit false

namespace P2PTransmission

open HubState (Delivered)

/-- The attachment under which a handler is about to send a signal. -/
def Socket.signallingAs (socket : Socket) : Option Attachment :=
  match socket.point with
  | .signalRoom _ attachment | .signalLimit _ attachment | .signalSend _ attachment => some attachment
  | _ => none

variable {n : Nat} {choice : Choice} {server server' : Server} {out : List Attachment}

/-! ## Who attaches a connection -/

/-- The task is about to attach its own connection. -/
def Task.Attaches (task : Task) : Prop :=
  ∃ cleanup socket attaching, task = { cleanup, work := .socket socket } ∧ socket.point = .attachHub attaching

/-- What a step of a task does to the connections of the hub. -/
inductive Task.Touches (n : Nat) (task : Task) (hub : HubState) : HubState → Prop
  | released {hub' : HubState} {released : List Attachment} : hub.Releases hub' released → Touches n task hub hub'
  | attached {hub' : HubState} {roomId : RoomId} {code : RoomCode} {peerId : PeerId} {order : List ConnectionId}
      {replaced : List Attachment} : task.Attaches → order.Perm (hub.attachConflicts n roomId peerId) →
      hub.attach n roomId code peerId order = .ok (replaced, hub') → Touches n task hub hub'
  | watched {hub' : HubState} {roomId : RoomId} {replaced : List Attachment} :
      hub.watchJoin n roomId = .ok (replaced, hub') → Touches n task hub hub'
  | detached {hub' : HubState} {attachment : Option Attachment} : hub.detach n = .ok (attachment, hub') →
      Touches n task hub hub'
  | unregistered {hub' : HubState} {attachment : Option Attachment} : hub.unregister n = (attachment, hub') →
      Touches n task hub hub'

theorem Server.Broadcasts.touches {task : Task} {event : Broadcast} {order : List ConnectionId}
    (h : Server.Broadcasts server event order out server') : task.Touches n server.hub server'.hub := by
  obtain ⟨-, -, rfl⟩ := h
  exact .released (HubState.broadcastEach_spec event.message order server.hub)

theorem Server.Disconnects.touches {task : Task} {roomId : RoomId} {order : List ConnectionId}
    {notices : List Outbound} (h : Server.Disconnects server roomId order notices out server') :
    task.Touches n server.hub server'.hub := by
  obtain ⟨-, -, rfl⟩ := h
  exact .released (HubState.evictEach_spec notices order server.hub).1

theorem Server.Applies.touches {task : Task} {code : RoomCode} {command : RoomCommand}
    {mutation : Storage.RoomMutation} (h : Server.Applies server code command mutation server') :
    task.Touches n server.hub server'.hub := by
  rw [h.hub]
  exact .released (.refl _)

theorem Task.Acts.touches {task task' : Task} (h : Task.Acts n choice server task server' task') :
    task.Touches n server.hub server'.hub := by
  have hsend : ∀ {outbound : Outbound} {result : Except HubError Unit} {hub : HubState},
      server.hub.send n outbound = (result, hub) → task.Touches n server.hub hub := by
    intro outbound result hub hsend
    obtain ⟨released, hreleases⟩ := (HubState.send_spec server.hub n outbound).1
    rw [hsend] at hreleases
    exact .released hreleases
  cases h with
  | cleanup _ hacts =>
    cases hacts with
    | announced _ hbroadcast => exact hbroadcast.touches
    | seen | failed | unchanged => exact .released (.refl _)
    | detached _ _ hroom hhandle => exact (Server.Applies.changed hroom hhandle).touches
  | @socket cleanup socket socket' _ _ _ hacts =>
    cases hacts with
    | refused | read => exact .released (.refl _)
    | committed _ happlies => exact happlies.touches
    | @attached attaching _ _ hpoint horder hattach =>
      exact .attached ⟨cleanup, socket, attaching, rfl, hpoint⟩ horder hattach
    | watched _ hwatch => exact .watched hwatch
    | sent _ hsent => exact hsend hsent
    | notSent _ hsent => exact hsend hsent
    | announced _ hbroadcast => exact hbroadcast.touches
    | detached _ hdetach => exact .detached hdetach
    | @signalled signalling attachment _ _ _ _ hsent _ =>
      obtain ⟨released, hreleases⟩ := (HubState.sendToPeer_spec server.hub n signalling.toPeerId
        (.signal attachment.peerId signalling.negotiationId signalling.signal)).1
      rw [hsent] at hreleases
      exact .released hreleases
    | replied _ hsent => exact hsend hsent
    | unregistered _ hunregister => exact .unregistered hunregister
  | @request _ request _ _ _ _ hacts =>
    cases hacts with
    | answered | joining => exact .released (.refl _)
    | joinUnread _ happlies => exact happlies.touches
    | joined _ happlies => exact happlies.touches
    | decided _ happlies => exact happlies.touches
    | left _ happlies => exact happlies.touches
    | announced _ hbroadcast => exact hbroadcast.touches
    | leaveAnnounced _ hbroadcast => exact hbroadcast.touches
    | roomDisconnected _ _ hdisconnect => exact hdisconnect.touches
    | @sessionDisconnected room _ _ _ _ _ hdisconnect =>
      have hreleases := (HubState.evictEach_spec [.close 4003 "room membership ended"]
        server.hub.sessionRoutes[(⟨room.id, request.session.id⟩ : Route "session id")]?.toList server.hub).1
      have hdisconnect : HubState.evictEach _ _ server.hub = _ := hdisconnect
      rw [hdisconnect] at hreleases
      exact .released hreleases
  | maintenance _ hacts =>
    cases hacts with
    | passed | snapshotRead | sessionsFailed | sessionsExpired => exact .released (.refl _)
    | roomExpired happlies => exact happlies.touches
    | requestExpired happlies => exact happlies.touches
    | roomAnnounced hbroadcast => exact hbroadcast.touches
    | snapshotAnnounced hbroadcast => exact hbroadcast.touches
    | roomDisconnected hdisconnect => exact hdisconnect.touches

/-- A connection is attached by its own task. -/
theorem Task.Touches.attached_before {task : Task} {hub hub' : HubState} (hi : hub.Indexed)
    (h : task.Touches n hub hub') {c : ConnectionId} {a : Attachment} (ha : hub'.attachmentOf c = some a) :
    hub.attachmentOf c = some a ∨ c = n ∧ task.Attaches := by
  obtain ⟨e, he, hattachment⟩ := HubState.attachmentOf_some.mp ha
  cases h with
  | released hreleases => exact .inl (hreleases.attached ha)
  | attached hattaches horder hattach =>
    obtain ⟨entry, hub₁, -, hreleases, -, hconnections, -⟩ := HubState.attach_ok hi horder hattach
    by_cases hc : c = n
    · exact .inr ⟨hc, hattaches⟩
    · rw [hconnections, BTreeMap.getElem?_insert, if_neg (Ne.symm hc)] at he
      exact .inl (hreleases.attached (HubState.attachmentOf_some.mpr ⟨e, he, hattachment⟩))
  | watched hwatch =>
    have hmoves : HubState.Moves _ _ (fun _ => False) _ := HubState.watchJoin_moves hi hwatch
    exact .inl ((hmoves.attached c a ha).resolve_right id)
  | detached hdetach =>
    have hmoves : HubState.Moves _ _ (fun _ => False) _ := HubState.detach_moves hdetach
    exact .inl ((hmoves.attached c a ha).resolve_right id)
  | unregistered hunregister =>
    have hmoves : HubState.Moves _ _ (fun _ => False) _ := HubState.unregister_moves hunregister
    exact .inl ((hmoves.attached c a ha).resolve_right id)

/-! ## What a handler remembers -/

/-- A connection whose handler relays a signal is attached as the handler has read it, if at all. -/
def World.SignalOk (world : World) : Prop :=
  ∀ n cleanup socket attachment, world.tasks[n]? = some { cleanup, work := .socket socket } →
    socket.signallingAs = some attachment → ∀ a, world.server.hub.attachmentOf n = some a → a = attachment

theorem Socket.signallingAs_attaching {socket : Socket} {attachment : Attachment}
    (h : socket.signallingAs = some attachment) {attaching : Attaching} : socket.point ≠ .attachHub attaching := by
  intro hpoint
  rw [Socket.signallingAs, hpoint] at h
  cases h

/-- After a step of its own, a handler that relays a signal has read the attachment or remembers it. -/
theorem Socket.Acts.signallingAs {socket socket' : Socket}
    (h : Socket.Acts n choice server socket server' out socket') {attachment : Attachment}
    (hsignal : socket'.signallingAs = some attachment) :
    server' = server ∧ (server.hub.attachmentOf n = some attachment ∨ socket.signallingAs = some attachment) := by
  cases h with
  | read hread =>
    refine ⟨rfl, ?_⟩
    cases hread with
    | signalCheck hpoint hattachment =>
      cases hsignal
      exact .inl hattachment
    | signalRoom hpoint =>
      cases hsignal
      exact .inr (by rw [Socket.signallingAs, hpoint])
    | signalLimit hpoint =>
      cases hsignal
      exact .inr (by rw [Socket.signallingAs, hpoint])
    | attachRead | watchStatus | watchRead | detachCheck => cases hsignal
  | sent hsends =>
    exfalso
    cases hsends with
    | attached =>
      unfold Socket.attachSent Socket.announceAttached at hsignal
      split at hsignal
      · cases hsignal
      · split at hsignal <;> cases hsignal
    | attachSnapshot =>
      unfold Socket.announceAttached at hsignal
      split at hsignal <;> cases hsignal
    | watching =>
      unfold Socket.watchSent at hsignal
      split at hsignal <;> cases hsignal
    | watchSnapshot => cases hsignal
  | signalled _ _ hsocket =>
    rcases hsocket with rfl | ⟨error, rfl⟩
    · cases hsignal
    · cases hsignal
  | @replied error _ _ _ =>
    exfalso
    cases hfatal : error.fatal with
    | true =>
      rw [hfatal] at hsignal
      cases hsignal
    | false =>
      rw [hfatal] at hsignal
      cases hsignal
  | refused | committed | attached | watched | notSent | announced | detached | unregistered => cases hsignal

namespace World

variable {world world' : World} {label : Label}

/-- A socket that was just woken remembers no attachment. -/
theorem Wakes.signallingAs {socket socket' : Socket} (h : Wakes n socket label socket')
    (hpoint : socket.point = .listening) : socket'.signallingAs = none := by
  obtain ⟨-, hstarts⟩ := h.starts hpoint
  unfold Socket.signallingAs
  generalize socket'.point = point at hstarts
  cases hstarts <;> rfl

/-- What a step leaves attached was attached before, unless the connection's own task attaches it. -/
theorem Step.attached_before (hsane : world.Sane) (h : Step world label world') {n : Nat} {a : Attachment}
    (ha : world'.server.hub.attachmentOf n = some a) : world.server.hub.attachmentOf n = some a ∨
      ∃ choice task, label = .run n choice ∧ world.tasks[n]? = some task ∧ task.Attaches := by
  cases step_acts h with
  | createSession | createRoom | request | maintain | woken => exact .inl ha
  | @connect m =>
    obtain ⟨e, he, hattachment⟩ := HubState.attachmentOf_some.mp ha
    have he : (world.server.hub.connections.insert m _)[n]? = some e := he
    rw [BTreeMap.getElem?_insert] at he
    split at he
    · cases he
      cases hattachment
    · exact .inl (HubState.attachmentOf_some.mpr ⟨e, he, hattachment⟩)
  | written hwrites =>
    obtain ⟨channels, rfl⟩ := hwrites.channels
    exact .inl ha
  | @ran m choice task _ _ hrunning hacts =>
    rcases hacts.touches.attached_before hsane.server.indexed ha with hbefore | ⟨rfl, hattaches⟩
    · exact .inl hbefore
    · exact .inr ⟨choice, task, rfl, hrunning, hattaches⟩
  | restarted =>
    obtain ⟨e, he, -⟩ := HubState.attachmentOf_some.mp ha
    exact absurd (he.symm.trans Std.ExtTreeMap.getElem?_empty) nofun

theorem SignalOk.step (hsane : world.Sane) (h : world.SignalOk) (hstep : Step world label world') :
    world'.SignalOk := by
  intro n cleanup socket attachment htask hsignal a ha
  have hbefore := Step.attached_before hsane hstep ha
  -- a task that attaches its connection is not relaying a signal
  have hkept : ∀ {cleanup : Cleanup} {socket : Socket}, world.tasks[n]? = some { cleanup, work := .socket socket } →
      socket.signallingAs = some attachment → a = attachment := by
    intro cleanup socket htask hsignal
    refine h n cleanup socket attachment htask hsignal a (hbefore.resolve_right ?_)
    rintro ⟨_, task, -, hrunning, _, _, _, rfl, hpoint⟩
    cases htask.symm.trans hrunning
    exact Socket.signallingAs_attaching hsignal hpoint
  cases hstep.becomes htask with
  | kept hclient => exact hkept hclient hsignal
  | opened => cases hsignal
  | woken _ hpoint hwakes =>
    rw [hwakes.signallingAs hpoint] at hsignal
    cases hsignal
  | acted hrunning hacts =>
    cases hacts with
    | cleanup => exact hkept hrunning hsignal
    | socket _ hacts =>
      obtain ⟨hsame, hread | hremembered⟩ := hacts.signallingAs hsignal
      · rw [hsame, hread] at ha
        exact (Option.some.inj ha).symm
      · exact hkept hrunning hremembered

theorem visited_signalOk {queueCapacity joinRequestTtl : Nat} {labels : List Label}
    (h : Visited Step (World.initial queueCapacity joinRequestTtl) labels world) : world.SignalOk := by
  refine h.invariant (I := SignalOk) (fun w label w' htaken hok => ?_) fun n _ _ _ htask => ?_
  · exact hok.step (visited_sane htaken.before) htaken.holds
  · exact absurd (htask.symm.trans Std.ExtTreeMap.getElem?_empty) nofun

/-! ## Confinement -/

/-- A signal from `fromPeerId` that a step puts into the queue of `d` is the one that some connection `n` relays: the two
are attached to one room, `d` under the peer id that was asked for and `n`, another one, under `fromPeerId`. -/
structure Confined (world : World) (label : Label) (d : ConnectionId) (fromPeerId : PeerId) (n : ConnectionId)
    (signalling : Signalling) (sender target : Attachment) : Prop where
  relays : ∃ choice cleanup socket attachment, label = .run n choice ∧
    world.tasks[n]? = some { cleanup, work := .socket socket } ∧ socket.point = .signalSend signalling attachment
  attachedSender : world.server.hub.attachmentOf n = some sender
  attachedTarget : world.server.hub.attachmentOf d = some target
  notWatching : world.server.hub.watchOf d = none
  room : target.roomId = sender.roomId
  toPeer : target.peerId = signalling.toPeerId
  fromPeer : fromPeerId = sender.peerId
  other : d ≠ n

/-- **Signal confinement**, in every run. -/
theorem signal_confined (queueCapacity joinRequestTtl : Nat) (labels : List Label)
    (htaken : Taken Step (World.initial queueCapacity joinRequestTtl) labels world label world') {d : ConnectionId}
    {fromPeerId : PeerId} {negotiationId signal : String}
    (hdelivered : Delivered world.server.hub world'.server.hub d (.message (.signal fromPeerId negotiationId signal))) :
    ∃ n signalling sender target, Confined world label d fromPeerId n signalling sender target := by
  have hsane := visited_sane htaken.before
  obtain ⟨n, choice, task, task', hlabel, htask, -, hputs⟩ := Step.puts hsane htaken.holds hdelivered
  generalize houtbound : Outbound.message (.signal fromPeerId negotiationId signal) = outbound at hputs
  cases hputs with
  | notice hnotice =>
    rw [← houtbound] at hnotice
    exact hnotice.elim
  | own _ _ hsends =>
    cases houtbound
    cases hsends
  | @signal cleanup socket signalling attachment a b _ hwork _ hpoint ha hb hroom hpeer hself =>
    cases houtbound
    subst hwork
    have hsame : a = attachment := by
      refine visited_signalOk htaken.before n cleanup socket attachment htask ?_ a ha
      rw [Socket.signallingAs, hpoint]
    subst hsame
    refine ⟨n, signalling, a, b, ⟨choice, cleanup, socket, a, hlabel, htask, hpoint⟩, ha, hb, ?_, hroom, hpeer, rfl, ?_⟩
    · obtain ⟨entry, hentry, hattachment⟩ := HubState.attachmentOf_some.mp hb
      have hexclusive := (hsane.server.indexed.entry d entry hentry).exclusive
      rw [HubState.watchOf, hentry, Option.bind_some]
      exact hexclusive.resolve_left (by rw [hattachment]; simp)
    · rintro rfl
      rw [ha] at hb
      cases hb
      exact hself hpeer
  | @event event _ hannounces _ =>
    -- no task announces a signal
    exfalso
    have hevents := visited_eventsOk htaken.before htask
    have hmessage : event.message = .signal fromPeerId negotiationId signal := (Outbound.message.inj houtbound).symm
    cases hannounces with
    | cleanup hannouncing =>
      obtain ⟨_, _, hoffline⟩ := hevents.cleanup _ hannouncing
      cases hmessage.symm.trans hoffline
    | request _ hpoint =>
      rcases hevents.request _ _ rfl hpoint with ⟨_, _, hasked, -⟩ | ⟨_, _, _, hdecided⟩
      · cases hmessage.symm.trans hasked
      · cases hmessage.symm.trans hdecided
    | leave =>
      unfold Request.left at hmessage
      split at hmessage <;> cases hmessage
    | attach | roomExpired | snapshot => cases hmessage

/-- The guest is let in. -/
def guestLet : List Label :=
  opening ++ guestAsks [] ++
    [.request 2 ownerSession.id 0 (.decideJoin roomCode Room.requestOne .approve none), go 2 [], go 2 []]

/-- A session connects and attaches; the event is announced to `order`. -/
def attaches (n : Nat) (sessionId : SessionId) (peerId : String) (order : List ConnectionId) : List Label :=
  [.connect n sessionId 0, .receive n (.text (.attachRoom "ROM234" peerId none)), go n [], go n [], go n [], go n [],
    go n [], go n order]

/-- Both are attached, and the owner has a signal for the guest. -/
def signalReady : List Label :=
  guestLet ++ attaches 3 ownerSession.id "peer_owner" [3] ++ attaches 4 guestSession.id "peer_guest" [3, 4] ++
    [.receive 3 (.text (.signal "ROM234" "peer_guest" "negotiation" "offer")), go 3 [], go 3 [], go 3 []]

theorem signal_confined_offer : ∃ n signalling sender target world,
    Confined world (go 3 []) 4 (.of "peer_owner") n signalling sender target := by
  have hruns : ((World.initial 64 100).runAll signalReady).isSome = true := by decide +kernel
  obtain ⟨world, hworld⟩ := Option.isSome_iff_exists.mp hruns
  have hnext : (((World.initial 64 100).runAll signalReady).bind fun world => world.step (go 3 [])).isSome = true := by
    decide +kernel
  have hsent : ((World.initial 64 100).runAll signalReady).map (fun world =>
      (world.step (go 3 [])).map fun world' => world'.server.hub.sentTo 4) =
      ((World.initial 64 100).runAll signalReady).map (fun world => some (world.server.hub.sentTo 4 ++
        [.message (.signal (.of "peer_owner") "negotiation" "offer")])) := by decide +kernel
  rw [hworld] at hnext hsent
  obtain ⟨world', hworld'⟩ := Option.isSome_iff_exists.mp hnext
  have hworld' : world.step (go 3 []) = some world' := hworld'
  have hsent : (world.step (go 3 [])).map (fun world' => world'.server.hub.sentTo 4) = some (world.server.hub.sentTo 4 ++
      [.message (.signal (.of "peer_owner") "negotiation" "offer")]) := Option.some.inj hsent
  rw [hworld'] at hsent
  have htaken : Taken Step (World.initial 64 100) (signalReady ++ [go 3 []]) world (go 3 []) world' :=
    ⟨signalReady, [], rfl, run_of_runAll hworld, hworld'⟩
  obtain ⟨n, signalling, sender, target, hconfined⟩ :=
    signal_confined 64 100 _ htaken ⟨_, Option.some.inj hsent, List.mem_singleton_self _⟩
  exact ⟨n, signalling, sender, target, world, hconfined⟩

end World

end P2PTransmission
