import P2PTransmission.Realtime.Waiting

/-!
# Nobody waits in vain

Whoever waits was waiting before a step, unless the step let the hub add it to the room (`World.Waits.before`). Whoever
waits for a request that is resolved is told, or a task that will tell or disconnect it is in flight: the steps that
resolve requests leave such a task behind, and such a task does what it owes (`World.Vigilant.step`). Once nothing is in
flight, everyone was told.
-/

set_option autoImplicit false

namespace P2PTransmission

open HubState (Delivered)
open Server (Applies)

variable {n : Nat} {choice : Choice} {server server' : Server} {out : List Attachment}

/-! ## Where a wait comes from -/

theorem Socket.Acts.watching? {socket socket' : Socket} (h : Socket.Acts n choice server socket server' out socket')
    {watching : Watching} (hwatching : (Work.socket socket').watching? = some watching) :
    ∃ snapshot, socket.point = .watchHub watching snapshot ∧ socket' = socket.goto (.watchSend watching snapshot) ∧
      ∃ replaced, server.hub.watchJoin n watching.status.roomId = .ok (replaced, server'.hub) := by
  cases h with
  | watched hpoint hwatch =>
    cases hwatching
    exact ⟨_, hpoint, rfl, _, hwatch⟩
  | read hread =>
    cases hread with
    | attachRead | watchStatus | watchRead | detachCheck | signalCheck | signalRoom | signalLimit => cases hwatching
  | sent hsends =>
    cases hsends with
    | attached =>
      unfold Socket.attachSent Socket.announceAttached at hwatching
      split at hwatching
      · cases hwatching
      · split at hwatching <;> cases hwatching
    | attachSnapshot =>
      unfold Socket.announceAttached at hwatching
      split at hwatching <;> cases hwatching
    | watching =>
      unfold Socket.watchSent at hwatching
      split at hwatching <;> cases hwatching
    | watchSnapshot => cases hwatching
  | signalled _ _ hsocket =>
    rcases hsocket with rfl | ⟨error, rfl⟩ <;> cases hwatching
  | @replied error =>
    cases hfatal : error.fatal with
    | true =>
      rw [hfatal] at hwatching
      cases hwatching
    | false =>
      rw [hfatal] at hwatching
      cases hwatching
  | refused | committed | attached | notSent | announced | detached | unregistered => cases hwatching

theorem Work.watching?_some {work : Work} {watching : Watching} (h : work.watching? = some watching) :
    ∃ socket snapshot, work = .socket socket ∧ socket.point = .watchSend watching snapshot := by
  cases work with
  | socket client =>
    unfold watching? at h
    dsimp only at h
    split at h
    · rename_i hpoint
      cases h
      exact ⟨client, _, rfl, hpoint⟩
    · cases h
  | request => cases h
  | maintenance => cases h

namespace World

variable {world world' : World} {label : Label} {c : ConnectionId} {watch : JoinWatch} {requestId : RequestId}

theorem Wakes.watching? {socket socket' : Socket} (h : Wakes n socket label socket')
    (hpoint : socket.point = .listening) : (Work.socket socket').watching? = none := by
  obtain ⟨-, hstarts⟩ := h.starts hpoint
  unfold Work.watching?
  dsimp only
  generalize socket'.point = point at hstarts
  cases hstarts <;> rfl

/-- Only the handler of a connection tells it that it watches. -/
theorem Step.watching_sent (hsane : world.Sane)
    (hevents : ∀ (n : Nat) (task : Task), world.tasks[n]? = some task → task.EventsOk)
    (h : Step world label world') {outbound : Outbound} {pair : RoomId × RequestId}
    (hd : Delivered world.server.hub world'.server.hub c outbound) (hwatching : outbound.watching? = some pair) :
    ∃ task watching, world.tasks[c]? = some task ∧ task.work.watching? = some watching := by
  obtain ⟨n, choice, task, task', -, htask, -, hputs⟩ := Step.puts hsane h hd
  cases hputs with
  | notice hnotice =>
    unfold Outbound.watching? at hwatching
    split at hwatching
    · exact hnotice.elim
    · cases hwatching
  | own hwork _ hsends =>
    cases hsends with
    | watching hpoint =>
      subst hwork
      exact ⟨_, _, htask, by rw [Work.watching?, hpoint]⟩
    | attached | attachSnapshot | watchSnapshot => cases hwatching
  | signal => cases hwatching
  | @event event _ hannounces =>
    exfalso
    have hevents := hevents n task htask
    have hmessage : ∃ roomId requestId revision, event.message = .joinWatching roomId requestId revision := by
      unfold Outbound.watching? at hwatching
      split at hwatching
      · rename_i heq
        exact ⟨_, _, _, Outbound.message.inj heq⟩
      · cases hwatching
    obtain ⟨roomId, requestId, revision, hmessage⟩ := hmessage
    cases hannounces with
    | cleanup hannouncing =>
      obtain ⟨_, _, hoffline⟩ := hevents.cleanup _ hannouncing
      cases hmessage.symm.trans hoffline
    | request _ hpoint =>
      rcases hevents.request _ _ rfl hpoint with ⟨_, _, hasked, -⟩ | ⟨_, _, _, hdecided⟩
      · cases hmessage.symm.trans hasked
      · cases hmessage.symm.trans hdecided
    | leave =>
      unfold Request.left at hmessage
      split at hmessage <;> cases hmessage
    | attach | roomExpired | snapshot => cases hmessage

/-- The handler of the connection lets the hub add it to the room of the request. -/
structure Enters (world : World) (label : Label) (world' : World) (c : ConnectionId) (socket : Socket)
    (watching : Watching) (snapshot : RoomBootstrapResponse) : Prop where
  run : ∃ choice, label = .run c choice
  before : ∃ cleanup, world.tasks[c]? = some { cleanup, work := .socket socket } ∧ cleanup.Done
  point : socket.point = .watchHub watching snapshot
  after : ∃ cleanup, world'.tasks[c]? = some { cleanup, work := .socket (socket.goto (.watchSend watching snapshot)) }
  joined : ∃ replaced, world.server.hub.watchJoin c watching.status.roomId = .ok (replaced, world'.server.hub)

/-- Where a handshake that is about to tell its connection comes from. -/
theorem Step.watching (hsane : world.Sane) (h : Step world label world') {entry : ConnectionEntry}
    (hentry : world'.server.hub.connections[c]? = some entry) {task : Task} (htask : world'.tasks[c]? = some task)
    {watching : Watching} (hwatching : task.work.watching? = some watching) :
    (world.server.hub.connections[c]? = some entry ∧ ∃ before, world.tasks[c]? = some before ∧
      before.work.watching? = some watching) ∨
      ∃ socket snapshot, Enters world label world' c socket watching snapshot := by
  cases Step.keeps hsane h hentry with
  | kept hbefore _ hsame => exact .inl ⟨hbefore, task, hsame.symm.trans htask, hwatching⟩
  | woken _ _ _ hpoint hwakes hafter =>
    cases htask.symm.trans hafter
    rw [show (Task.of _).work.watching? = _ from hwakes.watching? hpoint] at hwatching
    cases hwatching
  | connected _ _ _ _ hafter =>
    cases htask.symm.trans hafter
    cases hwatching
  | @acted choice before after hlabel hbefore hafter hacts =>
    cases htask.symm.trans hafter
    -- a handler comes to this point from the call of the hub
    have henters : ∀ {cleanup : Cleanup} {out : List Attachment} {socket socket' : Socket}, cleanup.Done →
        before = { cleanup, work := .socket socket } → task = { cleanup := .of out, work := .socket socket' } →
        Socket.Acts c choice world.server socket world'.server out socket' →
        ∃ socket snapshot, Enters world label world' c socket watching snapshot := by
      intro cleanup out socket socket' hdone hbefore' hafter' hown
      subst hbefore' hafter'
      obtain ⟨snapshot, hpoint, rfl, hjoined⟩ := hown.watching? hwatching
      exact ⟨socket, snapshot, ⟨choice, hlabel⟩, ⟨cleanup, hbefore, hdone⟩, hpoint, ⟨_, hafter⟩, hjoined⟩
    cases hacts with
    | @cleanup cleanup cleanup' work _ hdone hacts =>
      have hall : Task.Acts c choice world.server { cleanup, work } world'.server { cleanup := cleanup', work } :=
        .cleanup hdone hacts
      rcases hall.relocates with ⟨out, hreleases⟩ | ⟨cleanup₁, _, _, _, heq, hnot, -⟩
      · exact .inl ⟨hreleases.entry hentry, _, hbefore, hwatching⟩
      · exact absurd ((Task.mk.inj heq).1 ▸ hnot) hdone
    | socket hdone hacts => exact .inr (henters hdone rfl rfl hacts)
    | request => cases hwatching
    | maintenance => cases hwatching

/-- A handshake tells its connection that it watches, or the connection is gone. -/
theorem Step.tells (hsane : world.Sane) (h : Step world label world') {entry : ConnectionEntry}
    (hentry : world'.server.hub.connections[c]? = some entry) {task : Task} (htask : world.tasks[c]? = some task)
    {watching : Watching} (hwatching : task.work.watching? = some watching) :
    (∃ after, world'.tasks[c]? = some after ∧ after.work = task.work) ∨
      world.server.hub.connections[c]? = some entry ∧ world'.server.hub.sentTo c = world.server.hub.sentTo c ++
        [.message (.joinWatching watching.status.roomId watching.requestId watching.status.revision)] := by
  obtain ⟨socket, snapshot, hwork, hpoint⟩ := Work.watching?_some hwatching
  cases Step.keeps hsane h hentry with
  | kept _ _ hsame => exact .inl ⟨task, hsame.trans htask, rfl⟩
  | woken _ _ hbefore hlistening =>
    cases htask.symm.trans hbefore
    cases hwork
    cases hpoint.symm.trans hlistening
  | connected hnone => cases htask.symm.trans hnone
  | @acted choice before after hlabel hbefore hafter hacts =>
    cases htask.symm.trans hbefore
    generalize world'.server = server' at hacts hentry ⊢
    cases hacts with
    | cleanup => exact .inl ⟨_, hafter, rfl⟩
    | request => cases hwork
    | maintenance => cases hwork
    | socket _ hacts =>
      cases hwork
      cases hacts with
      | sent hsends hsend =>
        cases hsends with
        | watching hat =>
          cases hpoint.symm.trans hat
          have hreleases := (HubState.send_spec world.server.hub c (.message (.joinWatching watching.status.roomId
            watching.requestId watching.status.revision))).1
          rw [hsend] at hreleases
          obtain ⟨released, hreleases⟩ := hreleases
          exact .inr ⟨hreleases.entry hentry, HubState.send_sentTo hsend⟩
        | attached hat | attachSnapshot hat | watchSnapshot hat => cases hpoint.symm.trans hat
      | notSent _ hsend =>
        have hentry : (_ : HubState).connections[c]? = some entry := hentry
        rw [HubState.send_error hsend] at hentry
        cases hentry
      | refused hrefusable =>
        rw [hpoint] at hrefusable
        exact hrefusable.elim
      | read hread =>
        cases hread with
        | attachRead hat | watchStatus hat | watchRead hat | detachCheck hat | signalCheck hat | signalRoom hat
        | signalLimit hat => cases hpoint.symm.trans hat
      | committed hat | attached hat | watched hat | announced hat | detached hat | signalled hat | replied hat
      | unregistered hat => cases hpoint.symm.trans hat

theorem Enters.watch_eq (hsane : world.Sane) {socket : Socket} {watching : Watching} {snapshot : RoomBootstrapResponse}
    (h : Enters world label world' c socket watching snapshot) (hwatch : world'.server.hub.watchOf c = some watch) :
    watch = { roomId := watching.status.roomId, sessionId := socket.session.id } := by
  obtain ⟨replaced, hjoined⟩ := h.joined
  obtain ⟨cleanup, hbefore, -⟩ := h.before
  obtain ⟨entry, _, hentry, -, -, hconnections, -⟩ := HubState.watchJoin_ok hsane.server.indexed hjoined
  obtain ⟨entry', hentry', hjoin⟩ := HubState.watchOf_some.mp hwatch
  rw [hconnections, BTreeMap.getElem?_insert, if_pos rfl] at hentry'
  cases hentry'
  cases hjoin
  rw [(hsane.task c _ hbefore).work.2.1 entry hentry]

/-- **Whoever waits after a step has waited before, or has just entered the room.** -/
theorem Waits.before (hsane : world.Sane)
    (hevents : ∀ (n : Nat) (task : Task), world.tasks[n]? = some task → task.EventsOk)
    (hstep : Step world label world') (h : world'.Waits c watch requestId) :
    world.Waits c watch requestId ∨ ∃ socket watching snapshot, Enters world label world' c socket watching snapshot ∧
      watching.requestId = requestId := by
  obtain ⟨hwatch, hmatch⟩ := h
  obtain ⟨entry, hentry, hjoin⟩ := HubState.watchOf_some.mp hwatch
  have hkeeps := Step.keeps hsane hstep hentry
  cases hafter : (world'.tasks[c]?).bind (·.work.watching?) with
  | some watching =>
    rw [hafter] at hmatch
    obtain ⟨task, htask, hwatching⟩ := Option.bind_eq_some_iff.mp hafter
    rcases hstep.watching hsane hentry htask hwatching with ⟨hsame, before, hbefore, hbefore'⟩ | ⟨socket, snapshot, henters⟩
    · refine .inl ⟨HubState.watchOf_some.mpr ⟨entry, hsame, hjoin⟩, ?_⟩
      rw [hbefore, Option.bind_some, hbefore']
      exact hmatch
    · exact .inr ⟨socket, watching, snapshot, henters, hmatch⟩
  | none =>
    rw [hafter] at hmatch
    left
    cases hbefore : (world.tasks[c]?).bind (·.work.watching?) with
    | some watching =>
      obtain ⟨task, htask, hwatching⟩ := Option.bind_eq_some_iff.mp hbefore
      rcases hstep.tells hsane hentry htask hwatching with ⟨after, htask', hwork⟩ | ⟨hsame, hsent⟩
      · rw [htask', Option.bind_some, hwork, hwatching] at hafter
        cases hafter
      · refine ⟨HubState.watchOf_some.mpr ⟨entry, hsame, hjoin⟩, ?_⟩
        rw [hbefore]
        have hlast : lastWatching (world'.server.hub.sentTo c) = some (watch.roomId, requestId) := hmatch
        rw [hsent, lastWatching_concat] at hlast
        exact congrArg Prod.snd (Option.some.inj hlast)
    | none =>
      -- nothing that was put into the queue meanwhile says that it watches
      have hquiet : ∀ {new : List Outbound}, world'.server.hub.sentTo c = world.server.hub.sentTo c ++ new →
          lastWatching (world.server.hub.sentTo c) = some (watch.roomId, requestId) := by
        intro new hnew
        have hlast : lastWatching (world'.server.hub.sentTo c) = some (watch.roomId, requestId) := hmatch
        rwa [hnew, lastWatching_quiet] at hlast
        intro outbound hmem
        by_contra hne
        obtain ⟨pair, hpair⟩ := Option.ne_none_iff_exists'.mp hne
        obtain ⟨task, watching, htask, hwatching⟩ := hstep.watching_sent hsane hevents ⟨new, hnew, hmem⟩ hpair
        rw [htask, Option.bind_some, hwatching] at hbefore
        cases hbefore
      have hwaits : world.server.hub.connections[c]? = some entry →
          lastWatching (world.server.hub.sentTo c) = some (watch.roomId, requestId) →
          world.Waits c watch requestId := by
        intro hsame hlast
        refine ⟨HubState.watchOf_some.mpr ⟨entry, hsame, hjoin⟩, ?_⟩
        rw [hbefore]
        exact hlast
      cases hkeeps with
      | kept hsame hnew => exact hwaits hsame (hquiet hnew)
      | woken hsame hhub => exact hwaits hsame (hquiet (by rw [hhub, List.append_nil]))
      | connected _ _ hnone =>
        rw [hnone] at hjoin
        cases hjoin
      | @acted choice task task' _ _ htask' hacts =>
        obtain ⟨new, hnew⟩ := hacts.grows hsane.server.indexed c
        rcases hacts.relocates with ⟨out, hreleases⟩ | ⟨cleanup, socket, out, socket', -, -, rfl, hrelocates⟩
        · exact hwaits (hreleases.entry hentry) (hquiet hnew)
        · exfalso
          generalize world'.server.hub = hub' at hrelocates hentry
          cases hrelocates with
          | attached _ horder hattach =>
            obtain ⟨_, _, -, -, -, hconnections, -⟩ := HubState.attach_ok hsane.server.indexed horder hattach
            rw [hconnections, BTreeMap.getElem?_insert, if_pos rfl] at hentry
            cases hentry
            cases hjoin
          | watched =>
            rw [htask'] at hafter
            cases hafter
          | detached _ hdetach =>
            obtain ⟨_, -, -, hconnections, -⟩ := HubState.detach_ok hdetach
            rw [hconnections, BTreeMap.getElem?_insert, if_pos rfl] at hentry
            cases hentry
            cases hjoin
          | unregistered _ hunregister =>
            obtain ⟨hconnections, -⟩ := HubState.unregister_spec world.server.hub c
            rw [hunregister] at hconnections
            rw [hconnections, BTreeMap.getElem?_erase, if_pos rfl] at hentry
            cases hentry

end World

end P2PTransmission
