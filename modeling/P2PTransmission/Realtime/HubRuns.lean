import P2PTransmission.Foundation.Run
import P2PTransmission.Realtime.Sane

/-!
# Runs of the hub

Any sequence of calls of the hub, with the writers of the connections taking items and ending in between, so that every
queue may be free, full or closed when something is sent. After each call the maps agree with each other (`Consistent`),
and an attachment that was evicted is returned by the next `unregister` of its connection and by no later one
(`hub_consistent`).
-/

set_option autoImplicit false

namespace P2PTransmission

/-! ## Calls -/

inductive HubCall where
  | register (c : ConnectionId) (sessionId : SessionId)
  | attach (c : ConnectionId) (roomId : RoomId) (roomCode : RoomCode) (peerId : PeerId) (order : List ConnectionId)
  | watchJoin (c : ConnectionId) (roomId : RoomId)
  | detach (c : ConnectionId)
  | unregister (c : ConnectionId)
  | send (c : ConnectionId) (outbound : Outbound)
  | sendToPeer (c : ConnectionId) (toPeerId : PeerId) (message : ServerRealtimeMessage)
  | broadcast (roomId : RoomId) (message : ServerRealtimeMessage) (order : List ConnectionId)
  | disconnectSession (roomId : RoomId) (sessionId : SessionId) (code : Nat) (reason : String)
  | disconnectRoom (roomId : RoomId) (code : Nat) (reason : String) (order : List ConnectionId)
  | take (c : ConnectionId)
  | closeReceiver (c : ConnectionId)
  deriving DecidableEq

/-- The hub with the connection ids that were given out. -/
structure HubRun where
  hub : HubState
  registered : List ConnectionId

namespace HubCall

/-- A new connection gets a new id, and a loop over a set takes its elements in some order. -/
def Allowed (run : HubRun) : HubCall → Prop
  | .register c _ => c ∉ run.registered
  | .attach c roomId _ peerId order => order.Perm (run.hub.attachConflicts c roomId peerId)
  | .broadcast roomId _ order | .disconnectRoom roomId _ _ order => order.Perm (run.hub.connectionsOf roomId)
  | _ => True

/-- The hub after a call, which may have failed. -/
def next (hub : HubState) : HubCall → HubState
  | .register c sessionId => hub.register c sessionId
  | .attach c roomId roomCode peerId order =>
    match hub.attach c roomId roomCode peerId order with
    | .ok (_, hub) => hub
    | .error _ => hub
  | .watchJoin c roomId =>
    match hub.watchJoin c roomId with
    | .ok (_, hub) => hub
    | .error _ => hub
  | .detach c =>
    match hub.detach c with
    | .ok (_, hub) => hub
    | .error _ => hub
  | .unregister c => (hub.unregister c).2
  | .send c outbound => (hub.send c outbound).2
  | .sendToPeer c toPeerId message => (hub.sendToPeer c toPeerId message).2
  | .broadcast _ message order => (hub.broadcast message order).2
  | .disconnectSession roomId sessionId code reason => (hub.disconnectSession roomId sessionId code reason).2
  | .disconnectRoom _ code reason order => (hub.disconnectRoom order code reason).2
  | .take c => hub.take c
  | .closeReceiver c => hub.closeReceiver c

/-- What `unregister` returned, if the call is one of this connection. -/
def returned (hub : HubState) (c : ConnectionId) : HubCall → Option (Option Attachment)
  | .unregister d => if d = c then some (hub.unregister d).1 else none
  | _ => none

def registers : HubCall → List ConnectionId
  | .register c _ => [c]
  | _ => []

end HubCall

namespace HubRun

def new (queueCapacity : Nat) : HubRun := { hub := .new queueCapacity, registered := [] }

inductive Step (run : HubRun) (call : HubCall) : HubRun → Prop
  | call : call.Allowed run →
      Step run call { hub := call.next run.hub, registered := call.registers ++ run.registered }

/-- What the calls of `unregister` for one connection returned, in order. -/
def returnedAll (c : ConnectionId) : HubRun → List HubCall → List (Option Attachment)
  | _, [] => []
  | run, call :: calls =>
    (call.returned run.hub c).toList ++
      returnedAll c { hub := call.next run.hub, registered := call.registers ++ run.registered } calls

end HubRun

/-! ## What holds between calls -/

namespace HubState

structure Consistent (hub : HubState) : Prop where
  sessionRoute : ∀ (route : Route "session id") (c : ConnectionId), hub.sessionRoutes[route]? = some c →
    ∃ entry, hub.connections[c]? = some entry
  peerRoute : ∀ (route : Route "peer id") (c : ConnectionId), hub.peerRoutes[route]? = some c →
    ∃ entry, hub.connections[c]? = some entry
  roomConnection : ∀ (roomId : RoomId) (c : ConnectionId), c ∈ hub.connectionsOf roomId →
    ∃ entry, hub.connections[c]? = some entry
  /-- The set of a room is exactly the connections whose attachment or join watch names the room. -/
  room : ∀ (roomId : RoomId) (c : ConnectionId), c ∈ hub.connectionsOf roomId ↔
    (∃ a, hub.attachmentOf c = some a ∧ a.roomId = roomId) ∨ ∃ w, hub.watchOf c = some w ∧ w.roomId = roomId
  set : ∀ (roomId : RoomId) (connections : List ConnectionId), hub.roomConnections[roomId]? = some connections →
    connections.Nodup ∧ connections ≠ []
  exclusive : ∀ c, hub.attachmentOf c = none ∨ hub.watchOf c = none
  attachment : ∀ c a, hub.attachmentOf c = some a →
    hub.sessionRoutes[(⟨a.roomId, a.sessionId⟩ : Route "session id")]? = some c ∧
      hub.peerRoutes[(⟨a.roomId, a.peerId⟩ : Route "peer id")]? = some c
  oneSession : ∀ c d a b, hub.attachmentOf c = some a → hub.attachmentOf d = some b → a.roomId = b.roomId →
    a.sessionId = b.sessionId → c = d
  onePeer : ∀ c d a b, hub.attachmentOf c = some a → hub.attachmentOf d = some b → a.roomId = b.roomId →
    a.peerId = b.peerId → c = d
  watch : ∀ c w, hub.watchOf c = some w →
    hub.sessionRoutes[(⟨w.roomId, w.sessionId⟩ : Route "session id")]? = some c
  evicted : ∀ (c : ConnectionId) a, hub.evictedAttachments[c]? = some a → hub.connections[c]? = none

variable {hub hub' : HubState} {c d : ConnectionId}

theorem placeOf_registered {p : Place} (h : hub.placeOf c = some p) : ∃ entry, hub.connections[c]? = some entry := by
  obtain ⟨entry, hentry, -⟩ := placeOf_some.mp h
  exact ⟨entry, hentry⟩

/-- **The indexes of the hub say what they should.** -/
theorem Indexed.consistent (hi : Indexed hub) (hevicted : EvictedOk hub) : Consistent hub where
  sessionRoute route c h := by
    obtain ⟨p, hp, -⟩ := (hi.index.session route c).mp h
    exact placeOf_registered hp
  peerRoute route c h := by
    obtain ⟨p, hp, -⟩ := (hi.index.peer route c).mp h
    exact placeOf_registered hp
  roomConnection roomId c h := by
    obtain ⟨p, hp, -⟩ := (hi.index.member roomId c).mp h
    exact placeOf_registered hp
  room roomId c := by
    rw [hi.index.member]
    constructor
    · rintro ⟨p, hp, hroom⟩
      rcases hi.place_iff.mp hp with ⟨a, ha, rfl⟩ | ⟨w, hw, rfl⟩
      · exact .inl ⟨a, ha, hroom⟩
      · exact .inr ⟨w, hw, hroom⟩
    · rintro (⟨a, ha, hroom⟩ | ⟨w, hw, hroom⟩)
      · exact ⟨a.place, hi.place_iff.mpr (.inl ⟨a, ha, rfl⟩), hroom⟩
      · exact ⟨w.place, hi.place_iff.mpr (.inr ⟨w, hw, rfl⟩), hroom⟩
  set := hi.index.set
  exclusive c := by
    cases hc : hub.connections[c]? with
    | none => exact .inl (by rw [attachmentOf, hc, Option.bind_none])
    | some entry =>
      rw [attachmentOf, watchOf, hc, Option.bind_some, Option.bind_some]
      exact (hi.entry c entry hc).exclusive
  attachment c a ha := by
    have hplace := placeOf_attachment ha
    exact ⟨(hi.index.session _ c).mpr ⟨a.place, hplace, rfl⟩, (hi.index.peer _ c).mpr ⟨a.place, hplace, rfl⟩⟩
  oneSession c d a b ha hb hroom hsession := by
    have hc := (hi.index.session ⟨a.roomId, a.sessionId⟩ c).mpr ⟨a.place, placeOf_attachment ha, rfl⟩
    have hd := (hi.index.session ⟨a.roomId, a.sessionId⟩ d).mpr ⟨b.place, placeOf_attachment hb, by
      rw [hroom, hsession]
      rfl⟩
    exact Option.some.inj (hc.symm.trans hd)
  onePeer c d a b ha hb hroom hpeer := by
    have hc := (hi.index.peer ⟨a.roomId, a.peerId⟩ c).mpr ⟨a.place, placeOf_attachment ha, rfl⟩
    have hd := (hi.index.peer ⟨a.roomId, a.peerId⟩ d).mpr ⟨b.place, placeOf_attachment hb, by
      rw [hroom, hpeer]
      rfl⟩
    exact Option.some.inj (hc.symm.trans hd)
  watch c w hw := (hi.index.session _ c).mpr ⟨w.place, hi.place_iff.mpr (.inr ⟨w, hw, rfl⟩), rfl⟩
  evicted := hevicted

/-! ## Connections that are gone -/

/-- A connection that is not registered stays so, and its evicted attachment stays where it is. -/
def KeepsAbsent (hub hub' : HubState) (c : ConnectionId) : Prop :=
  hub.connections[c]? = none →
    hub'.connections[c]? = none ∧ hub'.evictedAttachments[c]? = hub.evictedAttachments[c]?

theorem Releases.keepsAbsent {released : List Attachment} (h : Releases hub hub' released) (c : ConnectionId) :
    KeepsAbsent hub hub' c := by
  intro hc
  refine ⟨?_, h.absent c hc⟩
  rcases h.kept c with hk | hk
  · rw [hk, hc]
  · exact hk

theorem attach_keepsAbsent (hi : Indexed hub) {roomId : RoomId} {code : RoomCode} {peerId : PeerId}
    {order : List ConnectionId} {replaced : List Attachment} (horder : order.Perm (hub.attachConflicts d roomId peerId))
    (h : hub.attach d roomId code peerId order = .ok (replaced, hub')) (c : ConnectionId) : KeepsAbsent hub hub' c := by
  intro hc
  obtain ⟨entry, hub₁, hd, hreleases, -, hconnections, hevicted, -⟩ := attach_ok hi horder h
  obtain ⟨hc₁, hevicted₁⟩ := hreleases.keepsAbsent c hc
  have hne : d ≠ c := by
    rintro rfl
    rw [hc] at hd
    cases hd
  refine ⟨?_, by rw [hevicted, hevicted₁]⟩
  rw [hconnections, BTreeMap.getElem?_insert, if_neg hne]
  exact hc₁

theorem watchJoin_keepsAbsent (hi : Indexed hub) {roomId : RoomId} {replaced : List Attachment}
    (h : hub.watchJoin d roomId = .ok (replaced, hub')) (c : ConnectionId) : KeepsAbsent hub hub' c := by
  intro hc
  obtain ⟨entry, hub₁, hd, hreleases, -, hconnections, hevicted, -⟩ := watchJoin_ok hi h
  obtain ⟨hc₁, hevicted₁⟩ := hreleases.keepsAbsent c hc
  have hne : d ≠ c := by
    rintro rfl
    rw [hc] at hd
    cases hd
  refine ⟨?_, by rw [hevicted, hevicted₁]⟩
  rw [hconnections, BTreeMap.getElem?_insert, if_neg hne]
  exact hc₁

theorem detach_keepsAbsent {attachment : Option Attachment} (h : hub.detach d = .ok (attachment, hub'))
    (c : ConnectionId) : KeepsAbsent hub hub' c := by
  intro hc
  obtain ⟨entry, hd, -, hconnections, hevicted, -⟩ := detach_ok h
  have hne : d ≠ c := by
    rintro rfl
    rw [hc] at hd
    cases hd
  exact ⟨by rw [hconnections, BTreeMap.getElem?_insert, if_neg hne, hc], by rw [hevicted]⟩

theorem unregister_keepsAbsent (hd : d ≠ c) : KeepsAbsent hub (hub.unregister d).2 c := by
  intro hc
  obtain ⟨hconnections, -, -, hother, -⟩ := unregister_spec hub d
  exact ⟨by rw [hconnections, BTreeMap.getElem?_erase, if_neg hd, hc], hother c (Ne.symm hd)⟩

/-- `unregister` of a connection that is gone returns its evicted attachment and forgets it. -/
theorem unregister_absent (hc : hub.connections[c]? = none) :
    (hub.unregister c).1 = hub.evictedAttachments[c]? ∧ (hub.unregister c).2.connections[c]? = none ∧
      (hub.unregister c).2.evictedAttachments[c]? = none := by
  have hunregister : hub.unregister c =
      (hub.evictedAttachments[c]?, { hub with evictedAttachments := hub.evictedAttachments.erase c }) := by
    unfold unregister
    rw [removeConnectionLocked_none hc]
  rw [hunregister]
  refine ⟨rfl, hc, ?_⟩
  show (hub.evictedAttachments.erase c)[c]? = none
  rw [BTreeMap.getElem?_erase, if_pos rfl]

end HubState

open HubState

/-! ## One call -/

structure HubRun.Ok (run : HubRun) : Prop where
  indexed : run.hub.Indexed
  evicted : run.hub.EvictedOk
  connected : ∀ (c : ConnectionId) entry, run.hub.connections[c]? = some entry → c ∈ run.registered
  leftBehind : ∀ (c : ConnectionId) a, run.hub.evictedAttachments[c]? = some a → c ∈ run.registered

namespace HubCall

variable {run : HubRun} {c : ConnectionId}

theorem moves (hi : run.hub.Indexed) {call : HubCall} (hallowed : call.Allowed run) (hnew : call.registers = []) :
    ∃ new out, Moves run.hub (call.next run.hub) new out := by
  have hreleases : ∀ {hub' : HubState} {released : List Attachment}, Releases run.hub hub' released →
      ∃ new out, Moves run.hub hub' new out := fun h => ⟨fun _ => False, _, h.moves _⟩
  cases call with
  | register => cases hnew
  | attach d roomId roomCode peerId order =>
    simp only [next]
    split
    · rename_i hattach
      exact ⟨_, _, attach_moves hi hallowed hattach⟩
    · exact hreleases (.refl _)
  | watchJoin d roomId =>
    simp only [next]
    split
    · rename_i hwatch
      exact ⟨fun _ => False, _, watchJoin_moves hi hwatch⟩
    · exact hreleases (.refl _)
  | detach d =>
    simp only [next]
    split
    · rename_i hdetach
      exact ⟨fun _ => False, _, detach_moves hdetach⟩
    · exact hreleases (.refl _)
  | unregister d => exact ⟨fun _ => False, _, unregister_moves rfl⟩
  | send d outbound =>
    obtain ⟨released, h⟩ := (send_spec run.hub d outbound).1
    exact hreleases h
  | sendToPeer d toPeerId message =>
    obtain ⟨released, h⟩ := (sendToPeer_spec run.hub d toPeerId message).1
    exact hreleases h
  | broadcast roomId message order => exact hreleases (broadcastEach_spec message order run.hub)
  | disconnectSession => exact hreleases (evictEach_spec _ _ run.hub).1
  | disconnectRoom => exact hreleases (evictEach_spec _ _ run.hub).1
  | take d =>
    obtain ⟨channels, h⟩ := take_channels run.hub d
    rw [next, h]
    exact hreleases (.of_channels _ channels)
  | closeReceiver d =>
    obtain ⟨channels, h⟩ := closeReceiver_channels run.hub d
    rw [next, h]
    exact hreleases (.of_channels _ channels)

/-- A call leaves a connection that is gone alone, unless it is its `unregister`. -/
theorem keepsAbsent (hi : run.hub.Indexed) {call : HubCall} (hallowed : call.Allowed run)
    (hregistered : c ∈ run.registered) (hcall : call ≠ .unregister c) : KeepsAbsent run.hub (call.next run.hub) c := by
  cases call with
  | register d sessionId =>
    have hne : d ≠ c := by
      rintro rfl
      exact hallowed hregistered
    intro hc
    refine ⟨?_, rfl⟩
    show (run.hub.connections.insert d _)[c]? = none
    rw [BTreeMap.getElem?_insert, if_neg hne, hc]
  | attach d roomId roomCode peerId order =>
    simp only [next]
    split
    · rename_i hattach
      exact attach_keepsAbsent hi hallowed hattach c
    · exact (Releases.refl _).keepsAbsent c
  | watchJoin d roomId =>
    simp only [next]
    split
    · rename_i hwatch
      exact watchJoin_keepsAbsent hi hwatch c
    · exact (Releases.refl _).keepsAbsent c
  | detach d =>
    simp only [next]
    split
    · rename_i hdetach
      exact detach_keepsAbsent hdetach c
    · exact (Releases.refl _).keepsAbsent c
  | unregister d =>
    refine unregister_keepsAbsent ?_
    rintro rfl
    exact hcall rfl
  | send d outbound =>
    obtain ⟨released, h⟩ := (send_spec run.hub d outbound).1
    exact h.keepsAbsent c
  | sendToPeer d toPeerId message =>
    obtain ⟨released, h⟩ := (sendToPeer_spec run.hub d toPeerId message).1
    exact h.keepsAbsent c
  | broadcast roomId message order => exact (broadcastEach_spec message order run.hub).keepsAbsent c
  | disconnectSession => exact (evictEach_spec _ _ run.hub).1.keepsAbsent c
  | disconnectRoom => exact (evictEach_spec _ _ run.hub).1.keepsAbsent c
  | take d =>
    obtain ⟨channels, h⟩ := take_channels run.hub d
    rw [next, h]
    exact (Releases.of_channels _ channels).keepsAbsent c
  | closeReceiver d =>
    obtain ⟨channels, h⟩ := closeReceiver_channels run.hub d
    rw [next, h]
    exact (Releases.of_channels _ channels).keepsAbsent c

end HubCall

namespace HubRun

variable {run run' : HubRun} {call : HubCall} {calls : List HubCall} {c : ConnectionId}

theorem Ok.new (queueCapacity : Nat) : (HubRun.new queueCapacity).Ok :=
  ⟨new_indexed queueCapacity, fun _ _ h => absurd (h.symm.trans Std.ExtTreeMap.getElem?_empty) nofun,
    fun _ _ h => absurd (h.symm.trans Std.ExtTreeMap.getElem?_empty) nofun,
    fun _ _ h => absurd (h.symm.trans Std.ExtTreeMap.getElem?_empty) nofun⟩

theorem Ok.step (h : run.Ok) (hstep : Step run call run') : run'.Ok := by
  obtain ⟨hallowed⟩ := hstep
  by_cases hnew : call.registers = []
  · obtain ⟨new, out, hmoves⟩ := call.moves h.indexed hallowed hnew
    refine ⟨hmoves.indexed h.indexed, hmoves.evictedOk h.evicted, fun c entry hc => ?_, fun c a hc => ?_⟩
    · obtain ⟨entry', hentry, -⟩ := hmoves.session c entry hc
      exact List.mem_append_right _ (h.connected c entry' hentry)
    · refine List.mem_append_right _ ?_
      rcases hmoves.evicted c a hc with hevicted | ⟨hattached, -⟩
      · exact h.leftBehind c a hevicted
      · obtain ⟨entry, hentry, -⟩ := attachmentOf_some.mp hattached
        exact h.connected c entry hentry
  · cases call with
    | register d sessionId =>
      have hfresh : run.hub.connections[d]? = none := by
        cases hd : run.hub.connections[d]? with
        | none => rfl
        | some entry => exact absurd (h.connected d entry hd) hallowed
      refine ⟨register_indexed h.indexed hfresh sessionId, fun c a hc => ?_, fun c entry hc => ?_, fun c a hc => ?_⟩
      · have hne : d ≠ c := by
          rintro rfl
          exact hallowed (h.leftBehind d a hc)
        show (run.hub.connections.insert d _)[c]? = none
        rw [BTreeMap.getElem?_insert, if_neg hne]
        exact h.evicted c a hc
      · have hc : (run.hub.connections.insert d _)[c]? = some entry := hc
        rw [BTreeMap.getElem?_insert] at hc
        split at hc
        · rename_i hd
          subst hd
          exact List.mem_cons_self
        · exact List.mem_cons_of_mem _ (h.connected c entry hc)
      · exact List.mem_cons_of_mem _ (h.leftBehind c a hc)
    | _ => exact absurd rfl hnew

theorem run_ok {queueCapacity : Nat} (hrun : Run Step (.new queueCapacity) calls run) : run.Ok :=
  hrun.invariant (fun _ _ _ hok hstep => hok.step hstep) (.new queueCapacity)

/-! ## Evicted attachments -/

theorem returned_other (hub : HubState) (hcall : call ≠ .unregister c) : call.returned hub c = none := by
  cases call with
  | unregister d =>
    refine if_neg ?_
    rintro rfl
    exact hcall rfl
  | _ => rfl

/-- A connection that is gone and has no evicted attachment returns nothing any more. -/
theorem returnedAll_gone (hok : run.Ok) (hregistered : c ∈ run.registered) (hc : run.hub.connections[c]? = none)
    (hevicted : run.hub.evictedAttachments[c]? = none) (hrun : Run Step run calls run') :
    ∀ returned ∈ returnedAll c run calls, returned = none := by
  induction hrun with
  | nil => exact fun _ hmem => absurd hmem List.not_mem_nil
  | @cons run next last call calls hstep _ ih =>
    have hnext := hok.step hstep
    obtain ⟨hallowed⟩ := hstep
    intro returned hmem
    rw [returnedAll] at hmem
    by_cases hcall : call = .unregister c
    · subst hcall
      obtain ⟨hreturned, hgone, hforgotten⟩ := unregister_absent hc
      rcases List.mem_append.mp hmem with hmem | hmem
      · rw [HubCall.returned, if_pos rfl, Option.mem_toList, hreturned, hevicted] at hmem
        exact (Option.some.inj hmem).symm
      · exact ih hnext (List.mem_append_right _ hregistered) hgone hforgotten returned hmem
    · rw [returned_other run.hub hcall] at hmem
      obtain ⟨hgone, hkept⟩ := call.keepsAbsent hok.indexed hallowed hregistered hcall hc
      exact ih hnext (List.mem_append_right _ hregistered) hgone (hkept.trans hevicted) returned hmem

/-- An evicted attachment is returned by the first `unregister` of its connection and by no other. -/
theorem returnedAll_evicted (hok : run.Ok) {a : Attachment} (hevicted : run.hub.evictedAttachments[c]? = some a)
    (hrun : Run Step run calls run') :
    (HubCall.unregister c ∉ calls ∧ returnedAll c run calls = []) ∨
      ∃ later, returnedAll c run calls = some a :: later ∧ ∀ returned ∈ later, returned = none := by
  induction hrun with
  | nil => exact .inl ⟨List.not_mem_nil, rfl⟩
  | @cons run next last call calls hstep hrest ih =>
    have hnext := hok.step hstep
    obtain ⟨hallowed⟩ := hstep
    have hregistered := hok.leftBehind c a hevicted
    have hc := hok.evicted c a hevicted
    rw [returnedAll]
    by_cases hcall : call = .unregister c
    · subst hcall
      obtain ⟨hreturned, hgone, hforgotten⟩ := unregister_absent hc
      refine .inr ⟨_, ?_, returnedAll_gone hnext (List.mem_append_right _ hregistered) hgone hforgotten hrest⟩
      rw [HubCall.returned, if_pos rfl, hreturned, hevicted]
      rfl
    · obtain ⟨-, hkept⟩ := call.keepsAbsent hok.indexed hallowed hregistered hcall hc
      rw [returned_other run.hub hcall, Option.toList_none, List.nil_append]
      refine (ih hnext (hkept.trans hevicted)).imp_left fun hnone => ⟨?_, hnone.2⟩
      rw [List.mem_cons, not_or]
      exact ⟨Ne.symm hcall, hnone.1⟩

/-- **The maps of the hub agree after every sequence of calls**, and in every continuation an evicted attachment is
returned by exactly one `unregister`, the first one of its connection. -/
theorem hub_consistent (queueCapacity : Nat) (calls : List HubCall)
    (hrun : Run Step (.new queueCapacity) calls run) :
    Consistent run.hub ∧ ∀ (c : ConnectionId) (a : Attachment), run.hub.evictedAttachments[c]? = some a →
      ∀ later run', Run Step run later run' →
        (HubCall.unregister c ∉ later ∧ returnedAll c run later = []) ∨
          ∃ rest, returnedAll c run later = some a :: rest ∧ ∀ returned ∈ rest, returned = none := by
  have hok := run_ok hrun
  exact ⟨hok.indexed.consistent hok.evicted, fun c a hevicted later run' hlater =>
    returnedAll_evicted hok hevicted hlater⟩

/-- A connection attaches and is sent more than its queue holds. -/
def overrun (sessionId : SessionId) (roomId : RoomId) (roomCode : RoomCode) (peerId : PeerId) : List HubCall :=
  [.register 0 sessionId, .attach 0 roomId roomCode peerId [], .send 0 (.message (.roomExpired 1)),
    .send 0 (.message (.roomExpired 2))]

theorem hub_consistent_overrun : ∃ run a, Consistent run.hub ∧ run.hub.evictedAttachments[(0 : ConnectionId)]? = some a ∧
    returnedAll 0 run [.unregister 0, .unregister 0] = [some a, none] := by
  have hrun : ∃ run, Run Step (.new 1) (overrun (.of "owner_1") (.of "room_1") (.of "ABC234") (.of "peer_1")) run ∧
      run.hub.evictedAttachments[(0 : ConnectionId)]? =
        some ⟨.of "room_1", .of "ABC234", .of "owner_1", .of "peer_1"⟩ := by
    refine ⟨_, .cons ⟨?_⟩ (.cons ⟨?_⟩ (.cons ⟨trivial⟩ (.cons ⟨trivial⟩ (.nil _)))), ?_⟩
    · exact List.not_mem_nil
    · show List.Perm _ _
      decide +kernel
    · decide +kernel
  obtain ⟨run, hrun, hevicted⟩ := hrun
  obtain ⟨hconsistent, hreturned⟩ := hub_consistent 1 _ hrun
  refine ⟨run, _, hconsistent, hevicted, ?_⟩
  rcases hreturned 0 _ hevicted [.unregister 0, .unregister 0] _ (.cons ⟨trivial⟩ (.cons ⟨trivial⟩ (.nil _))) with
    ⟨hnone, -⟩ | ⟨rest, hall, hrest⟩
  · exact absurd List.mem_cons_self hnone
  · have hlength : (returnedAll 0 run [.unregister 0, .unregister 0]).length = 2 := rfl
    rw [hall] at hlength ⊢
    match rest, hlength with
    | [last], _ => rw [hrest last List.mem_cons_self]

end HubRun

end P2PTransmission
