import P2PTransmission.Realtime.HubSpec

/-!
# What is put into the queues

`sentTo` is all that a connection's queue has ever taken. `Delivers P` bounds what an operation adds to the queues;
for a broadcast `broadcastEach_sentTo` says it exactly.
-/

set_option autoImplicit false

namespace P2PTransmission

namespace HubState

variable {hub hub' hub'' : HubState} {c d : ConnectionId} {P Q : ConnectionId → Outbound → Prop}

/-! ## Queues -/

def sentTo (hub : HubState) (c : ConnectionId) : List Outbound :=
  match hub.channels[c]? with
  | none => []
  | some channel => channel.sent

/-- The queue of a connection takes one more item. -/
def accepts (hub : HubState) (c : ConnectionId) : Bool :=
  match hub.channels[c]? with
  | none => false
  | some channel => !channel.closed && decide (channel.queue.length < hub.queueCapacity)

/-- What was put into the queue of a connection between two states. -/
def Delivered (hub hub' : HubState) (c : ConnectionId) (outbound : Outbound) : Prop :=
  ∃ new, hub'.sentTo c = hub.sentTo c ++ new ∧ outbound ∈ new

/-- Nothing but `P` was put into the queues. -/
def Delivers (hub hub' : HubState) (P : ConnectionId → Outbound → Prop) : Prop :=
  ∀ c, ∃ new, hub'.sentTo c = hub.sentTo c ++ new ∧ ∀ outbound ∈ new, P c outbound

theorem Delivers.delivered (h : Delivers hub hub' P) {outbound : Outbound} (hd : Delivered hub hub' c outbound) :
    P c outbound := by
  obtain ⟨new, hnew, hmem⟩ := hd
  obtain ⟨new', hnew', hP⟩ := h c
  have hsame : new = new' := List.append_cancel_left (hnew.symm.trans hnew')
  exact hP outbound (hsame ▸ hmem)

theorem Delivers.of_sentTo (h : hub'.sentTo = hub.sentTo) (P : ConnectionId → Outbound → Prop) :
    Delivers hub hub' P := fun c => ⟨[], by rw [h, List.append_nil], fun _ hmem => absurd hmem List.not_mem_nil⟩

theorem sentTo_congr (h : hub'.channels = hub.channels) : hub'.sentTo = hub.sentTo := by
  funext c
  rw [sentTo, h, sentTo]

theorem Delivers.refl (hub : HubState) (P : ConnectionId → Outbound → Prop) : Delivers hub hub P := .of_sentTo rfl P

theorem Delivers.trans (h : Delivers hub hub' P) (h' : Delivers hub' hub'' P) : Delivers hub hub'' P := by
  intro c
  obtain ⟨new, hnew, hP⟩ := h c
  obtain ⟨new', hnew', hP'⟩ := h' c
  refine ⟨new ++ new', by rw [hnew', hnew, List.append_assoc], fun outbound hmem => ?_⟩
  rcases List.mem_append.mp hmem with hmem | hmem
  · exact hP outbound hmem
  · exact hP' outbound hmem

theorem Delivers.mono (h : Delivers hub hub' P) (hle : ∀ c outbound, P c outbound → Q c outbound) :
    Delivers hub hub' Q := by
  intro c
  obtain ⟨new, hnew, hP⟩ := h c
  exact ⟨new, hnew, fun outbound hmem => hle c outbound (hP outbound hmem)⟩

/-! ## Sending -/

theorem trySend_accepts (hub : HubState) (c : ConnectionId) (outbound : Outbound) :
    (∃ hub', hub.trySend c outbound = .ok hub') ↔ hub.accepts c = true := by
  unfold trySend accepts
  cases hc : hub.channels[c]? with
  | none => simp
  | some channel =>
    by_cases hclosed : channel.closed
    · simp [hclosed]
    · by_cases hfull : hub.queueCapacity ≤ channel.queue.length
      · simp [hclosed, hfull]
      · have hroom : channel.queue.length < hub.queueCapacity := by omega
        simp [hclosed, hfull, hroom]

theorem trySend_sentTo {outbound : Outbound} (h : hub.trySend c outbound = .ok hub') (d : ConnectionId) :
    hub'.sentTo d = hub.sentTo d ++ if d = c then [outbound] else [] := by
  unfold trySend at h
  split at h
  · cases h
  rename_i channel hc
  split at h
  · cases h
  split at h
  · cases h
  cases h
  simp only [sentTo, BTreeMap.getElem?_insert]
  by_cases hd : d = c
  · subst hd
    simp [hc]
  · simp [hd, Ne.symm hd]

theorem trySend_accepts_other {outbound : Outbound} (h : hub.trySend c outbound = .ok hub') (hd : d ≠ c) :
    hub'.accepts d = hub.accepts d := by
  unfold trySend at h
  split at h
  · cases h
  split at h
  · cases h
  split at h
  · cases h
  cases h
  simp only [accepts, BTreeMap.getElem?_insert, if_neg (Ne.symm hd)]

theorem trySend_delivers {outbound : Outbound} (h : hub.trySend c outbound = .ok hub') :
    Delivers hub hub' fun d sent => d = c ∧ sent = outbound := by
  intro d
  refine ⟨_, trySend_sentTo h d, fun sent hmem => ?_⟩
  split at hmem
  · rename_i hd
    exact ⟨hd, List.mem_singleton.mp hmem⟩
  · exact absurd hmem List.not_mem_nil

theorem sendOrDrop_delivers (hub : HubState) (c : ConnectionId) (outbound : Outbound) :
    Delivers hub (hub.sendOrDrop c outbound) fun _ sent => sent = outbound := by
  unfold sendOrDrop
  split
  · rename_i h
    exact (trySend_delivers h).mono fun _ _ hsent => hsent.2
  · exact .refl hub _

theorem evictConnectionLocked_delivers (hub : HubState) (c : ConnectionId) (P : ConnectionId → Outbound → Prop) :
    Delivers hub (hub.evictConnectionLocked c).2 P :=
  .of_sentTo (sentTo_congr (evictConnectionLocked_spec hub c).2.2.2.2) P

theorem notices_delivers (notices : List Outbound) (hub : HubState) (c : ConnectionId) :
    Delivers hub (notices.foldl (fun hub notice => hub.sendOrDrop c notice) hub) fun _ sent => sent ∈ notices := by
  induction notices generalizing hub with
  | nil => exact .refl hub _
  | cons notice notices ih =>
    refine Delivers.trans ((sendOrDrop_delivers hub c notice).mono fun _ sent hsent => ?_)
      ((ih (hub.sendOrDrop c notice)).mono fun _ sent hsent => List.mem_cons_of_mem _ hsent)
    rw [hsent]
    exact List.mem_cons_self

theorem evictEach_delivers (notices : List Outbound) (order : List ConnectionId) (hub : HubState) :
    Delivers hub (evictEach notices order hub).2 fun _ sent => sent ∈ notices := by
  induction order generalizing hub with
  | nil => exact .refl hub _
  | cons c cs ih =>
    rw [evictEach]
    refine Delivers.trans ?_ ((evictConnectionLocked_delivers _ c _).trans (ih _))
    split
    · exact notices_delivers notices hub c
    · exact .refl hub _

theorem disconnectSession_delivers (hub : HubState) (roomId : RoomId) (sessionId : SessionId) (code : Nat)
    (reason : String) :
    Delivers hub (hub.disconnectSession roomId sessionId code reason).2 fun _ sent => sent = .close code reason :=
  (evictEach_delivers [.close code reason] _ hub).mono fun _ _ hmem => List.mem_singleton.mp hmem

theorem sendOrEvict_delivers (hub : HubState) (target : ConnectionId) (outbound : Outbound) (onClosed : HubError) :
    Delivers hub (hub.sendOrEvict target outbound onClosed).2 fun d sent => d = target ∧ sent = outbound := by
  unfold sendOrEvict
  split
  · rename_i h
    exact trySend_delivers h
  · exact evictConnectionLocked_delivers hub target _
  · exact evictConnectionLocked_delivers hub target _

theorem send_delivers (hub : HubState) (c : ConnectionId) (outbound : Outbound) :
    Delivers hub (hub.send c outbound).2 fun d sent =>
      d = c ∧ sent = outbound ∧ hub.connections.contains c = true := by
  unfold send
  split
  · rename_i hcontains
    exact (sendOrEvict_delivers hub c outbound .connectionNotFound).mono fun _ _ hsent =>
      ⟨hsent.1, hsent.2, hcontains⟩
  · exact .refl hub _

/-- A message to a peer goes to the connection that the sender's room has under its id. -/
theorem sendToPeer_delivers (hi : Indexed hub) (c : ConnectionId) (toPeerId : PeerId) (message : ServerRealtimeMessage) :
    Delivers hub (hub.sendToPeer c toPeerId message).2 fun d sent => sent = .message message ∧ ∃ a b,
      hub.attachmentOf c = some a ∧ hub.attachmentOf d = some b ∧ b.roomId = a.roomId ∧ b.peerId = toPeerId ∧
        a.peerId ≠ toPeerId := by
  unfold sendToPeer
  split
  · exact .refl hub _
  rename_i a ha
  split
  · exact .refl hub _
  rename_i hself
  split
  · exact .refl hub _
  rename_i target htarget
  split
  · refine (sendOrEvict_delivers hub target _ _).mono ?_
    rintro d sent ⟨rfl, rfl⟩
    -- the route of a peer leads to the connection attached under its id
    obtain ⟨p, hp, hroute⟩ := (hi.index.peer _ d).mp htarget
    obtain ⟨entry, hentry, hplace⟩ := placeOf_some.mp hp
    cases hb : entry.attachment with
    | none =>
      rw [ConnectionEntry.place, hb] at hplace
      obtain ⟨w, -, rfl⟩ := Option.map_eq_some_iff.mp hplace
      cases hroute
    | some b =>
      rw [ConnectionEntry.place, hb] at hplace
      cases hplace
      have hroute := Option.some.inj hroute
      exact ⟨rfl, a, b, ha, attachmentOf_some.mpr ⟨entry, hentry, hb⟩, congrArg Route.roomId hroute,
        congrArg Route.name hroute, hself⟩
  · exact .refl hub _

theorem attach_delivers {roomId : RoomId} {code : RoomCode} {peerId : PeerId} {order : List ConnectionId}
    {replaced : List Attachment} (h : hub.attach c roomId code peerId order = .ok (replaced, hub')) :
    Delivers hub hub' fun _ sent => sent ∈ replacedNotices := by
  unfold attach at h
  split at h
  · cases h
  · rename_i entry _
    have hsame := unmap_same (evictEach replacedNotices order hub).2 c entry
    have hchannels : hub'.channels = (evictEach replacedNotices order hub).2.channels := by
      rw [← hsame.channels, ← (Prod.mk.inj (Except.ok.inj h)).2]
      rfl
    exact (evictEach_delivers replacedNotices order hub).trans (.of_sentTo (sentTo_congr hchannels) _)

/-- A connection that gives way to a watch is told nothing. -/
theorem watchJoin_delivers {roomId : RoomId} {replaced : List Attachment}
    (h : hub.watchJoin c roomId = .ok (replaced, hub')) : Delivers hub hub' fun _ _ => False := by
  unfold watchJoin at h
  split at h
  · cases h
  · rename_i entry _
    have hsame := unmap_same (evictEach [] (hub.watchConflicts c roomId entry.sessionId) hub).2 c entry
    have hchannels : hub'.channels = (evictEach [] (hub.watchConflicts c roomId entry.sessionId) hub).2.channels := by
      rw [← hsame.channels, ← (Prod.mk.inj (Except.ok.inj h)).2]
      rfl
    refine Delivers.trans ((evictEach_delivers [] _ hub).mono ?_) (.of_sentTo (sentTo_congr hchannels) _)
    exact fun _ _ hmem => absurd hmem List.not_mem_nil

/-! ## Broadcasts -/

theorem evictConnectionLocked_accepts (hub : HubState) (c d : ConnectionId) :
    (hub.evictConnectionLocked c).2.accepts d = hub.accepts d := by
  have hcapacity : (hub.evictConnectionLocked c).2.queueCapacity = hub.queueCapacity := by
    unfold evictConnectionLocked
    cases hc : hub.connections[c]? with
    | none => rw [removeConnectionLocked_none hc]
    | some entry =>
      rw [removeConnectionLocked_some hc]
      have hsame := unmap_same { hub with connections := hub.connections.erase c } c entry
      cases entry.attachment with
      | none => exact hsame.capacity
      | some a => exact hsame.capacity
  rw [accepts, (evictConnectionLocked_spec hub c).2.2.2.2, hcapacity, accepts]

/-- **What a broadcast puts into the queues**: the message, once for each registered connection of the list whose queue
takes it. -/
theorem broadcastEach_sentTo (message : ServerRealtimeMessage) {order : List ConnectionId} (hnodup : order.Nodup)
    (hub : HubState) (d : ConnectionId) :
    (broadcastEach message order hub).2.sentTo d = hub.sentTo d ++
      if d ∈ order ∧ hub.connections.contains d = true ∧ hub.accepts d = true then [.message message] else [] := by
  induction order generalizing hub with
  | nil => simp [broadcastEach]
  | cons c cs ih =>
    obtain ⟨hc, hcs⟩ := List.nodup_cons.mp hnodup
    -- the rest of the loop finds the other connections as they were
    have hrest : ∀ next : HubState, (∀ e, e ≠ c → next.connections[e]? = hub.connections[e]?) →
        (∀ e, e ≠ c → next.accepts e = hub.accepts e) → ∀ first : List Outbound,
        next.sentTo d = hub.sentTo d ++ first → (d ≠ c → first = []) →
        (d = c → first = if hub.connections.contains d = true ∧ hub.accepts d = true then [.message message] else []) →
        (broadcastEach message cs next).2.sentTo d = hub.sentTo d ++
          if d ∈ c :: cs ∧ hub.connections.contains d = true ∧ hub.accepts d = true then [.message message] else [] := by
      intro next hconnections haccepts first hfirst hother hself
      rw [ih hcs next, hfirst, List.append_assoc]
      by_cases hd : d = c
      · subst hd
        simp [hc, hself rfl]
      · have hcontains : next.connections.contains d = hub.connections.contains d := by
          rw [Std.ExtTreeMap.contains_eq_isSome_getElem?, Std.ExtTreeMap.contains_eq_isSome_getElem?, hconnections d hd]
        rw [hother hd, haccepts d hd, hcontains]
        simp [hd]
    rw [broadcastEach]
    split
    · rename_i hcontains
      split
      · rename_i next hsend
        obtain ⟨channels, hnext⟩ := trySend_ok hsend
        refine hrest next (fun e _ => by rw [hnext]) (fun e he => trySend_accepts_other hsend he) _
          (trySend_sentTo hsend d) (fun hd => if_neg hd) fun hd => ?_
        subst hd
        rw [if_pos rfl, if_pos ⟨hcontains, (trySend_accepts hub d _).mp ⟨next, hsend⟩⟩]
      · rename_i error hsend
        obtain ⟨-, -, -, hconnections, hchannels⟩ := evictConnectionLocked_spec hub c
        refine hrest _ (fun e he => ?_) (fun e _ => evictConnectionLocked_accepts hub c e) [] ?_ (fun _ => rfl) fun hd => ?_
        · rw [hconnections, BTreeMap.getElem?_erase, if_neg (Ne.symm he)]
        · rw [List.append_nil, sentTo_congr hchannels]
        · subst hd
          rw [if_neg]
          rintro ⟨-, haccepts⟩
          obtain ⟨next, hok⟩ := (trySend_accepts hub d (.message message)).mpr haccepts
          rw [hsend] at hok
          cases hok
    · rename_i hcontains
      refine hrest hub (fun _ _ => rfl) (fun _ _ => rfl) [] (List.append_nil _).symm (fun _ => rfl) fun hd => ?_
      subst hd
      rw [if_neg fun h => hcontains h.1]

theorem broadcastEach_delivered (message : ServerRealtimeMessage) {order : List ConnectionId} (hnodup : order.Nodup)
    (hub : HubState) {outbound : Outbound} : Delivered hub (broadcastEach message order hub).2 d outbound ↔
      outbound = .message message ∧ d ∈ order ∧ hub.connections.contains d = true ∧ hub.accepts d = true := by
  have hsent := broadcastEach_sentTo message hnodup hub d
  constructor
  · rintro ⟨new, hnew, hmem⟩
    rw [hsent] at hnew
    rw [← List.append_cancel_left hnew] at hmem
    split at hmem
    · rename_i h
      exact ⟨List.mem_singleton.mp hmem, h⟩
    · exact absurd hmem List.not_mem_nil
  · rintro ⟨rfl, h⟩
    rw [if_pos h] at hsent
    exact ⟨_, hsent, List.mem_singleton_self _⟩

end HubState

end P2PTransmission
