import P2PTransmission.Realtime.HubIndex

/-!
# What the operations of the hub do

Every operation that sends or disconnects gives up some connections and leaves the others alone; `Releases` says that the
attachments of the connections it gave up are the ones it returns. `attach` and `watchJoin` first release the connections
that stand in their way and then put one connection on its new place.
-/

set_option autoImplicit false

namespace P2PTransmission

namespace HubState

variable {hub hub' hub'' : HubState} {c d : ConnectionId} {released released' : List Attachment}

/-! ## Entries -/

theorem attachmentOf_some {a : Attachment} :
    hub.attachmentOf c = some a ↔ ∃ entry, hub.connections[c]? = some entry ∧ entry.attachment = some a :=
  Option.bind_eq_some_iff

theorem placeOf_some {p : Place} :
    hub.placeOf c = some p ↔ ∃ entry, hub.connections[c]? = some entry ∧ entry.place = some p :=
  Option.bind_eq_some_iff

theorem placeOf_attachment {a : Attachment} (h : hub.attachmentOf c = some a) : hub.placeOf c = some a.place := by
  obtain ⟨entry, hentry, ha⟩ := attachmentOf_some.mp h
  exact placeOf_some.mpr ⟨entry, hentry, by rw [ConnectionEntry.place, ha]⟩

theorem watchOf_some {w : JoinWatch} :
    hub.watchOf c = some w ↔ ∃ entry, hub.connections[c]? = some entry ∧ entry.joinWatch = some w :=
  Option.bind_eq_some_iff

/-- The place of a connection is that of its attachment or of its join watch. -/
theorem Indexed.place_iff (hi : Indexed hub) {p : Place} : hub.placeOf c = some p ↔
    (∃ a, hub.attachmentOf c = some a ∧ a.place = p) ∨ ∃ w, hub.watchOf c = some w ∧ w.place = p := by
  constructor
  · intro h
    obtain ⟨entry, hentry, hplace⟩ := placeOf_some.mp h
    cases ha : entry.attachment with
    | some a =>
      rw [ConnectionEntry.place, ha] at hplace
      exact .inl ⟨a, attachmentOf_some.mpr ⟨entry, hentry, ha⟩, Option.some.inj hplace⟩
    | none =>
      rw [ConnectionEntry.place, ha] at hplace
      obtain ⟨w, hw, hp⟩ := Option.map_eq_some_iff.mp hplace
      exact .inr ⟨w, watchOf_some.mpr ⟨entry, hentry, hw⟩, hp⟩
  · rintro (⟨a, ha, rfl⟩ | ⟨w, hw, rfl⟩)
    · exact placeOf_attachment ha
    · obtain ⟨entry, hentry, hwatch⟩ := watchOf_some.mp hw
      have hnone := (hi.entry c entry hentry).exclusive.resolve_right (by rw [hwatch]; simp)
      exact placeOf_some.mpr ⟨entry, hentry, by rw [ConnectionEntry.place, hnone, hwatch]; rfl⟩

theorem SameEntries.place (h : SameEntries hub hub') : hub'.placeOf = hub.placeOf := by
  funext c
  rw [placeOf, placeOf, h.connections]

theorem SameEntries.attachment (h : SameEntries hub hub') : hub'.attachmentOf = hub.attachmentOf := by
  funext c
  rw [attachmentOf, attachmentOf, h.connections]

/-- The indexes do not depend on the channels. -/
theorem Indexed.of_channels (h : Indexed hub) (channels : BTreeMap ConnectionId Channel) :
    Indexed { hub with channels } :=
  ⟨⟨h.index.session, h.index.peer, h.index.member, h.index.set⟩, h.entry⟩

theorem trySend_ok {outbound : Outbound} (h : hub.trySend c outbound = .ok hub') :
    ∃ channels, hub' = { hub with channels } := by
  unfold trySend at h
  split at h
  · cases h
  · split at h
    · cases h
    · split at h
      · cases h
      · cases h
        exact ⟨_, rfl⟩

theorem sendOrDrop_channels (hub : HubState) (c : ConnectionId) (outbound : Outbound) :
    ∃ channels, hub.sendOrDrop c outbound = { hub with channels } := by
  unfold sendOrDrop
  split
  · rename_i h
    exact trySend_ok h
  · exact ⟨hub.channels, rfl⟩

/-! ## Releasing -/

structure Releases (hub hub' : HubState) (released : List Attachment) : Prop where
  kept : ∀ c : ConnectionId, hub'.connections[c]? = hub.connections[c]? ∨ hub'.connections[c]? = none
  complete : ∀ (c : ConnectionId) a, hub.attachmentOf c = some a → hub'.connections[c]? = none →
    a ∈ released ∧ hub'.evictedAttachments[c]? = some a
  released : ∀ a ∈ released, ∃ c : ConnectionId, hub.attachmentOf c = some a ∧ hub'.connections[c]? = none
  evicted : ∀ (c : ConnectionId) a, hub'.evictedAttachments[c]? = some a →
    hub.evictedAttachments[c]? = some a ∨ hub.attachmentOf c = some a ∧ hub'.connections[c]? = none
  absent : ∀ c : ConnectionId, hub.connections[c]? = none → hub'.evictedAttachments[c]? = hub.evictedAttachments[c]?
  indexed : Indexed hub → Indexed hub'

theorem Releases.refl (hub : HubState) : Releases hub hub [] where
  kept _ := .inl rfl
  complete c a ha hnone := by
    obtain ⟨entry, hentry, -⟩ := attachmentOf_some.mp ha
    rw [hentry] at hnone
    cases hnone
  released a ha := absurd ha List.not_mem_nil
  evicted _ _ ha := .inl ha
  absent _ _ := rfl
  indexed h := h

theorem Releases.of_channels (hub : HubState) (channels : BTreeMap ConnectionId Channel) :
    Releases hub { hub with channels } [] :=
  { Releases.refl hub with indexed := fun h => h.of_channels channels }

/-- What is attached afterwards was attached before. -/
theorem Releases.attached (h : Releases hub hub' released) {a : Attachment} (ha : hub'.attachmentOf c = some a) :
    hub.attachmentOf c = some a := by
  obtain ⟨entry, hentry, hattachment⟩ := attachmentOf_some.mp ha
  rcases h.kept c with hc | hc
  · exact attachmentOf_some.mpr ⟨entry, hc ▸ hentry, hattachment⟩
  · rw [hc] at hentry
    cases hentry

/-- What was attached before is attached afterwards or was released. -/
theorem Releases.cases (h : Releases hub hub' released) {a : Attachment} (ha : hub.attachmentOf c = some a) :
    hub'.attachmentOf c = some a ∨ hub'.connections[c]? = none ∧ a ∈ released := by
  obtain ⟨entry, hentry, hattachment⟩ := attachmentOf_some.mp ha
  rcases h.kept c with hc | hc
  · exact .inl (attachmentOf_some.mpr ⟨entry, hc.trans hentry, hattachment⟩)
  · exact .inr ⟨hc, (h.complete c a ha hc).1⟩

theorem Releases.trans (h : Releases hub hub' released) (h' : Releases hub' hub'' released') :
    Releases hub hub'' (released ++ released') where
  kept c := by
    rcases h'.kept c with hc | hc
    · rw [hc]
      exact h.kept c
    · exact .inr hc
  complete c a ha hnone := by
    rcases h.cases ha with ha' | ⟨hc, hmem⟩
    · have := h'.complete c a ha' hnone
      exact ⟨List.mem_append_right _ this.1, this.2⟩
    · have := (h.complete c a ha hc).2
      exact ⟨List.mem_append_left _ hmem, (h'.absent c hc).trans this⟩
  released a ha := by
    rcases List.mem_append.mp ha with ha | ha
    · obtain ⟨c, hc, hnone⟩ := h.released a ha
      refine ⟨c, hc, ?_⟩
      rcases h'.kept c with hk | hk
      · rw [hk, hnone]
      · exact hk
    · obtain ⟨c, hc, hnone⟩ := h'.released a ha
      exact ⟨c, h.attached hc, hnone⟩
  evicted c a ha := by
    rcases h'.evicted c a ha with ha | ⟨ha, hnone⟩
    · rcases h.evicted c a ha with ha | ⟨ha, hnone⟩
      · exact .inl ha
      · refine .inr ⟨ha, ?_⟩
        rcases h'.kept c with hk | hk
        · rw [hk, hnone]
        · exact hk
    · exact .inr ⟨h.attached ha, hnone⟩
  absent c hc := by
    have hnone : hub'.connections[c]? = none := by
      rcases h.kept c with hk | hk
      · rw [hk, hc]
      · exact hk
    rw [h'.absent c hnone, h.absent c hc]
  indexed hi := h'.indexed (h.indexed hi)

/-! ## Removing and evicting -/

theorem removeConnectionLocked_none (h : hub.connections[c]? = none) : hub.removeConnectionLocked c = (none, hub) := by
  unfold removeConnectionLocked
  rw [h]

theorem removeConnectionLocked_some {entry : ConnectionEntry} (h : hub.connections[c]? = some entry) :
    hub.removeConnectionLocked c =
      (entry.attachment, ({ hub with connections := hub.connections.erase c }).unmap c entry) := by
  unfold removeConnectionLocked
  rw [h]
  rfl

/-- The hub without the connection of an entry. -/
theorem unmap_erase {entry : ConnectionEntry} (h : hub.connections[c]? = some entry) :
    let hub' := ({ hub with connections := hub.connections.erase c }).unmap c entry
    hub'.connections = hub.connections.erase c ∧ hub'.evictedAttachments = hub.evictedAttachments ∧
      hub'.channels = hub.channels ∧ hub'.queueCapacity = hub.queueCapacity ∧ (Indexed hub → Indexed hub') := by
  have hsame := unmap_same { hub with connections := hub.connections.erase c } c entry
  refine ⟨hsame.connections, hsame.evicted, hsame.channels, hsame.capacity, fun hi => ⟨?_, ?_⟩⟩
  · have hplace : hub.placeOf c = entry.place := by rw [placeOf, h, Option.bind_some]
    have hindex : IndexedBy hub.placeOf { hub with connections := hub.connections.erase c } :=
      ⟨hi.index.session, hi.index.peer, hi.index.member, hi.index.set⟩
    have hvacated := hindex.vacate (hi.entry c entry h) hplace
    have hfun : (({ hub with connections := hub.connections.erase c }).unmap c entry).placeOf =
        Function.update hub.placeOf c none := by
      funext d
      rw [hsame.place, placeOf]
      show (hub.connections.erase c)[d]?.bind _ = _
      rw [BTreeMap.getElem?_erase]
      by_cases hd : d = c
      · subst hd
        rw [if_pos rfl, Function.update_self, Option.bind_none]
      · rw [if_neg (Ne.symm hd), Function.update_of_ne hd, placeOf]
    rw [hfun]
    exact hvacated
  · intro d e hd
    rw [hsame.connections] at hd
    have hd : (hub.connections.erase c)[d]? = some e := hd
    rw [BTreeMap.getElem?_erase] at hd
    split at hd
    · cases hd
    · exact hi.entry d e hd

theorem evictConnectionLocked_spec (hub : HubState) (c : ConnectionId) :
    Releases hub (hub.evictConnectionLocked c).2 (hub.evictConnectionLocked c).1.toList ∧
      (hub.evictConnectionLocked c).2.connections[c]? = none ∧
      (hub.evictConnectionLocked c).1 = hub.attachmentOf c ∧
      (hub.evictConnectionLocked c).2.connections = hub.connections.erase c ∧
      (hub.evictConnectionLocked c).2.channels = hub.channels := by
  cases hc : hub.connections[c]? with
  | none =>
    have hevict : hub.evictConnectionLocked c = (none, hub) := by
      unfold evictConnectionLocked
      rw [removeConnectionLocked_none hc]
    rw [hevict]
    refine ⟨.refl hub, hc, ?_, ?_, rfl⟩
    · rw [attachmentOf, hc, Option.bind_none]
    · refine Std.ExtTreeMap.ext_getElem? fun {d} => ?_
      rw [BTreeMap.getElem?_erase]
      split
      · rename_i hd
        rw [← hd, hc]
      · rfl
  | some entry =>
    obtain ⟨hconnections, hevicted, hchannels, -, hindexed⟩ := unmap_erase hc
    have hattachment : hub.attachmentOf c = entry.attachment := by rw [attachmentOf, hc, Option.bind_some]
    have hgone : (hub.connections.erase c)[c]? = none := by rw [BTreeMap.getElem?_erase, if_pos rfl]
    have hkept : ∀ d : ConnectionId, (hub.connections.erase c)[d]? = hub.connections[d]? ∨
        (hub.connections.erase c)[d]? = none := by
      intro d
      rw [BTreeMap.getElem?_erase]
      split
      · exact .inr rfl
      · exact .inl rfl
    have honly : ∀ (d : ConnectionId) a, hub.attachmentOf d = some a → (hub.connections.erase c)[d]? = none → d = c := by
      intro d a ha hnone
      by_contra hd
      obtain ⟨e, he, -⟩ := attachmentOf_some.mp ha
      rw [BTreeMap.getElem?_erase, if_neg (Ne.symm hd), he] at hnone
      cases hnone
    have hremove := removeConnectionLocked_some hc
    generalize ({ hub with connections := hub.connections.erase c }).unmap c entry = removed
      at hconnections hevicted hchannels hindexed hremove
    cases ha : entry.attachment with
    | none =>
      have hevict : hub.evictConnectionLocked c = (none, removed) := by
        unfold evictConnectionLocked
        rw [hremove, ha]
      rw [hevict]
      refine ⟨⟨fun d => by rw [hconnections]; exact hkept d, fun d a hd hnone => ?_,
        fun a hmem => absurd hmem List.not_mem_nil, fun d a hd => .inl (by rw [← hevicted]; exact hd),
        fun d _ => by rw [hevicted], hindexed⟩, by rw [hconnections]; exact hgone, by rw [hattachment, ha],
        hconnections, hchannels⟩
      rw [hconnections] at hnone
      rw [honly d a hd hnone, hattachment, ha] at hd
      cases hd
    | some attachment =>
      have hevict : hub.evictConnectionLocked c = (some attachment,
          { removed with evictedAttachments := removed.evictedAttachments.insert c attachment }) := by
        unfold evictConnectionLocked
        rw [hremove, ha]
      rw [hevict]
      refine ⟨⟨fun d => ?_, fun d a hd hnone => ?_, fun a hmem => ?_, fun d a hd => ?_, fun d hd => ?_, fun hi => ?_⟩,
        ?_, by rw [hattachment, ha], hconnections, hchannels⟩
      · show removed.connections[d]? = _ ∨ removed.connections[d]? = _
        rw [hconnections]
        exact hkept d
      · have hnone : removed.connections[d]? = none := hnone
        rw [hconnections] at hnone
        obtain rfl := honly d a hd hnone
        rw [hattachment, ha] at hd
        cases hd
        refine ⟨List.mem_singleton_self _, ?_⟩
        show (removed.evictedAttachments.insert d attachment)[d]? = _
        rw [BTreeMap.getElem?_insert, if_pos rfl]
      · obtain rfl : a = attachment := List.mem_singleton.mp hmem
        refine ⟨c, by rw [hattachment, ha], ?_⟩
        show removed.connections[c]? = none
        rw [hconnections]
        exact hgone
      · have hd : (removed.evictedAttachments.insert c attachment)[d]? = some a := hd
        rw [BTreeMap.getElem?_insert, hevicted] at hd
        split at hd
        · rename_i hcd
          cases hd
          rw [← hcd, hattachment, ha]
          refine .inr ⟨rfl, ?_⟩
          show removed.connections[c]? = none
          rw [hconnections]
          exact hgone
        · exact .inl hd
      · show (removed.evictedAttachments.insert c attachment)[d]? = _
        rw [BTreeMap.getElem?_insert, hevicted, if_neg]
        rintro rfl
        rw [hc] at hd
        cases hd
      · have := hindexed hi
        exact ⟨⟨this.index.session, this.index.peer, this.index.member, this.index.set⟩, this.entry⟩
      · show removed.connections[c]? = none
        rw [hconnections]
        exact hgone

/-! ## Loops -/

theorem foldl_sendOrDrop (notices : List Outbound) (hub : HubState) (c : ConnectionId) :
    ∃ channels, notices.foldl (fun hub notice => hub.sendOrDrop c notice) hub = { hub with channels } := by
  induction notices generalizing hub with
  | nil => exact ⟨hub.channels, rfl⟩
  | cons notice notices ih =>
    obtain ⟨channels, hfirst⟩ := sendOrDrop_channels hub c notice
    obtain ⟨channels', hrest⟩ := ih (hub.sendOrDrop c notice)
    refine ⟨channels', ?_⟩
    rw [List.foldl_cons, hrest, hfirst]

theorem evictEach_spec (notices : List Outbound) (order : List ConnectionId) (hub : HubState) :
    Releases hub (evictEach notices order hub).2 (evictEach notices order hub).1 ∧
      (∀ c ∈ order, (evictEach notices order hub).2.connections[c]? = none) ∧
      (∀ c ∉ order, (evictEach notices order hub).2.connections[c]? = hub.connections[c]?) := by
  induction order generalizing hub with
  | nil => exact ⟨.refl hub, fun c hc => absurd hc List.not_mem_nil, fun _ _ => rfl⟩
  | cons c cs ih =>
    have hnotices : ∃ channels, (if hub.connections.contains c then
        notices.foldl (fun hub notice => hub.sendOrDrop c notice) hub else hub) = { hub with channels } := by
      split
      · exact foldl_sendOrDrop notices hub c
      · exact ⟨hub.channels, rfl⟩
    obtain ⟨channels, hnotified⟩ := hnotices
    obtain ⟨hevict, hgone, -, herase, -⟩ := evictConnectionLocked_spec { hub with channels } c
    obtain ⟨hrest, hnone, hkept⟩ := ih ({ hub with channels }.evictConnectionLocked c).2
    have hstep : evictEach notices (c :: cs) hub =
        (({ hub with channels }.evictConnectionLocked c).1.toList ++
          (evictEach notices cs ({ hub with channels }.evictConnectionLocked c).2).1,
          (evictEach notices cs ({ hub with channels }.evictConnectionLocked c).2).2) := by
      rw [evictEach, hnotified]
    rw [hstep]
    refine ⟨?_, fun d hd => ?_, fun d hd => ?_⟩
    · have := ((Releases.of_channels hub channels).trans hevict).trans hrest
      rwa [List.nil_append] at this
    · rcases List.mem_cons.mp hd with rfl | hd
      · rcases hrest.kept d with hk | hk
        · exact hk.trans hgone
        · exact hk
      · exact hnone d hd
    · rw [List.mem_cons, not_or] at hd
      show (evictEach notices cs _).2.connections[d]? = _
      rw [hkept d hd.2, herase, BTreeMap.getElem?_erase, if_neg (Ne.symm hd.1)]

theorem broadcastEach_spec (message : ServerRealtimeMessage) (order : List ConnectionId) (hub : HubState) :
    Releases hub (broadcastEach message order hub).2 (broadcastEach message order hub).1 := by
  induction order generalizing hub with
  | nil => exact .refl hub
  | cons c cs ih =>
    rw [broadcastEach]
    split
    · split
      · rename_i hub' hsend
        obtain ⟨channels, rfl⟩ := trySend_ok hsend
        exact (Releases.of_channels hub channels).trans (ih _)
      · exact (evictConnectionLocked_spec hub c).1.trans (ih _)
    · exact ih hub

/-! ## Attaching and watching -/

theorem mem_attachConflicts {roomId : RoomId} {peerId : PeerId} {entry : ConnectionEntry}
    (hc : hub.connections[c]? = some entry) : d ∈ hub.attachConflicts c roomId peerId ↔
      d ≠ c ∧ (hub.sessionRoutes[(⟨roomId, entry.sessionId⟩ : Route "session id")]? = some d ∨
        hub.peerRoutes[(⟨roomId, peerId⟩ : Route "peer id")]? = some d) := by
  unfold attachConflicts
  rw [hc]
  simp only [List.mem_dedup, List.mem_filter, List.reduceOption_mem_iff, List.mem_cons, List.not_mem_nil, or_false,
    ne_eq, decide_not, Bool.not_eq_eq_eq_not, Bool.not_true, decide_eq_false_iff_not]
  rw [and_comm, eq_comm (a := some d), eq_comm (a := some d)]

/-- The places of a hub whose connection `c` got a new entry. -/
theorem placeOf_insert {entry : ConnectionEntry} (h : hub'.connections = hub.connections.insert c entry) :
    hub'.placeOf = Function.update hub.placeOf c entry.place := by
  funext d
  rw [placeOf, h, BTreeMap.getElem?_insert]
  by_cases hd : d = c
  · subst hd
    rw [if_pos rfl, Function.update_self, Option.bind_some]
  · rw [if_neg (Ne.symm hd), Function.update_of_ne hd, placeOf]

theorem entries_insert {entry : ConnectionEntry} (h : hub'.connections = hub.connections.insert c entry)
    (hok : EntryOk entry) (hentries : ∀ (d : ConnectionId) e, hub.connections[d]? = some e → EntryOk e)
    (d : ConnectionId) (e : ConnectionEntry) (hd : hub'.connections[d]? = some e) : EntryOk e := by
  rw [h, BTreeMap.getElem?_insert] at hd
  split at hd
  · cases hd
    exact hok
  · exact hentries d e hd

/-- A connection moves from its place to a free one. -/
theorem Indexed.move (hi : Indexed hub) {entry next : ConnectionEntry} {p : Place}
    (hc : hub.connections[c]? = some entry) (hok : EntryOk next) (hp : next.place = some p)
    (hsession : ∀ d q, d ≠ c → hub.placeOf d = some q → q.sessionRoute ≠ p.sessionRoute)
    (hpeer : ∀ d q route, d ≠ c → hub.placeOf d = some q → q.peerRoute = some route → p.peerRoute ≠ some route)
    (hconnections : hub'.connections = hub.connections.insert c next)
    (hroom : hub'.roomConnections = ((hub.unmap c entry).enterRoomConnections c p.roomId).roomConnections)
    (hsessions : hub'.sessionRoutes = (hub.unmap c entry).sessionRoutes.insert p.sessionRoute c)
    (hpeers : ∀ route : Route "peer id", hub'.peerRoutes[route]? =
      if p.peerRoute = some route then some c else (hub.unmap c entry).peerRoutes[route]?) : Indexed hub' := by
  have hplace : hub.placeOf c = entry.place := by rw [placeOf, hc, Option.bind_some]
  have hvacated := hi.index.vacate (hi.entry c entry hc) hplace
  have hother : ∀ d q, Function.update hub.placeOf c none d = some q → d ≠ c ∧ hub.placeOf d = some q := by
    intro d q hq
    by_cases hd : d = c
    · subst hd
      rw [Function.update_self] at hq
      cases hq
    · rw [Function.update_of_ne hd] at hq
      exact ⟨hd, hq⟩
  refine ⟨?_, entries_insert hconnections hok hi.entry⟩
  have hindex := hvacated.occupy (p := p) (Function.update_self ..)
    (fun d q hq => hsession d q (hother d q hq).1 (hother d q hq).2)
    (fun d q route hq => hpeer d q route (hother d q hq).1 (hother d q hq).2) hroom hsessions hpeers
  rw [Function.update_idem] at hindex
  rw [placeOf_insert hconnections, hp]
  exact hindex

theorem attach_ok {roomId : RoomId} {code : RoomCode} {peerId : PeerId} {order : List ConnectionId}
    {replaced : List Attachment} (hi : Indexed hub) (horder : order.Perm (hub.attachConflicts c roomId peerId))
    (h : hub.attach c roomId code peerId order = .ok (replaced, hub')) :
    ∃ entry hub₁, hub.connections[c]? = some entry ∧ Releases hub hub₁ replaced ∧
      hub₁.connections[c]? = some entry ∧
      hub'.connections = hub₁.connections.insert c
        { entry with attachment := some ⟨roomId, code, entry.sessionId, peerId⟩, joinWatch := none } ∧
      hub'.evictedAttachments = hub₁.evictedAttachments ∧ hub'.channels = hub₁.channels ∧
      (∀ d q, d ≠ c → hub₁.placeOf d = some q →
        q.sessionRoute ≠ ⟨roomId, entry.sessionId⟩ ∧ q.peerRoute ≠ some ⟨roomId, peerId⟩) ∧ Indexed hub' := by
  unfold attach at h
  split at h
  · cases h
  rename_i entry hc
  obtain ⟨hreleases, hgone, hkept⟩ := evictEach_spec replacedNotices order hub
  have hself : c ∉ order := fun hmem => ((mem_attachConflicts hc).mp (horder.mem_iff.mp hmem)).1 rfl
  have hc₁ := (hkept c hself).trans hc
  have hi₁ := hreleases.indexed hi
  have hsame := unmap_same (evictEach replacedNotices order hub).2 c entry
  have hresult := Prod.mk.inj (Except.ok.inj h)
  clear h
  obtain ⟨rfl, rfl⟩ := hresult
  -- whoever stood on the place was in the set of conflicts
  have hfree : ∀ d q, d ≠ c → (evictEach replacedNotices order hub).2.placeOf d = some q →
      q.sessionRoute ≠ ⟨roomId, entry.sessionId⟩ ∧ q.peerRoute ≠ some ⟨roomId, peerId⟩ := by
    intro d q hd hq
    obtain ⟨e, he, heq⟩ := placeOf_some.mp hq
    have hin : d ∉ order := fun hmem => by
      rw [hgone d hmem] at he
      cases he
    rw [hkept d hin] at he
    have hplace : hub.placeOf d = some q := placeOf_some.mpr ⟨e, he, heq⟩
    refine ⟨fun hs => hin (horder.mem_iff.mpr ((mem_attachConflicts hc).mpr ⟨hd, .inl ?_⟩)),
      fun hs => hin (horder.mem_iff.mpr ((mem_attachConflicts hc).mpr ⟨hd, .inr ?_⟩))⟩
    · exact (hi.index.session _ d).mpr ⟨q, hplace, hs⟩
    · exact (hi.index.peer _ d).mpr ⟨q, hplace, hs⟩
  refine ⟨entry, _, hc, hreleases, hc₁, ?_, hsame.evicted, hsame.channels, hfree, ?_⟩
  · show (unmap _ c entry).connections.insert c _ = _
    rw [hsame.connections]
  · let next : ConnectionEntry :=
      { entry with attachment := some ⟨roomId, code, entry.sessionId, peerId⟩, joinWatch := none }
    refine hi₁.move (p := ⟨roomId, entry.sessionId, some peerId⟩) hc₁ (⟨.inr rfl, ?_, nofun⟩ : EntryOk next) rfl
      (fun d q hd hq => (hfree d q hd hq).1)
      (fun d q route hd hq hroute hpeer => ?_) ?_ rfl rfl fun route => ?_
    · rintro _ ⟨⟩
      rfl
    · cases hpeer
      exact (hfree d q hd hq).2 hroute
    · show (unmap _ c entry).connections.insert c _ = _
      rw [hsame.connections]
    · show ((unmap _ c entry).peerRoutes.insert _ c)[route]? = _
      rw [BTreeMap.getElem?_insert]
      simp only [Place.peerRoute, Option.map_some, Option.some.injEq]

theorem mem_watchConflicts {roomId : RoomId} {sessionId : SessionId} :
    d ∈ hub.watchConflicts c roomId sessionId ↔
      d ≠ c ∧ hub.sessionRoutes[(⟨roomId, sessionId⟩ : Route "session id")]? = some d := by
  unfold watchConflicts
  rw [Option.mem_toList, Option.filter_eq_some_iff]
  simp [and_comm]

theorem watchJoin_ok {roomId : RoomId} {replaced : List Attachment} (hi : Indexed hub)
    (h : hub.watchJoin c roomId = .ok (replaced, hub')) :
    ∃ entry hub₁, hub.connections[c]? = some entry ∧ Releases hub hub₁ replaced ∧
      hub₁.connections[c]? = some entry ∧
      hub'.connections = hub₁.connections.insert c
        { entry with attachment := none, joinWatch := some ⟨roomId, entry.sessionId⟩ } ∧
      hub'.evictedAttachments = hub₁.evictedAttachments ∧ hub'.channels = hub₁.channels ∧ Indexed hub' := by
  unfold watchJoin at h
  split at h
  · cases h
  rename_i entry hc
  obtain ⟨hreleases, hgone, hkept⟩ := evictEach_spec [] (hub.watchConflicts c roomId entry.sessionId) hub
  have hself : c ∉ hub.watchConflicts c roomId entry.sessionId := fun hmem => (mem_watchConflicts.mp hmem).1 rfl
  have hc₁ := (hkept c hself).trans hc
  have hi₁ := hreleases.indexed hi
  have hsame := unmap_same (evictEach [] (hub.watchConflicts c roomId entry.sessionId) hub).2 c entry
  have hresult := Prod.mk.inj (Except.ok.inj h)
  clear h
  obtain ⟨rfl, rfl⟩ := hresult
  have hfree : ∀ d q, d ≠ c → (evictEach [] (hub.watchConflicts c roomId entry.sessionId) hub).2.placeOf d = some q →
      q.sessionRoute ≠ ⟨roomId, entry.sessionId⟩ := by
    intro d q hd hq hs
    obtain ⟨e, he, heq⟩ := placeOf_some.mp hq
    have hin : d ∉ hub.watchConflicts c roomId entry.sessionId := fun hmem => by
      rw [hgone d hmem] at he
      cases he
    rw [hkept d hin] at he
    exact hin (mem_watchConflicts.mpr ⟨hd, (hi.index.session _ d).mpr ⟨q, placeOf_some.mpr ⟨e, he, heq⟩, hs⟩⟩)
  refine ⟨entry, _, hc, hreleases, hc₁, ?_, hsame.evicted, hsame.channels, ?_⟩
  · show (unmap _ c entry).connections.insert c _ = _
    rw [hsame.connections]
  · let next : ConnectionEntry := { entry with attachment := none, joinWatch := some ⟨roomId, entry.sessionId⟩ }
    refine hi₁.move (p := ⟨roomId, entry.sessionId, none⟩) hc₁ (⟨.inl rfl, nofun, ?_⟩ : EntryOk next) rfl hfree (fun _ _ _ _ _ _ => nofun) ?_ rfl rfl
      fun route => (if_neg nofun).symm
    · rintro _ ⟨⟩
      rfl
    · show (unmap _ c entry).connections.insert c _ = _
      rw [hsame.connections]

/-! ## The other operations -/

theorem register_indexed (hi : Indexed hub) (hc : hub.connections[c]? = none) (sessionId : SessionId) :
    Indexed (hub.register c sessionId) := by
  have hconnections : (hub.register c sessionId).connections =
      hub.connections.insert c { sessionId, attachment := none, joinWatch := none } := rfl
  refine ⟨?_, entries_insert hconnections ⟨.inl rfl, nofun, nofun⟩ hi.entry⟩
  have hplace : hub.placeOf c = none := by rw [placeOf, hc, Option.bind_none]
  rw [placeOf_insert hconnections]
  show IndexedBy (Function.update hub.placeOf c none) _
  rw [Function.update_eq_self_iff.mpr hplace.symm]
  exact ⟨hi.index.session, hi.index.peer, hi.index.member, hi.index.set⟩

theorem detach_ok {attachment : Option Attachment} (h : hub.detach c = .ok (attachment, hub')) :
    ∃ entry, hub.connections[c]? = some entry ∧ attachment = entry.attachment ∧
      hub'.connections = hub.connections.insert c { entry with attachment := none, joinWatch := none } ∧
      hub'.evictedAttachments = hub.evictedAttachments ∧ hub'.channels = hub.channels ∧
      (Indexed hub → Indexed hub') := by
  unfold detach at h
  split at h
  · cases h
  rename_i entry hc
  have hresult := Prod.mk.inj (Except.ok.inj h)
  obtain ⟨rfl, hhub⟩ := hresult
  have hsame := unmap_same
    { hub with connections := hub.connections.insert c { entry with attachment := none, joinWatch := none } } c entry
  rw [unmap, hhub] at hsame
  refine ⟨entry, hc, rfl, hsame.connections, hsame.evicted, hsame.channels, fun hi => ⟨?_, ?_⟩⟩
  · have hplace : hub.placeOf c = entry.place := by rw [placeOf, hc, Option.bind_some]
    have hindex : IndexedBy hub.placeOf
        { hub with connections := hub.connections.insert c { entry with attachment := none, joinWatch := none } } :=
      ⟨hi.index.session, hi.index.peer, hi.index.member, hi.index.set⟩
    have hvacated := hindex.vacate (hi.entry c entry hc) hplace
    rw [unmap, hhub] at hvacated
    rw [placeOf_insert hsame.connections]
    exact hvacated
  · exact entries_insert hsame.connections ⟨.inl rfl, nofun, nofun⟩ hi.entry

theorem unregister_spec (hub : HubState) (c : ConnectionId) :
    (hub.unregister c).2.connections = hub.connections.erase c ∧ (hub.unregister c).2.channels = hub.channels ∧
      (hub.unregister c).1 = (hub.attachmentOf c).or hub.evictedAttachments[c]? ∧
      (∀ d ≠ c, (hub.unregister c).2.evictedAttachments[d]? = hub.evictedAttachments[d]?) ∧
      (∀ (d : ConnectionId) a, (hub.unregister c).2.evictedAttachments[d]? = some a →
        hub.evictedAttachments[d]? = some a) ∧
      (Indexed hub → Indexed (hub.unregister c).2) := by
  cases hc : hub.connections[c]? with
  | none =>
    have hunregister : hub.unregister c =
        (hub.evictedAttachments[c]?, { hub with evictedAttachments := hub.evictedAttachments.erase c }) := by
      unfold unregister
      rw [removeConnectionLocked_none hc]
    have herase : hub.connections = hub.connections.erase c := by
      refine Std.ExtTreeMap.ext_getElem? fun {d} => ?_
      rw [BTreeMap.getElem?_erase]
      split
      · rename_i hd
        rw [← hd, hc]
      · rfl
    rw [hunregister]
    refine ⟨herase, rfl, ?_, fun d hd => ?_, fun d a hd => ?_, fun hi => ⟨?_, hi.entry⟩⟩
    · rw [attachmentOf, hc, Option.bind_none, Option.none_or]
    · show (hub.evictedAttachments.erase c)[d]? = _
      rw [BTreeMap.getElem?_erase, if_neg (Ne.symm hd)]
    · have hd : (hub.evictedAttachments.erase c)[d]? = some a := hd
      rw [BTreeMap.getElem?_erase] at hd
      split at hd
      · cases hd
      · exact hd
    · exact ⟨hi.index.session, hi.index.peer, hi.index.member, hi.index.set⟩
  | some entry =>
    obtain ⟨hconnections, hevicted, hchannels, -, hindexed⟩ := unmap_erase hc
    have hremove := removeConnectionLocked_some hc
    have hattachment : hub.attachmentOf c = entry.attachment := by rw [attachmentOf, hc, Option.bind_some]
    generalize ({ hub with connections := hub.connections.erase c }).unmap c entry = removed
      at hconnections hevicted hchannels hindexed hremove
    cases ha : entry.attachment with
    | none =>
      have hunregister : hub.unregister c =
          (removed.evictedAttachments[c]?, { removed with evictedAttachments := removed.evictedAttachments.erase c }) := by
        unfold unregister
        rw [hremove, ha]
      rw [hunregister]
      refine ⟨hconnections, hchannels, ?_, fun d hd => ?_, fun d a hd => ?_, fun hi => ?_⟩
      · rw [hattachment, ha, Option.none_or, ← hevicted]
      · show (removed.evictedAttachments.erase c)[d]? = _
        rw [BTreeMap.getElem?_erase, if_neg (Ne.symm hd), hevicted]
      · have hd : (removed.evictedAttachments.erase c)[d]? = some a := hd
        rw [BTreeMap.getElem?_erase, hevicted] at hd
        split at hd
        · cases hd
        · exact hd
      · have := hindexed hi
        exact ⟨⟨this.index.session, this.index.peer, this.index.member, this.index.set⟩, this.entry⟩
    | some attachment =>
      have hunregister : hub.unregister c = (some attachment, removed) := by
        unfold unregister
        rw [hremove, ha]
      rw [hunregister]
      refine ⟨hconnections, hchannels, ?_, fun d _ => by rw [hevicted], fun d a hd => by rwa [hevicted] at hd, hindexed⟩
      rw [hattachment, ha, Option.some_or]

/-- What sending does, whoever `target` is: nothing but to its channel, or its eviction. -/
theorem sendOrEvict_spec (hub : HubState) (target : ConnectionId) (outbound : Outbound) (onClosed : HubError) :
    let sent := hub.sendOrEvict target outbound onClosed
    (∃ released, Releases hub sent.2 released) ∧
      (∀ d ≠ target, sent.2.connections[d]? = hub.connections[d]?) ∧
      (sent.1 = .ok () → ∃ channels, sent.2 = { hub with channels }) ∧
      (∀ error, sent.1 = .error error → error = .slowConsumer ∨ error = onClosed) := by
  unfold sendOrEvict
  have hother : ∀ d ≠ target, (hub.evictConnectionLocked target).2.connections[d]? = hub.connections[d]? := by
    intro d hd
    rw [(evictConnectionLocked_spec hub target).2.2.2.1, BTreeMap.getElem?_erase, if_neg (Ne.symm hd)]
  cases hsend : hub.trySend target outbound with
  | ok hub' =>
    obtain ⟨channels, rfl⟩ := trySend_ok hsend
    exact ⟨⟨[], .of_channels hub channels⟩, fun _ _ => rfl, fun _ => ⟨channels, rfl⟩, nofun⟩
  | error error =>
    cases error with
    | full =>
      exact ⟨⟨_, (evictConnectionLocked_spec hub target).1⟩, hother, nofun, by rintro _ ⟨⟩; exact .inl rfl⟩
    | closed =>
      exact ⟨⟨_, (evictConnectionLocked_spec hub target).1⟩, hother, nofun, by rintro _ ⟨⟩; exact .inr rfl⟩

theorem send_spec (hub : HubState) (c : ConnectionId) (outbound : Outbound) :
    (∃ released, Releases hub (hub.send c outbound).2 released) ∧
      (∀ d ≠ c, (hub.send c outbound).2.connections[d]? = hub.connections[d]?) ∧
      ((hub.send c outbound).1 = .ok () → ∃ channels, (hub.send c outbound).2 = { hub with channels }) ∧
      (∀ error, (hub.send c outbound).1 = .error error → error = .slowConsumer ∨ error = .connectionNotFound) := by
  unfold send
  split
  · exact sendOrEvict_spec hub c outbound .connectionNotFound
  · exact ⟨⟨[], .refl hub⟩, fun _ _ => rfl, nofun, by rintro _ ⟨⟩; exact .inr rfl⟩

theorem sendToPeer_spec (hub : HubState) (c : ConnectionId) (toPeerId : PeerId) (message : ServerRealtimeMessage) :
    (∃ released, Releases hub (hub.sendToPeer c toPeerId message).2 released) ∧
      ((∀ target a, hub.attachmentOf target = some a → a.peerId = toPeerId →
        ∃ hub', hub.trySend target (.message message) = .ok hub') → Indexed hub →
        ∃ channels, (hub.sendToPeer c toPeerId message).2 = { hub with channels }) := by
  unfold sendToPeer
  split
  · exact ⟨⟨[], .refl hub⟩, fun _ _ => ⟨hub.channels, rfl⟩⟩
  split
  · exact ⟨⟨[], .refl hub⟩, fun _ _ => ⟨hub.channels, rfl⟩⟩
  split
  · exact ⟨⟨[], .refl hub⟩, fun _ _ => ⟨hub.channels, rfl⟩⟩
  rename_i target htarget
  split
  · refine ⟨(sendOrEvict_spec hub target _ _).1, fun hroom hi => ?_⟩
    obtain ⟨p, hp, hroute⟩ := (hi.index.peer _ target).mp htarget
    obtain ⟨entry, hentry, hplace⟩ := placeOf_some.mp hp
    have hattached : ∃ a, entry.attachment = some a ∧ a.peerId = toPeerId := by
      cases ha : entry.attachment with
      | none =>
        rw [ConnectionEntry.place, ha] at hplace
        obtain ⟨w, -, rfl⟩ := Option.map_eq_some_iff.mp hplace
        cases hroute
      | some a =>
        rw [ConnectionEntry.place, ha] at hplace
        cases hplace
        exact ⟨a, rfl, congrArg Route.name (Option.some.inj hroute)⟩
    obtain ⟨a, ha, hpeer⟩ := hattached
    obtain ⟨hub', hsend⟩ := hroom target a (attachmentOf_some.mpr ⟨entry, hentry, ha⟩) hpeer
    rw [sendOrEvict, hsend]
    exact trySend_ok hsend
  · exact ⟨⟨[], .refl hub⟩, fun _ _ => ⟨hub.channels, rfl⟩⟩

theorem take_channels (hub : HubState) (c : ConnectionId) : ∃ channels, hub.take c = { hub with channels } := by
  unfold take
  split
  · exact ⟨hub.channels, rfl⟩
  · exact ⟨_, rfl⟩

theorem closeReceiver_channels (hub : HubState) (c : ConnectionId) :
    ∃ channels, hub.closeReceiver c = { hub with channels } := by
  unfold closeReceiver
  split
  · exact ⟨hub.channels, rfl⟩
  · exact ⟨_, rfl⟩

theorem new_indexed (queueCapacity : Nat) : Indexed (HubState.new queueCapacity) := by
  have hplace : ∀ c, (HubState.new queueCapacity).placeOf c = none := fun c => by
    show (∅ : BTreeMap ConnectionId ConnectionEntry)[c]?.bind _ = none
    rw [Std.ExtTreeMap.getElem?_empty, Option.bind_none]
  refine ⟨⟨fun route c => ?_, fun route c => ?_, fun roomId c => ?_, fun roomId cs h => ?_⟩, fun c entry h => ?_⟩
  · rw [hplace]
    simp [HubState.new]
  · rw [hplace]
    simp [HubState.new]
  · rw [hplace]
    simp [HubState.new, connectionsOf]
  · simp [HubState.new] at h
  · simp [HubState.new] at h

end HubState

end P2PTransmission
