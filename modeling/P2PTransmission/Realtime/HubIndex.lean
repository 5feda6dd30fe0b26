import P2PTransmission.Realtime.Hub

/-!
# The indexes of the hub

A connection that is attached or watches has a `Place`: a room, its session, and its peer id when it is attached. The
routes and the room sets are indexes over these places. `IndexedBy place hub` says that they list exactly the places that
`place` gives; an operation takes a connection off its place (`IndexedBy.vacate`) or puts it on a free one
(`IndexedBy.occupy`), and `Indexed` is what every operation keeps.
-/

set_option autoImplicit false

namespace P2PTransmission

/-! ## Places -/

structure Place where
  roomId : RoomId
  sessionId : SessionId
  peerId : Option PeerId
  deriving DecidableEq

namespace Place

def sessionRoute (place : Place) : Route "session id" := { roomId := place.roomId, name := place.sessionId }

def peerRoute (place : Place) : Option (Route "peer id") :=
  place.peerId.map fun peerId => { roomId := place.roomId, name := peerId }

end Place

def Attachment.place (attachment : Attachment) : Place :=
  { roomId := attachment.roomId, sessionId := attachment.sessionId, peerId := some attachment.peerId }

def JoinWatch.place (watch : JoinWatch) : Place :=
  { roomId := watch.roomId, sessionId := watch.sessionId, peerId := none }

def ConnectionEntry.place (entry : ConnectionEntry) : Option Place :=
  match entry.attachment with
  | some attachment => some attachment.place
  | none => entry.joinWatch.map (·.place)

namespace HubState

def placeOf (hub : HubState) (c : ConnectionId) : Option Place := hub.connections[c]?.bind (·.place)

structure IndexedBy (place : ConnectionId → Option Place) (hub : HubState) : Prop where
  session : ∀ (route : Route "session id") (c : ConnectionId), hub.sessionRoutes[route]? = some c ↔
    ∃ p, place c = some p ∧ p.sessionRoute = route
  peer : ∀ (route : Route "peer id") (c : ConnectionId), hub.peerRoutes[route]? = some c ↔
    ∃ p, place c = some p ∧ p.peerRoute = some route
  member : ∀ (roomId : RoomId) (c : ConnectionId), c ∈ hub.connectionsOf roomId ↔
    ∃ p, place c = some p ∧ p.roomId = roomId
  set : ∀ (roomId : RoomId) (connections : List ConnectionId), hub.roomConnections[roomId]? = some connections →
    connections.Nodup ∧ connections ≠ []

/-- An entry is not attached and watching at once, and both are under its own session. -/
structure EntryOk (entry : ConnectionEntry) : Prop where
  exclusive : entry.attachment = none ∨ entry.joinWatch = none
  attachment : ∀ a, entry.attachment = some a → a.sessionId = entry.sessionId
  watch : ∀ w, entry.joinWatch = some w → w.sessionId = entry.sessionId

structure Indexed (hub : HubState) : Prop where
  index : IndexedBy hub.placeOf hub
  entry : ∀ (c : ConnectionId) (entry : ConnectionEntry), hub.connections[c]? = some entry → EntryOk entry

/-! ## What the mappings leave alone -/

/-- The entries and the channels are the same; only the indexes may differ. -/
structure SameEntries (hub hub' : HubState) : Prop where
  connections : hub'.connections = hub.connections
  evicted : hub'.evictedAttachments = hub.evictedAttachments
  channels : hub'.channels = hub.channels
  capacity : hub'.queueCapacity = hub.queueCapacity

variable {hub hub' hub'' : HubState} {c d : ConnectionId} {place : ConnectionId → Option Place}

theorem SameEntries.refl (hub : HubState) : SameEntries hub hub := ⟨rfl, rfl, rfl, rfl⟩

theorem SameEntries.trans (h : SameEntries hub hub') (h' : SameEntries hub' hub'') : SameEntries hub hub'' :=
  ⟨h'.connections.trans h.connections, h'.evicted.trans h.evicted, h'.channels.trans h.channels,
    h'.capacity.trans h.capacity⟩

theorem leaveRoomConnections_same (hub : HubState) (c : ConnectionId) (roomId : RoomId) :
    SameEntries hub (hub.leaveRoomConnections c roomId) := by
  unfold leaveRoomConnections
  split
  · exact .refl hub
  · split <;> exact ⟨rfl, rfl, rfl, rfl⟩

theorem dropSessionRoute_same (hub : HubState) (c : ConnectionId) (roomId : RoomId) (sessionId : SessionId) :
    SameEntries hub (hub.dropSessionRoute c roomId sessionId) := by
  unfold dropSessionRoute
  split <;> exact ⟨rfl, rfl, rfl, rfl⟩

theorem dropPeerRoute_same (hub : HubState) (c : ConnectionId) (roomId : RoomId) (peerId : PeerId) :
    SameEntries hub (hub.dropPeerRoute c roomId peerId) := by
  unfold dropPeerRoute
  split <;> exact ⟨rfl, rfl, rfl, rfl⟩

theorem detachMappings_same (hub : HubState) (c : ConnectionId) (a : Attachment) :
    SameEntries hub (hub.detachMappings c a) :=
  ((dropSessionRoute_same hub c _ _).trans (dropPeerRoute_same _ c _ _)).trans (leaveRoomConnections_same _ c _)

theorem detachWatchMappings_same (hub : HubState) (c : ConnectionId) (w : JoinWatch) :
    SameEntries hub (hub.detachWatchMappings c w) :=
  (dropSessionRoute_same hub c _ _).trans (leaveRoomConnections_same _ c _)

/-- The mappings of an entry, taken off together. -/
def unmap (hub : HubState) (c : ConnectionId) (entry : ConnectionEntry) : HubState :=
  (hub.detachMappings? c entry.attachment).detachWatchMappings? c entry.joinWatch

theorem unmap_same (hub : HubState) (c : ConnectionId) (entry : ConnectionEntry) :
    SameEntries hub (hub.unmap c entry) := by
  have hfirst : SameEntries hub (hub.detachMappings? c entry.attachment) := by
    cases entry.attachment with
    | none => exact .refl hub
    | some a => exact detachMappings_same hub c a
  refine hfirst.trans ?_
  unfold unmap
  cases entry.joinWatch with
  | none => exact .refl _
  | some w => exact detachWatchMappings_same _ c w

/-! ## The indexes one by one -/

theorem dropSessionRoute_routes (hub : HubState) (c : ConnectionId) (roomId : RoomId) (sessionId : SessionId)
    (route : Route "session id") (d : ConnectionId) :
    (hub.dropSessionRoute c roomId sessionId).sessionRoutes[route]? = some d ↔
      hub.sessionRoutes[route]? = some d ∧ ¬(d = c ∧ route = ⟨roomId, sessionId⟩) := by
  unfold dropSessionRoute
  split
  · rename_i h
    show (hub.sessionRoutes.erase ⟨roomId, sessionId⟩)[route]? = some d ↔ _
    rw [BTreeMap.getElem?_erase]
    by_cases hr : (⟨roomId, sessionId⟩ : Route "session id") = route
    · subst hr
      rw [if_pos rfl, h]
      simp [eq_comm]
    · rw [if_neg hr]
      simp [Ne.symm hr]
  · rename_i h
    constructor
    · intro hd
      refine ⟨hd, ?_⟩
      rintro ⟨rfl, rfl⟩
      exact h hd
    · exact And.left

theorem dropPeerRoute_routes (hub : HubState) (c : ConnectionId) (roomId : RoomId) (peerId : PeerId)
    (route : Route "peer id") (d : ConnectionId) :
    (hub.dropPeerRoute c roomId peerId).peerRoutes[route]? = some d ↔
      hub.peerRoutes[route]? = some d ∧ ¬(d = c ∧ route = ⟨roomId, peerId⟩) := by
  unfold dropPeerRoute
  split
  · rename_i h
    show (hub.peerRoutes.erase ⟨roomId, peerId⟩)[route]? = some d ↔ _
    rw [BTreeMap.getElem?_erase]
    by_cases hr : (⟨roomId, peerId⟩ : Route "peer id") = route
    · subst hr
      rw [if_pos rfl, h]
      simp [eq_comm]
    · rw [if_neg hr]
      simp [Ne.symm hr]
  · rename_i h
    constructor
    · intro hd
      refine ⟨hd, ?_⟩
      rintro ⟨rfl, rfl⟩
      exact h hd
    · exact And.left

theorem dropSessionRoute_rest (hub : HubState) (c : ConnectionId) (roomId : RoomId) (sessionId : SessionId) :
    (hub.dropSessionRoute c roomId sessionId).peerRoutes = hub.peerRoutes ∧
      (hub.dropSessionRoute c roomId sessionId).roomConnections = hub.roomConnections := by
  unfold dropSessionRoute
  split <;> exact ⟨rfl, rfl⟩

theorem dropPeerRoute_rest (hub : HubState) (c : ConnectionId) (roomId : RoomId) (peerId : PeerId) :
    (hub.dropPeerRoute c roomId peerId).sessionRoutes = hub.sessionRoutes ∧
      (hub.dropPeerRoute c roomId peerId).roomConnections = hub.roomConnections := by
  unfold dropPeerRoute
  split <;> exact ⟨rfl, rfl⟩

theorem leaveRoomConnections_rest (hub : HubState) (c : ConnectionId) (roomId : RoomId) :
    (hub.leaveRoomConnections c roomId).sessionRoutes = hub.sessionRoutes ∧
      (hub.leaveRoomConnections c roomId).peerRoutes = hub.peerRoutes := by
  unfold leaveRoomConnections
  split
  · exact ⟨rfl, rfl⟩
  · split <;> exact ⟨rfl, rfl⟩

/-- The sets of the rooms have no duplicates and are not empty. -/
def SetsOk (hub : HubState) : Prop :=
  ∀ (roomId : RoomId) (connections : List ConnectionId), hub.roomConnections[roomId]? = some connections →
    connections.Nodup ∧ connections ≠ []

theorem SetsOk.nodup (h : SetsOk hub) (roomId : RoomId) : (hub.connectionsOf roomId).Nodup := by
  unfold connectionsOf
  cases hr : hub.roomConnections[roomId]? with
  | none => exact List.nodup_nil
  | some connections => exact (h roomId connections hr).1

theorem leaveRoomConnections_member (h : SetsOk hub) (c : ConnectionId) (roomId other : RoomId) (d : ConnectionId) :
    d ∈ (hub.leaveRoomConnections c roomId).connectionsOf other ↔
      d ∈ hub.connectionsOf other ∧ ¬(d = c ∧ other = roomId) := by
  unfold leaveRoomConnections
  split
  · rename_i hr
    constructor
    · intro hd
      refine ⟨hd, ?_⟩
      rintro ⟨rfl, rfl⟩
      rw [connectionsOf, hr] at hd
      exact absurd hd List.not_mem_nil
    · exact And.left
  rename_i connections hr
  have hnodup := (h roomId connections hr).1
  split
  · rename_i hempty
    rw [List.isEmpty_iff] at hempty
    show d ∈ (hub.roomConnections.erase roomId)[other]?.getD [] ↔ _
    rw [BTreeMap.getElem?_erase]
    by_cases ho : roomId = other
    · subst ho
      have hc : ∀ e ∈ connections, e = c := by
        intro e he
        by_contra hne
        have : e ∈ connections.erase c := (List.mem_erase_of_ne hne).mpr he
        rw [hempty] at this
        exact absurd this List.not_mem_nil
      rw [if_pos rfl, connectionsOf, hr]
      constructor
      · exact fun hd => absurd hd List.not_mem_nil
      · rintro ⟨hd, hne⟩
        exact absurd ⟨hc d hd, rfl⟩ hne
    · rw [if_neg ho, connectionsOf]
      simp [Ne.symm ho]
  · show d ∈ (hub.roomConnections.insert roomId (connections.erase c))[other]?.getD [] ↔ _
    rw [BTreeMap.getElem?_insert]
    by_cases ho : roomId = other
    · subst ho
      rw [if_pos rfl, connectionsOf, hr]
      show d ∈ connections.erase c ↔ d ∈ connections ∧ _
      rw [hnodup.mem_erase_iff]
      simp [and_comm]
    · rw [if_neg ho, connectionsOf]
      simp [Ne.symm ho]

theorem leaveRoomConnections_sets (h : SetsOk hub) (c : ConnectionId) (roomId : RoomId) :
    SetsOk (hub.leaveRoomConnections c roomId) := by
  unfold leaveRoomConnections
  split
  · exact h
  rename_i connections hr
  split
  · intro other cs hcs
    have hcs : (hub.roomConnections.erase roomId)[other]? = some cs := hcs
    rw [BTreeMap.getElem?_erase] at hcs
    split at hcs
    · cases hcs
    · exact h other cs hcs
  · rename_i hempty
    intro other cs hcs
    have hcs : (hub.roomConnections.insert roomId (connections.erase c))[other]? = some cs := hcs
    rw [BTreeMap.getElem?_insert] at hcs
    split at hcs
    · cases hcs
      exact ⟨(h roomId connections hr).1.erase c, fun he => hempty (by rw [he]; rfl)⟩
    · exact h other cs hcs

/-! ## Leaving a place -/

/-- What an index lists once the entries of `c`, which all meet `g`, are dropped. -/
theorem dropped_iff {κ : Type} {K : Place → κ → Prop} {g : κ → Prop} {p : Place} (hc : place c = some p)
    (hgone : ∀ k, K p k → g k) (k : κ) (d : ConnectionId) :
    ((∃ q, place d = some q ∧ K q k) ∧ ¬(d = c ∧ g k)) ↔ ∃ q, Function.update place c none d = some q ∧ K q k := by
  by_cases hd : d = c
  · subst hd
    rw [Function.update_self]
    constructor
    · rintro ⟨⟨q, hq, hk⟩, hne⟩
      rw [hc] at hq
      cases hq
      exact absurd ⟨rfl, hgone k hk⟩ hne
    · rintro ⟨q, hq, -⟩
      cases hq
  · rw [Function.update_of_ne hd]
    constructor
    · exact And.left
    · exact fun h => ⟨h, fun hne => hd hne.1⟩

/-- Off the place of a watch. -/
theorem IndexedBy.vacate_watch (h : IndexedBy place hub) {w : JoinWatch} (hc : place c = some w.place) :
    IndexedBy (Function.update place c none) (hub.detachWatchMappings c w) := by
  have hsets : SetsOk (hub.dropSessionRoute c w.roomId w.sessionId) := by
    rw [SetsOk, (dropSessionRoute_rest hub c w.roomId w.sessionId).2]
    exact h.set
  constructor
  · intro route d
    show (leaveRoomConnections _ c w.roomId).sessionRoutes[route]? = _ ↔ _
    rw [(leaveRoomConnections_rest _ c w.roomId).1, dropSessionRoute_routes, h.session]
    exact dropped_iff (K := fun p route => p.sessionRoute = route) hc (fun _ hk => hk.symm) route d
  · intro route d
    show (leaveRoomConnections _ c w.roomId).peerRoutes[route]? = _ ↔ _
    rw [(leaveRoomConnections_rest _ c w.roomId).2, (dropSessionRoute_rest hub c _ _).1, h.peer]
    rw [← dropped_iff (K := fun p route => p.peerRoute = some route) (g := fun _ => False) hc nofun route d]
    simp only [and_false, not_false_eq_true, and_true]
  · intro roomId d
    have hrest : (hub.dropSessionRoute c w.roomId w.sessionId).connectionsOf roomId = hub.connectionsOf roomId := by
      rw [connectionsOf, (dropSessionRoute_rest hub c _ _).2, connectionsOf]
    show d ∈ (leaveRoomConnections _ c w.roomId).connectionsOf roomId ↔ _
    rw [leaveRoomConnections_member hsets, hrest, h.member]
    exact dropped_iff (K := fun p roomId => p.roomId = roomId) hc (fun _ hk => hk.symm) roomId d
  · exact leaveRoomConnections_sets hsets c w.roomId

/-- Off the place of an attachment. -/
theorem IndexedBy.vacate_attachment (h : IndexedBy place hub) {a : Attachment} (hc : place c = some a.place) :
    IndexedBy (Function.update place c none) (hub.detachMappings c a) := by
  have hroom : ((hub.dropSessionRoute c a.roomId a.sessionId).dropPeerRoute c a.roomId a.peerId).roomConnections =
      hub.roomConnections := by
    rw [(dropPeerRoute_rest _ c _ _).2, (dropSessionRoute_rest hub c _ _).2]
  have hsets : SetsOk ((hub.dropSessionRoute c a.roomId a.sessionId).dropPeerRoute c a.roomId a.peerId) := by
    rw [SetsOk, hroom]
    exact h.set
  constructor
  · intro route d
    show (leaveRoomConnections _ c a.roomId).sessionRoutes[route]? = _ ↔ _
    rw [(leaveRoomConnections_rest _ c a.roomId).1, (dropPeerRoute_rest _ c _ _).1, dropSessionRoute_routes, h.session]
    exact dropped_iff (K := fun p route => p.sessionRoute = route) hc (fun _ hk => hk.symm) route d
  · intro route d
    show (leaveRoomConnections _ c a.roomId).peerRoutes[route]? = _ ↔ _
    rw [(leaveRoomConnections_rest _ c a.roomId).2, dropPeerRoute_routes, (dropSessionRoute_rest hub c _ _).1, h.peer]
    exact dropped_iff (K := fun p route => p.peerRoute = some route) hc (fun _ hk => (Option.some.inj hk).symm) route d
  · intro roomId d
    have hrest : ((hub.dropSessionRoute c a.roomId a.sessionId).dropPeerRoute c a.roomId a.peerId).connectionsOf roomId =
        hub.connectionsOf roomId := by rw [connectionsOf, hroom, connectionsOf]
    show d ∈ (leaveRoomConnections _ c a.roomId).connectionsOf roomId ↔ _
    rw [leaveRoomConnections_member hsets, hrest, h.member]
    exact dropped_iff (K := fun p roomId => p.roomId = roomId) hc (fun _ hk => hk.symm) roomId d
  · exact leaveRoomConnections_sets hsets c a.roomId

/-- Off whatever place an entry gives. -/
theorem IndexedBy.vacate (h : IndexedBy place hub) {entry : ConnectionEntry} (hok : EntryOk entry)
    (hc : place c = entry.place) : IndexedBy (Function.update place c none) (hub.unmap c entry) := by
  unfold unmap
  rcases ha : entry.attachment with _ | a
  · rcases hw : entry.joinWatch with _ | w
    · rw [ConnectionEntry.place, ha, hw] at hc
      rw [Function.update_eq_self_iff.mpr hc.symm]
      exact h
    · rw [ConnectionEntry.place, ha, hw] at hc
      exact h.vacate_watch hc
  · have hw : entry.joinWatch = none := hok.exclusive.resolve_left (by rw [ha]; exact Option.some_ne_none a)
    rw [hw]
    rw [ConnectionEntry.place, ha] at hc
    exact h.vacate_attachment hc

/-! ## Taking a place -/

/-- On a place whose session and whose peer id are free. -/
theorem IndexedBy.occupy (h : IndexedBy place hub) {p : Place} (hc : place c = none)
    (hsession : ∀ d q, place d = some q → q.sessionRoute ≠ p.sessionRoute)
    (hpeer : ∀ d q route, place d = some q → q.peerRoute = some route → p.peerRoute ≠ some route)
    (hroom : hub'.roomConnections = (hub.enterRoomConnections c p.roomId).roomConnections)
    (hsessions : hub'.sessionRoutes = hub.sessionRoutes.insert p.sessionRoute c)
    (hpeers : ∀ route : Route "peer id", hub'.peerRoutes[route]? =
      if p.peerRoute = some route then some c else hub.peerRoutes[route]?) :
    IndexedBy (Function.update place c (some p)) hub' := by
  have hother : ∀ d q, Function.update place c (some p) d = some q ↔ d = c ∧ p = q ∨ place d = some q := by
    intro d q
    by_cases hd : d = c
    · subst hd
      simp [hc]
    · simp [Function.update_of_ne hd, hd]
  constructor
  · intro route d
    rw [hsessions, BTreeMap.getElem?_insert]
    by_cases hr : p.sessionRoute = route
    · rw [if_pos hr]
      constructor
      · intro hd
        cases hd
        exact ⟨p, (hother c p).mpr (.inl ⟨rfl, rfl⟩), hr⟩
      · rintro ⟨q, hq, hroute⟩
        rcases (hother d q).mp hq with ⟨rfl, -⟩ | hq
        · rfl
        · exact absurd (hroute.trans hr.symm) (hsession d q hq)
    · rw [if_neg hr, h.session]
      constructor
      · rintro ⟨q, hq, hroute⟩
        exact ⟨q, (hother d q).mpr (.inr hq), hroute⟩
      · rintro ⟨q, hq, hroute⟩
        rcases (hother d q).mp hq with ⟨-, rfl⟩ | hq
        · exact absurd hroute hr
        · exact ⟨q, hq, hroute⟩
  · intro route d
    rw [hpeers]
    by_cases hr : p.peerRoute = some route
    · rw [if_pos hr]
      constructor
      · intro hd
        cases hd
        exact ⟨p, (hother c p).mpr (.inl ⟨rfl, rfl⟩), hr⟩
      · rintro ⟨q, hq, hroute⟩
        rcases (hother d q).mp hq with ⟨rfl, -⟩ | hq
        · rfl
        · exact absurd hr (hpeer d q route hq hroute)
    · rw [if_neg hr, h.peer]
      constructor
      · rintro ⟨q, hq, hroute⟩
        exact ⟨q, (hother d q).mpr (.inr hq), hroute⟩
      · rintro ⟨q, hq, hroute⟩
        rcases (hother d q).mp hq with ⟨-, rfl⟩ | hq
        · exact absurd hroute hr
        · exact ⟨q, hq, hroute⟩
  · intro roomId d
    have hmember : d ∈ hub'.connectionsOf roomId ↔
        d ∈ hub.connectionsOf roomId ∨ d = c ∧ p.roomId = roomId := by
      rw [connectionsOf, hroom]
      show d ∈ (hub.roomConnections.insert p.roomId _)[roomId]?.getD [] ↔ _
      rw [BTreeMap.getElem?_insert]
      by_cases hr : p.roomId = roomId
      · subst hr
        rw [if_pos rfl]
        show d ∈ (hub.connectionsOf p.roomId).insert c ↔ _
        rw [List.mem_insert_iff]
        simp [or_comm]
      · rw [if_neg hr]
        simp [hr, connectionsOf]
    rw [hmember, h.member]
    constructor
    · rintro (⟨q, hq, hr⟩ | ⟨rfl, hr⟩)
      · exact ⟨q, (hother d q).mpr (.inr hq), hr⟩
      · exact ⟨p, (hother d p).mpr (.inl ⟨rfl, rfl⟩), hr⟩
    · rintro ⟨q, hq, hr⟩
      rcases (hother d q).mp hq with ⟨rfl, rfl⟩ | hq
      · exact .inr ⟨rfl, hr⟩
      · exact .inl ⟨q, hq, hr⟩
  · intro roomId connections hconnections
    rw [hroom] at hconnections
    have hconnections : (hub.roomConnections.insert p.roomId ((hub.connectionsOf p.roomId).insert c))[roomId]? =
      some connections := hconnections
    rw [BTreeMap.getElem?_insert] at hconnections
    split at hconnections
    · cases hconnections
      exact ⟨(SetsOk.nodup h.set p.roomId).insert, List.ne_nil_of_mem List.mem_insert_self⟩
    · exact h.set roomId connections hconnections

end HubState

end P2PTransmission
