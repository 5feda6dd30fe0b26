import P2PTransmission.Domain.Effect

/-!
# The invariant of rooms

`verifyInvariants` alone is not inductive: approving a request of the owner would overwrite the owner's membership. The
inductive invariant `Standing` adds how requests and memberships exclude each other. Every effect keeps it
(`Standing.effect`), so it holds of a created room after every sequence of commands (`created_room_standing`).

Two things only move forward: a request that has left `pending` keeps its state, and an expired room stays expired
(`Settled`).
-/

set_option autoImplicit false

namespace P2PTransmission

namespace Room

variable {room next : Room} {command : RoomCommand}

/-! ## Reading a changed room -/

theorem memberships_setMembership (room : Room) (sessionId a : SessionId) (membership : Membership) :
    (room.setMembership sessionId membership).memberships[a]? =
      if sessionId = a then some membership else room.memberships[a]? :=
  BTreeMap.getElem?_insert a sessionId membership

theorem joinRequests_setJoinRequest (room : Room) (requestId a : RequestId) (request : JoinRequest) :
    (room.setJoinRequest requestId request).joinRequests[a]? =
      if requestId = a then some request else room.joinRequests[a]? :=
  BTreeMap.getElem?_insert a requestId request

theorem joinRequests_expire (room : Room) (a : RequestId) :
    (room.joinRequests.map fun _ request => expirePending request)[a]? = room.joinRequests[a]?.map expirePending :=
  BTreeMap.getElem?_map_values

@[simp] theorem expirePending_sessionId (request : JoinRequest) :
    (expirePending request).sessionId = request.sessionId := by
  unfold expirePending; split <;> rfl

@[simp] theorem expirePending_expiresAt (request : JoinRequest) :
    (expirePending request).expiresAt = request.expiresAt := by
  unfold expirePending; split <;> rfl

theorem expirePending_not_pending (request : JoinRequest) : (expirePending request).state ≠ .pending := by
  unfold expirePending
  split
  · simp
  · assumption

theorem expirePending_of_settled {request : JoinRequest} (h : request.state ≠ .pending) :
    expirePending request = request := if_neg h

/-- Expiry makes no request approved that was not. -/
theorem expirePending_approved {request : JoinRequest} (h : (expirePending request).state = .approved) :
    request.state = .approved := by
  unfold expirePending at h
  split at h
  · cases h
  · exact h

/-! ## What `verifyInvariants` checks -/

structure Verified (room : Room) : Prop where
  revision : room.revision ≠ 0
  owner : ∃ membership, room.memberships[room.owner]? = some membership ∧ membership.role = .owner ∧
    membership.state ≠ .left
  receivers : ∀ (sessionId : SessionId) (membership : Membership), room.memberships[sessionId]? = some membership →
    sessionId ≠ room.owner → membership.role = .receiver
  approved : ∀ (requestId : RequestId) (request : JoinRequest), room.joinRequests[requestId]? = some request →
    request.state = .approved →
    ∃ membership, room.memberships[request.sessionId]? = some membership ∧ membership.role = .receiver

theorem verifyInvariants_iff : room.verifyInvariants = .ok () ↔ Verified room := by
  constructor
  · intro h
    unfold verifyInvariants at h
    split at h
    · cases h
    rename_i hrevision
    split at h
    · cases h
    rename_i owner howner
    split at h
    · cases h
    rename_i hrole
    rw [not_or, not_not] at hrole
    split at h
    · cases h
    rename_i hreceivers
    split at h
    · cases h
    rename_i happroved
    rw [Bool.not_eq_true] at hreceivers happroved
    refine ⟨hrevision, ⟨owner, howner, hrole⟩, fun s m hm hs => ?_, fun q r hr ha => ?_⟩
    · have := (BTreeMap.any_toList_eq_false
        (p := fun s (m : Membership) => decide (s ≠ room.owner ∧ m.role ≠ .receiver))).mp hreceivers s m hm
      simpa [hs] using this
    · have := (BTreeMap.any_toList_eq_false (p := fun _ (r : JoinRequest) => decide (r.state = .approved ∧
        (room.memberships[r.sessionId]?).map (·.role) ≠ some .receiver))).mp happroved q r hr
      simpa [ha] using this
  · rintro ⟨hrevision, ⟨owner, howner, hrole⟩, hreceivers, happroved⟩
    unfold verifyInvariants
    rw [if_neg hrevision, howner]
    simp only []
    rw [if_neg (by simp [hrole]), if_neg, if_neg]
    · rw [Bool.not_eq_true]
      refine (BTreeMap.any_toList_eq_false (p := fun _ (r : JoinRequest) => decide (r.state = .approved ∧
        (room.memberships[r.sessionId]?).map (·.role) ≠ some .receiver))).mpr fun q r hr => ?_
      rw [decide_eq_false_iff_not]
      rintro ⟨ha, hne⟩
      obtain ⟨m, hm, hrm⟩ := happroved q r hr ha
      exact hne (by rw [hm, Option.map_some, hrm])
    · rw [Bool.not_eq_true]
      refine (BTreeMap.any_toList_eq_false
        (p := fun s (m : Membership) => decide (s ≠ room.owner ∧ m.role ≠ .receiver))).mpr fun s m hm => ?_
      rw [decide_eq_false_iff_not]
      rintro ⟨hs, hne⟩
      exact hne (hreceivers s m hm hs)

/-- Changing the state of a membership keeps what is checked, as long as the owner does not leave. -/
theorem Verified.setState (h : Verified room) {sessionId : SessionId} {membership : Membership} {state : MembershipState}
    (hm : room.memberships[sessionId]? = some membership) (howner : sessionId = room.owner → state ≠ .left) :
    Verified (room.setMembership sessionId { membership with state }) := by
  refine ⟨h.revision, ?_, fun s m hs hne => ?_, fun q r hr ha => ?_⟩
  · obtain ⟨o, ho, hrole, hleft⟩ := h.owner
    rw [memberships_setMembership]
    by_cases hs : sessionId = room.owner
    · rw [hs, ho] at hm
      cases hm
      exact ⟨_, if_pos hs, hrole, howner hs⟩
    · exact ⟨o, by rw [show (room.setMembership _ _).owner = room.owner from rfl, if_neg hs]; exact ho, hrole, hleft⟩
  · rw [memberships_setMembership] at hs
    split at hs
    · rename_i heq
      cases hs
      exact h.receivers sessionId membership hm (by rw [heq]; exact hne)
    · exact h.receivers s m hs hne
  · obtain ⟨m, hm', hrole⟩ := h.approved q r hr ha
    by_cases hs : sessionId = r.sessionId
    · refine ⟨_, by rw [memberships_setMembership, if_pos hs], ?_⟩
      rw [hs, hm'] at hm
      cases hm
      exact hrole
    · exact ⟨m, by rw [memberships_setMembership, if_neg hs]; exact hm', hrole⟩

/-- A request that is not approved may be written freely. -/
theorem Verified.setRequest (h : Verified room) {requestId : RequestId} {request : JoinRequest}
    (hstate : request.state ≠ .approved) : Verified (room.setJoinRequest requestId request) := by
  refine ⟨h.revision, h.owner, h.receivers, fun q r hr ha => ?_⟩
  rw [joinRequests_setJoinRequest] at hr
  split at hr
  · cases hr; exact absurd ha hstate
  · exact h.approved q r hr ha

/-- Approving a request keeps what is checked, unless the request is the owner's own. -/
theorem Verified.approve (h : Verified room) {requestId : RequestId} {request : JoinRequest}
    (howner : request.sessionId ≠ room.owner) :
    Verified ((room.setJoinRequest requestId { request with state := .approved }).setMembership request.sessionId
      { role := .receiver, state := .offline }) := by
  refine ⟨h.revision, ?_, fun s m hs hne => ?_, fun q r hr ha => ?_⟩
  · obtain ⟨o, ho⟩ := h.owner
    exact ⟨o, (memberships_setMembership _ _ _ _).trans (if_neg howner) |>.trans ho.1, ho.2⟩
  · rw [memberships_setMembership] at hs
    split at hs
    · cases hs; rfl
    · exact h.receivers s m hs hne
  · rw [memberships_setMembership]
    by_cases hs : request.sessionId = r.sessionId
    · exact ⟨_, if_pos hs, rfl⟩
    · rw [if_neg hs]
      rw [show (Room.setMembership _ _ _).joinRequests = (room.setJoinRequest requestId _).joinRequests from rfl,
        joinRequests_setJoinRequest] at hr
      split at hr
      · cases hr; exact absurd rfl hs
      · exact h.approved q r hr ha

/-- Every effect keeps what is checked, except the approval of a request that the owner made. -/
theorem Verified.effect (h : Verified room) (heffect : Effect room command next)
    (howner : ∀ (requestId : RequestId) (request : JoinRequest) (now : Nat),
      command = .decideJoin room.owner requestId .approve now → now < request.expiresAt → room.state = .active →
      room.joinRequests[requestId]? = some request → request.state = .pending → request.sessionId ≠ room.owner) :
    Verified next := by
  cases heffect with
  | requested => exact h.setRequest (by simp)
  | approved hactive _ hnow hr hp => exact h.approve (howner _ _ _ rfl hnow hactive hr hp)
  | rejected => exact h.setRequest (by simp)
  | requestExpired => exact h.setRequest (by simp)
  | attached _ _ hm => exact h.setState hm (by simp)
  | detached hm => exact h.setState hm (by simp)
  | ownerLeft => exact ⟨h.revision, h.owner, h.receivers, h.approved⟩
  | memberLeft hne hm => exact h.setState hm (fun he => absurd he hne)
  | requestCancelled => exact h.setRequest (by simp)
  | expired =>
    refine ⟨h.revision, h.owner, h.receivers, fun q r hr ha => ?_⟩
    simp only [joinRequests_expire, Option.map_eq_some_iff] at hr
    obtain ⟨r', hr', rfl⟩ := hr
    simpa using h.approved q r' hr' (expirePending_approved ha)

theorem Verified.withRevision (h : Verified room) (revision : Nat) (hrevision : revision ≠ 0) :
    Verified { room with revision } :=
  ⟨hrevision, h.owner, h.receivers, h.approved⟩

/-! ## The inductive invariant -/

structure Standing (room : Room) : Prop where
  verified : Verified room
  /-- A session has at most one pending request. -/
  onePending : ∀ (p q : RequestId) (r t : JoinRequest), room.joinRequests[p]? = some r → room.joinRequests[q]? = some t →
    r.sessionId = t.sessionId → r.state = .pending → t.state = .pending → p = q
  /-- A session with a pending request has no membership, or has left. -/
  pendingOutside : ∀ (q : RequestId) (r : JoinRequest) (m : Membership), room.joinRequests[q]? = some r →
    r.state = .pending → room.memberships[r.sessionId]? = some m → m.state = .left
  /-- No request outlives the room. -/
  requestWithin : ∀ (q : RequestId) (r : JoinRequest), room.joinRequests[q]? = some r → r.expiresAt ≤ room.expiresAt
  /-- A receiver was let in by an approved request of its own. -/
  receiverApproved : ∀ (s : SessionId) (m : Membership), room.memberships[s]? = some m → m.role = .receiver →
    ∃ (q : RequestId) (r : JoinRequest), room.joinRequests[q]? = some r ∧ r.sessionId = s ∧ r.state = .approved

/-- A pending request is never the owner's own. -/
theorem Standing.pending_ne_owner (h : Standing room) {q : RequestId} {r : JoinRequest}
    (hr : room.joinRequests[q]? = some r) (hp : r.state = .pending) : r.sessionId ≠ room.owner := by
  intro he
  obtain ⟨o, ho, -, hleft⟩ := h.verified.owner
  exact hleft (h.pendingOutside q r o hr hp (by rw [he]; exact ho))

/-- A pending request that is rejected, cancelled or expired. -/
theorem Standing.settle (h : Standing room) {requestId : RequestId} {request : JoinRequest} {state : JoinRequestState}
    (hr : room.joinRequests[requestId]? = some request) (hp : request.state = .pending) (hstate : state ≠ .pending)
    (hverified : Verified (room.setJoinRequest requestId { request with state })) :
    Standing (room.setJoinRequest requestId { request with state }) := by
  refine ⟨hverified, fun p q r t hr' ht hs hrp htp => ?_, fun q r m hr' hrp hm => ?_, fun q r hr' => ?_,
    fun s m hm hrole => ?_⟩
  · rw [joinRequests_setJoinRequest] at hr' ht
    split at hr'
    · cases hr'; exact absurd hrp hstate
    split at ht
    · cases ht; exact absurd htp hstate
    exact h.onePending p q r t hr' ht hs hrp htp
  · rw [joinRequests_setJoinRequest] at hr'
    split at hr'
    · cases hr'; exact absurd hrp hstate
    exact h.pendingOutside q r m hr' hrp hm
  · rw [joinRequests_setJoinRequest] at hr'
    split at hr'
    · cases hr'; exact h.requestWithin requestId request hr
    exact h.requestWithin q r hr'
  · obtain ⟨q, r, hq, hs, ha⟩ := h.receiverApproved s m hm hrole
    refine ⟨q, r, ?_, hs, ha⟩
    rw [joinRequests_setJoinRequest, if_neg]
    · exact hq
    · rintro rfl
      rw [hr] at hq
      cases hq
      rw [hp] at ha
      cases ha

/-- A membership that is not left goes online, goes offline or leaves. -/
theorem Standing.setState (h : Standing room) {sessionId : SessionId} {membership : Membership} {state : MembershipState}
    (hm : room.memberships[sessionId]? = some membership) (hleft : membership.state ≠ .left)
    (howner : sessionId = room.owner → state ≠ .left) :
    Standing (room.setMembership sessionId { membership with state }) := by
  refine ⟨h.verified.setState hm howner, h.onePending, fun q r m hr hp hm' => ?_, h.requestWithin,
    fun s m hs hrole => ?_⟩
  · rw [memberships_setMembership] at hm'
    split at hm'
    · rename_i he
      exact absurd (h.pendingOutside q r membership hr hp (by rw [← he]; exact hm)) hleft
    · exact h.pendingOutside q r m hr hp hm'
  · rw [memberships_setMembership] at hs
    split at hs
    · rename_i he
      cases hs
      exact h.receiverApproved s membership (by rw [← he]; exact hm) hrole
    · exact h.receiverApproved s m hs hrole

theorem Standing.request (h : Standing room) {requestId : RequestId} {sessionId : SessionId} {expiresAt : Nat}
    (hexpiry : expiresAt ≤ room.expiresAt) (hfresh : room.joinRequests[requestId]? = none)
    (houtside : ∀ membership, room.memberships[sessionId]? = some membership → membership.state = .left)
    (hpending : ∀ (other : RequestId) (request : JoinRequest), room.joinRequests[other]? = some request →
      request.sessionId = sessionId → request.state ≠ .pending) :
    Standing (room.setJoinRequest requestId { sessionId, expiresAt, state := .pending }) := by
  refine ⟨h.verified.setRequest (by simp), fun p q r t hr ht hs hrp htp => ?_, fun q r m hr hp hm => ?_,
    fun q r hr => ?_, fun s m hm hrole => ?_⟩
  · rw [joinRequests_setJoinRequest] at hr ht
    split at hr <;> split at ht
    · rename_i h₁ h₂; rw [← h₁, ← h₂]
    · cases hr; exact absurd htp (hpending q t ht hs.symm)
    · cases ht; exact absurd hrp (hpending p r hr hs)
    · exact h.onePending p q r t hr ht hs hrp htp
  · rw [joinRequests_setJoinRequest] at hr
    split at hr
    · cases hr; exact houtside m hm
    · exact h.pendingOutside q r m hr hp hm
  · rw [joinRequests_setJoinRequest] at hr
    split at hr
    · cases hr; exact hexpiry
    · exact h.requestWithin q r hr
  · obtain ⟨q, r, hq, hs, ha⟩ := h.receiverApproved s m hm hrole
    refine ⟨q, r, ?_, hs, ha⟩
    rw [joinRequests_setJoinRequest, if_neg]
    · exact hq
    · rintro rfl
      rw [hfresh] at hq
      cases hq

theorem Standing.approve (h : Standing room) {requestId : RequestId} {request : JoinRequest}
    (hr : room.joinRequests[requestId]? = some request) (hp : request.state = .pending) :
    Standing ((room.setJoinRequest requestId { request with state := .approved }).setMembership request.sessionId
      { role := .receiver, state := .offline }) := by
  have hreq : ∀ q : RequestId, ((room.setJoinRequest requestId { request with state := .approved }).setMembership
      request.sessionId { role := .receiver, state := .offline }).joinRequests[q]? =
        if requestId = q then some { request with state := .approved } else room.joinRequests[q]? :=
    fun q => joinRequests_setJoinRequest room requestId q _
  -- every other pending request belongs to another session, so the new membership contradicts none
  have hother : ∀ (q : RequestId) (r : JoinRequest), requestId ≠ q → room.joinRequests[q]? = some r →
      r.state = .pending → request.sessionId ≠ r.sessionId := fun q r hne hq hrp hs =>
    hne (h.onePending requestId q request r hr hq hs hp hrp)
  refine ⟨h.verified.approve (h.pending_ne_owner hr hp), fun p q r t hr' ht hs hrp htp => ?_,
    fun q r m hr' hrp hm => ?_, fun q r hr' => ?_, fun s m hm hrole => ?_⟩
  · rw [hreq] at hr' ht
    split at hr'
    · cases hr'; cases hrp
    split at ht
    · cases ht; cases htp
    exact h.onePending p q r t hr' ht hs hrp htp
  · rw [hreq] at hr'
    split at hr'
    · cases hr'; cases hrp
    rename_i hne
    rw [memberships_setMembership, if_neg (hother q r hne hr' hrp)] at hm
    exact h.pendingOutside q r m hr' hrp hm
  · rw [hreq] at hr'
    split at hr'
    · cases hr'; exact h.requestWithin requestId request hr
    · exact h.requestWithin q r hr'
  · rw [memberships_setMembership] at hm
    split at hm
    · rename_i hs
      exact ⟨requestId, { request with state := .approved }, by rw [hreq, if_pos rfl], hs, rfl⟩
    · obtain ⟨q, r, hq, hs, ha⟩ := h.receiverApproved s m hm hrole
      refine ⟨q, r, ?_, hs, ha⟩
      rw [hreq, if_neg]
      · exact hq
      · rintro rfl
        rw [hr] at hq
        cases hq
        rw [hp] at ha
        cases ha

theorem Standing.expire (h : Standing room) :
    Standing { room with
      state := .expired
      joinRequests := room.joinRequests.map fun _ request => expirePending request } := by
  refine ⟨⟨h.verified.revision, h.verified.owner, h.verified.receivers, fun q r hr ha => ?_⟩,
    fun p q r t hr _ _ hrp => ?_, fun q r m hr hrp => ?_, fun q r hr => ?_, fun s m hm hrole => ?_⟩
  all_goals try simp only [joinRequests_expire, Option.map_eq_some_iff] at hr
  · obtain ⟨r', hr', rfl⟩ := hr
    simpa using h.verified.approved q r' hr' (expirePending_approved ha)
  · obtain ⟨r', -, rfl⟩ := hr
    exact absurd hrp (expirePending_not_pending r')
  · obtain ⟨r', -, rfl⟩ := hr
    exact absurd hrp (expirePending_not_pending r')
  · obtain ⟨r', hr', rfl⟩ := hr
    simpa using h.requestWithin q r' hr'
  · obtain ⟨q, r, hq, hs, ha⟩ := h.receiverApproved s m hm hrole
    refine ⟨q, r, ?_, hs, ha⟩
    rw [joinRequests_expire, hq, Option.map_some, expirePending_of_settled (by rw [ha]; simp)]

/-- **Every effect keeps the invariant.** -/
theorem Standing.effect (h : Standing room) (heffect : Effect room command next) : Standing next := by
  have hv : Verified next := h.verified.effect heffect fun q r _ _ _ _ hr hp => h.pending_ne_owner hr hp
  cases heffect with
  | requested _ _ hexpiry hfresh houtside hpending => exact h.request hexpiry hfresh houtside hpending
  | approved _ _ _ hr hp => exact h.approve hr hp
  | rejected _ _ _ hr hp => exact h.settle hr hp (by simp) hv
  | requestExpired _ _ hr hp => exact h.settle hr hp (by simp) hv
  | attached _ _ hm _ hleft => exact h.setState hm hleft (by simp)
  | detached hm honline => exact h.setState hm (by rw [honline]; simp) (by simp)
  | ownerLeft => exact ⟨hv, h.onePending, h.pendingOutside, h.requestWithin, h.receiverApproved⟩
  | memberLeft hne hm hleft => exact h.setState hm hleft (fun he => absurd he hne)
  | requestCancelled _ _ hr _ hp => exact h.settle hr hp (by simp) hv
  | expired => exact h.expire

theorem Standing.withRevision (h : Standing room) (revision : Nat) (hrevision : revision ≠ 0) :
    Standing { room with revision } :=
  ⟨h.verified.withRevision revision hrevision, h.onePending, h.pendingOutside, h.requestWithin, h.receiverApproved⟩

theorem Standing.handle (h : Standing room) (command : RoomCommand) : Standing (room.handle command).2 :=
  handle_keeps (fun h he => h.effect he) (fun revision hr h => h.withRevision revision hr) command h

/-- The room that `create` returns. -/
theorem create_standing {id : RoomId} {code : RoomCode} {owner : SessionId} {now expiresAt : Nat}
    {outcome : RoomCommandOutcome} (h : create id code owner now expiresAt = .ok (room, outcome)) : Standing room := by
  unfold create at h
  split at h
  · cases h
  cases h
  have hm : ∀ s : SessionId, ((∅ : BTreeMap SessionId Membership).insert owner
      { role := .owner, state := .offline })[s]? = if owner = s then some ⟨.owner, .offline⟩ else none := fun s => by
    rw [BTreeMap.getElem?_insert, Std.ExtTreeMap.getElem?_empty]
  refine ⟨⟨by simp, ⟨_, (hm owner).trans (if_pos rfl), rfl, by simp⟩, fun s m hs hne => ?_, by simp⟩,
    by simp, by simp, by simp, fun s m hs hrole => ?_⟩
  · simp only [hm] at hs
    rw [if_neg (Ne.symm hne)] at hs
    cases hs
  · simp only [hm] at hs
    split at hs
    · cases hs; cases hrole
    · cases hs

/-! ## What stays -/

/-- What no command changes. -/
structure SameRoom (before after : Room) : Prop where
  id : after.id = before.id
  code : after.code = before.code
  owner : after.owner = before.owner
  expiresAt : after.expiresAt = before.expiresAt

theorem Effect.same (heffect : Effect room command next) : SameRoom room next := by
  cases heffect <;> exact ⟨rfl, rfl, rfl, rfl⟩

theorem Effect.revision (heffect : Effect room command next) : next.revision = room.revision := by
  cases heffect <;> rfl

/-- A membership is never removed. -/
theorem Effect.keepsMember (heffect : Effect room command next) {s : SessionId} {m : Membership}
    (hm : room.memberships[s]? = some m) : ∃ m', next.memberships[s]? = some m' := by
  have hset : ∀ (r : Room) (a : SessionId) (b : Membership), r.memberships[s]? = some m →
      ∃ m', (r.setMembership a b).memberships[s]? = some m' := by
    intro r a b h
    rw [memberships_setMembership]
    split
    · exact ⟨b, rfl⟩
    · exact ⟨m, h⟩
  cases heffect with
  | requested | rejected | requestExpired | requestCancelled | ownerLeft | expired => exact ⟨m, hm⟩
  | approved | attached | detached | memberLeft => exact hset _ _ _ hm

/-- A join request is never removed and keeps its session and its expiry. -/
theorem Effect.keepsRequest (heffect : Effect room command next) {q : RequestId} {r : JoinRequest}
    (hr : room.joinRequests[q]? = some r) :
    ∃ state, next.joinRequests[q]? = some { r with state } := by
  have hset : ∀ (p : RequestId) (t : JoinRequest) (state : JoinRequestState), room.joinRequests[p]? = some t →
      ∃ state', (room.setJoinRequest p { t with state }).joinRequests[q]? = some { r with state := state' } := by
    intro p t state ht
    rw [joinRequests_setJoinRequest]
    split
    · rename_i he
      subst he
      rw [hr] at ht
      cases ht
      exact ⟨state, rfl⟩
    · exact ⟨r.state, hr⟩
  cases heffect with
  | requested _ _ _ hfresh =>
    refine ⟨r.state, (joinRequests_setJoinRequest _ _ _ _).trans ((if_neg ?_).trans hr)⟩
    rintro rfl
    rw [hfresh] at hr
    cases hr
  | approved _ _ _ hp => exact hset _ _ _ hp
  | rejected _ _ _ hp => exact hset _ _ _ hp
  | requestExpired _ _ hp => exact hset _ _ _ hp
  | requestCancelled _ _ hp => exact hset _ _ _ hp
  | attached | detached | memberLeft | ownerLeft => exact ⟨r.state, hr⟩
  | expired =>
    refine ⟨(expirePending r).state, ?_⟩
    simp only [joinRequests_expire, hr, Option.map_some]
    unfold expirePending
    split <;> rfl

/-- A request that was not there before is the one that the command asks for. -/
theorem Effect.newRequest (heffect : Effect room command next) {q : RequestId} {r : JoinRequest}
    (hr : next.joinRequests[q]? = some r) (hfresh : room.joinRequests[q]? = none) :
    ∃ now, command = .requestJoin q r.sessionId now r.expiresAt ∧ r.state = .pending ∧
      (∀ m, room.memberships[r.sessionId]? = some m → m.state = .left) ∧ r.expiresAt ≤ room.expiresAt := by
  have hset : ∀ (p : RequestId) (t u : JoinRequest), room.joinRequests[p]? = some t →
      (room.setJoinRequest p u).joinRequests[q]? = some r → False := by
    intro p t u ht h
    rw [joinRequests_setJoinRequest] at h
    split at h
    · rename_i he
      rw [he, hfresh] at ht
      cases ht
    · rw [hfresh] at h
      cases h
  cases heffect with
  | requested _ _ hexpiry _ houtside =>
    rw [joinRequests_setJoinRequest] at hr
    split at hr
    · rename_i he
      cases hr
      subst he
      exact ⟨_, rfl, rfl, houtside, hexpiry⟩
    · rw [hfresh] at hr
      cases hr
  | approved _ _ _ hp => exact (hset _ _ _ hp hr).elim
  | rejected _ _ _ hp => exact (hset _ _ _ hp hr).elim
  | requestExpired _ _ hp => exact (hset _ _ _ hp hr).elim
  | requestCancelled _ _ hp => exact (hset _ _ _ hp hr).elim
  | attached | detached | memberLeft | ownerLeft =>
    have hnone : none = some r := hfresh.symm.trans hr
    cases hnone
  | expired =>
    simp only [joinRequests_expire, hfresh, Option.map_none] at hr
    cases hr

/-- A session that becomes a member has asked to join. -/
theorem Effect.newMember (heffect : Effect room command next) {s : SessionId} {m : Membership}
    (hm : next.memberships[s]? = some m) (hnone : room.memberships[s]? = none) :
    ∃ (q : RequestId) (r : JoinRequest), room.joinRequests[q]? = some r ∧ r.sessionId = s := by
  have hset : ∀ (a : SessionId) (m' b : Membership), room.memberships[a]? = some m' →
      (room.setMembership a b).memberships[s]? = some m → False := by
    intro a m' b ha h
    rw [memberships_setMembership] at h
    split at h
    · rename_i he
      rw [he, hnone] at ha
      cases ha
    · rw [hnone] at h
      cases h
  cases heffect with
  | approved _ _ _ hr =>
    rw [memberships_setMembership] at hm
    split at hm
    · rename_i he
      exact ⟨_, _, hr, he⟩
    · exact absurd (hnone.symm.trans hm) (by simp)
  | attached _ _ ha => exact (hset _ _ _ ha hm).elim
  | detached ha => exact (hset _ _ _ ha hm).elim
  | memberLeft _ ha => exact (hset _ _ _ ha hm).elim
  | requested | rejected | requestExpired | requestCancelled | ownerLeft | expired =>
    exact absurd (hnone.symm.trans hm) (by simp)

/-- The session of a new request has no other that is pending, and the request expires later than `0`. -/
theorem Effect.requestAlone (heffect : Effect room command next) {q : RequestId} {s : SessionId} {at' expiresAt : Nat}
    (hcommand : command = .requestJoin q s at' expiresAt) {other : RequestId} {r : JoinRequest}
    (hr : room.joinRequests[other]? = some r) (hsession : r.sessionId = s) : r.state ≠ .pending := by
  subst hcommand
  cases heffect with
  | requested _ _ _ _ _ hpending => exact hpending other r hr hsession

theorem Effect.requestExpiry (heffect : Effect room command next) {q : RequestId} {s : SessionId} {at' expiresAt : Nat}
    (hcommand : command = .requestJoin q s at' expiresAt) : 0 < expiresAt := by
  subst hcommand
  cases heffect with
  | requested _ hexpiry => omega

/-- No request outlives the room. -/
def Within (room : Room) : Prop :=
  ∀ (q : RequestId) (r : JoinRequest), room.joinRequests[q]? = some r → r.expiresAt ≤ room.expiresAt

theorem Effect.within (heffect : Effect room command next) (h : Within room) : Within next := by
  intro q r hr
  rw [heffect.same.expiresAt]
  cases hold : room.joinRequests[q]? with
  | none =>
    obtain ⟨_, -, -, -, hexpiry⟩ := heffect.newRequest hr hold
    exact hexpiry
  | some old =>
    obtain ⟨state, hkept⟩ := heffect.keepsRequest hold
    rw [hr] at hkept
    cases hkept
    exact h q old hold

/-- A command that answers `CHANGED` committed an effect under the next revision. -/
theorem handle_changed (h : room.handle command = (.ok .CHANGED, next)) :
    ∃ effected, Effect room command effected ∧ next = { effected with revision := room.revision + 1 } := by
  rcases handle_cases room command with ⟨error, he⟩ | he | ⟨effected, heffect, he⟩
  · rw [h] at he; cases he
  · rw [h] at he; cases he
  · rcases commit_cases effected with hc | hc
    · rw [h, hc] at he
      cases he
      exact ⟨effected, heffect, by rw [heffect.revision]⟩
    · rw [h, hc] at he
      cases he

/-- A command that answers `UNCHANGED` leaves the room as it was. -/
theorem handle_unchanged (h : room.handle command = (.ok .UNCHANGED, next)) : next = room := by
  rcases handle_cases room command with ⟨error, he⟩ | he | ⟨effected, heffect, he⟩
  · rw [h] at he; cases he
  · rw [h] at he; cases he; rfl
  · rcases commit_cases effected with hc | hc <;>
    · rw [h, hc] at he
      cases he

/-! ## What only moves forward -/

/-- Requests that have left `pending` keep their state, and an expired room stays expired. -/
structure Settled (before after : Room) : Prop where
  request : ∀ (requestId : RequestId) (state : JoinRequestState), before.joinRequestState requestId = some state →
    state ≠ .pending → after.joinRequestState requestId = some state
  expired : before.state = .expired → after.state = .expired

theorem Settled.refl (room : Room) : Settled room room := ⟨fun _ _ h _ => h, fun h => h⟩

theorem Settled.trans {a b c : Room} (h : Settled a b) (h' : Settled b c) : Settled a c :=
  ⟨fun q state hq hne => h'.request q state (h.request q state hq hne) hne, fun he => h'.expired (h.expired he)⟩

/-- Writing a request that is absent or pending settles nothing again. -/
theorem settled_setJoinRequest {requestId : RequestId} {request : JoinRequest}
    (h : ∀ old, room.joinRequests[requestId]? = some old → old.state = .pending) :
    Settled room (room.setJoinRequest requestId request) := by
  refine ⟨fun q state hq hne => ?_, fun h => h⟩
  simp only [joinRequestState, joinRequests_setJoinRequest] at hq ⊢
  split
  · rename_i he
    subst he
    obtain ⟨old, hold, rfl⟩ := Option.map_eq_some_iff.mp hq
    exact absurd (h old hold) hne
  · exact hq

theorem settled_setMembership (room : Room) (sessionId : SessionId) (membership : Membership) :
    Settled room (room.setMembership sessionId membership) := ⟨fun _ _ h _ => h, fun h => h⟩

theorem Effect.settled (heffect : Effect room command next) : Settled room next := by
  cases heffect with
  | requested _ _ _ hfresh => exact settled_setJoinRequest fun old h => by rw [hfresh] at h; cases h
  | approved _ _ _ hr hp =>
    exact (settled_setJoinRequest fun old h => by rw [hr] at h; cases h; exact hp).trans (settled_setMembership _ _ _)
  | rejected _ _ _ hr hp | requestExpired _ _ hr hp | requestCancelled _ _ hr _ hp =>
    exact settled_setJoinRequest fun old h => by rw [hr] at h; cases h; exact hp
  | attached | detached | memberLeft => exact settled_setMembership _ _ _
  | ownerLeft => exact ⟨fun _ _ h _ => h, fun _ => rfl⟩
  | expired =>
    refine ⟨fun q state hq hne => ?_, fun _ => rfl⟩
    simp only [joinRequestState, joinRequests_expire] at hq ⊢
    obtain ⟨r, hr, rfl⟩ := Option.map_eq_some_iff.mp hq
    rw [hr, Option.map_some, Option.map_some, expirePending_of_settled hne]

theorem handle_settled (room : Room) (command : RoomCommand) : Settled room (room.handle command).2 := by
  rcases handle_room room command with h | ⟨next, heffect, h | h⟩
  · rw [h]; exact .refl room
  · rw [h]; exact heffect.settled
  · rw [h]; exact ⟨heffect.settled.request, heffect.settled.expired⟩

/-- A request that is pending was pending before, or is the one that the command asks for. -/
theorem Effect.pendingRequest (heffect : Effect room command next) {q : RequestId} {r : JoinRequest}
    (hr : next.joinRequests[q]? = some r) (hpending : r.state = .pending) :
    room.joinRequests[q]? = some r ∨
      (room.joinRequests[q]? = none ∧ ∃ now, command = .requestJoin q r.sessionId now r.expiresAt) := by
  cases hold : room.joinRequests[q]? with
  | none =>
    obtain ⟨now, hcommand, -⟩ := heffect.newRequest hr hold
    exact .inr ⟨rfl, now, hcommand⟩
  | some old =>
    left
    obtain ⟨state, hkept⟩ := heffect.keepsRequest hold
    rw [hr] at hkept
    cases hkept
    have hstate : old.state = .pending := by
      by_contra hsettled
      have hstays := heffect.settled.request q old.state (by rw [joinRequestState, hold]; rfl) hsettled
      rw [joinRequestState, hr] at hstays
      exact hsettled ((Option.some.inj hstays).symm.trans hpending)
    have hpending : state = .pending := hpending
    rw [hpending, ← hstate]

/-! ## Whole runs -/

theorem handleAll_run (room : Room) (commands : List RoomCommand) :
    Run (fun room command next => (room.handle command).2 = next) room commands (room.handleAll commands) :=
  Run.of_foldl (fun room command => (room.handle command).2) room commands

theorem handleAll_append (room : Room) (commands later : List RoomCommand) :
    room.handleAll (commands ++ later) = (room.handleAll commands).handleAll later := List.foldl_append

/-- What holds after every prefix of a sequence of commands. -/
def Always (I : Room → Prop) (room : Room) (commands : List RoomCommand) : Prop :=
  ∀ before, before <+: commands → I (room.handleAll before)

theorem handleAll_concat (room : Room) (commands : List RoomCommand) (command : RoomCommand) :
    room.handleAll (commands ++ [command]) = ((room.handleAll commands).handle command).2 :=
  handleAll_append room commands [command]

/-- A property that every command of the sequence keeps holds after every prefix. -/
theorem always_of_step {I : Room → Prop} {commands : List RoomCommand} (h0 : I room)
    (hstep : ∀ before command, before ++ [command] <+: commands → I (room.handleAll before) →
      I ((room.handleAll before).handle command).2) : Always I room commands := by
  intro before
  induction before using List.reverseRecOn with
  | nil => exact fun _ => h0
  | append_singleton before command ih =>
    intro hprefix
    rw [handleAll_concat]
    exact hstep before command hprefix (ih ((List.prefix_append _ _).trans hprefix))

theorem SameRoom.refl (room : Room) : SameRoom room room := ⟨rfl, rfl, rfl, rfl⟩

theorem SameRoom.trans {a b c : Room} (h : SameRoom a b) (h' : SameRoom b c) : SameRoom a c :=
  ⟨h'.id.trans h.id, h'.code.trans h.code, h'.owner.trans h.owner, h'.expiresAt.trans h.expiresAt⟩

theorem handle_same (room : Room) (command : RoomCommand) : SameRoom room (room.handle command).2 := by
  rcases handle_room room command with h | ⟨next, heffect, h | h⟩
  · rw [h]; exact .refl room
  · rw [h]; exact heffect.same
  · rw [h]; exact ⟨heffect.same.id, heffect.same.code, heffect.same.owner, heffect.same.expiresAt⟩

theorem handleAll_same (room : Room) (commands : List RoomCommand) : SameRoom room (room.handleAll commands) :=
  (handleAll_run room commands).relates (I := fun _ => True) SameRoom.refl SameRoom.trans
    (fun room command _ _ he => by subst he; exact ⟨trivial, handle_same room command⟩) trivial

theorem Standing.handleAll (h : Standing room) (commands : List RoomCommand) : Standing (room.handleAll commands) :=
  (handleAll_run room commands).invariant (fun _ command _ h he => by subst he; exact h.handle command) h

theorem handleAll_settled (room : Room) (commands : List RoomCommand) : Settled room (room.handleAll commands) :=
  (handleAll_run room commands).relates (I := fun _ => True) Settled.refl Settled.trans
    (fun room command _ _ he => by subst he; exact ⟨trivial, handle_settled room command⟩) trivial

/-- **The invariant of rooms over whole runs**: after `create` and any commands, whatever they answered, the room passes
`verifyInvariants` and has `Standing`, and what it has settled stays settled under any further commands. -/
theorem created_room_standing {id : RoomId} {code : RoomCode} {owner : SessionId} {now expiresAt : Nat}
    {outcome : RoomCommandOutcome} (h : create id code owner now expiresAt = .ok (room, outcome))
    (commands : List RoomCommand) :
    (room.handleAll commands).verifyInvariants = .ok () ∧ Standing (room.handleAll commands) ∧
      ∀ later, Settled (room.handleAll commands) (room.handleAll (commands ++ later)) := by
  have hs : Standing (room.handleAll commands) := (create_standing h).handleAll commands
  refine ⟨verifyInvariants_iff.mpr hs.verified, hs, fun later => ?_⟩
  rw [handleAll_append]
  exact handleAll_settled _ later

/-- A receiver asks, is let in, goes online and leaves. -/
theorem created_room_standing_visit : ∃ room,
    create (.of "room_1") (.of "ABC234") (.of "owner_1") 0 1000 = .ok (room, .CHANGED) ∧
      Standing (room.handleAll [.requestJoin (.of "request_1") (.of "receiver_1") 10 900,
        .decideJoin (.of "owner_1") (.of "request_1") .approve 20, .attach (.of "receiver_1") (.of "peer_1") 30,
        .leave (.of "receiver_1")]) := by
  have h : create (.of "room_1") (.of "ABC234") (.of "owner_1") 0 1000 = .ok (_, .CHANGED) := rfl
  exact ⟨_, h, (created_room_standing h _).2.1⟩

end Room

end P2PTransmission
