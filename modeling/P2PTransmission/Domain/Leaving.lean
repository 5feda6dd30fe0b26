import P2PTransmission.Domain.Restore

/-!
# Leaving and expiry

Two transitions end a standing. Expiry by the deadline settles every pending request, the owner's `Leave` settles none
(`expired_settled_iff`). A `Leave` of anyone else looks at the membership first: a session that had left and asked again
keeps its pending request, and the owner may still approve it (`leave_ends_iff`).
-/

set_option autoImplicit false

namespace P2PTransmission

namespace Room

variable {room next : Room} {command : RoomCommand} {sessionId : SessionId}

/-! ## Expired rooms -/

def NoPending (room : Room) : Prop :=
  ∀ (requestId : RequestId) (request : JoinRequest), room.joinRequests[requestId]? = some request →
    request.state ≠ .pending

/-- An expired room holds no pending request. -/
def ExpiredSettled (room : Room) : Prop := room.state = .expired → NoPending room

/-- The step is the owner's `Leave` that expires the room. -/
def OwnerLeaves (room : Room) (command : RoomCommand) : Prop :=
  command = .leave room.owner ∧ room.state = .active

theorem NoPending.settle (h : NoPending room) {requestId : RequestId} {request : JoinRequest}
    (hne : request.state ≠ .pending) : NoPending (room.setJoinRequest requestId request) := by
  intro other old hold
  rw [joinRequests_setJoinRequest] at hold
  split at hold
  · cases hold
    exact hne
  · exact h other old hold

/-- No effect but the owner's `Leave` expires a room that holds a pending request. -/
theorem ExpiredSettled.effect (h : ExpiredSettled room) (heffect : Effect room command next)
    (hleave : OwnerLeaves room command → NoPending room) : ExpiredSettled next := by
  intro hexpired
  cases heffect with
  | requested hactive | approved hactive | rejected hactive | requestExpired hactive | attached hactive =>
    exact absurd (hactive.symm.trans hexpired) (by simp)
  | detached | memberLeft => exact h hexpired
  | requestCancelled => exact (h hexpired).settle (by simp)
  | ownerLeft hactive => exact hleave ⟨rfl, hactive⟩
  | expired =>
    intro requestId request hrequest
    rw [joinRequests_expire] at hrequest
    obtain ⟨old, -, rfl⟩ := Option.map_eq_some_iff.mp hrequest
    exact expirePending_not_pending old

theorem ExpiredSettled.handle (h : ExpiredSettled room) (command : RoomCommand)
    (hleave : OwnerLeaves room command → NoPending room) : ExpiredSettled (room.handle command).2 := by
  rcases handle_room room command with he | ⟨next, heffect, he | he⟩
  · rwa [he]
  · rw [he]
    exact h.effect heffect hleave
  · have hnext : ExpiredSettled next := h.effect heffect hleave
    rw [he]
    exact hnext

/-- The owner's `Leave` expires an active room and leaves the requests as they are. -/
theorem handle_ownerLeaves (h : OwnerLeaves room command) :
    (room.handle command).2.state = .expired ∧ (room.handle command).2.joinRequests = room.joinRequests := by
  obtain ⟨rfl, hactive⟩ := h
  have hhandle : room.handle (.leave room.owner) = { room with state := .expired }.commit := by
    simp [Room.handle, leave, hactive]
  rw [hhandle]
  rcases commit_cases { room with state := .expired } with hc | hc <;> rw [hc] <;> exact ⟨rfl, rfl⟩

/-- **Expired rooms hold no pending request along a run exactly if no owner's `Leave` of the run finds one.** -/
theorem expired_settled_iff {id : RoomId} {code : RoomCode} {owner : SessionId} {now expiresAt : Nat}
    {outcome : RoomCommandOutcome} (h : create id code owner now expiresAt = .ok (room, outcome))
    (commands : List RoomCommand) :
    Always ExpiredSettled room commands ↔
      ∀ before command, before ++ [command] <+: commands → OwnerLeaves (room.handleAll before) command →
        NoPending (room.handleAll before) := by
  constructor
  · intro halways before command hprefix hleaves
    obtain ⟨hexpired, hsame⟩ := handle_ownerLeaves hleaves
    have hafter := halways (before ++ [command]) hprefix
    rw [handleAll_concat] at hafter
    have hnone := hafter hexpired
    intro requestId request hrequest
    exact hnone requestId request (by rw [hsame]; exact hrequest)
  · intro hleave
    refine always_of_step ?_ fun before command hprefix hbefore => hbefore.handle command (hleave before command hprefix)
    intro hexpired
    unfold create at h
    split at h
    · cases h
    · cases h
      cases hexpired

/-- The owner leaves while a receiver waits. -/
theorem expired_settled_breaks : ∃ room,
    create (.of "room_1") (.of "ABC234") ownerOne 0 1000 = .ok (room, .CHANGED) ∧
      ¬ ∀ commands, Always ExpiredSettled room commands := by
  refine ⟨_, rfl, fun h => ?_⟩
  have hafter := h [.requestJoin requestOne (.of "receiver_1") 10 900, .leave ownerOne] _ (List.prefix_refl _)
  refine hafter (by decide) requestOne { sessionId := .of "receiver_1", expiresAt := 900, state := .pending } ?_ rfl
  decide

/-- Expiry at the deadline. -/
theorem expired_settled_deadline : ∃ room,
    create (.of "room_1") (.of "ABC234") ownerOne 0 1000 = .ok (room, .CHANGED) ∧
      Always ExpiredSettled room [.requestJoin requestOne (.of "receiver_1") 10 900, .expire 1000] := by
  have h : create (.of "room_1") (.of "ABC234") ownerOne 0 1000 = .ok (_, .CHANGED) := rfl
  refine ⟨_, h, (expired_settled_iff h _).mpr fun before command hprefix hleaves => ?_⟩
  have hmem := hprefix.subset (List.mem_append_right _ (List.mem_singleton_self command))
  obtain ⟨rfl, -⟩ := hleaves
  simp at hmem

/-! ## Sessions that have left -/

/-- The session is no member and asks for nothing. -/
structure Gone (room : Room) (sessionId : SessionId) : Prop where
  member : ∀ membership, room.memberships[sessionId]? = some membership → membership.state = .left
  request : ∀ (requestId : RequestId) (request : JoinRequest), room.joinRequests[requestId]? = some request →
    request.sessionId = sessionId → request.state ≠ .pending

def AsksAgain (sessionId : SessionId) (command : RoomCommand) : Prop :=
  ∃ requestId now expiresAt, command = .requestJoin requestId sessionId now expiresAt

/-- The session is gone, and stays so until it asks again: nobody makes it a member and it cannot attach. -/
def GoneUntilAsking (room : Room) (sessionId : SessionId) : Prop :=
  ∀ later, (∀ command ∈ later, ¬ AsksAgain sessionId command) →
    Gone (room.handleAll later) sessionId ∧
      ∀ peerId now, ∃ error, ((room.handleAll later).handle (.attach sessionId peerId now)).1 = .error error

theorem Gone.setMembership (h : Gone room sessionId) {other : SessionId} {membership : Membership}
    (hset : other = sessionId → membership.state = .left) : Gone (room.setMembership other membership) sessionId := by
  refine ⟨fun m hm => ?_, h.request⟩
  rw [memberships_setMembership] at hm
  split at hm
  · rename_i he
    cases hm
    exact hset he
  · exact h.member m hm

theorem Gone.setJoinRequest (h : Gone room sessionId) {requestId : RequestId} {request : JoinRequest}
    (hset : request.sessionId = sessionId → request.state ≠ .pending) :
    Gone (room.setJoinRequest requestId request) sessionId := by
  refine ⟨h.member, fun q r hr hs => ?_⟩
  rw [joinRequests_setJoinRequest] at hr
  split at hr
  · cases hr
    exact hset hs
  · exact h.request q r hr hs

theorem Gone.effect (h : Gone room sessionId) (heffect : Effect room command next)
    (hasks : ¬ AsksAgain sessionId command) : Gone next sessionId := by
  cases heffect with
  | requested =>
    refine h.setJoinRequest fun he => absurd ?_ hasks
    subst he
    exact ⟨_, _, _, rfl⟩
  | approved _ _ _ hr hp =>
    exact (h.setJoinRequest fun _ => by simp).setMembership fun he => absurd hp (h.request _ _ hr he)
  | rejected | requestExpired | requestCancelled => exact h.setJoinRequest fun _ => by simp
  | attached _ _ hm _ hleft =>
    refine h.setMembership fun he => ?_
    subst he
    exact absurd (h.member _ hm) hleft
  | detached hm honline =>
    refine h.setMembership fun he => ?_
    subst he
    have hleft := h.member _ hm
    rw [honline] at hleft
    cases hleft
  | memberLeft => exact h.setMembership fun _ => rfl
  | ownerLeft => exact ⟨h.member, h.request⟩
  | expired =>
    refine ⟨h.member, fun q r hr _ => ?_⟩
    rw [joinRequests_expire] at hr
    obtain ⟨old, -, rfl⟩ := Option.map_eq_some_iff.mp hr
    exact expirePending_not_pending old

theorem Gone.handle (h : Gone room sessionId) (hasks : ¬ AsksAgain sessionId command) :
    Gone (room.handle command).2 sessionId := by
  rcases handle_room room command with he | ⟨next, heffect, he | he⟩
  · rwa [he]
  · rw [he]
    exact h.effect heffect hasks
  · have hnext : Gone next sessionId := h.effect heffect hasks
    rw [he]
    exact ⟨hnext.member, hnext.request⟩

theorem Gone.handleAll (h : Gone room sessionId) {later : List RoomCommand}
    (hasks : ∀ command ∈ later, ¬ AsksAgain sessionId command) : Gone (room.handleAll later) sessionId := by
  induction later generalizing room with
  | nil => exact h
  | cons command later ih =>
    exact ih (h.handle (hasks command List.mem_cons_self)) fun c hc => hasks c (List.mem_cons_of_mem _ hc)

/-- A session that is gone cannot attach. -/
theorem Gone.attach_fails (h : Gone room sessionId) (peerId : PeerId) (now : Nat) :
    ∃ error, (room.handle (.attach sessionId peerId now)).1 = .error error := by
  simp only [Room.handle, attach]
  split
  · exact ⟨_, rfl⟩
  split
  · exact ⟨_, rfl⟩
  · rename_i membership hm
    have hleft := h.member membership hm
    rw [hleft, if_neg (by simp), if_pos rfl]
    exact ⟨_, rfl⟩

theorem Gone.untilAsking (h : Gone room sessionId) : GoneUntilAsking room sessionId :=
  fun _ hasks => ⟨h.handleAll hasks, (h.handleAll hasks).attach_fails⟩

/-- The session has left before and now has a pending request again. -/
def LeftAndAsking (room : Room) (sessionId : SessionId) : Prop :=
  room.membershipState sessionId = some .left ∧
    ∃ (requestId : RequestId) (request : JoinRequest), room.joinRequests[requestId]? = some request ∧
      request.sessionId = sessionId ∧ request.state = .pending

/-- A `Leave` changes nothing in a room that the session has left before. -/
theorem leave_left (howner : sessionId ≠ room.owner) (hleft : room.membershipState sessionId = some .left) :
    room.handle (.leave sessionId) = room.unchanged := by
  obtain ⟨membership, hm, hstate⟩ := Option.map_eq_some_iff.mp hleft
  simp [Room.handle, leave, howner, hm, hstate]

/-- `Leave` answers `UNCHANGED` to a receiver only when it has left before. -/
theorem leave_unchanged (howner : sessionId ≠ room.owner) (h : room.handle (.leave sessionId) = room.unchanged) :
    room.membershipState sessionId = some .left := by
  have hcommit : ∀ effected : Room, effected.commit ≠ room.unchanged := by
    intro effected he
    rcases commit_cases effected with hc | hc <;>
    · rw [hc] at he
      cases he
  simp only [Room.handle, leave, if_neg howner] at h
  split at h
  · rename_i membership hm
    split at h
    · rename_i hstate
      rw [membershipState, hm, Option.map_some, hstate]
    · exact absurd h (hcommit _)
  · split at h
    · exact absurd h (hcommit _)
    · cases h

/-- A successful `Leave` finds a receiver that has left before, or commits its effect. -/
theorem leave_ok (howner : sessionId ≠ room.owner) {outcome : RoomCommandOutcome}
    (hok : (room.handle (.leave sessionId)).1 = .ok outcome) :
    room.membershipState sessionId = some .left ∨ ∃ effected, Effect room (.leave sessionId) effected ∧
      (room.handle (.leave sessionId)).2 = { effected with revision := room.revision + 1 } := by
  rcases handle_cases room (.leave sessionId) with ⟨error, he⟩ | he | ⟨effected, heffect, he⟩
  · rw [he] at hok
    cases hok
  · exact .inl (leave_unchanged howner he)
  · refine .inr ⟨effected, heffect, ?_⟩
    rcases commit_cases effected with hc | hc
    · rw [he, hc, heffect.revision]
    · rw [he, hc] at hok
      cases hok

/-- The effect of a receiver's `Leave` ends its membership or its request. -/
theorem Effect.gone (hs : Standing room) (howner : sessionId ≠ room.owner)
    (heffect : Effect room (.leave sessionId) next) : Gone next sessionId := by
  cases heffect with
  | ownerLeft => exact absurd rfl howner
  | @memberLeft _ membership _ hm hstate =>
    refine ⟨fun m hm' => ?_, fun q r hr hsession hp => ?_⟩
    · rw [memberships_setMembership, if_pos rfl] at hm'
      cases hm'
      rfl
    · subst hsession
      exact hstate (hs.pendingOutside q r membership hr hp hm)
  | @requestCancelled _ requestId request _ hm hr hsession hp =>
    refine ⟨fun m hm' => ?_, fun q r hr' hsession' hp' => ?_⟩
    · have hnone : none = some m := hm.symm.trans hm'
      cases hnone
    · rw [joinRequests_setJoinRequest] at hr'
      split at hr'
      · cases hr'
        cases hp'
      · rename_i hne
        exact hne (hs.onePending requestId q request r hr hr' (hsession.trans hsession'.symm) hp hp')

/-- A successful `Leave` of a receiver that has not left and asked again leaves it without standing. -/
theorem leave_gone (hs : Standing room) (howner : sessionId ≠ room.owner) {outcome : RoomCommandOutcome}
    (hok : (room.handle (.leave sessionId)).1 = .ok outcome) (hnot : ¬ LeftAndAsking room sessionId) :
    Gone (room.handle (.leave sessionId)).2 sessionId := by
  rcases leave_ok howner hok with hleft | ⟨effected, heffect, hnext⟩
  · rw [leave_left howner hleft]
    refine ⟨fun m hm => ?_, fun q r hr hsession hp => hnot ⟨hleft, q, r, hr, hsession, hp⟩⟩
    have hstate : room.membershipState sessionId = some m.state := by
      rw [membershipState, show room.memberships[sessionId]? = some m from hm, Option.map_some]
    rw [hleft] at hstate
    exact (Option.some.inj hstate).symm
  · have hgone := heffect.gone hs howner
    rw [hnext]
    exact ⟨hgone.member, hgone.request⟩

/-- **A successful `Leave` of a receiver ends its standing for good exactly if the session had not left before and asked
again.** -/
theorem leave_ends_iff {id : RoomId} {code : RoomCode} {owner : SessionId} {now expiresAt : Nat}
    {outcome left : RoomCommandOutcome} (h : create id code owner now expiresAt = .ok (room, outcome))
    (commands : List RoomCommand) (howner : sessionId ≠ owner)
    (hok : ((room.handleAll commands).handle (.leave sessionId)).1 = .ok left) :
    GoneUntilAsking ((room.handleAll commands).handle (.leave sessionId)).2 sessionId ↔
      ¬ LeftAndAsking (room.handleAll commands) sessionId := by
  have hs : Standing (room.handleAll commands) := (create_standing h).handleAll commands
  have howner' : sessionId ≠ (room.handleAll commands).owner := by
    rw [(handleAll_same room commands).owner]
    unfold create at h
    split at h
    · cases h
    · cases h
      exact howner
  constructor
  · rintro hgone ⟨hleft, requestId, request, hr, hsession, hp⟩
    rw [leave_left howner' hleft] at hgone
    have hnow : Gone (room.handleAll commands) sessionId := (hgone [] (by simp)).1
    exact hnow.request requestId request hr hsession hp
  · intro hnot
    exact (leave_gone hs howner' hok hnot).untilAsking

/-- A receiver joins, leaves, asks again under a new request id and leaves. -/
def rejoinAndLeave : List RoomCommand :=
  [.requestJoin requestOne (.of "receiver_1") 10 900, .decideJoin ownerOne requestOne .approve 20,
    .leave (.of "receiver_1"), .requestJoin (.of "request_again") (.of "receiver_1") 30 900]

/-- The second `Leave` is successful, and the owner can still approve the request. -/
theorem leave_ends_breaks : ∃ room,
    create (.of "room_1") (.of "ABC234") ownerOne 0 1000 = .ok (room, .CHANGED) ∧
      ((room.handleAll rejoinAndLeave).handle (.leave (.of "receiver_1"))).1 = .ok .UNCHANGED ∧
      ¬ GoneUntilAsking ((room.handleAll rejoinAndLeave).handle (.leave (.of "receiver_1"))).2 (.of "receiver_1") := by
  refine ⟨_, rfl, by decide +kernel, fun h => ?_⟩
  have happroved := (h [.decideJoin ownerOne (.of "request_again") .approve 40] (by simp [AsksAgain])).1
  have hmember := happroved.member { role := .receiver, state := .offline } (by decide +kernel)
  cases hmember

/-- A receiver that joins and leaves once. -/
theorem leave_ends_once : ∃ room,
    create (.of "room_1") (.of "ABC234") ownerOne 0 1000 = .ok (room, .CHANGED) ∧
      GoneUntilAsking ((room.handleAll [.requestJoin requestOne (.of "receiver_1") 10 900,
        .decideJoin ownerOne requestOne .approve 20]).handle (.leave (.of "receiver_1"))).2 (.of "receiver_1") := by
  have h : create (.of "room_1") (.of "ABC234") ownerOne 0 1000 = .ok (_, .CHANGED) := rfl
  have hiff := @leave_ends_iff _ (.of "receiver_1") _ _ _ _ _ _ .CHANGED h [.requestJoin requestOne (.of "receiver_1")
    10 900, .decideJoin ownerOne requestOne .approve 20] (by decide) (by decide +kernel)
  refine ⟨_, h, hiff.mpr ?_⟩
  rintro ⟨hleft, -⟩
  revert hleft
  decide +kernel

end Room

end P2PTransmission
