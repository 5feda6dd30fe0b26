import P2PTransmission.Domain.Leaving

/-!
# Sessions that lost their standing

A join request stays in the room for good. So a session that has asked once is either a member, or waits, or is an
outsider with a request; the last kind comes from the commands of `EndsStanding` and from no others
(`Effect.outsiders_iff`).
-/

set_option autoImplicit false

namespace P2PTransmission

namespace Room

variable {room next : Room} {command : RoomCommand} {sessionId : SessionId}

/-- Whoever has a join request is a member or has a pending one. -/
def NoOutsiders (room : Room) : Prop :=
  ∀ (requestId : RequestId) (request : JoinRequest), room.joinRequests[requestId]? = some request →
    ¬ Gone room request.sessionId

/-- A rejection or the expiry of a pending request, a `Leave` of a receiver, and an expiry that finds a pending
request. -/
inductive EndsStanding (room : Room) : RoomCommand → Prop
  | rejected {actor : SessionId} {requestId : RequestId} {now : Nat} :
      room.joinRequestState requestId = some .pending → EndsStanding room (.decideJoin actor requestId .reject now)
  | requestExpired {requestId : RequestId} {now : Nat} :
      room.joinRequestState requestId = some .pending → EndsStanding room (.expireJoinRequest requestId now)
  | left {sessionId : SessionId} : sessionId ≠ room.owner → EndsStanding room (.leave sessionId)
  | roomExpired {now : Nat} {requestId : RequestId} :
      room.joinRequestState requestId = some .pending → EndsStanding room (.expire now)

theorem joinRequestState_some {requestId : RequestId} {request : JoinRequest} {state : JoinRequestState}
    (hr : room.joinRequests[requestId]? = some request) (hs : request.state = state) :
    room.joinRequestState requestId = some state := by
  rw [joinRequestState, hr, Option.map_some, hs]

/-- A session whose pending request is settled otherwise than by an approval is gone. -/
theorem Standing.gone_of_settled (hs : Standing room) {requestId : RequestId} {request : JoinRequest}
    {state : JoinRequestState} (hr : room.joinRequests[requestId]? = some request) (hp : request.state = .pending)
    (hstate : state ≠ .pending) : Gone (room.setJoinRequest requestId { request with state }) request.sessionId := by
  refine ⟨fun m hm => hs.pendingOutside requestId request m hr hp hm, fun q r hr' hsession hp' => ?_⟩
  rw [joinRequests_setJoinRequest] at hr'
  split at hr'
  · cases hr'
    exact hstate hp'
  · rename_i hne
    exact hne (hs.onePending requestId q request r hr hr' hsession.symm hp hp')

theorem NoOutsiders.not_settled (hs : Standing room) {requestId : RequestId} {request : JoinRequest}
    {state : JoinRequestState} (hr : room.joinRequests[requestId]? = some request) (hp : request.state = .pending)
    (hstate : state ≠ .pending) : ¬ NoOutsiders (room.setJoinRequest requestId { request with state }) := by
  intro hno
  refine hno requestId { request with state } ?_ (hs.gone_of_settled hr hp hstate)
  rw [joinRequests_setJoinRequest, if_pos rfl]

/-- Whoever is gone after a change of a membership that stays was gone before. -/
theorem NoOutsiders.setMembership (h : NoOutsiders room) {membership : Membership} (hstate : membership.state ≠ .left) :
    NoOutsiders (room.setMembership sessionId membership) := by
  intro q r hr hgone
  have hne : sessionId ≠ r.sessionId := by
    intro he
    refine hstate (hgone.member membership ?_)
    rw [memberships_setMembership, if_pos he]
  refine h q r hr ⟨fun m hm => hgone.member m ?_, hgone.request⟩
  rw [memberships_setMembership, if_neg hne]
  exact hm

/-- **Outsiders come from the commands that end a standing, and from no others.** -/
theorem Effect.outsiders_iff (hs : Standing room) (h : NoOutsiders room) (heffect : Effect room command next) :
    NoOutsiders next ↔ ¬ EndsStanding room command := by
  cases heffect with
  | @requested requestId sessionId now expiresAt _ _ _ hfresh =>
    refine iff_of_true (fun q r hr hgone => ?_) nofun
    have hasks : ∀ other : RequestId, room.joinRequests[other]? ≠ none →
        (room.setJoinRequest requestId ⟨sessionId, expiresAt, .pending⟩).joinRequests[other]? =
          room.joinRequests[other]? := by
      intro other hother
      rw [joinRequests_setJoinRequest, if_neg]
      rintro rfl
      exact hother hfresh
    rw [joinRequests_setJoinRequest] at hr
    split at hr
    · rename_i he
      cases hr
      refine hgone.request requestId ⟨sessionId, expiresAt, .pending⟩ ?_ rfl rfl
      rw [joinRequests_setJoinRequest, if_pos rfl]
    · refine h q r hr ⟨hgone.member, fun q' r' hr' => hgone.request q' r' ?_⟩
      rw [hasks q' (by rw [hr']; simp), hr']
  | @approved requestId now request _ _ _ hr hp =>
    refine iff_of_true (fun q r hr' hgone => ?_) nofun
    have hmember : request.sessionId ≠ r.sessionId := by
      intro he
      have := hgone.member { role := .receiver, state := .offline } (by rw [memberships_setMembership, if_pos he])
      cases this
    have hother : requestId ≠ q := by
      rintro rfl
      have hr' : (room.setJoinRequest requestId _).joinRequests[requestId]? = some r := hr'
      rw [joinRequests_setJoinRequest, if_pos rfl] at hr'
      cases hr'
      exact hmember rfl
    have hr' : (room.setJoinRequest requestId _).joinRequests[q]? = some r := hr'
    rw [joinRequests_setJoinRequest, if_neg hother] at hr'
    refine h q r hr' ⟨fun m hm => hgone.member m ?_, fun q' r'' hr'' hsession hp' => ?_⟩
    · rw [memberships_setMembership, if_neg hmember]
      exact hm
    · refine hgone.request q' r'' ?_ hsession hp'
      show (room.setJoinRequest requestId _).joinRequests[q']? = some r''
      rw [joinRequests_setJoinRequest, if_neg]
      · exact hr''
      · rintro rfl
        rw [hr] at hr''
        cases hr''
        exact hmember hsession
  | rejected _ _ _ hr hp =>
    exact iff_of_false (NoOutsiders.not_settled hs hr hp (by simp)) fun hn => hn (.rejected (joinRequestState_some hr hp))
  | requestExpired _ _ hr hp =>
    exact iff_of_false (NoOutsiders.not_settled hs hr hp (by simp))
      fun hn => hn (.requestExpired (joinRequestState_some hr hp))
  | requestCancelled howner _ hr _ hp =>
    exact iff_of_false (NoOutsiders.not_settled hs hr hp (by simp)) fun hn => hn (.left howner)
  | attached => exact iff_of_true (h.setMembership (by simp)) nofun
  | detached => exact iff_of_true (h.setMembership (by simp)) nofun
  | ownerLeft => exact iff_of_true (fun q r hr hgone => h q r hr ⟨hgone.member, hgone.request⟩) fun | .left hne => hne rfl
  | @memberLeft sessionId membership howner hm hleft =>
    refine iff_of_false (fun hno => ?_) fun hn => hn (.left howner)
    -- a receiver was let in by a request of its own
    obtain ⟨q, r, hr, hsession, -⟩ :=
      hs.receiverApproved sessionId membership hm (hs.verified.receivers sessionId membership hm howner)
    have hgone := Effect.gone hs howner (.memberLeft howner hm hleft)
    exact hno q r hr (by rw [hsession]; exact hgone)
  | @expired now =>
    by_cases hp : ∃ (q : RequestId) (r : JoinRequest), room.joinRequests[q]? = some r ∧ r.state = .pending
    · obtain ⟨q, r, hr, hstate⟩ := hp
      refine iff_of_false (fun hno => ?_) fun hn => hn (.roomExpired (joinRequestState_some hr hstate))
      refine hno q (expirePending r) ?_ ⟨fun m hm => ?_, fun q' r' hr' _ => ?_⟩
      · rw [joinRequests_expire, hr, Option.map_some]
      · rw [expirePending_sessionId] at hm
        exact hs.pendingOutside q r m hr hstate hm
      · rw [joinRequests_expire] at hr'
        obtain ⟨old, -, rfl⟩ := Option.map_eq_some_iff.mp hr'
        exact expirePending_not_pending old
    · refine iff_of_true (fun q r hr hgone => ?_) fun hends => ?_
      · have hsame : ∀ (q : RequestId) (r : JoinRequest), room.joinRequests[q]? = some r →
            (room.joinRequests.map fun _ request => expirePending request)[q]? = some r := by
          intro q r hr
          rw [joinRequests_expire, hr, Option.map_some, expirePending_of_settled fun hstate => hp ⟨q, r, hr, hstate⟩]
        rw [joinRequests_expire] at hr
        obtain ⟨old, hold, rfl⟩ := Option.map_eq_some_iff.mp hr
        rw [expirePending_sessionId] at hgone
        exact h q old hold ⟨hgone.member, fun q' r' hr' => hgone.request q' r' (hsame q' r' hr')⟩
      · cases hends with
        | roomExpired hstate =>
          obtain ⟨r, hr, hr'⟩ := Option.map_eq_some_iff.mp hstate
          exact hp ⟨_, r, hr, hr'⟩

end Room

end P2PTransmission
