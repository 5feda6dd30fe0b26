import P2PTransmission.Domain.Restore

/-!
# Atomic commands

`commit` is the last step of every change and the only one that can fail after the room was touched. So a command is
atomic unless it has a change to make in a room whose revision is the largest one (`handle_atomic_iff`).
-/

set_option autoImplicit false

namespace P2PTransmission

namespace Room

variable {room next : Room} {command : RoomCommand}

/-- The room differs in its state, its memberships or its join requests. -/
def Differs (room next : Room) : Prop :=
  next.state ≠ room.state ∨ next.memberships ≠ room.memberships ∨ next.joinRequests ≠ room.joinRequests

/-- What one call promises about the room and its revision. -/
structure Atomic (room : Room) (handled : Handled) : Prop where
  failed : ∀ error, handled.1 = .error error → handled.2 = room
  unchanged : ∀ outcome, handled.1 = .ok outcome → outcome.changed = false → handled.2 = room
  changed : ∀ outcome, handled.1 = .ok outcome → outcome.changed = true →
    Differs room handled.2 ∧ handled.2.revision = room.revision + 1

/-! ## A change is one -/

theorem Differs.request {requestId : RequestId} {request : JoinRequest}
    (h : room.joinRequests[requestId]? ≠ some request) : Differs room (room.setJoinRequest requestId request) := by
  refine .inr (.inr fun he => h ?_)
  rw [← he, joinRequests_setJoinRequest, if_pos rfl]

theorem Differs.membership {sessionId : SessionId} {membership : Membership}
    (h : room.memberships[sessionId]? ≠ some membership) :
    Differs room (room.setMembership sessionId membership) := by
  refine .inr (.inl fun he => h ?_)
  rw [← he, memberships_setMembership, if_pos rfl]

/-- A request that is settled is not the pending one it was. -/
theorem Differs.settled {requestId : RequestId} {request : JoinRequest} {state : JoinRequestState}
    (hr : room.joinRequests[requestId]? = some request) (hp : request.state = .pending) (hs : state ≠ .pending) :
    Differs room (room.setJoinRequest requestId { request with state }) := by
  refine Differs.request fun he => hs ?_
  rw [hr] at he
  rw [← hp, Option.some.inj he]

theorem Differs.setState {sessionId : SessionId} {membership : Membership} {state : MembershipState}
    (hm : room.memberships[sessionId]? = some membership) (hs : membership.state ≠ state) :
    Differs room (room.setMembership sessionId { membership with state }) := by
  refine Differs.membership fun he => hs ?_
  rw [hm] at he
  rw [Option.some.inj he]

theorem Differs.withMembership {sessionId : SessionId} {membership : Membership}
    (h : next.joinRequests ≠ room.joinRequests) : Differs room (next.setMembership sessionId membership) :=
  .inr (.inr h)

theorem Differs.revision (h : Differs room next) (revision : Nat) : Differs room { next with revision } := h

theorem Effect.differs (heffect : Effect room command next) : Differs room next := by
  cases heffect with
  | requested _ _ _ hfresh => exact Differs.request (by rw [hfresh]; simp)
  | @approved requestId _ request _ _ _ hr hp =>
    refine Differs.withMembership fun he => ?_
    have h : some { request with state := .approved } = room.joinRequests[requestId]? := by
      rw [← he, joinRequests_setJoinRequest, if_pos rfl]
    rw [hr] at h
    have hstate := congrArg JoinRequest.state (Option.some.inj h)
    rw [hp] at hstate
    cases hstate
  | rejected _ _ _ hr hp => exact Differs.settled hr hp (by simp)
  | requestExpired _ _ hr hp => exact Differs.settled hr hp (by simp)
  | requestCancelled _ _ hr _ hp => exact Differs.settled hr hp (by simp)
  | attached _ _ hm honline => exact Differs.setState hm honline
  | detached hm honline => exact Differs.setState hm (by rw [honline]; simp)
  | memberLeft _ hm hleft => exact Differs.setState hm hleft
  | ownerLeft hactive => exact .inl (by rw [hactive]; simp)
  | expired hactive => exact .inl (by rw [hactive]; simp)

/-! ## A change is made when it can be -/

/-- A request of a session that passes the checks is stored. -/
theorem requestJoin_commit {requestId : RequestId} {sessionId : SessionId} {now expiresAt : Nat}
    (hactive : room.state = .active) (hnow : now < expiresAt) (hexpiry : expiresAt ≤ room.expiresAt)
    (hfresh : room.joinRequests[requestId]? = none)
    (houtside : ∀ membership, room.memberships[sessionId]? = some membership → membership.state = .left)
    (hpending : ∀ (other : RequestId) (request : JoinRequest), room.joinRequests[other]? = some request →
      request.sessionId = sessionId → request.state ≠ .pending) :
    room.requestJoin requestId sessionId now expiresAt =
      (room.setJoinRequest requestId { sessionId, expiresAt, state := .pending }).commit := by
  have hmember : (room.memberships[sessionId]?).any (fun membership => membership.state ≠ .left) = false := by
    cases hm : room.memberships[sessionId]? with
    | none => rfl
    | some membership => simp [houtside membership hm]
  have hnone : room.joinRequests.toList.any
      (fun e => e.2.sessionId = sessionId ∧ e.2.state = .pending) = false := by
    refine (BTreeMap.any_toList_eq_false (p := fun _ request : _ =>
      decide (JoinRequest.sessionId request = sessionId ∧ JoinRequest.state request = .pending))).mpr ?_
    intro other request hr
    simpa using hpending other request hr
  simp only [requestJoin, ensureActive_of hactive (lt_of_lt_of_le hnow hexpiry), hfresh, hmember, hnone]
  rw [if_neg (by omega), if_neg (by simp), if_neg (by simp)]

/-- A session without a membership that has a pending request cancels one. -/
theorem leave_cancels {sessionId : SessionId} {requestId : RequestId} {request : JoinRequest}
    (howner : sessionId ≠ room.owner) (hm : room.memberships[sessionId]? = none)
    (hr : room.joinRequests[requestId]? = some request) (hs : request.sessionId = sessionId)
    (hp : request.state = .pending) :
    ∃ effected, Effect room (.leave sessionId) effected ∧ room.leave sessionId = effected.commit := by
  simp only [leave, if_neg howner, hm]
  split
  · rename_i otherId other hfind
    obtain ⟨hother, hwith⟩ := BTreeMap.find?_toList_some hfind
    simp only [decide_eq_true_eq] at hwith
    exact ⟨_, .requestCancelled howner hm hother hwith.1 hwith.2, rfl⟩
  · rename_i hfind
    have hnot := BTreeMap.find?_toList_none hfind hr
    simp [hs, hp] at hnot

/-- A command with an effect commits one. -/
theorem Effect.committed (heffect : Effect room command next) :
    ∃ effected, Effect room command effected ∧ room.handle command = effected.commit := by
  cases heffect with
  | requested hactive hnow hexpiry hfresh houtside hpending =>
    exact ⟨_, .requested hactive hnow hexpiry hfresh houtside hpending,
      requestJoin_commit hactive hnow hexpiry hfresh houtside hpending⟩
  | approved hactive hlive hnow hr hp =>
    refine ⟨_, .approved hactive hlive hnow hr hp, ?_⟩
    simp [handle, decideJoin, ensureActive_of hactive hlive, hr, hp, Nat.not_le.mpr hnow]
  | rejected hactive hlive hnow hr hp =>
    refine ⟨_, .rejected hactive hlive hnow hr hp, ?_⟩
    simp [handle, decideJoin, ensureActive_of hactive hlive, hr, hp, Nat.not_le.mpr hnow]
  | requestExpired hactive hlive hr hp hnow =>
    refine ⟨_, .requestExpired hactive hlive hr hp hnow, ?_⟩
    simp [handle, expireJoinRequest, ensureActive_of hactive hlive, hr, hp, Nat.not_lt.mpr hnow]
  | attached hactive hlive hm honline hleft =>
    refine ⟨_, .attached hactive hlive hm honline hleft, ?_⟩
    simp [handle, attach, ensureActive_of hactive hlive, hm, honline, hleft]
  | detached hm honline =>
    refine ⟨_, .detached hm honline, ?_⟩
    simp [handle, detach, hm, honline]
  | ownerLeft hactive =>
    refine ⟨_, .ownerLeft hactive, ?_⟩
    simp [handle, leave, hactive]
  | memberLeft howner hm hleft =>
    refine ⟨_, .memberLeft howner hm hleft, ?_⟩
    simp [handle, leave, howner, hm, hleft]
  | requestCancelled howner hm hr hs hp => exact leave_cancels howner hm hr hs hp
  | expired hactive hnow =>
    refine ⟨_, .expired hactive hnow, ?_⟩
    simp [handle, expire, hactive, Nat.not_lt.mpr hnow]

/-! ## Committing -/

theorem commit_below (h : next.revision < U64_MAX) :
    next.commit = (.ok .CHANGED, { next with revision := next.revision + 1 }) := by
  simp only [commit, Revision.next, if_pos (Nat.succ_le_of_lt h)]

theorem commit_overflow (h : ¬ next.revision < U64_MAX) : next.commit = (.error .revisionOverflow, next) := by
  simp only [commit, Revision.next, if_neg (show ¬ next.revision + 1 ≤ U64_MAX by omega)]

theorem Atomic.of_fail (error : RoomError) : Atomic room (room.fail error) :=
  ⟨fun _ _ => rfl, fun _ h => (by cases h), fun _ h => by cases h⟩

theorem Atomic.of_unchanged : Atomic room room.unchanged := by
  refine ⟨fun _ h => (by cases h), fun _ _ _ => rfl, fun outcome h hchanged => ?_⟩
  cases h
  cases hchanged

/-- A change that can be committed is accounted for by one revision. -/
theorem Effect.atomic (heffect : Effect room command next) (h : room.revision < U64_MAX) :
    Atomic room next.commit := by
  rw [commit_below (by rw [heffect.revision]; exact h)]
  refine ⟨fun _ h => (by cases h), fun outcome h hunchanged => ?_, fun _ _ _ => ?_⟩
  · cases h
    cases hunchanged
  · exact ⟨heffect.differs.revision _, by rw [heffect.revision]⟩

/-- **A command is atomic exactly if the revision can still be counted up or the command has nothing to change.** -/
theorem handle_atomic_iff (room : Room) (command : RoomCommand) :
    Atomic room (room.handle command) ↔ (room.revision < U64_MAX ∨ ¬ ∃ next, Effect room command next) := by
  constructor
  · intro hatomic
    by_contra hnot
    rw [not_or, not_not] at hnot
    obtain ⟨hrevision, next, heffect⟩ := hnot
    obtain ⟨effected, heffect, hhandle⟩ := heffect.committed
    -- the overflow is reported after the change was made
    rw [commit_overflow (by rw [heffect.revision]; exact hrevision)] at hhandle
    have hsame : effected = room := by
      have := hatomic.failed .revisionOverflow (by rw [hhandle])
      rwa [hhandle] at this
    rcases heffect.differs with h | h | h <;> exact h (by rw [hsame])
  · intro hcond
    rcases handle_cases room command with ⟨error, h⟩ | h | ⟨next, heffect, h⟩
    · rw [h]
      exact Atomic.of_fail error
    · rw [h]
      exact Atomic.of_unchanged
    · rw [h]
      rcases hcond with hrevision | hnone
      · exact heffect.atomic hrevision
      · exact absurd ⟨next, heffect⟩ hnone

/-- The owner leaves a room that was restored under the largest revision: the command fails and the room has expired. -/
theorem handle_atomic_breaks : ∃ room,
    restore (.of "room_1") (.of "ABC234") ownerOne 1000 .active U64_MAX [ownerSnapshot] [] = .ok room ∧
      ¬ ∀ command, Atomic room (room.handle command) := by
  refine ⟨_, rfl, fun h => ?_⟩
  exact absurd ((h (.leave ownerOne)).failed .revisionOverflow (by decide)) (by decide)

end Room

end P2PTransmission
