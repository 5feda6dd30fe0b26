import P2PTransmission.Domain.Room
import P2PTransmission.Foundation.Run

/-!
# What a command can do to a room

`Effect room command next`: the command passes all its checks in `room` and turns it into `next`, before the revision is
committed. `handle_cases` says that every command either leaves the room alone, with an error or the outcome
`UNCHANGED`, or commits one effect; the invariants of rooms are then case analyses over `Effect` that do not look at the
commands again.
-/

set_option autoImplicit false

namespace P2PTransmission

namespace Room

variable {room next : Room} {command : RoomCommand}

/-- The committed change of each command, with the checks that it passed. -/
inductive Effect (room : Room) : RoomCommand → Room → Prop
  | requested {requestId : RequestId} {sessionId : SessionId} {now expiresAt : Nat} :
      room.state = .active → now < expiresAt → expiresAt ≤ room.expiresAt → room.joinRequests[requestId]? = none →
      (∀ membership, room.memberships[sessionId]? = some membership → membership.state = .left) →
      (∀ (other : RequestId) (request : JoinRequest), room.joinRequests[other]? = some request →
        request.sessionId = sessionId → request.state ≠ .pending) →
      Effect room (.requestJoin requestId sessionId now expiresAt)
        (room.setJoinRequest requestId { sessionId, expiresAt, state := .pending })
  | approved {requestId : RequestId} {now : Nat} {request : JoinRequest} :
      room.state = .active → now < room.expiresAt → now < request.expiresAt →
      room.joinRequests[requestId]? = some request → request.state = .pending →
      Effect room (.decideJoin room.owner requestId .approve now)
        ((room.setJoinRequest requestId { request with state := .approved }).setMembership request.sessionId
          { role := .receiver, state := .offline })
  | rejected {requestId : RequestId} {now : Nat} {request : JoinRequest} :
      room.state = .active → now < room.expiresAt → now < request.expiresAt →
      room.joinRequests[requestId]? = some request → request.state = .pending →
      Effect room (.decideJoin room.owner requestId .reject now)
        (room.setJoinRequest requestId { request with state := .rejected })
  | requestExpired {requestId : RequestId} {now : Nat} {request : JoinRequest} :
      room.state = .active → now < room.expiresAt → room.joinRequests[requestId]? = some request →
      request.state = .pending → request.expiresAt ≤ now →
      Effect room (.expireJoinRequest requestId now) (room.setJoinRequest requestId { request with state := .expired })
  | attached {sessionId : SessionId} {peerId : PeerId} {now : Nat} {membership : Membership} :
      room.state = .active → now < room.expiresAt → room.memberships[sessionId]? = some membership →
      membership.state ≠ .online peerId → membership.state ≠ .left →
      Effect room (.attach sessionId peerId now)
        (room.setMembership sessionId { membership with state := .online peerId })
  | detached {sessionId : SessionId} {peerId : PeerId} {membership : Membership} :
      room.memberships[sessionId]? = some membership → membership.state = .online peerId →
      Effect room (.detach sessionId peerId) (room.setMembership sessionId { membership with state := .offline })
  | ownerLeft : room.state = .active → Effect room (.leave room.owner) { room with state := .expired }
  | memberLeft {sessionId : SessionId} {membership : Membership} :
      sessionId ≠ room.owner → room.memberships[sessionId]? = some membership → membership.state ≠ .left →
      Effect room (.leave sessionId) (room.setMembership sessionId { membership with state := .left })
  | requestCancelled {sessionId : SessionId} {requestId : RequestId} {request : JoinRequest} :
      sessionId ≠ room.owner → room.memberships[sessionId]? = none → room.joinRequests[requestId]? = some request →
      request.sessionId = sessionId → request.state = .pending →
      Effect room (.leave sessionId) (room.setJoinRequest requestId { request with state := .cancelled })
  | expired {now : Nat} :
      room.state = .active → room.expiresAt ≤ now →
      Effect room (.expire now)
        { room with
          state := .expired
          joinRequests := room.joinRequests.map fun _ request => expirePending request }

theorem active_of_not_expired (h : room.state ≠ .expired) : room.state = .active := by
  cases hs : room.state with
  | active => rfl
  | expired => exact absurd hs h

theorem ensureActive_ok {now : Nat} (h : room.ensureActive now = .ok ()) :
    room.state = .active ∧ now < room.expiresAt := by
  unfold ensureActive at h
  split at h
  · cases h
  · rename_i hc
    rw [not_or, not_not, ge_iff_le, not_le] at hc
    exact hc

theorem ensureActive_of {now : Nat} (hactive : room.state = .active) (hnow : now < room.expiresAt) :
    room.ensureActive now = .ok () := if_neg (by rw [hactive]; simp; omega)

/-- A command answers without touching the room, or commits an effect. -/
def Cases (room : Room) (command : RoomCommand) (handled : Handled) : Prop :=
  (∃ error, handled = room.fail error) ∨ handled = room.unchanged ∨
    ∃ next, Effect room command next ∧ handled = next.commit

theorem requestJoin_cases (requestId : RequestId) (sessionId : SessionId) (now expiresAt : Nat) :
    Cases room (.requestJoin requestId sessionId now expiresAt)
      (room.requestJoin requestId sessionId now expiresAt) := by
  unfold requestJoin
  split
  · exact .inl ⟨_, rfl⟩
  rename_i hactive
  obtain ⟨hstate, -⟩ := ensureActive_ok hactive
  split
  · exact .inl ⟨_, rfl⟩
  rename_i hexpiry
  split
  · split
    · exact .inr (.inl rfl)
    · exact .inl ⟨_, rfl⟩
  rename_i hfresh
  split
  · exact .inl ⟨_, rfl⟩
  rename_i hmember
  split
  · exact .inl ⟨_, rfl⟩
  rename_i hpending
  rw [Bool.not_eq_true] at hpending
  refine .inr (.inr ⟨_, .requested hstate (by omega) (by omega) hfresh ?_ ?_, rfl⟩)
  · intro membership hm
    by_contra hleft
    exact hmember (by rw [hm]; simpa using hleft)
  · intro other request hr hsession hstate'
    have := BTreeMap.any_toList_eq_false
      (p := fun _ request : _ => decide (request.sessionId = sessionId ∧ request.state = .pending)) |>.mp hpending
      other request hr
    simp [hsession, hstate'] at this

theorem decideJoin_cases (actor : SessionId) (requestId : RequestId) (decision : JoinDecision) (now : Nat) :
    Cases room (.decideJoin actor requestId decision now) (room.decideJoin actor requestId decision now) := by
  unfold decideJoin
  split
  · exact .inl ⟨_, rfl⟩
  rename_i hactive
  obtain ⟨hstate, hlive⟩ := ensureActive_ok hactive
  split
  · exact .inl ⟨_, rfl⟩
  rename_i hactor
  rw [not_not] at hactor
  subst hactor
  split
  · exact .inl ⟨_, rfl⟩
  rename_i request hrequest
  split
  · exact .inl ⟨_, rfl⟩
  rename_i hnow
  split
  · rename_i hpending
    exact .inr (.inr ⟨_, .approved hstate hlive (by omega) hrequest hpending, rfl⟩)
  · rename_i hpending
    exact .inr (.inr ⟨_, .rejected hstate hlive (by omega) hrequest hpending, rfl⟩)
  · exact .inr (.inl rfl)
  · exact .inr (.inl rfl)
  · exact .inl ⟨_, rfl⟩

theorem expireJoinRequest_cases (requestId : RequestId) (now : Nat) :
    Cases room (.expireJoinRequest requestId now) (room.expireJoinRequest requestId now) := by
  unfold expireJoinRequest
  split
  · exact .inl ⟨_, rfl⟩
  rename_i hactive
  obtain ⟨hstate, hlive⟩ := ensureActive_ok hactive
  split
  · exact .inl ⟨_, rfl⟩
  rename_i request hrequest
  split
  · exact .inr (.inl rfl)
  rename_i hpending
  rw [not_not] at hpending
  split
  · exact .inl ⟨_, rfl⟩
  rename_i hnow
  exact .inr (.inr ⟨_, .requestExpired hstate hlive hrequest hpending (by omega), rfl⟩)

theorem attach_cases (sessionId : SessionId) (peerId : PeerId) (now : Nat) :
    Cases room (.attach sessionId peerId now) (room.attach sessionId peerId now) := by
  unfold attach
  split
  · exact .inl ⟨_, rfl⟩
  rename_i hactive
  obtain ⟨hstate, hlive⟩ := ensureActive_ok hactive
  split
  · exact .inl ⟨_, rfl⟩
  rename_i membership hmembership
  split
  · exact .inr (.inl rfl)
  rename_i honline
  split
  · exact .inl ⟨_, rfl⟩
  rename_i hleft
  exact .inr (.inr ⟨_, .attached hstate hlive hmembership honline hleft, rfl⟩)

theorem detach_cases (sessionId : SessionId) (peerId : PeerId) :
    Cases room (.detach sessionId peerId) (room.detach sessionId peerId) := by
  unfold detach
  split
  · exact .inl ⟨_, rfl⟩
  rename_i membership hmembership
  split
  · rename_i honline
    exact .inr (.inr ⟨_, .detached hmembership honline, rfl⟩)
  · split
    · exact .inl ⟨_, rfl⟩
    · exact .inr (.inl rfl)

theorem leave_cases (sessionId : SessionId) : Cases room (.leave sessionId) (room.leave sessionId) := by
  unfold leave
  split
  · rename_i howner
    subst howner
    split
    · exact .inr (.inl rfl)
    · rename_i hstate
      exact .inr (.inr ⟨_, .ownerLeft (active_of_not_expired hstate), rfl⟩)
  rename_i howner
  split
  · rename_i membership hmembership
    split
    · exact .inr (.inl rfl)
    · rename_i hleft
      exact .inr (.inr ⟨_, .memberLeft howner hmembership hleft, rfl⟩)
  · rename_i hmembership
    split
    · rename_i requestId request hfind
      obtain ⟨hget, hp⟩ := BTreeMap.find?_toList_some hfind
      simp only [decide_eq_true_eq] at hp
      exact .inr (.inr ⟨_, .requestCancelled howner hmembership hget hp.1 hp.2, rfl⟩)
    · exact .inl ⟨_, rfl⟩

theorem expire_cases (now : Nat) : Cases room (.expire now) (room.expire now) := by
  unfold expire
  split
  · exact .inr (.inl rfl)
  rename_i hstate
  split
  · exact .inl ⟨_, rfl⟩
  rename_i hnow
  exact .inr (.inr ⟨_, .expired (active_of_not_expired hstate) (by omega), rfl⟩)

/-- **The cases of a command.** -/
theorem handle_cases (room : Room) (command : RoomCommand) : Cases room command (room.handle command) := by
  cases command with
  | requestJoin requestId sessionId now expiresAt => exact requestJoin_cases requestId sessionId now expiresAt
  | decideJoin actor requestId decision now => exact decideJoin_cases actor requestId decision now
  | expireJoinRequest requestId now => exact expireJoinRequest_cases requestId now
  | attach sessionId peerId now => exact attach_cases sessionId peerId now
  | detach sessionId peerId => exact detach_cases sessionId peerId
  | leave sessionId => exact leave_cases sessionId
  | expire now => exact expire_cases now

/-! ## Committing -/

/-- `next` with some revision that is not `0`, as a commit leaves it. -/
theorem commit_cases (next : Room) :
    next.commit = (.ok .CHANGED, { next with revision := next.revision + 1 }) ∨
      next.commit = (.error .revisionOverflow, next) := by
  unfold commit Revision.next
  split
  · rename_i revision h
    split at h
    · cases h; exact .inl rfl
    · cases h
  · exact .inr rfl

/-- The room after a command is the room before, or an effect of the command with its own or the next revision. -/
theorem handle_room (room : Room) (command : RoomCommand) :
    (room.handle command).2 = room ∨ ∃ next, Effect room command next ∧
      ((room.handle command).2 = next ∨ (room.handle command).2 = { next with revision := next.revision + 1 }) := by
  rcases handle_cases room command with ⟨error, h⟩ | h | ⟨next, heffect, h⟩
  · exact .inl (by rw [h]; rfl)
  · exact .inl (by rw [h]; rfl)
  · refine .inr ⟨next, heffect, ?_⟩
    rcases commit_cases next with hc | hc
    · exact .inr (by rw [h, hc])
    · exact .inl (by rw [h, hc])

/-- A property that no effect breaks and that does not speak of the revision is kept by every command. -/
theorem handle_keeps {I : Room → Prop} (heffect : ∀ {room command next}, I room → Effect room command next → I next)
    (hrevision : ∀ {room} revision, revision ≠ 0 → I room → I { room with revision }) {room : Room}
    (command : RoomCommand) (h : I room) : I (room.handle command).2 := by
  rcases handle_room room command with he | ⟨next, hn, he | he⟩
  · rwa [he]
  · rw [he]; exact heffect h hn
  · rw [he]; exact hrevision _ (Nat.succ_ne_zero _) (heffect h hn)

end Room

end P2PTransmission
