import P2PTransmission.Domain.Invariant
import P2PTransmission.Foundation.Fallible

/-!
# Restored rooms

`Room.restore` rebuilds a room from stored snapshots. The snapshots of a room restore to the room itself when it passes
the checks (`restore_snapshots`), and a restored room is described by the lists it came from (`restore_iff`).

The check at this boundary is not inductive. A stored pending request of the owner passes it, and approving the request
makes the owner a receiver. `restored_room_valid_iff` says that this is the only way: a restored room stays valid under
all commands exactly if it has no such request that can still be approved.
-/

set_option autoImplicit false

namespace P2PTransmission

namespace Room

variable {id : RoomId} {code : RoomCode} {owner : SessionId} {expiresAt : Nat} {state : RoomState} {revision : Nat}
  {memberships : List RoomMembershipSnapshot} {joinRequests : List RoomJoinRequestSnapshot} {room next : Room}
  {command : RoomCommand}

/-! ## The room and its snapshots -/

/-- The snapshot of one request. -/
def requestSnapshot (requestId : RequestId) (request : JoinRequest) : RoomJoinRequestSnapshot :=
  { requestId, sessionId := request.sessionId, expiresAt := request.expiresAt, state := request.state }

theorem restoreJoinRequests_ok {restored : BTreeMap RequestId JoinRequest}
    (h : restoreJoinRequests expiresAt joinRequests = .ok restored) :
    (∀ request ∈ joinRequests, request.expiresAt ≤ expiresAt) ∧
      ∀ requestId request, restored[requestId]? = some request ↔ requestSnapshot requestId request ∈ joinRequests := by
  obtain ⟨hcheck, -, -, hmap⟩ := BTreeMap.collect_ok h
  refine ⟨fun request hr => ?_, fun requestId request => ?_⟩
  · have := hcheck request hr
    split at this
    · cases this
    · omega
  · rw [hmap, Std.ExtTreeMap.getElem?_empty]
    constructor
    · rintro (h | ⟨snapshot, hs, rfl, rfl⟩)
      · cases h
      · exact hs
    · intro hs
      exact .inr ⟨_, hs, rfl, rfl⟩

/-- The room that a tuple of arguments restores to, if its parts are accepted and it passes the checks. -/
theorem restore_iff :
    restore id code owner expiresAt state revision memberships joinRequests = .ok room ↔
      restoreMemberships memberships = .ok room.memberships ∧
        restoreJoinRequests expiresAt joinRequests = .ok room.joinRequests ∧ Verified room ∧ room.id = id ∧
        room.code = code ∧ room.owner = owner ∧ room.expiresAt = expiresAt ∧ room.state = state ∧
        room.revision = revision := by
  constructor
  · intro h
    unfold restore at h
    obtain ⟨restored, hm, h⟩ := bind_ok.mp h
    obtain ⟨requests, hj, h⟩ := bind_ok.mp h
    simp only at h
    split at h
    · rename_i hv
      cases h
      exact ⟨hm, hj, verifyInvariants_iff.mp hv, rfl, rfl, rfl, rfl, rfl, rfl⟩
    · cases h
  · rintro ⟨hm, hj, hv, rfl, rfl, rfl, rfl, rfl, rfl⟩
    unfold restore
    rw [hm, hj]
    simp only [bind, Except.bind]
    rw [verifyInvariants_iff.mpr hv]

/-- The snapshots of a room that passes the checks restore to the room. -/
theorem restore_snapshots (hv : Verified room) (hwithin : Within room) :
    restore room.id room.code room.owner room.expiresAt room.state room.revision room.membershipSnapshots
      room.joinRequestSnapshots = .ok room := by
  have hm : restoreMemberships room.membershipSnapshots = .ok room.memberships :=
    BTreeMap.collect_toList (fun _ => rfl) (fun _ => rfl) (fun _ _ _ => rfl)
  have hj : restoreJoinRequests room.expiresAt room.joinRequestSnapshots = .ok room.joinRequests :=
    BTreeMap.collect_toList (fun _ => rfl) (fun _ => rfl) fun q r hr => if_neg (by simpa using hwithin q r hr)
  exact restore_iff.mpr ⟨hm, hj, hv, rfl, rfl, rfl, rfl, rfl, rfl⟩

/-! ## When a restored room stays valid -/

/-- The room is expired, or no pending request of its owner can still be approved. -/
def NoOwnRequest (room : Room) : Prop :=
  room.state = .expired ∨ ∀ (q : RequestId) (r : JoinRequest), room.joinRequests[q]? = some r → r.state = .pending →
    r.sessionId = room.owner → r.expiresAt = 0

/-- A room keeps having no such request when one of its requests is written that is not pending or not the owner's. -/
theorem NoOwnRequest.setJoinRequest (h : NoOwnRequest room) {requestId : RequestId} {request : JoinRequest}
    (hrequest : request.state = .pending → request.sessionId ≠ room.owner) :
    NoOwnRequest (room.setJoinRequest requestId request) := by
  refine h.imp (fun h => h) fun h q r hr hp ho => ?_
  rw [joinRequests_setJoinRequest] at hr
  split at hr
  · cases hr; exact absurd ho (hrequest hp)
  · exact h q r hr hp ho

theorem NoOwnRequest.effect (h : NoOwnRequest room) (hv : Verified room) (heffect : Effect room command next) :
    NoOwnRequest next := by
  cases heffect with
  | requested _ _ _ _ houtside =>
    refine h.setJoinRequest fun _ => ?_
    rintro rfl
    obtain ⟨o, ho, -, hleft⟩ := hv.owner
    exact hleft (houtside o ho)
  | approved | rejected | requestExpired | requestCancelled => exact h.setJoinRequest (by simp)
  | attached | detached | memberLeft => exact h
  | ownerLeft | expired => exact .inl rfl

/-- Such a room stays valid, and keeps having no such request. -/
theorem Verified.handle (hv : Verified room) (h : NoOwnRequest room) (command : RoomCommand) :
    Verified (room.handle command).2 ∧ NoOwnRequest (room.handle command).2 := by
  refine handle_keeps (I := fun room => Verified room ∧ NoOwnRequest room) (fun {room _ _} ⟨hv, h⟩ he => ?_)
    (fun revision hr ⟨hv, h⟩ => ⟨hv.withRevision revision hr, h⟩) command ⟨hv, h⟩
  refine ⟨hv.effect he fun q r now _ hnow hactive hq hp ho => ?_, h.effect hv he⟩
  rcases h with h | h
  · rw [hactive] at h; cases h
  · have := h q r hq hp ho
    omega

theorem Verified.handleAll (hv : Verified room) (h : NoOwnRequest room) (commands : List RoomCommand) :
    Verified (room.handleAll commands) :=
  ((handleAll_run room commands).invariant (I := fun room => Verified room ∧ NoOwnRequest room)
    (fun _ command _ h he => by subst he; exact h.1.handle h.2 command) ⟨hv, h⟩).1

/-- Approving a pending request of the owner makes the owner a receiver. -/
theorem approve_own_request {q : RequestId} {r : JoinRequest} (hactive : room.state = .active)
    (hroom : 0 < room.expiresAt) (hr : room.joinRequests[q]? = some r) (hp : r.state = .pending)
    (hexpiry : 0 < r.expiresAt) (ho : r.sessionId = room.owner) :
    ¬ Verified (room.handle (.decideJoin room.owner q .approve 0)).2 := by
  have hensure : room.ensureActive 0 = .ok () := by
    unfold ensureActive
    rw [if_neg (by simp [hactive]; omega)]
  have hhandle : room.handle (.decideJoin room.owner q .approve 0) =
      ((room.setJoinRequest q { r with state := .approved }).setMembership r.sessionId
        { role := .receiver, state := .offline }).commit := by
    simp only [handle, decideJoin, hensure, hr, hp, ne_eq, not_true_eq_false, if_false]
    rw [if_neg (by omega)]
  intro hv
  obtain ⟨o, hm, hrole, -⟩ := hv.owner
  have howner : (room.handle (.decideJoin room.owner q .approve 0)).2.memberships[room.owner]? =
      some { role := .receiver, state := .offline } := by
    rw [hhandle, ← ho]
    rcases commit_cases ((room.setJoinRequest q { r with state := .approved }).setMembership r.sessionId
      { role := .receiver, state := .offline }) with hc | hc <;>
    · rw [hc]
      exact (memberships_setMembership _ _ _ _).trans (if_pos rfl)
  have hsame : (room.handle (.decideJoin room.owner q .approve 0)).2.owner = room.owner := by
    rw [hhandle]
    rcases commit_cases ((room.setJoinRequest q { r with state := .approved }).setMembership r.sessionId
      { role := .receiver, state := .offline }) with hc | hc <;> rw [hc] <;> rfl
  rw [hsame, howner] at hm
  cases hm
  cases hrole

/-- **A restored room stays valid exactly if it is expired or its owner has no pending request that can be approved.** -/
theorem restored_room_valid_iff
    (h : restore id code owner expiresAt state revision memberships joinRequests = .ok room) :
    (∀ commands, (room.handleAll commands).verifyInvariants = .ok ()) ↔
      (state = .expired ∨ ∀ request ∈ joinRequests, request.state = .pending → request.sessionId = owner →
        request.expiresAt = 0) := by
  obtain ⟨-, hj, hv, -, -, rfl, rfl, rfl, -⟩ := restore_iff.mp h
  obtain ⟨hwithin, hmem⟩ := restoreJoinRequests_ok hj
  constructor
  · intro hall
    by_contra hc
    rw [not_or] at hc
    obtain ⟨hstate, hc⟩ := hc
    push Not at hc
    obtain ⟨request, hr, hp, ho, hne⟩ := hc
    have hlive : 0 < request.expiresAt := Nat.pos_of_ne_zero hne
    refine approve_own_request (q := request.requestId)
      (r := { sessionId := request.sessionId, expiresAt := request.expiresAt, state := request.state })
      (active_of_not_expired hstate) (by have := hwithin request hr; omega) ((hmem _ _).mpr hr) hp hlive ho ?_
    exact verifyInvariants_iff.mp (hall [.decideJoin room.owner request.requestId .approve 0])
  · intro hc commands
    refine verifyInvariants_iff.mpr (hv.handleAll ?_ commands)
    exact hc.imp (fun h => h) fun hc q r hr hp ho => hc (requestSnapshot q r) ((hmem q r).mp hr) hp ho

def ownerOne : SessionId := .of "owner_1"

def requestOne : RequestId := .of "request_1"

/-- A pending request of the owner. -/
def ownRequestSnapshot : RoomJoinRequestSnapshot :=
  { requestId := requestOne, sessionId := ownerOne, expiresAt := 900, state := .pending }

def ownerSnapshot : RoomMembershipSnapshot := { sessionId := ownerOne, role := .owner, state := .offline }

/-- A stored room with this request is accepted, and one command of its owner makes it invalid. -/
theorem restored_room_breaks : ∃ room,
    restore (.of "room_1") (.of "ABC234") ownerOne 1000 .active 2 [ownerSnapshot] [ownRequestSnapshot] = .ok room ∧
      ¬ ∀ commands, (room.handleAll commands).verifyInvariants = .ok () := by
  refine ⟨_, rfl, fun h => ?_⟩
  exact absurd (h [.decideJoin ownerOne requestOne .approve 20]) (by decide)

/-- Without the request the same room stays valid. -/
theorem restored_room_valid_plain : ∃ room,
    restore (.of "room_1") (.of "ABC234") ownerOne 1000 .active 2 [ownerSnapshot] [] = .ok room ∧
      ∀ commands, (room.handleAll commands).verifyInvariants = .ok () := by
  have h : restore (.of "room_1") (.of "ABC234") ownerOne 1000 .active 2 [ownerSnapshot] [] = .ok _ := rfl
  exact ⟨_, h, (restored_room_valid_iff h).mpr (.inr (by simp))⟩

end Room

end P2PTransmission
