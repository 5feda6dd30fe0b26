import P2PTransmission.Domain.Ids

/-!
# Rooms

The room aggregate: an owner, the memberships by session, the join requests by id, and the seven commands that change
them. `Room.handle` runs one command. As in the source it works on the room in place and commits last, so it returns the
result together with the room it leaves behind: a command whose `commit` overflows the revision answers with an error
after its change was made.
-/

set_option autoImplicit false

namespace P2PTransmission

/-! ## Data -/

inductive RoomState where
  | active
  | expired
  deriving DecidableEq, Repr

inductive MembershipRole where
  | owner
  | receiver
  deriving DecidableEq, Repr

inductive MembershipState where
  | offline
  | online (peerId : PeerId)
  | left
  deriving DecidableEq

structure Membership where
  role : MembershipRole
  state : MembershipState
  deriving DecidableEq

inductive JoinRequestState where
  | pending
  | approved
  | rejected
  | cancelled
  | expired
  deriving DecidableEq, Repr

structure JoinRequest where
  sessionId : SessionId
  expiresAt : Nat
  state : JoinRequestState
  deriving DecidableEq

structure RoomMembershipSnapshot where
  sessionId : SessionId
  role : MembershipRole
  state : MembershipState
  deriving DecidableEq

structure RoomJoinRequestSnapshot where
  requestId : RequestId
  sessionId : SessionId
  expiresAt : Nat
  state : JoinRequestState
  deriving DecidableEq

inductive JoinDecision where
  | approve
  | reject
  deriving DecidableEq, Repr

inductive RoomCommand where
  | requestJoin (requestId : RequestId) (sessionId : SessionId) (now expiresAt : Nat)
  | decideJoin (actor : SessionId) (requestId : RequestId) (decision : JoinDecision) (now : Nat)
  | expireJoinRequest (requestId : RequestId) (now : Nat)
  | attach (sessionId : SessionId) (peerId : PeerId) (now : Nat)
  | detach (sessionId : SessionId) (peerId : PeerId)
  | leave (sessionId : SessionId)
  | expire (now : Nat)
  deriving DecidableEq

structure RoomCommandOutcome where
  changed : Bool
  deriving DecidableEq, Repr

def RoomCommandOutcome.CHANGED : RoomCommandOutcome := ⟨true⟩
def RoomCommandOutcome.UNCHANGED : RoomCommandOutcome := ⟨false⟩

inductive RoomError where
  | invalidExpiry
  | inactive
  | invalidRequestExpiry
  | idempotencyConflict
  | alreadyMember
  | pendingRequestExists
  | unauthorized
  | requestNotFound
  | requestExpired
  | requestExpiryNotReached
  | terminalRequest
  | membershipNotFound
  | membershipLeft
  | expiryNotReached
  | revisionOverflow
  deriving DecidableEq, Repr

inductive RoomInvariantError where
  | zeroRevision
  | missingOwner
  | invalidOwner
  | invalidReceiverRole
  | approvedRequestWithoutMembership
  deriving DecidableEq, Repr

inductive RoomRestoreError where
  | duplicateMembership (sessionId : SessionId)
  | duplicateJoinRequest (requestId : RequestId)
  | requestOutlivesRoom (requestId : RequestId)
  | invariant (error : RoomInvariantError)
  deriving DecidableEq

structure Room where
  id : RoomId
  code : RoomCode
  owner : SessionId
  expiresAt : Nat
  state : RoomState
  revision : Nat
  memberships : BTreeMap SessionId Membership
  joinRequests : BTreeMap RequestId JoinRequest
  deriving DecidableEq

/-- What a command returns, and the room it leaves behind. -/
abbrev Handled := Except RoomError RoomCommandOutcome × Room

namespace Room

/-! ## Creation and reading -/

def create (id : RoomId) (code : RoomCode) (owner : SessionId) (now expiresAt : Nat) :
    Except RoomError (Room × RoomCommandOutcome) :=
  if expiresAt ≤ now then .error .invalidExpiry
  else .ok
    ({ id, code, owner, expiresAt
       state := .active
       revision := 1
       memberships := (∅ : BTreeMap SessionId Membership).insert owner { role := .owner, state := .offline }
       joinRequests := ∅ }, .CHANGED)

def membershipState (room : Room) (sessionId : SessionId) : Option MembershipState :=
  room.memberships[sessionId]?.map (·.state)

def joinRequestState (room : Room) (requestId : RequestId) : Option JoinRequestState :=
  room.joinRequests[requestId]?.map (·.state)

def membershipSnapshots (room : Room) : List RoomMembershipSnapshot :=
  room.memberships.toList.map fun (sessionId, membership) =>
    { sessionId, role := membership.role, state := membership.state }

def joinRequestSnapshots (room : Room) : List RoomJoinRequestSnapshot :=
  room.joinRequests.toList.map fun (requestId, request) =>
    { requestId, sessionId := request.sessionId, expiresAt := request.expiresAt, state := request.state }

/-! ## The checks -/

def verifyInvariants (room : Room) : Except RoomInvariantError Unit :=
  if room.revision = 0 then .error .zeroRevision
  else match room.memberships[room.owner]? with
    | none => .error .missingOwner
    | some owner =>
      if owner.role ≠ .owner ∨ owner.state = .left then .error .invalidOwner
      else if room.memberships.toList.any (fun e => e.1 ≠ room.owner ∧ e.2.role ≠ .receiver) then
        .error .invalidReceiverRole
      else if room.joinRequests.toList.any (fun e => e.2.state = .approved ∧
          (room.memberships[e.2.sessionId]?).map (·.role) ≠ some .receiver) then
        .error .approvedRequestWithoutMembership
      else .ok ()

def ensureActive (room : Room) (now : Nat) : Except RoomError Unit :=
  if room.state ≠ .active ∨ now ≥ room.expiresAt then .error .inactive else .ok ()

/-! ## Restoring a stored room -/

def restoreMemberships (memberships : List RoomMembershipSnapshot) :
    Except RoomRestoreError (BTreeMap SessionId Membership) :=
  BTreeMap.collect (·.sessionId) (fun membership => { role := membership.role, state := membership.state })
    (fun _ => .ok ()) .duplicateMembership memberships ∅

def restoreJoinRequests (expiresAt : Nat) (joinRequests : List RoomJoinRequestSnapshot) :
    Except RoomRestoreError (BTreeMap RequestId JoinRequest) :=
  BTreeMap.collect (·.requestId)
    (fun request => { sessionId := request.sessionId, expiresAt := request.expiresAt, state := request.state })
    (fun request => if request.expiresAt > expiresAt then .error (.requestOutlivesRoom request.requestId) else .ok ())
    .duplicateJoinRequest joinRequests ∅

def restore (id : RoomId) (code : RoomCode) (owner : SessionId) (expiresAt : Nat) (state : RoomState)
    (revision : Nat) (memberships : List RoomMembershipSnapshot) (joinRequests : List RoomJoinRequestSnapshot) :
    Except RoomRestoreError Room := do
  let memberships ← restoreMemberships memberships
  let joinRequests ← restoreJoinRequests expiresAt joinRequests
  let room : Room := { id, code, owner, expiresAt, state, revision, memberships, joinRequests }
  match room.verifyInvariants with
  | .ok () => .ok room
  | .error error => .error (.invariant error)

/-! ## Commands -/

/-- The last step of every change. The room keeps what the command did to it even when the revision overflows. -/
def commit (room : Room) : Handled :=
  match Revision.next room.revision with
  | .ok revision => (.ok .CHANGED, { room with revision })
  | .error _ => (.error .revisionOverflow, room)

def unchanged (room : Room) : Handled := (.ok .UNCHANGED, room)

def fail (room : Room) (error : RoomError) : Handled := (.error error, room)

def setMembership (room : Room) (sessionId : SessionId) (membership : Membership) : Room :=
  { room with memberships := room.memberships.insert sessionId membership }

def setJoinRequest (room : Room) (requestId : RequestId) (request : JoinRequest) : Room :=
  { room with joinRequests := room.joinRequests.insert requestId request }

def requestJoin (room : Room) (requestId : RequestId) (sessionId : SessionId) (now expiresAt : Nat) : Handled :=
  match room.ensureActive now with
  | .error error => room.fail error
  | .ok () =>
    if expiresAt ≤ now ∨ expiresAt > room.expiresAt then room.fail .invalidRequestExpiry
    else match room.joinRequests[requestId]? with
      | some existing =>
        if existing.sessionId = sessionId ∧ existing.expiresAt = expiresAt then room.unchanged
        else room.fail .idempotencyConflict
      | none =>
        if (room.memberships[sessionId]?).any (fun membership => membership.state ≠ .left) then
          room.fail .alreadyMember
        else if room.joinRequests.toList.any (fun e => e.2.sessionId = sessionId ∧ e.2.state = .pending) then
          room.fail .pendingRequestExists
        else (room.setJoinRequest requestId { sessionId, expiresAt, state := .pending }).commit

def decideJoin (room : Room) (actor : SessionId) (requestId : RequestId) (decision : JoinDecision)
    (now : Nat) : Handled :=
  match room.ensureActive now with
  | .error error => room.fail error
  | .ok () =>
    if actor ≠ room.owner then room.fail .unauthorized
    else match room.joinRequests[requestId]? with
      | none => room.fail .requestNotFound
      | some request =>
        if now ≥ request.expiresAt then room.fail .requestExpired
        else match request.state, decision with
          | .pending, .approve =>
            ((room.setJoinRequest requestId { request with state := .approved }).setMembership request.sessionId
              { role := .receiver, state := .offline }).commit
          | .pending, .reject => (room.setJoinRequest requestId { request with state := .rejected }).commit
          | .approved, .approve | .rejected, .reject => room.unchanged
          | _, _ => room.fail .terminalRequest

def expireJoinRequest (room : Room) (requestId : RequestId) (now : Nat) : Handled :=
  match room.ensureActive now with
  | .error error => room.fail error
  | .ok () =>
    match room.joinRequests[requestId]? with
    | none => room.fail .requestNotFound
    | some request =>
      if request.state ≠ .pending then room.unchanged
      else if now < request.expiresAt then room.fail .requestExpiryNotReached
      else (room.setJoinRequest requestId { request with state := .expired }).commit

def attach (room : Room) (sessionId : SessionId) (peerId : PeerId) (now : Nat) : Handled :=
  match room.ensureActive now with
  | .error error => room.fail error
  | .ok () =>
    match room.memberships[sessionId]? with
    | none => room.fail .membershipNotFound
    | some membership =>
      if membership.state = .online peerId then room.unchanged
      else if membership.state = .left then room.fail .membershipLeft
      else (room.setMembership sessionId { membership with state := .online peerId }).commit

def detach (room : Room) (sessionId : SessionId) (peerId : PeerId) : Handled :=
  match room.memberships[sessionId]? with
  | none => room.fail .membershipNotFound
  | some membership =>
    if membership.state = .online peerId then
      (room.setMembership sessionId { membership with state := .offline }).commit
    else if membership.state = .left then room.fail .membershipLeft
    else room.unchanged

def leave (room : Room) (sessionId : SessionId) : Handled :=
  if sessionId = room.owner then
    if room.state = .expired then room.unchanged
    else { room with state := .expired }.commit
  else match room.memberships[sessionId]? with
    | some membership =>
      if membership.state = .left then room.unchanged
      else (room.setMembership sessionId { membership with state := .left }).commit
    | none =>
      match room.joinRequests.toList.find? (fun e => e.2.sessionId = sessionId ∧ e.2.state = .pending) with
      | some (requestId, request) => (room.setJoinRequest requestId { request with state := .cancelled }).commit
      | none => room.fail .membershipNotFound

/-- What the expiry of a room does to one of its requests. -/
def expirePending (request : JoinRequest) : JoinRequest :=
  if request.state = .pending then { request with state := .expired } else request

def expire (room : Room) (now : Nat) : Handled :=
  if room.state = .expired then room.unchanged
  else if now < room.expiresAt then room.fail .expiryNotReached
  else { room with state := .expired, joinRequests := room.joinRequests.map fun _ request => expirePending request }.commit

def handle (room : Room) : RoomCommand → Handled
  | .requestJoin requestId sessionId now expiresAt => room.requestJoin requestId sessionId now expiresAt
  | .decideJoin actor requestId decision now => room.decideJoin actor requestId decision now
  | .expireJoinRequest requestId now => room.expireJoinRequest requestId now
  | .attach sessionId peerId now => room.attach sessionId peerId now
  | .detach sessionId peerId => room.detach sessionId peerId
  | .leave sessionId => room.leave sessionId
  | .expire now => room.expire now

/-- The room after a sequence of commands, whatever each of them answered. -/
def handleAll (room : Room) (commands : List RoomCommand) : Room :=
  commands.foldl (fun room command => (room.handle command).2) room

end Room

end P2PTransmission
