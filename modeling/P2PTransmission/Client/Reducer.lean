import P2PTransmission.Realtime.Socket

/-!
# The state of the web client

The part of `AppModel` that the room events change, the revision cursor of a realtime target, and the reducers of
`realtime_event_reducer`. A reducer changes the plain state and returns the effects that `apply_realtime_effects` carries
out afterwards.
-/

set_option autoImplicit false

namespace P2PTransmission

/-! ## Targets -/

structure RevisionCursor where
  lastRevision : Nat
  appliedRevision : Nat
  awaitingSnapshot : Bool
  deriving DecidableEq

namespace RevisionCursor

def new (revision : Nat) : RevisionCursor :=
  { lastRevision := revision, appliedRevision := revision, awaitingSnapshot := false }

variable (cursor : RevisionCursor)

def observe (revision : Nat) : RevisionCursor := { cursor with lastRevision := max cursor.lastRevision revision }

def reconcileApplied (revision : Nat) : RevisionCursor :=
  { cursor.observe revision with appliedRevision := max cursor.appliedRevision revision }

def markApplied (revision : Nat) : RevisionCursor :=
  { cursor.reconcileApplied revision with awaitingSnapshot := false }

def markSnapshotPending (revision : Nat) : RevisionCursor :=
  { cursor.observe revision with awaitingSnapshot := true }

end RevisionCursor

inductive RealtimeTargetKind where
  | member (roomCode : RoomCode) (peerId : PeerId)
  | joinWatch (roomCode : RoomCode) (requestId : RequestId)
  deriving DecidableEq

structure RealtimeTarget where
  kind : RealtimeTargetKind
  revision : RevisionCursor
  deriving DecidableEq

namespace RealtimeTarget

def member (roomCode : RoomCode) (lastRevision : Nat) (peerId : PeerId) : RealtimeTarget :=
  { kind := .member roomCode peerId, revision := .new lastRevision }

def joinWatch (roomCode : RoomCode) (requestId : RequestId) (lastRevision : Nat) : RealtimeTarget :=
  { kind := .joinWatch roomCode requestId, revision := .new lastRevision }

variable (target : RealtimeTarget)

def isMember : Bool :=
  match target.kind with
  | .member _ _ => true
  | .joinWatch _ _ => false

/-- What a new connection sends first: the revision that the client has applied. -/
def initialMessage : ClientRealtimeMessage :=
  match target.kind with
  | .member roomCode peerId => .attachRoom roomCode.value peerId.value (some target.revision.appliedRevision)
  | .joinWatch roomCode requestId =>
    .watchJoinRequest roomCode.value requestId.value (some target.revision.appliedRevision)

end RealtimeTarget

/-! ## The model -/

inductive RoomRole where
  | owner
  | receiver
  deriving DecidableEq, Repr

inductive RealtimePhase where
  | disconnected
  | connecting
  | connected
  | reconnecting
  | superseded
  deriving DecidableEq, Repr

inductive Screen where
  | booting
  | lobby
  | waiting (roomCode : RoomCode) (requestId : RequestId) (peerId : PeerId) (revision : Nat)
  | room (role : RoomRole) (snapshot : RoomBootstrapResponse)
  deriving DecidableEq

structure AppModel where
  /-- The id of the client's own session. -/
  session : Option SessionId
  screen : Screen
  realtime : RealtimePhase
  error : Option String
  notice : Option String
  decisionRequestId : Option RequestId
  enteringReceivers : List SessionId
  deriving DecidableEq

namespace AppModel

variable (model : AppModel)

def screenRevision : Option Nat :=
  match model.screen with
  | .waiting _ _ _ revision => some revision
  | .room _ snapshot => some snapshot.revision
  | .booting | .lobby => none

end AppModel

/-! ## Decisions about revisions -/

inductive RevisionStep where
  | ignore
  | apply
  | refreshSnapshot
  deriving DecidableEq, Repr

def revisionStep (current incoming : Nat) : RevisionStep :=
  if incoming ≤ current then .ignore
  else if current + 1 ≤ U64_MAX ∧ current + 1 = incoming then .apply
  else .refreshSnapshot

inductive AttachmentDecision where
  | ignore
  | ready (localRevision incomingRevision : Nat) (member : Bool)
  | awaitSnapshot (localRevision incomingRevision : Nat)
  deriving DecidableEq, Repr

def reduceAttachment (model : AppModel) (incomingRevision : Nat) (member : Bool) : AttachmentDecision :=
  match model.screenRevision with
  | none => .ignore
  | some localRevision =>
    if localRevision = incomingRevision then .ready localRevision incomingRevision member
    else .awaitSnapshot localRevision incomingRevision

def snapshotRevisionAllowed (localRevision observedRevision incomingRevision : Nat) : Bool :=
  incomingRevision ≥ localRevision && incomingRevision ≥ observedRevision

/-! ## Room events -/

inductive RevisionedModelEvent where
  | joinRequested (request : JoinRequestSnapshot)
  | joinDecided (requestId : RequestId) (decision : JoinDecisionWire)
  | peerOnline (sessionId : SessionId) (peerId : PeerId)
  | peerOffline (sessionId : SessionId)
  deriving DecidableEq

inductive RealtimeEffect where
  | setRealtimePhase (phase : RealtimePhase)
  | setError (error : String)
  | markTargetRevisionApplied (revision : Nat)
  | resolveWaiting
  | returnToLobby (notice : String)
  | syncRtcPeers
  | refreshRoomSnapshot
  | removeRtcPeer (peerId : PeerId)
  | suppressRealtimeConnection
  | reconnectSocket
  | acceptRtcSignal (fromPeerId : PeerId) (negotiationId signal : String)
  deriving DecidableEq

def JOIN_REJECTED_NOTICE : String := "发送者未允许本次加入申请"

def ROOM_EXPIRED_NOTICE : String := "房间已过期，请创建或加入新的房间"

/-- The first participant of a session, changed. -/
def setParticipant (sessionId : SessionId) (online : Bool) (peerId : Option PeerId) :
    List ParticipantSnapshot → List ParticipantSnapshot
  | [] => []
  | participant :: participants =>
    if participant.sessionId = sessionId then { participant with online, peerId } :: participants
    else participant :: setParticipant sessionId online peerId participants

def reduceJoinRequested (model : AppModel) (revision : Nat) (request : JoinRequestSnapshot) :
    AppModel × List RealtimeEffect :=
  match model.screen with
  | .room .owner snapshot =>
    let pendingJoinRequests :=
      if snapshot.pendingJoinRequests.any fun existing => existing.requestId = request.requestId then
        snapshot.pendingJoinRequests
      else snapshot.pendingJoinRequests ++ [request]
    ({ model with screen := .room .owner { snapshot with revision, pendingJoinRequests } },
      [.markTargetRevisionApplied revision])
  | _ => (model, [])

def reduceJoinDecided (model : AppModel) (revision : Nat) (requestId : RequestId) (decision : JoinDecisionWire) :
    AppModel × List RealtimeEffect :=
  let decisionRequestId := if model.decisionRequestId = some requestId then none else model.decisionRequestId
  let model := { model with decisionRequestId }
  match model.screen with
  | .waiting roomCode current peerId _ =>
    if current = requestId then
      ({ model with screen := .waiting roomCode current peerId revision },
        [.markTargetRevisionApplied revision,
          match decision with
          | .approved => .resolveWaiting
          | .rejected => .returnToLobby JOIN_REJECTED_NOTICE])
    else (model, [])
  | .room role snapshot =>
    let pendingJoinRequests := snapshot.pendingJoinRequests.filter fun request => request.requestId ≠ requestId
    ({ model with screen := .room role { snapshot with revision, pendingJoinRequests } },
      [.markTargetRevisionApplied revision])
  | .booting | .lobby => (model, [])

def reducePeerOnline (model : AppModel) (revision : Nat) (sessionId : SessionId) (peerId : PeerId) :
    AppModel × List RealtimeEffect :=
  match model.screen with
  | .room role snapshot =>
    let participants := setParticipant sessionId true (some peerId) snapshot.participants
    ({ model with screen := .room role { snapshot with revision, participants } },
      [.markTargetRevisionApplied revision, .syncRtcPeers, .refreshRoomSnapshot])
  | _ => (model, [.syncRtcPeers])

def reducePeerOffline (model : AppModel) (revision : Nat) (sessionId : SessionId) : AppModel × List RealtimeEffect :=
  match model.screen with
  | .room role snapshot =>
    let remotePeerId :=
      if model.session ≠ some sessionId then
        (snapshot.participants.find? fun participant => participant.sessionId = sessionId).bind (·.peerId)
      else none
    let participants := setParticipant sessionId false none snapshot.participants
    ({ model with screen := .room role { snapshot with revision, participants } },
      .markTargetRevisionApplied revision :: (remotePeerId.map .removeRtcPeer).toList ++ [.refreshRoomSnapshot])
  | _ => (model, [])

def reduceRevisionedModelEvent (model : AppModel) (revision : Nat) :
    RevisionedModelEvent → AppModel × List RealtimeEffect
  | .joinRequested request => reduceJoinRequested model revision request
  | .joinDecided requestId decision => reduceJoinDecided model revision requestId decision
  | .peerOnline sessionId peerId => reducePeerOnline model revision sessionId peerId
  | .peerOffline sessionId => reducePeerOffline model revision sessionId

def reduceRoomExpired (model : AppModel) (revision : Nat) : List RealtimeEffect :=
  if model.screenRevision.any fun current => revision ≥ current then
    [.markTargetRevisionApplied revision, .returnToLobby ROOM_EXPIRED_NOTICE]
  else []

def reduceServerError (code message : String) : List RealtimeEffect :=
  if code = "join_request_resolved" then [.resolveWaiting]
  else if code = "connection_replaced" then [.suppressRealtimeConnection]
  else [.setError message]

def reduceSocketError (error : String) : List RealtimeEffect := [.setRealtimePhase .reconnecting, .setError error]

def reduceSocketClosed (code : Nat) (hasTarget : Bool) : List RealtimeEffect :=
  if code = 4001 then [.suppressRealtimeConnection] else if hasTarget then [.reconnectSocket] else []

/-! ## Snapshots -/

def waitingRequestMissing (model : AppModel) (snapshot : RoomBootstrapResponse) : Bool :=
  match model.screen with
  | .waiting _ requestId _ _ => !snapshot.pendingJoinRequests.any fun request => request.requestId = requestId
  | .booting | .lobby | .room _ _ => false

/-- The sessions of the receivers that are online. -/
def onlineReceivers (snapshot : RoomBootstrapResponse) : List SessionId :=
  (snapshot.participants.filter fun participant => participant.role = .receiver && participant.online).map (·.sessionId)

/-- `none` is a refusal; otherwise the receivers that enter. -/
def reduceAuthoritativeSnapshot (model : AppModel) (next : RoomBootstrapResponse) :
    AppModel × Option (List SessionId) :=
  match model.screen with
  | .room role snapshot =>
    if next.revision < snapshot.revision then (model, none)
    else if snapshot = next then (model, some [])
    else
      let entering := match role with
        | .owner => (onlineReceivers next).filter fun sessionId => sessionId ∉ onlineReceivers snapshot
        | .receiver => []
      let enteringReceivers := entering.foldl
        (fun receivers sessionId => if sessionId ∈ receivers then receivers else receivers ++ [sessionId])
        model.enteringReceivers
      ({ model with screen := .room role next, enteringReceivers }, some entering)
  | .waiting roomCode requestId peerId revision =>
    if next.revision < revision then (model, none)
    else ({ model with screen := .waiting roomCode requestId peerId next.revision }, some [])
  | .booting | .lobby => (model, some [])

end P2PTransmission
