import P2PTransmission.Client.Reducer

/-!
# What the web client does with what it receives

The handlers of `realtime_session` and the follow-up of `submit_decision`, as one step on the model and the realtime
target. What they spawn (`Spawned`) runs later: a refresh asks for a snapshot over HTTP, whose answer is an input of its
own. `current` says that the lease under which an input was asked for is still the current one.
-/

set_option autoImplicit false

namespace P2PTransmission

inductive Spawned where
  | refresh (roomCode : RoomCode)
  | resolveWaiting (roomCode : RoomCode) (requestId : RequestId) (peerId : PeerId)
  | reconnect
  | suppress
  deriving DecidableEq

structure Client where
  model : AppModel
  target : Option RealtimeTarget
  deriving DecidableEq

inductive RealtimeEvent where
  | opened
  | message (message : ServerRealtimeMessage)
  | error (error : String)
  | closed (code : Nat)
  deriving DecidableEq

inductive Input where
  | realtime (current : Bool) (event : RealtimeEvent)
  /-- The answer to a refresh, or to the request of the lifecycle recovery. -/
  | refreshed (current : Bool) (snapshot : RoomBootstrapResponse)
  | submitDecision (requestId : RequestId)
  /-- The snapshot that `submit_decision` reads after its decision, or `none` if one of its calls failed. -/
  | decided (requestId : RequestId) (snapshot : Option RoomBootstrapResponse)
  deriving DecidableEq

def SUPERSEDED_NOTICE : String := "此房间已在另一个标签页中打开，本页面已停止重连"

namespace Client

variable (client : Client)

def updateRevision (update : RevisionCursor → RevisionCursor) : Client :=
  { client with target := client.target.map fun target => { target with revision := update target.revision } }

def setScreen (screen : Screen) : Client := { client with model := { client.model with screen } }

def returnToLobby (notice : String) : Client :=
  { model :=
      { client.model with
        screen := .lobby, realtime := .disconnected, decisionRequestId := none, error := none, notice := some notice
        enteringReceivers := [] }
    target := none }

/-! ## Snapshots -/

/-- `complete_attachment`, as far as the model goes. -/
def completeAttachment : Client := { client with model := { client.model with realtime := .connected } }

def targetSnapshotFloor : Nat := (client.target.map fun target => target.revision.lastRevision).getD 0

def attachmentPending : Bool := client.target.any fun target => target.revision.awaitingSnapshot

/-- Under a current lease. -/
def applyAuthoritativeSnapshot (snapshot : RoomBootstrapResponse) : Client × Option (List SessionId) :=
  let localRevision := client.model.screenRevision.getD 0
  if !snapshotRevisionAllowed localRevision client.targetSnapshotFloor snapshot.revision then (client, none)
  else
    match reduceAuthoritativeSnapshot client.model snapshot with
    | (model, none) => ({ client with model }, none)
    | (model, some entering) =>
      let client' := { client with model }.updateRevision fun cursor => cursor.markApplied snapshot.revision
      (if client.attachmentPending then client'.completeAttachment else client', some entering)

/-- What `resolve_waiting` spawns. -/
def resolveWaiting : List Spawned :=
  match client.model.screen with
  | .waiting roomCode requestId peerId _ => [.resolveWaiting roomCode requestId peerId]
  | .booting | .lobby | .room _ _ => []

/-- What `refresh_room_snapshot` spawns. -/
def refreshRoomSnapshot : List Spawned :=
  match client.model.screen with
  | .waiting roomCode _ _ _ => [.refresh roomCode]
  | .room _ snapshot => [.refresh snapshot.roomCode]
  | .booting | .lobby => []

/-- A snapshot from the socket or from a refresh. -/
def handleRoomSnapshot (snapshot : RoomBootstrapResponse) : Client × List Spawned :=
  match client.applyAuthoritativeSnapshot snapshot with
  | (client', none) => (client', [])
  | (client', some _) =>
    (client', if waitingRequestMissing client.model snapshot then client'.resolveWaiting else [])

/-! ## Effects -/

/-- One effect; `none` for those that end the list. -/
def applyRealtimeEffect : RealtimeEffect → Client × List Spawned
  | .setRealtimePhase phase => ({ client with model := { client.model with realtime := phase } }, [])
  | .setError error => ({ client with model := { client.model with error := some error } }, [])
  | .markTargetRevisionApplied revision => (client.updateRevision fun cursor => cursor.reconcileApplied revision, [])
  | .resolveWaiting => (client, client.resolveWaiting)
  | .returnToLobby notice => (client.returnToLobby notice, [])
  | .refreshRoomSnapshot => (client, client.refreshRoomSnapshot)
  | .suppressRealtimeConnection =>
    ({ client with model :=
        { client.model with realtime := .superseded, error := none, notice := some SUPERSEDED_NOTICE } }, [.suppress])
  | .reconnectSocket => ({ client with model := { client.model with realtime := .reconnecting } }, [.reconnect])
  | .syncRtcPeers | .removeRtcPeer _ | .acceptRtcSignal _ _ _ => (client, [])

/-- The effects after which `apply_realtime_effects` returns. -/
def RealtimeEffect.isLast : RealtimeEffect → Bool
  | .returnToLobby _ | .suppressRealtimeConnection => true
  | _ => false

def applyRealtimeEffects (client : Client) : List RealtimeEffect → Client × List Spawned
  | [] => (client, [])
  | effect :: effects =>
    let (client', spawned) := client.applyRealtimeEffect effect
    if RealtimeEffect.isLast effect then (client', spawned)
    else
      let (last, more) := applyRealtimeEffects client' effects
      (last, spawned ++ more)

/-! ## Messages -/

def handleAttachment (revision : Nat) (member : Bool) : Client :=
  match reduceAttachment client.model revision member with
  | .ignore => client
  | .ready localRevision incomingRevision _ =>
    (client.updateRevision fun cursor =>
      (cursor.reconcileApplied localRevision).markApplied incomingRevision).completeAttachment
  | .awaitSnapshot localRevision incomingRevision =>
    client.updateRevision fun cursor => (cursor.reconcileApplied localRevision).markSnapshotPending incomingRevision

/-- `begin_revisioned_event`: the step of an event, if the screen has a revision, and the target that has seen it. -/
def beginRevisionedEvent (revision : Nat) : Option RevisionStep × Client :=
  match client.model.screenRevision with
  | none => (none, client)
  | some current =>
    let step := revisionStep current revision
    (some step, client.updateRevision fun cursor =>
      match step with
      | .ignore | .apply => (cursor.reconcileApplied current).observe revision
      | .refreshSnapshot => (cursor.reconcileApplied current).markSnapshotPending revision)

def handleRevisionedModelEvent (revision : Nat) (event : RevisionedModelEvent) : Client × List Spawned :=
  match client.beginRevisionedEvent revision with
  | (some .apply, begun) =>
    let (model, effects) := reduceRevisionedModelEvent begun.model revision event
    applyRealtimeEffects { begun with model } effects
  | (some .refreshSnapshot, begun) => (begun, begun.refreshRoomSnapshot)
  | (some .ignore, begun) | (none, begun) => (begun, [])

def handleServerMessage : ServerRealtimeMessage → Client × List Spawned
  | .attached _ revision => (client.handleAttachment revision true, [])
  | .joinWatching _ _ revision => (client.handleAttachment revision false, [])
  | .roomSnapshot snapshot => client.handleRoomSnapshot snapshot
  | .joinRequested revision request => client.handleRevisionedModelEvent revision (.joinRequested request)
  | .joinDecided revision requestId decision =>
    client.handleRevisionedModelEvent revision (.joinDecided requestId decision)
  | .peerOnline revision sessionId peerId => client.handleRevisionedModelEvent revision (.peerOnline sessionId peerId)
  | .peerOffline revision sessionId => client.handleRevisionedModelEvent revision (.peerOffline sessionId)
  | .roomExpired revision => applyRealtimeEffects client (reduceRoomExpired client.model revision)
  | .error code message _ => applyRealtimeEffects client (reduceServerError code message)
  | .signal fromPeerId negotiationId signal =>
    applyRealtimeEffects client [.acceptRtcSignal fromPeerId negotiationId signal]

def handleRealtimeEvent : RealtimeEvent → Client × List Spawned
  | .opened => applyRealtimeEffects client [.setRealtimePhase .connecting]
  | .message message => client.handleServerMessage message
  | .error error => applyRealtimeEffects client (reduceSocketError error)
  | .closed code => applyRealtimeEffects client (reduceSocketClosed code client.target.isSome)

/-! ## Decisions of the owner -/

def submitDecision (requestId : RequestId) : Client :=
  match client.model.decisionRequestId, client.target, client.model.screen with
  | none, some _, .room _ _ => { client with model := { client.model with decisionRequestId := some requestId, error := none } }
  | _, _, _ => client

/-- The end of `submit_decision`. It hands its snapshot to `apply_snapshot`, past the target. -/
def finishDecision (requestId : RequestId) (snapshot : Option RoomBootstrapResponse) : Client :=
  if client.target.isSome ∧ client.model.decisionRequestId = some requestId then
    let model := match snapshot with
      | none => client.model
      | some snapshot => (reduceAuthoritativeSnapshot client.model snapshot).1
    { client with model := { model with decisionRequestId := none } }
  else client

/-! ## The step -/

def step : Input → Client × List Spawned
  | .realtime current event => if current && client.target.isSome then client.handleRealtimeEvent event else (client, [])
  | .refreshed current snapshot => if current && client.target.isSome then client.handleRoomSnapshot snapshot else (client, [])
  | .submitDecision requestId => (client.submitDecision requestId, [])
  | .decided requestId snapshot => (client.finishDecision requestId snapshot, [])

def Step (client : Client) (input : Input) (client' : Client) : Prop := (client.step input).1 = client'

end Client

end P2PTransmission
