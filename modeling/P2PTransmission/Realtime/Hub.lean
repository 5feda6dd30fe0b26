import P2PTransmission.Realtime.Message

/-!
# The realtime hub

The connections of the server, what each of them is attached to or watches, the routes by session and by peer, and the
bounded queues. Every operation holds the one lock of the hub from beginning to end, so each is one function on the
state.

Connection ids are generated and never repeat. A hash set is the list of its elements; where the source loops over one,
the order of the loop is an argument.
-/

set_option autoImplicit false

namespace P2PTransmission

/-! ## Data -/

abbrev ConnectionId := Nat

/-- A key of the routes: something named by `kind` in a room. -/
structure Route (kind : String) where
  roomId : RoomId
  name : Identifier kind
  deriving DecidableEq

namespace Route

variable {kind : String}

instance : Ord (Route kind) := ⟨compareLex (compareOn Route.roomId) (compareOn Route.name)⟩

instance : Std.TransOrd (Route kind) :=
  inferInstanceAs (Std.TransCmp (compareLex (compareOn Route.roomId) (compareOn Route.name)))

instance : Std.LawfulEqOrd (Route kind) where
  eq_of_compare {a b} h := by
    have h : compareLex (compareOn Route.roomId) (compareOn Route.name) a b = .eq := h
    rw [compareLex_eq_eq] at h
    have hroom : a.roomId = b.roomId := Std.LawfulEqOrd.eq_of_compare h.1
    have hname : a.name = b.name := Std.LawfulEqOrd.eq_of_compare h.2
    cases a; cases b; cases hroom; cases hname; rfl

end Route

structure Attachment where
  roomId : RoomId
  roomCode : RoomCode
  sessionId : SessionId
  peerId : PeerId
  deriving DecidableEq

structure JoinWatch where
  roomId : RoomId
  sessionId : SessionId
  deriving DecidableEq

/-- A bounded channel: what waits in it, whether the receiver is gone, and all that was ever accepted. -/
structure Channel where
  queue : List Outbound
  closed : Bool
  sent : List Outbound
  deriving DecidableEq

structure ConnectionEntry where
  sessionId : SessionId
  attachment : Option Attachment
  joinWatch : Option JoinWatch
  deriving DecidableEq

structure HubState where
  queueCapacity : Nat
  channels : BTreeMap ConnectionId Channel
  connections : BTreeMap ConnectionId ConnectionEntry
  evictedAttachments : BTreeMap ConnectionId Attachment
  roomConnections : BTreeMap RoomId (List ConnectionId)
  sessionRoutes : BTreeMap (Route "session id") ConnectionId
  peerRoutes : BTreeMap (Route "peer id") ConnectionId
  deriving DecidableEq

inductive HubError where
  | connectionNotFound
  | notAttached
  | targetNotFound
  | cannotSignalSelf
  | slowConsumer
  deriving DecidableEq, Repr

inductive TrySendError where
  | full
  | closed
  deriving DecidableEq, Repr

namespace HubState

variable (hub : HubState)

def new (queueCapacity : Nat) : HubState :=
  { queueCapacity := max queueCapacity 1
    channels := ∅, connections := ∅, evictedAttachments := ∅, roomConnections := ∅, sessionRoutes := ∅, peerRoutes := ∅ }

/-! ## Reading -/

/-- The attachment that a connection of the hub has. -/
def attachmentOf (c : ConnectionId) : Option Attachment := hub.connections[c]?.bind (·.attachment)

/-- The join watch that a connection of the hub has. -/
def watchOf (c : ConnectionId) : Option JoinWatch := hub.connections[c]?.bind (·.joinWatch)

/-- The set of `room_connections` under a room, empty when the room has none. -/
def connectionsOf (roomId : RoomId) : List ConnectionId := hub.roomConnections[roomId]?.getD []

/-! ## Channels -/

/-- `try_send` on the sender of a connection. -/
def trySend (c : ConnectionId) (outbound : Outbound) : Except TrySendError HubState :=
  match hub.channels[c]? with
  | none => .error .closed
  | some channel =>
    if channel.closed then .error .closed
    else if hub.queueCapacity ≤ channel.queue.length then .error .full
    else
      let channel := { channel with queue := channel.queue ++ [outbound], sent := channel.sent ++ [outbound] }
      .ok { hub with channels := hub.channels.insert c channel }

/-- `let _ = try_send(…)`: what does not fit is dropped. -/
def sendOrDrop (c : ConnectionId) (outbound : Outbound) : HubState :=
  match hub.trySend c outbound with
  | .ok hub => hub
  | .error _ => hub

/-- The writer of a connection takes the next item of its queue. -/
def take (c : ConnectionId) : HubState :=
  match hub.channels[c]? with
  | none => hub
  | some channel => { hub with channels := hub.channels.insert c { channel with queue := channel.queue.tail } }

/-- The writer of a connection ends and drops the receiver. -/
def closeReceiver (c : ConnectionId) : HubState :=
  match hub.channels[c]? with
  | none => hub
  | some channel => { hub with channels := hub.channels.insert c { channel with closed := true } }

/-! ## Mappings -/

def leaveRoomConnections (c : ConnectionId) (roomId : RoomId) : HubState :=
  match hub.roomConnections[roomId]? with
  | none => hub
  | some connections =>
    if (connections.erase c).isEmpty then { hub with roomConnections := hub.roomConnections.erase roomId }
    else { hub with roomConnections := hub.roomConnections.insert roomId (connections.erase c) }

def enterRoomConnections (c : ConnectionId) (roomId : RoomId) : HubState :=
  { hub with roomConnections := hub.roomConnections.insert roomId ((hub.connectionsOf roomId).insert c) }

def dropSessionRoute (c : ConnectionId) (roomId : RoomId) (sessionId : SessionId) : HubState :=
  if hub.sessionRoutes[(⟨roomId, sessionId⟩ : Route "session id")]? = some c then
    { hub with sessionRoutes := hub.sessionRoutes.erase ⟨roomId, sessionId⟩ }
  else hub

def dropPeerRoute (c : ConnectionId) (roomId : RoomId) (peerId : PeerId) : HubState :=
  if hub.peerRoutes[(⟨roomId, peerId⟩ : Route "peer id")]? = some c then
    { hub with peerRoutes := hub.peerRoutes.erase ⟨roomId, peerId⟩ }
  else hub

def detachMappings (c : ConnectionId) (attachment : Attachment) : HubState :=
  ((hub.dropSessionRoute c attachment.roomId attachment.sessionId).dropPeerRoute c attachment.roomId
    attachment.peerId).leaveRoomConnections c attachment.roomId

def detachWatchMappings (c : ConnectionId) (watch : JoinWatch) : HubState :=
  (hub.dropSessionRoute c watch.roomId watch.sessionId).leaveRoomConnections c watch.roomId

/-- `if let Some(attachment) = … { detach_mappings(…) }` -/
def detachMappings? (c : ConnectionId) : Option Attachment → HubState
  | some attachment => hub.detachMappings c attachment
  | none => hub

def detachWatchMappings? (c : ConnectionId) : Option JoinWatch → HubState
  | some watch => hub.detachWatchMappings c watch
  | none => hub

def removeConnectionLocked (c : ConnectionId) : Option Attachment × HubState :=
  match hub.connections[c]? with
  | none => (none, hub)
  | some entry =>
    (entry.attachment, (({ hub with connections := hub.connections.erase c }).detachMappings? c
      entry.attachment).detachWatchMappings? c entry.joinWatch)

def evictConnectionLocked (c : ConnectionId) : Option Attachment × HubState :=
  match hub.removeConnectionLocked c with
  | (some attachment, hub) =>
    (some attachment, { hub with evictedAttachments := hub.evictedAttachments.insert c attachment })
  | (none, hub) => (none, hub)

/-- Evict the connections of a loop, with what is sent to each of them before, and collect what they were attached to. -/
def evictEach (notices : List Outbound) : List ConnectionId → HubState → List Attachment × HubState
  | [], hub => ([], hub)
  | c :: cs, hub =>
    let hub := if hub.connections.contains c then notices.foldl (fun hub notice => hub.sendOrDrop c notice) hub else hub
    let (attachment, hub) := hub.evictConnectionLocked c
    let (attachments, hub) := evictEach notices cs hub
    (attachment.toList ++ attachments, hub)

/-! ## Operations -/

def register (c : ConnectionId) (sessionId : SessionId) : HubState :=
  { hub with
    channels := hub.channels.insert c { queue := [], closed := false, sent := [] }
    connections := hub.connections.insert c { sessionId, attachment := none, joinWatch := none } }

def replacedNotices : List Outbound :=
  [.message (.error "connection_replaced" "a newer connection replaced this socket" true),
    .close 4001 "connection replaced"]

/-- The connections other than `c` that hold the route of the session or the route of the peer. -/
def attachConflicts (c : ConnectionId) (roomId : RoomId) (peerId : PeerId) : List ConnectionId :=
  match hub.connections[c]? with
  | none => []
  | some entry =>
    (([hub.sessionRoutes[(⟨roomId, entry.sessionId⟩ : Route "session id")]?,
      hub.peerRoutes[(⟨roomId, peerId⟩ : Route "peer id")]?].reduceOption).filter (· ≠ c)).dedup

/-- `order` is the order in which the set of conflicting connections is looped over. -/
def attach (c : ConnectionId) (roomId : RoomId) (roomCode : RoomCode) (peerId : PeerId) (order : List ConnectionId) :
    Except HubError (List Attachment × HubState) :=
  match hub.connections[c]? with
  | none => .error .connectionNotFound
  | some entry =>
    let attachment : Attachment := { roomId, roomCode, sessionId := entry.sessionId, peerId }
    let (replaced, hub) := evictEach replacedNotices order hub
    let hub := (hub.detachMappings? c entry.attachment).detachWatchMappings? c entry.joinWatch
    let entry := { entry with attachment := some attachment, joinWatch := none }
    let hub := { hub with connections := hub.connections.insert c entry }
    let hub := hub.enterRoomConnections c roomId
    .ok (replaced, { hub with
      sessionRoutes := hub.sessionRoutes.insert ⟨roomId, entry.sessionId⟩ c
      peerRoutes := hub.peerRoutes.insert ⟨roomId, peerId⟩ c })

/-- The connection other than `c` that holds the route of the session. -/
def watchConflicts (c : ConnectionId) (roomId : RoomId) (sessionId : SessionId) : List ConnectionId :=
  (hub.sessionRoutes[(⟨roomId, sessionId⟩ : Route "session id")]?.filter (· ≠ c)).toList

def watchJoin (c : ConnectionId) (roomId : RoomId) : Except HubError (List Attachment × HubState) :=
  match hub.connections[c]? with
  | none => .error .connectionNotFound
  | some entry =>
    let (replaced, hub) := evictEach [] (hub.watchConflicts c roomId entry.sessionId) hub
    let hub := (hub.detachMappings? c entry.attachment).detachWatchMappings? c entry.joinWatch
    let entry := { entry with attachment := none, joinWatch := some { roomId, sessionId := entry.sessionId } }
    let hub := { hub with connections := hub.connections.insert c entry }
    let hub := hub.enterRoomConnections c roomId
    .ok (replaced, { hub with sessionRoutes := hub.sessionRoutes.insert ⟨roomId, entry.sessionId⟩ c })

def detach (c : ConnectionId) : Except HubError (Option Attachment × HubState) :=
  match hub.connections[c]? with
  | none => .error .connectionNotFound
  | some entry =>
    let hub := { hub with connections := hub.connections.insert c { entry with attachment := none, joinWatch := none } }
    .ok (entry.attachment, (hub.detachMappings? c entry.attachment).detachWatchMappings? c entry.joinWatch)

def unregister (c : ConnectionId) : Option Attachment × HubState :=
  match hub.removeConnectionLocked c with
  | (some attachment, hub) => (some attachment, hub)
  | (none, hub) => (hub.evictedAttachments[c]?, { hub with evictedAttachments := hub.evictedAttachments.erase c })

def attachment (c : ConnectionId) : Except HubError Attachment :=
  match hub.attachmentOf c with
  | some attachment => .ok attachment
  | none => .error .notAttached

/-- `try_send` to `target`, which is evicted when it fails. -/
def sendOrEvict (target : ConnectionId) (outbound : Outbound) (onClosed : HubError) : Except HubError Unit × HubState :=
  match hub.trySend target outbound with
  | .ok hub => (.ok (), hub)
  | .error .full => (.error .slowConsumer, (hub.evictConnectionLocked target).2)
  | .error .closed => (.error onClosed, (hub.evictConnectionLocked target).2)

def send (c : ConnectionId) (outbound : Outbound) : Except HubError Unit × HubState :=
  if hub.connections.contains c then hub.sendOrEvict c outbound .connectionNotFound
  else (.error .connectionNotFound, hub)

def sendToPeer (c : ConnectionId) (toPeerId : PeerId) (message : ServerRealtimeMessage) :
    Except HubError Unit × HubState :=
  match hub.attachmentOf c with
  | none => (.error .notAttached, hub)
  | some attachment =>
    if attachment.peerId = toPeerId then (.error .cannotSignalSelf, hub)
    else match hub.peerRoutes[(⟨attachment.roomId, toPeerId⟩ : Route "peer id")]? with
      | none => (.error .targetNotFound, hub)
      | some target =>
        if hub.connections.contains target then hub.sendOrEvict target (.message message) .targetNotFound
        else (.error .targetNotFound, hub)

/-- The loop of `broadcast`. -/
def broadcastEach (message : ServerRealtimeMessage) : List ConnectionId → HubState → List Attachment × HubState
  | [], hub => ([], hub)
  | c :: cs, hub =>
    if hub.connections.contains c then
      match hub.trySend c (.message message) with
      | .ok hub => broadcastEach message cs hub
      | .error _ =>
        let (attachment, hub) := hub.evictConnectionLocked c
        let (attachments, hub) := broadcastEach message cs hub
        (attachment.toList ++ attachments, hub)
    else broadcastEach message cs hub

/-- `order` lists `hub.connectionsOf roomId`. -/
def broadcast (message : ServerRealtimeMessage) (order : List ConnectionId) : List Attachment × HubState :=
  broadcastEach message order hub

def disconnectSession (roomId : RoomId) (sessionId : SessionId) (code : Nat) (reason : String) :
    List Attachment × HubState :=
  evictEach [.close code reason] hub.sessionRoutes[(⟨roomId, sessionId⟩ : Route "session id")]?.toList hub

/-- `order` lists `hub.connectionsOf roomId`. -/
def disconnectRoom (order : List ConnectionId) (code : Nat) (reason : String) : List Attachment × HubState :=
  evictEach [.close code reason] order hub

end HubState

end P2PTransmission
