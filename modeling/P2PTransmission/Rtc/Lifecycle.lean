import P2PTransmission.Rtc.Peer

/-!
# Ends and interruptions of a transfer

A transfer is dropped by name (`clearTransfer`), suspended when its channel is gone, and prepared for another connection.
What is kept for a streamed transfer is its checkpoint: the segments that were acknowledged, or written to the disk.
-/

set_option autoImplicit false

namespace P2PTransmission.Rtc

/-! ## The checkpoint of the sender -/

/-- The generation that makes every earlier task of the transfer stale. -/
def OutgoingState.nextGeneration (outgoing : OutgoingState) : Nat := saturatingAdd outgoing.generation 1

/-- The task that waits for the acknowledgement is let go. -/
def OutgoingState.dropSender (outgoing : OutgoingState) : OutgoingState :=
  { outgoing with pendingAck := outgoing.pendingAck.map fun pending => { pending with sender := none } }

/-- The transfer waits for another connection. -/
def OutgoingState.suspended (outgoing : OutgoingState) : OutgoingState :=
  { outgoing.dropSender with
    generation := outgoing.nextGeneration
    accepted := false
    streamReady := none
    sending := false
    sentBytes := outgoing.committedTotal }

def OutgoingState.isStreamed (outgoing : OutgoingState) : Bool :=
  match outgoing.mode with
  | .streamed _ => true
  | .buffered => false

/-! ## The checkpoint of the receiver -/

/-- Whatever came after the last verified segment is forgotten. -/
def ReceiveFileState.rolledBack (file : ReceiveFileState) : ReceiveFileState :=
  { file with
    receivedBytes := file.segmentOffset
    hasher := file.committedHasher
    chunks := []
    segmentHasher := .new }

/-- The file that comes next: one that is being written, or else the first that is incomplete. -/
def reconnectFileIndex (offer : IncomingOffer) (files : List ReceiveFileState) : Nat :=
  match files.findIdx? (·.writing) with
  | some index => index
  | none =>
    match (files.zip offer.files).findIdx? fun (state, offer) => state.receivedBytes < offer.file.sizeBytes with
    | some index => index
    | none => files.length

def prepareReceiveReconnect (receive : ReceiveState) : ReceiveState :=
  match receive.payload with
  | .buffered _ => { receive with started := false }
  | .streamed segmentBytes _ files =>
    let files := files.map fun file => if file.writing then file else file.rolledBack
    { receive with
      started := false
      receivedBytes := (files.map (·.receivedBytes)).sum
      payload := .streamed segmentBytes (reconnectFileIndex receive.offer files) files }

def ReceiveState.isStreamed (receive : ReceiveState) : Bool :=
  match receive.payload with
  | .streamed _ _ _ => true
  | .buffered _ => false

namespace Peer

/-! ## Dropping a transfer -/

def activeTransferId (peer : Peer) : Option String :=
  (peer.outgoing.map (·.transferId)).or <|
  (peer.pendingOutgoingRecovery.map (·.transferId)).or <|
  (peer.receive.map (·.offer.transferId)).or <|
  (peer.incoming.map (·.transferId)).or <|
  (peer.pendingRecovery.map (·.transferId)).or peer.restoringTransfer

/-- The transfer is the one that goes out. -/
def sends (peer : Peer) (transferId : String) : Bool := peer.outgoing.any (·.transferId == transferId)

def sendsLater (peer : Peer) (transferId : String) : Bool :=
  peer.pendingOutgoingRecovery.any (·.transferId == transferId)

def isOffered (peer : Peer) (transferId : String) : Bool := peer.incoming.any (·.transferId == transferId)

def hasRecovery (peer : Peer) (transferId : String) : Bool := peer.pendingRecovery.any (·.transferId == transferId)

def isRestoring (peer : Peer) (transferId : String) : Bool := peer.restoringTransfer == some transferId

def receives (peer : Peer) (transferId : String) : Bool := peer.receive.any (·.offer.transferId == transferId)

/-- The transfer is in one of the places of the receiver, so that there may be a record of it. -/
def receivesSomehow (peer : Peer) (transferId : String) : Bool :=
  peer.isOffered transferId || peer.hasRecovery transferId || peer.isRestoring transferId || peer.receives transferId

/-- The peer whose record of the outgoing transfer has to go. -/
def outgoingRecoveryPeer (peer : Peer) (transferId : String) : Option String :=
  if peer.sendsLater transferId then peer.pendingOutgoingRecovery.map (·.peerId)
  else if peer.sends transferId then peer.outgoing.bind (·.recoveryPeerId)
  else none

/-- The transfer is nowhere. -/
def withoutTransfer (peer : Peer) (transferId : String) : Peer :=
  { peer with
    outgoing := if peer.sends transferId then none else peer.outgoing
    pendingOutgoingRecovery := if peer.sendsLater transferId then none else peer.pendingOutgoingRecovery
    incoming := if peer.isOffered transferId then none else peer.incoming
    pendingRecovery := if peer.hasRecovery transferId then none else peer.pendingRecovery
    pausedReceiveReason := if peer.hasRecovery transferId then none else peer.pausedReceiveReason
    restoringTransfer := if peer.isRestoring transferId then none else peer.restoringTransfer
    receive := if peer.receives transferId then none else peer.receive }

def spawnDeleteStream (peer : Peer) (delete : Bool) (transferId : String) : Peer :=
  if delete then peer.spawn (.deleteStream transferId) else peer

def spawnDeleteOutgoing (peer : Peer) (recoveryPeer : Option String) : Peer :=
  match recoveryPeer with
  | some peerId => peer.spawn (.deleteOutgoing peerId)
  | none => peer

def clearTransfer (peer : Peer) (transferId : String) : Peer :=
  ((peer.withoutTransfer transferId).spawnDeleteStream (peer.receivesSomehow transferId) transferId).spawnDeleteOutgoing
    (peer.outgoingRecoveryPeer transferId)

/-! ## Losing the connection -/

/-- The connection and its channel are given up. -/
def clearPeerResources (peer : Peer) : Peer :=
  { peer with connectionEpoch := peer.connectionEpoch + 1, dataChannel := none, targetPeer := none }

def suspendStreamForReconnect (peer : Peer) : Peer :=
  { peer with
    outgoing := peer.outgoing.map fun outgoing => if outgoing.isStreamed then outgoing.suspended else outgoing
    receive := peer.receive.map fun receive => if receive.isStreamed then prepareReceiveReconnect receive else receive }

/-- The transfer that does not survive: a buffered one, or one that was offered and not decided. -/
def cancelledByReconnect (peer : Peer) : Option String :=
  ((peer.receive.filter fun receive => !receive.isStreamed).map (·.offer.transferId)).or <|
  ((peer.outgoing.filter fun outgoing => !outgoing.isStreamed).map (·.transferId)).or <|
  peer.incoming.map (·.transferId)

def prepareReconnect (peer : Peer) : Peer :=
  let next := clearPeerResources
    { peer with
      outgoing := (peer.outgoing.filter (·.isStreamed)).map OutgoingState.suspended
      receive := (peer.receive.filter (·.isStreamed)).map prepareReceiveReconnect
      incoming := none }
  match peer.cancelledByReconnect with
  | some transferId => next.emit (.transferCancelled transferId .peerClosed)
  | none => next

def reset (peer : Peer) : Peer :=
  let next := clearPeerResources
    { peer with
      outgoing := none
      pendingOutgoingRecovery := none
      restoringOutgoing := false
      incoming := none
      pendingRecovery := none
      pausedReceiveReason := none
      restoringTransfer := none
      receive := none }
  let next :=
    match peer.activeTransferId with
    | some transferId =>
      (next.spawn (.deleteStream transferId)).emit (.transferCancelled transferId .peerClosed)
    | none => next
  next.spawnDeleteOutgoing
    ((peer.outgoing.bind (·.recoveryPeerId)).or (peer.pendingOutgoingRecovery.map (·.peerId)))

/-- A channel of the current connection, in place of the one before. -/
def installDataChannel (peer : Peer) (channel : ChannelId) : Peer :=
  { peer with dataChannel := some ⟨channel, false⟩ }

end Peer

end P2PTransmission.Rtc
