import P2PTransmission.Rtc.Offers
import P2PTransmission.Rtc.Outgoing

/-!
# Steps of a peer

Everything that can happen to a peer: a frame comes, the application calls, the channel opens or closes, the browser wakes
a task.
-/

set_option autoImplicit false

namespace P2PTransmission.Rtc

variable [Blake3]

namespace Peer

/-! ## Cancelling -/

variable (n : TaskId) (transferId : String) (reason : CancelReason)

def returnCancel (peer : Peer) (firstError : Option BrowserPlatformError) : Peer :=
  (peer.setTask n (.cancel transferId reason firstError
    (.returned (match firstError with | some error => .error error | none => .ok ())))).emit
    (.transferCancelled transferId reason)

/-- The writers were aborted; the record of the sender comes last. -/
def cancelOutgoingRecord (peer : Peer) (firstError : Option BrowserPlatformError) : Option String → Peer
  | some peerId => peer.setTask n (.cancel transferId reason firstError (.deletingOutgoing peerId))
  | none => peer.returnCancel n transferId reason firstError

def cancelNext (peer : Peer) (firstError : Option BrowserPlatformError) (deleteRecovery : Bool)
    (outgoingPeer : Option String) : Nat → Peer
  | writers + 1 =>
    peer.setTask n (.cancel transferId reason firstError (.aborting (writers + 1) deleteRecovery outgoingPeer))
  | 0 =>
    if deleteRecovery then peer.setTask n (.cancel transferId reason firstError (.deletingStream outgoingPeer))
    else peer.cancelOutgoingRecord n transferId reason firstError outgoingPeer

/-- The writers of the transfer that is received, at work or not. -/
def writersToAbort (peer : Peer) : Nat :=
  match peer.receive with
  | none => 0
  | some receive =>
    if receive.offer.transferId = transferId then
      match receive.payload with
      | .streamed _ _ files => files.length
      | .buffered _ => 0
    else 0

def cancelTransfer (peer : Peer) : Peer :=
  match peer.activeTransferId with
  | none => peer
  | some transferId =>
    let (firstError, told) : Option BrowserPlatformError × Peer :=
      match peer.currentDataChannel with
      | .error _ => (none, peer)
      | .ok channel =>
        match peer.sendControlOn channel (.cancel transferId reason) with
        | .error error => (some error, peer)
        | .ok peer => (none, peer)
    let next := (told.withoutTransfer transferId).spawn .finished
    next.cancelNext told.nextTask transferId reason firstError (peer.receivesSomehow transferId)
      (peer.outgoingRecoveryPeer transferId) (peer.writersToAbort transferId)

/-- The first error is the one that is returned. -/
def firstErrorOf (firstError : Option BrowserPlatformError) (answer : Answer) : Option BrowserPlatformError :=
  match firstError, answer with
  | none, .error error => some error
  | firstError, _ => firstError

def wakeCancel (peer : Peer) (firstError : Option BrowserPlatformError) (point : CancelPoint) (answer : Answer) : Peer :=
  let error := firstErrorOf firstError answer
  match point with
  | .aborting writers deleteRecovery outgoingPeer =>
    peer.cancelNext n transferId reason error deleteRecovery outgoingPeer (writers - 1)
  | .deletingStream outgoingPeer =>
    let peer : Peer :=
      match answer with
      | .error _ => peer
      | .ok _ => { peer with streamRecovery := peer.streamRecovery.erase transferId }
    peer.cancelOutgoingRecord n transferId reason error outgoingPeer
  | .deletingOutgoing peerId => (peer.eraseOutgoingRecovery peerId answer).returnCancel n transferId reason error
  | .returned _ => peer

end Peer

/-! ## Frames -/

/-- What comes out of a channel: a frame, or something that is none. -/
inductive Received
  | frame (frame : Frame)
  | malformed (error : ProtocolError)
  | unsupported
  deriving DecidableEq, Repr

namespace Peer

def handleStart (peer : Peer) (transferId : String) : Peer :=
  match peer.receive with
  | none => peer.fail (some transferId) "transfer started before acceptance"
  | some receive =>
    if receive.offer.transferId ≠ transferId then peer.fail (some transferId) "transfer start id does not match"
    else
      ({ peer with receive := some { receive with started := true } } : Peer).emit
        (.transferStarted transferId .receive receive.offer.mode receive.offer.transferFiles)

def handleStreamComplete (peer : Peer) (transferId : String) (totalBytes : Nat) (digests : List FileDigest) : Peer :=
  if peer.receive.isSome then peer.finishStreamReceive transferId totalBytes digests
  else peer.streamVerified transferId totalBytes digests

def handleComplete (peer : Peer) (transferId : String) (bytes : Nat) (blake3 : String) (download : Download) : Peer :=
  if peer.receive.isSome then peer.finishReceive transferId bytes blake3 download
  else peer.bufferedVerified transferId bytes blake3

def handleControl (peer : Peer) (message : ControlMessage) (download : Download) : Peer :=
  match message with
  | .manifest transferId mode files => peer.handleManifest transferId mode files
  | .decision transferId accepted => peer.handleDecision transferId accepted
  | .start transferId => peer.handleStart transferId
  | .streamReady transferId maxChunkBytes ackWindowBytes resume =>
    peer.handleStreamReady { transferId, maxChunkBytes, ackWindowBytes, resume }
  | .segmentCommit transferId fileId segmentIndex offset bytes blake3 =>
    peer.handleSegmentCommit { transferId, fileId, segmentIndex, offset, bytes, blake3 }
  | .segmentAck transferId fileId segmentIndex committedBytes blake3 =>
    peer.handleSegmentAck { transferId, fileId, segmentIndex, committedBytes, blake3 }
  | .streamPaused transferId reason => peer.handleStreamPaused transferId reason
  | .streamComplete transferId totalBytes files => peer.handleStreamComplete transferId totalBytes files
  | .cancel transferId reason => (peer.clearTransfer transferId).emit (.transferCancelled transferId reason)
  | .complete transferId bytes blake3 => peer.handleComplete transferId bytes blake3 download
  | .error transferId _ message => (peer.clearTransfer transferId).fail (some transferId) message

def handleReceived (peer : Peer) (received : Received) (download : Download) : Peer :=
  match received with
  | .frame (.binary bytes) => peer.handleBinary bytes
  | .frame (.control message) =>
    match message.validate with
    | .error error => peer.fail none error.text
    | .ok _ => peer.handleControl message download
  | .malformed error => peer.fail none error.text
  | .unsupported => peer.fail none "unsupported DataChannel frame"

/-! ## Tasks -/

def wake (peer : Peer) (n : TaskId) (task : Task) (choice : Choice) : Peer :=
  match task with
  | .send transferId generation point => peer.wakeSend n transferId generation point choice
  | .saveAck recovery sender result => peer.wakeSaveAck n recovery sender result choice.answer
  | .reconcile request point => peer.wakeReconcile n request point choice.answer
  | .write segment point => peer.wakeWrite n segment point choice.answer
  | .lookup point => peer.wakeLookup n point choice
  | .accept point => peer.wakeAccept n point choice.answer
  | .resume transferId point => peer.wakeResume n transferId point choice
  | .close closing point => peer.wakeClose n closing point choice.answer
  | .offer point => peer.wakeOffer n point choice.answer
  | .restoreOutgoing peerId point => peer.wakeRestoreOutgoing n peerId point choice
  | .resumeOutgoing point => peer.wakeResumeOutgoing n point choice
  | .cancel transferId reason firstError point => peer.wakeCancel n transferId reason firstError point choice.answer
  | .deleteStream transferId =>
    let peer := peer.setTask n .finished
    match choice.answer with
    | .error _ => peer
    | .ok _ => { peer with streamRecovery := peer.streamRecovery.erase transferId }
  | .deleteOutgoing peerId => (peer.setTask n .finished).eraseOutgoingRecovery peerId choice.answer
  | .finished => peer

end Peer

/-! ## Steps -/

inductive Input
  /-- A frame comes out of the channel. -/
  | receive (received : Received) (download : Download)
  /-- The browser goes on with a task. -/
  | wake (n : TaskId) (choice : Choice)
  | offerFiles (files : List BrowserFile) (ids : DrawnIds)
  | offerPersistentFiles (files : List BrowserFile) (ids : DrawnIds)
  | decide (transferId : String) (accepted : Bool)
  | acceptStream (transferId : String) (writers : List StreamingFileWriter)
  | resumeStream (transferId : String)
  | restoreOutgoing (peerId : String)
  | resumeOutgoing
  | cancel (reason : CancelReason)
  /-- A connection to the other peer is made, in place of one that was given up. -/
  | connect (targetPeer : String)
  | installChannel (channel : ChannelId)
  | channelOpened
  /-- The channel is not open any more; the event that says so comes later. -/
  | channelClosing
  | channelClosed (phase : RtcConnectionPhase)
  | connectionLost (phase : RtcConnectionPhase)
  | prepareReconnect
  | reset
  deriving DecidableEq, Repr

namespace Peer

/-- One step of a peer. What comes for a channel that is gone is not delivered. -/
def step (peer : Peer) : Input → Peer
  | .receive received download => if peer.dataChannel.isSome then peer.handleReceived received download else peer
  | .wake n choice =>
    match peer.tasks[n]? with
    | some task => peer.wake n task choice
    | none => peer
  | .offerFiles files ids => (peer.offerFiles files ids).2
  | .offerPersistentFiles files ids => peer.offerPersistentFiles files ids
  | .decide transferId accepted => (peer.decideTransfer transferId accepted).2
  | .acceptStream transferId writers => peer.acceptStreamTransfer transferId writers
  | .resumeStream transferId => peer.resumeStreamTransfer transferId
  | .restoreOutgoing peerId => peer.restoreOutgoingTransfer peerId
  | .resumeOutgoing => peer.resumeOutgoingTransfer
  | .cancel reason => peer.cancelTransfer reason
  | .connect targetPeer => { peer with connectionEpoch := peer.connectionEpoch + 1, targetPeer := some targetPeer }
  | .installChannel channel => peer.installDataChannel channel
  | .channelOpened =>
    match peer.dataChannel with
    | some channel => ({ peer with dataChannel := some ⟨channel.id, true⟩ } : Peer).dataChannelOpened
    | none => peer
  | .channelClosing =>
    { peer with dataChannel := peer.dataChannel.map fun channel => { channel with isOpen := false } }
  | .channelClosed phase =>
    ({ peer with dataChannel := peer.dataChannel.map fun channel => { channel with isOpen := false } } :
      Peer).suspendStreamForReconnect.emit (.connectionState phase)
  | .connectionLost phase => peer.suspendStreamForReconnect.emit (.connectionState phase)
  | .prepareReconnect => peer.prepareReconnect
  | .reset => peer.reset

end Peer

end P2PTransmission.Rtc
