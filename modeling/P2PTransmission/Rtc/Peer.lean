import P2PTransmission.Rtc.Files
import P2PTransmission.Rtc.Checkpoint

/-!
# A peer

The state of one end of a connection: the channel, what is offered, sent and received, and what the browser keeps for it
(files, recovery records). The asynchronous parts of the program are tasks. A task stops at every point where the source
awaits something and goes on from there when it is woken; between two such points nothing else runs.

`sent` and `events` record what was given to the channels and to the application so far.

Left out: the progress reports and their statistics, the summary of the files that goes with the files of an event, the
address of a finished download, and the handles that abort a write under way, which only make the browser answer with an
error.
-/

set_option autoImplicit false

namespace P2PTransmission.Rtc

abbrev TaskId : Type := Nat

abbrev ChannelId : Type := Nat

/-! ## What is sent -/

structure StreamReadyPlan where
  maxChunkBytes : Nat
  ackWindowBytes : Nat
  deriving DecidableEq, Repr

/-- A segment that was sent and not acknowledged so far. -/
structure PendingSegmentAck where
  fileIndex : Nat
  segmentIndex : Nat
  committedBytes : Nat
  blake3 : String
  fileHasher : Hasher
  /-- The task that waits for the acknowledgement. -/
  sender : Option TaskId
  deriving DecidableEq, Repr

structure OutgoingFileState where
  fileBytes : BinaryId
  file : TransferFile
  browserFile : File
  sourceHandle : Option FileHandle
  lastModifiedMs : Nat
  expectedHash : Option String
  committedBytes : Nat
  committedHasher : Hasher
  lastSegmentBlake3 : Option String
  deriving DecidableEq, Repr

structure OutgoingState where
  transferId : String
  transferBytes : BinaryId
  mode : TransferMode
  files : List OutgoingFileState
  totalBytes : Nat
  sentBytes : Nat
  expectedDigests : List FileDigest
  accepted : Bool
  streamReady : Option StreamReadyPlan
  pendingAck : Option PendingSegmentAck
  generation : Nat
  sending : Bool
  cancelled : Bool
  recoveryPeerId : Option String
  restoredFromDisk : Bool
  reconcilingResume : Bool
  deriving DecidableEq, Repr

def OutgoingState.committedTotal (outgoing : OutgoingState) : Nat := (outgoing.files.map (·.committedBytes)).sum

def OutgoingState.transferFiles (outgoing : OutgoingState) : List TransferFile := outgoing.files.map (·.file)

/-! ## What is received -/

structure ReceiveFileState where
  writer : Option StreamingFileWriter
  receivedBytes : Nat
  hasher : Hasher
  segmentIndex : Nat
  segmentOffset : Nat
  chunks : List Bytes
  segmentHasher : Hasher
  committedHasher : Hasher
  lastSegmentBlake3 : Option String
  writing : Bool
  deriving DecidableEq, Repr

/-- A file of which nothing was received. -/
def ReceiveFileState.new (writer : StreamingFileWriter) : ReceiveFileState :=
  { writer := some writer, receivedBytes := 0, hasher := .new, segmentIndex := 0, segmentOffset := 0, chunks := [],
    segmentHasher := .new, committedHasher := .new, lastSegmentBlake3 := none, writing := false }

inductive ReceivePayload
  | buffered (chunks : List Bytes)
  | streamed (segmentBytes currentFileIndex : Nat) (files : List ReceiveFileState)
  deriving DecidableEq, Repr

structure ReceiveState where
  offer : IncomingOffer
  started : Bool
  receivedBytes : Nat
  payload : ReceivePayload
  hasher : Hasher
  resumeRequested : Bool
  recoveryPersisted : Bool
  generation : Nat
  deriving DecidableEq, Repr

/-! ## Tasks -/

/-- The variables of the sending loop over the files. -/
structure SendLoop where
  channel : ChannelId
  ready : StreamReadyPlan
  transferBytes : BinaryId
  totalBytes : Nat
  segmentBytes : Nat
  transferFiles : List TransferFile
  digests : List FileDigest
  precedingBytes : Nat
  fileIndex : Nat
  deriving DecidableEq, Repr

/-- The variables of the loop over the segments of one file. -/
structure SendFile where
  browserFile : File
  file : TransferFile
  fileBytes : BinaryId
  fileHasher : Hasher
  deriving DecidableEq, Repr

/-- The variables of the loop over the chunks of one segment. -/
structure SendSegment where
  segment : PartDescriptor
  segmentHasher : Hasher
  segmentSent : Nat
  deriving DecidableEq, Repr

/-- The variables of the sending loop of a buffered transfer. -/
structure BufferedLoop where
  channel : ChannelId
  browserFile : File
  file : TransferFile
  transferBytes : BinaryId
  fileBytes : BinaryId
  hasher : Hasher
  index : Nat
  deriving DecidableEq, Repr

inductive SendPoint
  | spawned
  | settling (loop : SendLoop)
  | congested (loop : SendLoop) (file : SendFile) (segment : SendSegment)
  | reading (loop : SendLoop) (file : SendFile) (segment : SendSegment) (chunkLength : Nat)
  | acknowledging (loop : SendLoop) (file : SendFile) (segment : SendSegment) (result : Option (Except String Unit))
  | bufferedSettling (loop : BufferedLoop)
  | bufferedCongested (loop : BufferedLoop)
  | bufferedReading (loop : BufferedLoop)
  | finished
  deriving DecidableEq, Repr

/-- A segment on its way to the disk. -/
structure SegmentWrite where
  transferId : String
  fileId : String
  segmentIndex : Nat
  offset : Nat
  blake3 : String
  data : Bytes
  committedBytes : Nat
  fileIndex : Nat
  recoveryPersisted : Bool
  generation : Nat
  deriving DecidableEq, Repr

inductive WritePoint
  | write (writer : StreamingFileWriter)
  | commit (writer : StreamingFileWriter)
  | reopen (writer : StreamingFileWriter)
  | save (recovery : StreamRecoveryRecord) (resumeRequested : Bool)
  | deleteFailed (error : BrowserPlatformError)
  | pauseAbort (reason : StreamPauseReason)
  | pauseLoad (reason : StreamPauseReason)
  | pauseIdle (reason : StreamPauseReason) (completedBytes totalBytes idleWriters : Nat)
  | finished
  deriving DecidableEq, Repr

/-- The files that are reopened, the ones that are not so far, and the record. -/
structure Restore where
  offer : IncomingOffer
  recovery : StreamRecoveryRecord
  files : List ReceiveFileState
  rest : List (IncomingFile × StreamRecoveryFile)
  deriving DecidableEq, Repr

inductive LookupPoint
  | spawned (offer : IncomingOffer)
  | load (offer : IncomingOffer) (peerId : Option String)
  | permissions (offer : IncomingOffer) (recovery : StreamRecoveryRecord)
  | reopening (restore : Restore)
  | deleting (offer : IncomingOffer)
  | finished
  deriving DecidableEq, Repr

inductive AcceptPoint
  | saving (offer : IncomingOffer) (channel : ChannelId) (record : StreamRecoveryRecord)
      (writers : List StreamingFileWriter)
  | deletingUnsaved (offer : IncomingOffer) (channel : ChannelId) (writers : List StreamingFileWriter)
  | returned (answer : Answer)
  deriving DecidableEq, Repr

inductive ResumePoint
  | permissions (offer : IncomingOffer) (recovery : StreamRecoveryRecord)
  | reopening (restore : Restore)
  | returned (answer : Answer)
  deriving DecidableEq, Repr

/-- A transfer whose files are verified and being closed. -/
structure Closing where
  transferId : String
  totalBytes : Nat
  digests : List FileDigest
  transferFiles : List TransferFile
  deriving DecidableEq, Repr

inductive ClosingPoint
  | closing (writers : List StreamingFileWriter)
  | cleaning (failedAttempts : Nat)
  | finished
  deriving DecidableEq, Repr

/-- What the receiver asks of a sender that was restored. -/
structure StreamReadyRequest where
  transferId : String
  maxChunkBytes : Nat
  ackWindowBytes : Nat
  resume : List ResumeCursor
  deriving DecidableEq, Repr

inductive ReconcilePoint
  | spawned
  | recovering (recovery : OutgoingRecoveryRecord) (files : List RecoveredSourceFile) (rest : List OutgoingRecoveryFile)
  | saving (recovery : OutgoingRecoveryRecord) (files : List RecoveredSourceFile)
  | finished
  deriving DecidableEq, Repr

inductive OfferPoint
  | saving (outgoing : OutgoingState) (recovery : OutgoingRecoveryRecord) (peerId : String)
  | deleting (peerId : String) (error : BrowserPlatformError)
  | returned (result : Except BrowserPlatformError String)
  deriving DecidableEq, Repr

inductive RestoreOutgoingPoint
  | loading
  | deletingMismatch
  | permissions (recovery : OutgoingRecoveryRecord)
  | recovering (recovery : OutgoingRecoveryRecord) (files : List OutgoingFileState) (rest : List OutgoingRecoveryFile)
  | deletingFailed (error : BrowserPlatformError)
  | returned (result : Except BrowserPlatformError Bool)
  deriving DecidableEq, Repr

inductive ResumeOutgoingPoint
  | permissions (recovery : OutgoingRecoveryRecord)
  | recovering (recovery : OutgoingRecoveryRecord) (files : List OutgoingFileState) (rest : List OutgoingRecoveryFile)
  | returned (answer : Answer)
  deriving DecidableEq, Repr

inductive CancelPoint
  | aborting (writers : Nat) (deleteRecovery : Bool) (outgoingPeer : Option String)
  | deletingStream (outgoingPeer : Option String)
  | deletingOutgoing (peerId : String)
  | returned (answer : Answer)
  deriving DecidableEq, Repr

inductive Task
  | send (transferId : String) (generation : Nat) (point : SendPoint)
  | saveAck (recovery : OutgoingRecoveryRecord) (sender : Option TaskId) (result : Except String Unit)
  | reconcile (request : StreamReadyRequest) (point : ReconcilePoint)
  | write (segment : SegmentWrite) (point : WritePoint)
  | lookup (point : LookupPoint)
  | accept (point : AcceptPoint)
  | resume (transferId : String) (point : ResumePoint)
  | close (closing : Closing) (point : ClosingPoint)
  | offer (point : OfferPoint)
  | restoreOutgoing (peerId : String) (point : RestoreOutgoingPoint)
  | resumeOutgoing (point : ResumeOutgoingPoint)
  | cancel (transferId : String) (reason : CancelReason) (firstError : Option BrowserPlatformError) (point : CancelPoint)
  | deleteStream (transferId : String)
  | deleteOutgoing (peerId : String)
  | finished
  deriving DecidableEq, Repr

/-- What the browser answers to a task: the answer of the call, the permissions if it was asked for them, whether the
channel holds too much at the next chunk, and whether the time for an acknowledgement is over. -/
structure Choice where
  answer : Answer := .ok ()
  permissions : List FilePermission := []
  congested : Bool := false
  timeout : Bool := false
  deriving DecidableEq, Repr

/-! ## The peer -/

inductive TransferDirection
  | send | receive
  deriving DecidableEq, Repr

inductive RtcConnectionPhase
  | new | connecting | connected | disconnected | failed | closed
  deriving DecidableEq, Repr

inductive RtcEvent
  | connectionState (phase : RtcConnectionPhase)
  | dataChannelReady
  | outgoingOffered (transferId : String) (files : List TransferFile)
  | outgoingRecoveryOffered (transferId : String) (files : List TransferFile)
  | incomingOffered (transferId : String) (mode : TransferMode) (files : List TransferFile) (recoveryAvailable : Bool)
  | transferStarted (transferId : String) (direction : TransferDirection) (mode : TransferMode)
      (files : List TransferFile)
  | awaitingVerification (transferId : String) (files : List TransferFile)
  | transferRejected (transferId : String) (direction : TransferDirection) (files : List TransferFile)
  | transferCompleted (transferId : String) (direction : TransferDirection) (files : List TransferFile) (blake3 : String)
  | transferCancelled (transferId : String) (reason : CancelReason)
  | transferPaused (transferId : String) (direction : TransferDirection) (reason : StreamPauseReason)
      (completedBytes totalBytes : Nat)
  | transferFailed (transferId : Option String) (message : String)
  deriving DecidableEq, Repr

inductive Frame
  | binary (bytes : Bytes)
  | control (message : ControlMessage)
  deriving DecidableEq, Repr

structure DataChannel where
  id : ChannelId
  isOpen : Bool
  deriving DecidableEq, Repr

structure Peer where
  dataChannel : Option DataChannel := none
  targetPeer : Option String := none
  connectionEpoch : Nat := 0
  outgoing : Option OutgoingState := none
  pendingOutgoingRecovery : Option OutgoingRecoveryRecord := none
  restoringOutgoing : Bool := false
  incoming : Option IncomingOffer := none
  pendingRecovery : Option StreamRecoveryRecord := none
  pausedReceiveReason : Option StreamPauseReason := none
  restoringTransfer : Option String := none
  receive : Option ReceiveState := none
  streamRecovery : BTreeMap String StreamRecoveryRecord := ∅
  outgoingRecovery : BTreeMap String OutgoingRecoveryRecord := ∅
  disk : Disk := ∅
  sources : BTreeMap FileHandle File := ∅
  tasks : BTreeMap TaskId Task := ∅
  nextTask : TaskId := 0
  sent : List (ChannelId × Frame) := []
  events : List RtcEvent := []

namespace Peer

def emit (peer : Peer) (event : RtcEvent) : Peer := { peer with events := peer.events ++ [event] }

def fail (peer : Peer) (transferId : Option String) (message : String) : Peer :=
  peer.emit (.transferFailed transferId message)

/-- A task that begins when the browser gets to it. -/
def spawn (peer : Peer) (task : Task) : Peer :=
  { peer with tasks := peer.tasks.insert peer.nextTask task, nextTask := peer.nextTask + 1 }

/-- The task goes on from here. -/
def setTask (peer : Peer) (n : TaskId) (task : Task) : Peer := { peer with tasks := peer.tasks.insert n task }

/-! ## The channel -/

def currentDataChannel (peer : Peer) : Except BrowserPlatformError ChannelId :=
  match peer.dataChannel with
  | none => .error (.browser "DataChannel is not ready")
  | some channel => if channel.isOpen then .ok channel.id else .error (.browser "DataChannel is not open")

/-- What the browser says of a channel that is not open. -/
def channelNotOpen : BrowserPlatformError :=
  .browser ("JsValue(InvalidStateError: Failed to execute 'send' on 'RTCDataChannel': " ++
    "RTCDataChannel.readyState is not 'open')")

/-- A frame given to a channel: one that was replaced is closed. -/
def sendOn (peer : Peer) (channel : ChannelId) (frame : Frame) : Except BrowserPlatformError Peer :=
  if peer.dataChannel = some ⟨channel, true⟩ then .ok { peer with sent := peer.sent ++ [(channel, frame)] }
  else .error channelNotOpen

def sendControlOn (peer : Peer) (channel : ChannelId) (message : ControlMessage) : Except BrowserPlatformError Peer :=
  match message.validate with
  | .error error => .error (.decode error.text)
  | .ok _ => peer.sendOn channel (.control message)

def sendControl (peer : Peer) (message : ControlMessage) : Except BrowserPlatformError Peer :=
  match peer.currentDataChannel with
  | .error error => .error error
  | .ok channel => peer.sendControlOn channel message

/-- The message is sent if it can be. -/
def trySendControl (peer : Peer) (message : ControlMessage) : Peer :=
  match peer.sendControl message with
  | .error _ => peer
  | .ok peer => peer

def sendTransferError (peer : Peer) (transferId code message : String) : Peer :=
  peer.trySendControl (.error transferId code message)

/-! ## What sending does -/

/-- The frame went out on a channel. -/
def withSent (peer : Peer) (channel : ChannelId) (frame : Frame) : Peer :=
  { peer with sent := peer.sent ++ [(channel, frame)] }

variable {peer next : Peer} {channel : ChannelId}

theorem sendOn_ok {frame : Frame} (h : peer.sendOn channel frame = .ok next) :
    peer.dataChannel = some ⟨channel, true⟩ ∧ next = peer.withSent channel frame := by
  unfold sendOn at h
  by_cases hopen : peer.dataChannel = some ⟨channel, true⟩
  · rw [if_pos hopen] at h
    exact ⟨hopen, (Except.ok.inj h).symm⟩
  · rw [if_neg hopen] at h
    cases h

theorem sendOn_of_open (frame : Frame) (h : peer.dataChannel = some ⟨channel, true⟩) :
    peer.sendOn channel frame = .ok (peer.withSent channel frame) := if_pos h

theorem sendControlOn_ok {message : ControlMessage} (h : peer.sendControlOn channel message = .ok next) :
    message.validate = .ok () ∧ peer.dataChannel = some ⟨channel, true⟩ ∧
      next = peer.withSent channel (.control message) := by
  unfold sendControlOn at h
  cases hvalid : message.validate with
  | error error => simp [hvalid] at h
  | ok =>
    rw [hvalid] at h
    exact ⟨rfl, sendOn_ok h⟩

theorem sendControlOn_of_open {message : ControlMessage} (hvalid : message.validate = .ok ())
    (h : peer.dataChannel = some ⟨channel, true⟩) :
    peer.sendControlOn channel message = .ok (peer.withSent channel (.control message)) := by
  unfold sendControlOn
  rw [hvalid]
  exact sendOn_of_open _ h

theorem currentDataChannel_ok (h : peer.currentDataChannel = .ok channel) :
    peer.dataChannel = some ⟨channel, true⟩ := by
  unfold currentDataChannel at h
  cases hchannel : peer.dataChannel with
  | none => simp [hchannel] at h
  | some current =>
    obtain ⟨id, isOpen⟩ := current
    cases isOpen with
    | false => simp [hchannel] at h
    | true => simp_all

theorem currentDataChannel_of_open (h : peer.dataChannel = some ⟨channel, true⟩) :
    peer.currentDataChannel = .ok channel := by
  simp [currentDataChannel, h]

theorem sendControl_ok {message : ControlMessage} (h : peer.sendControl message = .ok next) :
    ∃ channel, message.validate = .ok () ∧ peer.dataChannel = some ⟨channel, true⟩ ∧
      next = peer.withSent channel (.control message) := by
  unfold sendControl at h
  cases hchannel : peer.currentDataChannel with
  | error error => simp [hchannel] at h
  | ok channel =>
    rw [hchannel] at h
    exact ⟨channel, sendControlOn_ok h⟩

theorem sendControl_of_open {message : ControlMessage} (hvalid : message.validate = .ok ())
    (h : peer.dataChannel = some ⟨channel, true⟩) :
    peer.sendControl message = .ok (peer.withSent channel (.control message)) := by
  unfold sendControl
  rw [currentDataChannel_of_open h]
  exact sendControlOn_of_open hvalid h

/-- Sending if it can be done changes at most what was sent. -/
theorem trySendControl_cases (peer : Peer) (message : ControlMessage) :
    peer.trySendControl message = peer ∨
      ∃ channel, peer.dataChannel = some ⟨channel, true⟩ ∧
        peer.trySendControl message = peer.withSent channel (.control message) := by
  unfold trySendControl
  cases hsend : peer.sendControl message with
  | error error => exact .inl rfl
  | ok next =>
    obtain ⟨channel, -, hopen, hnext⟩ := sendControl_ok hsend
    exact .inr ⟨channel, hopen, hnext⟩

theorem trySendControl_of_open {message : ControlMessage} (hvalid : message.validate = .ok ())
    (h : peer.dataChannel = some ⟨channel, true⟩) :
    peer.trySendControl message = peer.withSent channel (.control message) := by
  unfold trySendControl
  rw [sendControl_of_open hvalid h]

end Peer

end P2PTransmission.Rtc
