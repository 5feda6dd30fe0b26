import P2PTransmission.Rtc.Sending

/-!
# The sender and its receiver

What the sender does when the receiver decides, is ready, acknowledges or pauses, and how a transfer is offered, offered
again and restored from its record.

Texts that are sent over the same connection are left out, and with them the check that no text is under way when files
are offered.
-/

set_option autoImplicit false

namespace P2PTransmission.Rtc

variable [Blake3]

/-! ## The record of the sender -/

def outgoingRecoveryFile (file : OutgoingFileState) : Option OutgoingRecoveryFile :=
  file.sourceHandle.map fun handle =>
    { fileId := formatBinaryId "file" file.fileBytes, name := file.file.name, mime := file.file.mime,
      sizeBytes := file.file.sizeBytes, lastModifiedMs := file.lastModifiedMs, handle,
      committedBytes := file.committedBytes, lastSegmentBlake3 := file.lastSegmentBlake3 }

def outgoingRecoveryRecord (outgoing : OutgoingState) : Option OutgoingRecoveryRecord :=
  match outgoing.mode with
  | .buffered => none
  | .streamed segmentBytes =>
    outgoing.recoveryPeerId.bind fun peerId =>
      (outgoing.files.mapM outgoingRecoveryFile).map fun files =>
        { transferId := outgoing.transferId, peerId, segmentBytes, files }

def manifestFromOutgoing (outgoing : OutgoingState) : ControlMessage :=
  .manifest outgoing.transferId outgoing.mode (outgoing.files.map fun file =>
    { fileId := formatBinaryId "file" file.fileBytes, name := file.file.name, mime := file.file.mime,
      sizeBytes := file.file.sizeBytes })

/-! ## Acknowledgements -/

/-- The segment counts from now on. -/
def OutgoingState.commitPending (outgoing : OutgoingState) (pending : PendingSegmentAck) : OutgoingState :=
  { outgoing with
    pendingAck := none
    files := outgoing.files.modify pending.fileIndex fun file =>
      { file with
        committedBytes := pending.committedBytes
        committedHasher := pending.fileHasher
        lastSegmentBlake3 := some pending.blake3 } }

/-- The acknowledgement that was received. -/
structure SegmentAck where
  transferId : String
  fileId : String
  segmentIndex : Nat
  committedBytes : Nat
  blake3 : String
  deriving DecidableEq, Repr

/-- The acknowledgement is for the segment that is pending. -/
def OutgoingState.acknowledges (outgoing : OutgoingState) (pending : PendingSegmentAck) (ack : SegmentAck) : Bool :=
  (outgoing.files[pending.fileIndex]?.any fun file => parseBinaryId ack.fileId "file" = some file.fileBytes) &&
    pending.segmentIndex == ack.segmentIndex && pending.committedBytes == ack.committedBytes &&
    pending.blake3 == ack.blake3

namespace Peer

/-- The task that waits for the acknowledgement gets it, if it still waits. -/
def resolveAck (peer : Peer) (sender : Option TaskId) (result : Except String Unit) : Peer :=
  match sender with
  | none => peer
  | some n =>
    match peer.tasks[n]? with
    | some (.send transferId generation (.acknowledging loop file segment none)) =>
      peer.setTask n (.send transferId generation (.acknowledging loop file segment (some result)))
    | _ => peer

def handleSegmentAck (peer : Peer) (ack : SegmentAck) : Peer :=
  match peer.outgoing with
  | none => peer.fail (some ack.transferId) "segment acknowledgement has no outgoing transfer"
  | some outgoing =>
    if outgoing.transferId ≠ ack.transferId then
      peer.fail (some ack.transferId) "segment acknowledgement id does not match"
    else
      match outgoing.pendingAck with
      | none => peer.fail (some ack.transferId) "segment acknowledgement was not expected"
      | some pending =>
        if outgoing.acknowledges pending ack then
          let outgoing := outgoing.commitPending pending
          let peer : Peer := { peer with outgoing := some outgoing }
          match outgoingRecoveryRecord outgoing with
          | some recovery => peer.spawn (.saveAck recovery pending.sender (.ok ()))
          | none => peer.resolveAck pending.sender (.ok ())
        else
          resolveAck { peer with outgoing := some { outgoing with pendingAck := none } } pending.sender
            (.error "segment acknowledgement does not match")

/-- The record of the sender was saved, or not. -/
def wakeSaveAck (peer : Peer) (n : TaskId) (recovery : OutgoingRecoveryRecord) (sender : Option TaskId)
    (result : Except String Unit) (answer : Answer) : Peer :=
  let peer := peer.setTask n .finished
  match answer with
  | .ok _ =>
    resolveAck { peer with outgoingRecovery := peer.outgoingRecovery.insert recovery.peerId recovery } sender result
  | .error error =>
    peer.resolveAck sender (.error ("failed to save the outgoing transfer checkpoint: " ++ error.text))

/-! ## Readiness -/

end Peer

def OutgoingFileState.checkpoint (file : OutgoingFileState) : Checkpoint :=
  { fileId := formatBinaryId "file" file.fileBytes, sizeBytes := file.file.sizeBytes,
    committedBytes := file.committedBytes, lastSegmentBlake3 := file.lastSegmentBlake3 }

def PendingSegmentAck.checkpoint (pending : PendingSegmentAck) : PendingCheckpoint :=
  { fileIndex := pending.fileIndex, committedBytes := pending.committedBytes, blake3 := pending.blake3 }

/-- Whether the receiver has the pending segment, if its cursors are those of this sender. -/
def validateResumeCursors (outgoing : OutgoingState) (segmentBytes : Nat) (resume : List ResumeCursor) : Option Bool :=
  match matchLiveResume segmentBytes (outgoing.files.map (·.checkpoint))
      (outgoing.pendingAck.map (·.checkpoint)) resume with
  | .error _ => none
  | .ok .keepCurrent => some false
  | .ok (.promotePending _) => some true

/-- The checkpoint that the cursors stand for, and the plan of the receiver. -/
def OutgoingState.ready (outgoing : OutgoingState) (promote : Bool) (request : StreamReadyRequest) : OutgoingState :=
  let outgoing :=
    match promote, outgoing.pendingAck with
    | true, some pending => outgoing.commitPending pending
    | _, _ => { outgoing with pendingAck := none }
  { outgoing with
    sentBytes := outgoing.committedTotal
    streamReady := some { maxChunkBytes := request.maxChunkBytes, ackWindowBytes := request.ackWindowBytes } }

/-- The receiver has to be asked about a transfer that was restored: its cursors are not those of the record. -/
inductive Reconciliation
  | running | needed | notNeeded
  deriving DecidableEq, Repr

namespace Peer

def reconciliation (peer : Peer) (request : StreamReadyRequest) : Reconciliation :=
  match peer.outgoing with
  | none => .notNeeded
  | some outgoing =>
    match outgoing.mode with
    | .buffered => .notNeeded
    | .streamed segmentBytes =>
      if outgoing.transferId ≠ request.transferId ∨ request.ackWindowBytes < segmentBytes ∨
          outgoing.restoredFromDisk = false then .notNeeded
      else if outgoing.reconcilingResume then .running
      else if (validateResumeCursors outgoing segmentBytes request.resume).isSome then .notNeeded
      else .needed

/-- The transfer is sent if the receiver has decided. -/
def startIfAccepted (peer : Peer) (outgoing : OutgoingState) : Peer :=
  if outgoing.accepted ∧ outgoing.sending = false then
    ({ peer with outgoing := some { outgoing with sending := true } } : Peer).spawnOutgoing outgoing.transferId
      outgoing.generation
  else { peer with outgoing := some outgoing }

/-- The readiness of a receiver whose cursors need no reconciliation. -/
def receiverReady (peer : Peer) (request : StreamReadyRequest) : Peer :=
  match peer.outgoing with
  | none => peer.fail (some request.transferId) "stream readiness has no outgoing transfer"
  | some outgoing =>
    match outgoing.mode with
    | .buffered => peer.fail (some request.transferId) "stream readiness was sent for a buffered transfer"
    | .streamed segmentBytes =>
      if outgoing.transferId ≠ request.transferId ∨ request.ackWindowBytes < segmentBytes then
        peer.fail (some request.transferId) "stream readiness does not match the transfer"
      else
        match validateResumeCursors outgoing segmentBytes request.resume with
        | none =>
          peer.sendTransferError request.transferId "resume_mismatch"
            "streaming resume cursor is not a verified batch checkpoint"
        | some promote => peer.startIfAccepted (outgoing.ready promote request)

def handleStreamReady (peer : Peer) (request : StreamReadyRequest) : Peer :=
  match peer.reconciliation request with
  | .running => peer
  | .needed =>
    (peer.withOutgoing fun outgoing => { outgoing with reconcilingResume := true }).spawn (.reconcile request .spawned)
  | .notNeeded =>
    -- a restored transfer of which the cursors are those of the record is a live one from now on
    let peer := peer.withOutgoing fun outgoing =>
      if outgoing.transferId = request.transferId ∧
          (match outgoing.mode with
            | .buffered => false
            | .streamed segmentBytes => decide (segmentBytes ≤ request.ackWindowBytes)) = true then
        { outgoing with restoredFromDisk := false }
      else outgoing
    peer.receiverReady request

/-! ## Reconciliation -/

/-- The record with the cursors of the receiver. -/
def applyResumeToRecovery (recovery : OutgoingRecoveryRecord) (resume : List ResumeCursor) :
    Except BrowserPlatformError OutgoingRecoveryRecord :=
  match resolveManifestResume recovery.segmentBytes
      (recovery.files.map fun file => { fileId := file.fileId, sizeBytes := file.sizeBytes }) resume with
  | .error .fileCountMismatch => .error (.browser "receiver checkpoint file count does not match")
  | .error .fileOrderMismatch => .error (.browser "receiver checkpoint file order does not match")
  | .error _ => .error (.browser "receiver checkpoint is not a verified segment boundary")
  | .ok resolved =>
    .ok
      { recovery with
        files := recovery.files.zipWith (fun file checkpoint =>
          { file with
            committedBytes := checkpoint.committedBytes
            lastSegmentBlake3 := checkpoint.lastSegmentBlake3 }) resolved }

def expectedSource (file : OutgoingRecoveryFile) : ExpectedSource :=
  { name := file.name, mime := file.mime, sizeBytes := file.sizeBytes, lastModifiedMs := file.lastModifiedMs }

/-- A source file as it is found under its handle. -/
def recoverSource (peer : Peer) (file : OutgoingRecoveryFile) (segmentBytes : Nat) (answer : Answer) :
    Except BrowserPlatformError RecoveredSourceFile :=
  match peer.sources[file.handle]? with
  | none => .error (.storage .readSource .notFound "")
  | some source => recoverSourceFile source (expectedSource file) file.committedBytes segmentBytes answer

variable (n : TaskId)

/-- The transfer is being reconciled. -/
def reconciles (outgoing : OutgoingState) (transferId : String) : Bool :=
  outgoing.transferId == transferId && outgoing.restoredFromDisk && outgoing.reconcilingResume

def reconcileFailed (peer : Peer) (request : StreamReadyRequest) (error : BrowserPlatformError) : Peer :=
  (((peer.setTask n (.reconcile request .finished)).sendTransferError request.transferId "resume_mismatch"
    "streaming resume cursor does not match the source files").clearTransfer request.transferId).fail
    (some request.transferId) error.text

def reconcileNext (peer : Peer) (request : StreamReadyRequest) (recovery : OutgoingRecoveryRecord)
    (files : List RecoveredSourceFile) : List OutgoingRecoveryFile → Peer
  | [] => peer.setTask n (.reconcile request (.saving recovery files))
  | rest => peer.setTask n (.reconcile request (.recovering recovery files rest))

/-- The file, as far as the receiver has it. -/
def reconciledFile (state : OutgoingFileState) (saved : OutgoingRecoveryFile) (recovered : RecoveredSourceFile) :
    OutgoingFileState :=
  { state with
    browserFile := recovered.file
    committedBytes := saved.committedBytes
    committedHasher := recovered.hasher
    lastSegmentBlake3 := recovered.lastSegmentBlake3 }

def reconciledOutgoing (outgoing : OutgoingState) (recovery : OutgoingRecoveryRecord) (files : List RecoveredSourceFile) :
    OutgoingState :=
  let outgoing :=
    { outgoing with
      files := (outgoing.files.zip (recovery.files.zip files)).map fun (state, saved, recovered) =>
        reconciledFile state saved recovered }
  { outgoing with
    sentBytes := outgoing.committedTotal
    restoredFromDisk := false
    reconcilingResume := false }

/-- The task that reconciles a restored transfer with the receiver. -/
def wakeReconcile (peer : Peer) (request : StreamReadyRequest) (point : ReconcilePoint) (answer : Answer) : Peer :=
  match point with
  | .spawned =>
    match peer.outgoing with
    | none => peer.reconcileFailed n request (.browser "outgoing recovery disappeared")
    | some outgoing =>
      if !reconciles outgoing request.transferId then
        peer.reconcileFailed n request (.browser "outgoing recovery is no longer active")
      else
        match outgoingRecoveryRecord outgoing with
        | none => peer.reconcileFailed n request (.browser "outgoing source handles are unavailable")
        | some recovery =>
          match applyResumeToRecovery recovery request.resume with
          | .error error => peer.reconcileFailed n request error
          | .ok recovery => peer.reconcileNext n request recovery [] recovery.files
  | .recovering recovery files [] => peer.setTask n (.reconcile request (.saving recovery files))
  | .recovering recovery files (file :: rest) =>
    match peer.recoverSource file recovery.segmentBytes answer with
    | .error error => peer.reconcileFailed n request error
    | .ok recovered =>
      if recovered.lastSegmentBlake3 ≠ file.lastSegmentBlake3 then
        peer.reconcileFailed n request (.browser "receiver checkpoint does not match the source file")
      else peer.reconcileNext n request recovery (files ++ [recovered]) rest
  | .saving recovery files =>
    match answer with
    | .error error => peer.reconcileFailed n request error
    | .ok _ =>
      let peer : Peer := { peer with outgoingRecovery := peer.outgoingRecovery.insert recovery.peerId recovery }
      match peer.outgoing with
      | none => peer.reconcileFailed n request (.browser "outgoing recovery disappeared")
      | some outgoing =>
        if !reconciles outgoing request.transferId || outgoing.files.length ≠ files.length then
          peer.reconcileFailed n request (.browser "outgoing recovery changed while validating files")
        else
          handleStreamReady
            (({ peer with outgoing := some (reconciledOutgoing outgoing recovery files) } : Peer).setTask n
              (.reconcile request .finished)) request
  | .finished => peer

/-! ## The decision and the pause of the receiver -/

def handleDecision (peer : Peer) (transferId : String) (accepted : Bool) : Peer :=
  match peer.outgoing with
  | none => peer.fail (some transferId) "decision has no outgoing transfer"
  | some outgoing =>
    if outgoing.transferId ≠ transferId then peer.fail (some transferId) "decision id does not match"
    else if accepted then
      let ready := outgoing.mode = .buffered ∨ outgoing.streamReady.isSome
      if ready ∧ outgoing.sending = false then
        ({ peer with outgoing := some { outgoing with accepted := true, sending := true } } : Peer).spawnOutgoing
          transferId outgoing.generation
      else { peer with outgoing := some { outgoing with accepted := true } }
    else
      (({ peer with outgoing := none } : Peer).emit
        (.transferRejected transferId .send outgoing.transferFiles)).spawnDeleteOutgoing outgoing.recoveryPeerId

def OutgoingState.paused (outgoing : OutgoingState) : OutgoingState := { outgoing.suspended with accepted := true }

def handleStreamPaused (peer : Peer) (transferId : String) (reason : StreamPauseReason) : Peer :=
  match peer.outgoing with
  | none => peer.fail (some transferId) "stream pause has no outgoing transfer"
  | some outgoing =>
    if outgoing.transferId ≠ transferId ∨ outgoing.mode = .buffered then
      peer.fail (some transferId) "stream pause does not match the outgoing transfer"
    else
      ({ peer with outgoing := some (OutgoingState.paused outgoing) } : Peer).emit
        (.transferPaused transferId .send reason outgoing.committedTotal outgoing.totalBytes)

/-! ## The verification of the receiver -/

def streamVerified (peer : Peer) (transferId : String) (totalBytes : Nat) (digests : List FileDigest) : Peer :=
  match peer.outgoing with
  | none => peer.fail (some transferId) "stream completion has no active transfer"
  | some outgoing =>
    if outgoing.transferId ≠ transferId ∨ outgoing.mode = .buffered ∨ totalBytes ≠ outgoing.totalBytes ∨
        outgoing.sentBytes ≠ totalBytes ∨ digests ≠ outgoing.expectedDigests then
      peer.fail (some transferId) "receiver stream verification does not match"
    else
      (({ peer with outgoing := none } : Peer).emit
        (.transferCompleted transferId .send outgoing.transferFiles (batchBlake3 digests))).spawnDeleteOutgoing
        outgoing.recoveryPeerId

def bufferedVerified (peer : Peer) (transferId : String) (bytes : Nat) (blake3 : String) : Peer :=
  match peer.outgoing with
  | none => peer.fail (some transferId) "completion has no active transfer"
  | some outgoing =>
    if outgoing.transferId ≠ transferId ∨ outgoing.mode ≠ .buffered ∨ outgoing.sentBytes ≠ bytes ∨
        outgoing.files.length ≠ 1 ∨ (outgoing.files.head?.bind (·.expectedHash)) ≠ some blake3 then
      peer.fail (some transferId) "receiver verification does not match"
    else
      ({ peer with outgoing := none } : Peer).emit
        (.transferCompleted transferId .send (outgoing.files.take 1 |>.map (·.file)) blake3)

/-! ## Offers -/

/-- The manifest of a transfer that was not accepted is repeated on every channel. -/
def dataChannelOpened (peer : Peer) : Peer :=
  let peer := peer.emit .dataChannelReady
  match peer.outgoing with
  | none => peer
  | some outgoing =>
    if outgoing.isStreamed ∧ outgoing.accepted = false ∧ outgoing.sending = false then
      match peer.sendControl (manifestFromOutgoing outgoing) with
      | .error error => peer.fail none error.text
      | .ok peer => peer
    else peer

end Peer

/-- The identifiers that were drawn for a transfer and its files. -/
structure DrawnIds where
  transferBytes : BinaryId
  fileBytes : List BinaryId
  deriving DecidableEq, Repr

def outgoingFile (file : BrowserFile) (fileBytes : BinaryId) : OutgoingFileState :=
  { fileBytes, file := file.metadata, browserFile := file.inner, sourceHandle := file.sourceHandle,
    lastModifiedMs := file.inner.lastModifiedMs, expectedHash := none, committedBytes := 0, committedHasher := .new,
    lastSegmentBlake3 := none }

def OutgoingPlanError.message : OutgoingPlanError → String
  | invalidFileCount => s!"select between 1 and {MAX_FILES_PER_MANIFEST} files"
  | sizeOverflow => "transfer size overflow"
  | transferTooLarge => s!"files exceed the {MAX_TRANSFER_BYTES} byte transfer limit"

def prepareOutgoing (files : List BrowserFile) (recoveryPeerId : Option String) (ids : DrawnIds) :
    Except BrowserPlatformError OutgoingState :=
  match planTransfer (files.map (·.metadata)) with
  | .error error => .error (.browser error.message)
  | .ok plan =>
    let outgoing : OutgoingState :=
      { transferId := formatBinaryId "transfer" ids.transferBytes
        transferBytes := ids.transferBytes
        mode := plan.mode
        files := files.zipWith outgoingFile ids.fileBytes
        totalBytes := plan.totalBytes
        sentBytes := 0
        expectedDigests := []
        accepted := false
        streamReady := none
        pendingAck := none
        generation := 0
        sending := false
        cancelled := false
        recoveryPeerId
        restoredFromDisk := false
        reconcilingResume := false }
    match (manifestFromOutgoing outgoing).validate with
    | .error error => .error (.decode error.text)
    | .ok _ => .ok outgoing

namespace Peer

/-- Nothing is under way that a new offer would disturb. -/
def transferActive (peer : Peer) : Bool :=
  peer.outgoing.isSome || peer.incoming.isSome || peer.receive.isSome || peer.restoringOutgoing

def installAndOfferOutgoing (peer : Peer) (outgoing : OutgoingState) : Except BrowserPlatformError String × Peer :=
  match peer.currentDataChannel with
  | .error error => (.error error, peer)
  | .ok channel =>
    if peer.transferActive then (.error (.browser "another transfer is already active"), peer)
    else
      match ({ peer with outgoing := some outgoing } : Peer).sendControlOn channel (manifestFromOutgoing outgoing) with
      | .error error => (.error error, peer)
      | .ok peer => (.ok outgoing.transferId, peer.emit (.outgoingOffered outgoing.transferId outgoing.transferFiles))

def offerFiles (peer : Peer) (files : List BrowserFile) (ids : DrawnIds) : Except BrowserPlatformError String × Peer :=
  match prepareOutgoing files none ids with
  | .error error => (.error error, peer)
  | .ok outgoing => peer.installAndOfferOutgoing outgoing

variable (n : TaskId)

/-- An offer that survives a reload, up to the first point at which the program waits. -/
def offerPersistentFiles (peer : Peer) (files : List BrowserFile) (ids : DrawnIds) : Peer :=
  let returned (result : Except BrowserPlatformError String) := Task.offer (.returned result)
  match peer.targetPeer with
  | none => peer.spawn (returned (.error (.browser "receiver peer is unavailable")))
  | some peerId =>
    match prepareOutgoing files (some peerId) ids with
    | .error error => peer.spawn (returned (.error error))
    | .ok outgoing =>
      if outgoing.mode = .buffered then
        match peer.installAndOfferOutgoing { outgoing with recoveryPeerId := none } with
        | (.ok transferId, peer) => peer.spawn (returned (.ok transferId))
        | (.error error, peer) => peer.spawn (.offer (.deleting peerId error))
      else
        match outgoingRecoveryRecord outgoing with
        | none => peer.spawn (returned (.error (.browser "selected files cannot be restored after a refresh")))
        | some recovery => peer.spawn (.offer (.saving outgoing recovery peerId))

def eraseOutgoingRecovery (peer : Peer) (peerId : String) (answer : Answer) : Peer :=
  match answer with
  | .error _ => peer
  | .ok _ => { peer with outgoingRecovery := peer.outgoingRecovery.erase peerId }

def wakeOffer (peer : Peer) (point : OfferPoint) (answer : Answer) : Peer :=
  match point with
  | .saving outgoing recovery peerId =>
    match answer with
    | .error error => peer.setTask n (.offer (.returned (.error error)))
    | .ok _ =>
      match ({ peer with outgoingRecovery := peer.outgoingRecovery.insert recovery.peerId recovery } :
          Peer).installAndOfferOutgoing outgoing with
      | (.ok transferId, peer) => peer.setTask n (.offer (.returned (.ok transferId)))
      | (.error error, peer) => peer.setTask n (.offer (.deleting peerId error))
  | .deleting peerId error => (peer.eraseOutgoingRecovery peerId answer).setTask n (.offer (.returned (.error error)))
  | .returned _ => peer

/-! ## Restoring a transfer from its record -/

/-- The outcome of reading the source files again. -/
inductive RestoreOutgoingStep
  | wait (files : List OutgoingFileState) (rest : List OutgoingRecoveryFile)
  | done (answer : Answer) (peer : Peer)

def restoredOutgoing (recovery : OutgoingRecoveryRecord) (transferBytes : BinaryId) (totalBytes : Nat)
    (files : List OutgoingFileState) : OutgoingState :=
  { transferId := recovery.transferId
    transferBytes
    mode := .streamed recovery.segmentBytes
    files
    totalBytes
    sentBytes := (files.map (·.committedBytes)).sum
    expectedDigests := []
    accepted := false
    streamReady := none
    pendingAck := none
    generation := 0
    sending := false
    cancelled := false
    recoveryPeerId := some recovery.peerId
    restoredFromDisk := true
    reconcilingResume := false }

def totalFileBytes (files : List OutgoingFileState) : Option Nat :=
  files.foldlM (fun total file => checkedAdd total file.file.sizeBytes) 0

/-- All source files are as they were: the transfer is offered again. -/
def installRestored (peer : Peer) (recovery : OutgoingRecoveryRecord) (transferBytes : BinaryId)
    (files : List OutgoingFileState) : Answer × Peer :=
  match totalFileBytes files with
  | none => (.error (.browser "saved transfer size overflow"), peer)
  | some totalBytes =>
    if MAX_TRANSFER_BYTES < totalBytes then (.error (.browser "saved transfer exceeds the transfer limit"), peer)
    else
      let outgoing := restoredOutgoing recovery transferBytes totalBytes files
      match (manifestFromOutgoing outgoing).validate with
      | .error error => (.error (.decode error.text), peer)
      | .ok _ =>
        if peer.outgoing.isSome || peer.incoming.isSome || peer.receive.isSome then
          (.error (.browser "another transfer is already active"), peer)
        else
          let peer := ({ peer with
            restoringOutgoing := false, pendingOutgoingRecovery := none, outgoing := some outgoing } : Peer).emit
            (.outgoingOffered recovery.transferId outgoing.transferFiles)
          (.ok (), if peer.dataChannel.any (·.isOpen) then peer.dataChannelOpened else peer)

def restoreOutgoingNext (peer : Peer) (recovery : OutgoingRecoveryRecord) (files : List OutgoingFileState)
    (rest : List OutgoingRecoveryFile) : RestoreOutgoingStep :=
  match parseBinaryId recovery.transferId "transfer", rest with
  | none, _ => .done (.error (.browser "saved outgoing transfer id is invalid")) peer
  | some transferBytes, [] =>
    let (answer, peer) := peer.installRestored recovery transferBytes files
    .done answer peer
  | some _, file :: rest =>
    if (parseBinaryId file.fileId "file").isNone then .done (.error (.browser "saved outgoing file id is invalid")) peer
    else .wait files (file :: rest)

def restoreOutgoingRecovery (peer : Peer) (recovery : OutgoingRecoveryRecord) : RestoreOutgoingStep :=
  if (parseBinaryId recovery.transferId "transfer").isNone then
    .done (.error (.browser "saved outgoing transfer id is invalid")) peer
  else if recovery.segmentBytes = 0 ∨ recovery.files = [] ∨ MAX_FILES_PER_MANIFEST < recovery.files.length then
    .done (.error (.browser "saved outgoing manifest is invalid")) peer
  else
    match validateCheckpointPrefix recovery.segmentBytes (recovery.files.map fun file =>
        { fileId := file.fileId, sizeBytes := file.sizeBytes, committedBytes := file.committedBytes,
          lastSegmentBlake3 := file.lastSegmentBlake3 }) with
    | .error _ => .done (.error (.browser "saved outgoing checkpoint is invalid")) peer
    | .ok _ => peer.restoreOutgoingNext recovery [] recovery.files

def restoredOutgoingFile (saved : OutgoingRecoveryFile) (fileBytes : BinaryId) (recovered : RecoveredSourceFile) :
    OutgoingFileState :=
  { fileBytes, file := { name := saved.name, mime := saved.mime, sizeBytes := saved.sizeBytes },
    browserFile := recovered.file, sourceHandle := some saved.handle, lastModifiedMs := saved.lastModifiedMs,
    expectedHash := none, committedBytes := saved.committedBytes, committedHasher := recovered.hasher,
    lastSegmentBlake3 := recovered.lastSegmentBlake3 }

/-- The source file at the head was read again. -/
def restoreOutgoingRead (peer : Peer) (recovery : OutgoingRecoveryRecord) (files : List OutgoingFileState)
    (rest : List OutgoingRecoveryFile) (answer : Answer) : RestoreOutgoingStep :=
  match rest with
  | [] => peer.restoreOutgoingNext recovery files []
  | file :: rest =>
    match parseBinaryId file.fileId "file", peer.recoverSource file recovery.segmentBytes answer with
    | none, _ => .done (.error (.browser "saved outgoing file id is invalid")) peer
    | some _, .error error => .done (.error error) peer
    | some fileBytes, .ok recovered =>
      if recovered.lastSegmentBlake3 ≠ file.lastSegmentBlake3 then
        .done (.error (.browser "source file no longer matches the saved checkpoint")) peer
      else
        let files := files ++ [restoredOutgoingFile file fileBytes recovered]
        match totalFileBytes files with
        | none => .done (.error (.browser "saved transfer size overflow")) peer
        | some _ => peer.restoreOutgoingNext recovery files rest

/-- The application asks for a transfer that a reload has interrupted. -/
def restoreOutgoingTransfer (peer : Peer) (peerId : String) : Peer :=
  if peer.outgoing.isSome || peer.pendingOutgoingRecovery.isSome || peer.restoringOutgoing then
    peer.spawn (.restoreOutgoing peerId (.returned (.ok false)))
  else ({ peer with restoringOutgoing := true } : Peer).spawn (.restoreOutgoing peerId .loading)

def returnRestoreOutgoing (peer : Peer) (peerId : String) (result : Except BrowserPlatformError Bool) : Peer :=
  peer.setTask n (.restoreOutgoing peerId (.returned result))

def afterRestoreOutgoing (peer : Peer) (peerId : String) (recovery : OutgoingRecoveryRecord) :
    RestoreOutgoingStep → Peer
  | .wait files rest => peer.setTask n (.restoreOutgoing peerId (.recovering recovery files rest))
  | .done (.ok _) next => next.returnRestoreOutgoing n peerId (.ok true)
  | .done (.error error) next => next.setTask n (.restoreOutgoing peerId (.deletingFailed error))

def recoveryTransferFiles (recovery : OutgoingRecoveryRecord) : List TransferFile :=
  recovery.files.map fun file => { name := file.name, mime := file.mime, sizeBytes := file.sizeBytes }

def wakeRestoreOutgoing (peer : Peer) (peerId : String) (point : RestoreOutgoingPoint) (choice : Choice) : Peer :=
  let notRestored (peer : Peer) (result : Except BrowserPlatformError Bool) :=
    returnRestoreOutgoing n { peer with restoringOutgoing := false } peerId result
  match point with
  | .loading =>
    match choice.answer, peer.outgoingRecovery[peerId]? with
    | .error error, _ => notRestored peer (.error error)
    | .ok _, none => notRestored peer (.ok false)
    | .ok _, some recovery =>
      if recovery.peerId = peerId then peer.setTask n (.restoreOutgoing peerId (.permissions recovery))
      else peer.setTask n (.restoreOutgoing peerId .deletingMismatch)
  | .deletingMismatch => notRestored (peer.eraseOutgoingRecovery peerId choice.answer) (.ok false)
  | .permissions recovery =>
    match choice.answer with
    | .error _ => peer.setTask n (.restoreOutgoing peerId .deletingMismatch)
    | .ok _ =>
      if choice.permissions.all (· == .granted) then
        peer.afterRestoreOutgoing n peerId recovery (peer.restoreOutgoingRecovery recovery)
      else if .prompt ∈ choice.permissions then
        (returnRestoreOutgoing n
          { peer with restoringOutgoing := false, pendingOutgoingRecovery := some recovery } peerId (.ok true)).emit
          (.outgoingRecoveryOffered recovery.transferId (recoveryTransferFiles recovery))
      else peer.setTask n (.restoreOutgoing peerId .deletingMismatch)
  | .recovering recovery files rest =>
    peer.afterRestoreOutgoing n peerId recovery (peer.restoreOutgoingRead recovery files rest choice.answer)
  | .deletingFailed error => notRestored (peer.eraseOutgoingRecovery peerId choice.answer) (.error error)
  | .returned _ => peer

/-- The user allows to read the source files of a saved transfer. -/
def resumeOutgoingTransfer (peer : Peer) : Peer :=
  let returned (message : String) := Task.resumeOutgoing (.returned (.error (.browser message)))
  if peer.restoringOutgoing then peer.spawn (returned "source file recovery is already running")
  else
    match peer.pendingOutgoingRecovery with
    | none => peer.spawn (returned "saved source files are no longer available")
    | some recovery =>
      ({ peer with pendingOutgoingRecovery := none, restoringOutgoing := true } : Peer).spawn
        (.resumeOutgoing (.permissions recovery))

/-- The record is pending again. -/
def resumeOutgoingFailed (peer : Peer) (recovery : OutgoingRecoveryRecord) (error : BrowserPlatformError) : Peer :=
  ({ peer with restoringOutgoing := false, pendingOutgoingRecovery := some recovery } : Peer).setTask n
    (.resumeOutgoing (.returned (.error error)))

def afterResumeOutgoing (peer : Peer) (recovery : OutgoingRecoveryRecord) : RestoreOutgoingStep → Peer
  | .wait files rest => peer.setTask n (.resumeOutgoing (.recovering recovery files rest))
  | .done (.ok _) next => next.setTask n (.resumeOutgoing (.returned (.ok ())))
  | .done (.error error) next => next.resumeOutgoingFailed n recovery error

def wakeResumeOutgoing (peer : Peer) (point : ResumeOutgoingPoint) (choice : Choice) : Peer :=
  match point with
  | .permissions recovery =>
    match choice.answer with
    | .error error => peer.resumeOutgoingFailed n recovery error
    | .ok _ =>
      if choice.permissions.all (· == .granted) then
        peer.afterResumeOutgoing n recovery (peer.restoreOutgoingRecovery recovery)
      else peer.resumeOutgoingFailed n recovery (.browser "未获得原文件的读取权限")
  | .recovering recovery files rest =>
    peer.afterResumeOutgoing n recovery (peer.restoreOutgoingRead recovery files rest choice.answer)
  | .returned _ => peer

end Peer

end P2PTransmission.Rtc
