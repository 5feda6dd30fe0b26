import P2PTransmission.Rtc.Lifecycle

/-!
# Receiving

Chunks are collected until the commit of their segment comes. The segment is then written by a task of its own, which
acknowledges it after the record of the transfer was saved. While a segment is written no chunk of its file is accepted.

The transfer is complete when the sender says so and every file has the size of the manifest and the digest that the
sender gives.
-/

set_option autoImplicit false

namespace P2PTransmission.Rtc

variable [Blake3]

namespace Peer

/-! ## Resuming -/

def resumeCursor (offer : IncomingFile) (state : ReceiveFileState) : ResumeCursor :=
  { fileId := formatBinaryId "file" offer.fileBytes
    committedBytes := state.segmentOffset
    lastSegmentBlake3 := state.lastSegmentBlake3 }

/-- The decision and the cursors, on the given channel. -/
def sendStreamReadyOn (peer : Peer) (channel : ChannelId) (transferId : String) (segmentBytes : Nat)
    (resume : List ResumeCursor) : Except BrowserPlatformError Peer :=
  match peer.sendControlOn channel (.decision transferId true) with
  | .error error => .error error
  | .ok peer =>
    peer.sendControlOn channel (.streamReady transferId DEFAULT_STREAM_CHUNK_BYTES
      (min DEFAULT_STREAM_ACK_WINDOW_BYTES segmentBytes) resume)

def sendStreamResume (peer : Peer) (transferId : String) : Except BrowserPlatformError Peer :=
  match peer.receive with
  | none => .error (.browser "streaming receiver is unavailable")
  | some receive =>
    if receive.offer.transferId ≠ transferId then .error (.browser "streaming receiver id does not match")
    else
      match receive.payload with
      | .buffered _ => .error (.browser "streaming receiver mode does not match")
      | .streamed segmentBytes _ files =>
        match peer.currentDataChannel with
        | .error error => .error error
        | .ok channel =>
          peer.sendStreamReadyOn channel transferId segmentBytes (receive.offer.files.zipWith resumeCursor files)

section Resumed

variable {peer next : Peer} {transferId : String}

omit [Blake3] in
theorem sendStreamReadyOn_ok {channel : ChannelId} {segmentBytes : Nat} {resume : List ResumeCursor}
    (h : peer.sendStreamReadyOn channel transferId segmentBytes resume = .ok next) :
    peer.dataChannel = some ⟨channel, true⟩ ∧
      next = (peer.withSent channel (.control (.decision transferId true))).withSent channel
        (.control (.streamReady transferId DEFAULT_STREAM_CHUNK_BYTES
          (min DEFAULT_STREAM_ACK_WINDOW_BYTES segmentBytes) resume)) := by
  unfold sendStreamReadyOn at h
  cases hdecision : peer.sendControlOn channel (.decision transferId true) with
  | error error => simp [hdecision] at h
  | ok decided =>
    rw [hdecision] at h
    obtain ⟨-, hopen, rfl⟩ := sendControlOn_ok hdecision
    exact ⟨hopen, (sendControlOn_ok h).2.2⟩

omit [Blake3] in
/-- The decision and the cursors of the transfer that is received go out. -/
theorem sendStreamResume_ok (h : peer.sendStreamResume transferId = .ok next) :
    ∃ receive segmentBytes index files channel, peer.receive = some receive ∧ receive.offer.transferId = transferId ∧
      receive.payload = .streamed segmentBytes index files ∧ peer.dataChannel = some ⟨channel, true⟩ ∧
      next = (peer.withSent channel (.control (.decision transferId true))).withSent channel
        (.control (.streamReady transferId DEFAULT_STREAM_CHUNK_BYTES
          (min DEFAULT_STREAM_ACK_WINDOW_BYTES segmentBytes) (receive.offer.files.zipWith resumeCursor files))) := by
  unfold sendStreamResume at h
  cases hreceive : peer.receive with
  | none => simp [hreceive] at h
  | some receive =>
    rw [hreceive] at h
    by_cases hid : receive.offer.transferId = transferId
    · cases hpayload : receive.payload with
      | buffered chunks => simp [hid, hpayload] at h
      | streamed segmentBytes index files =>
        cases hchannel : peer.currentDataChannel with
        | error error => simp [hid, hpayload, hchannel] at h
        | ok channel =>
          simp only [hid, hpayload, hchannel, ne_eq, not_true_eq_false, if_false] at h
          obtain ⟨hopen, hnext⟩ := sendStreamReadyOn_ok h
          exact ⟨receive, segmentBytes, index, files, channel, rfl, hid, hpayload, hopen, hnext⟩
    · simp [hid] at h

end Resumed

/-! ## Chunks -/

end Peer

/-- A chunk of the file that is expected, if it fits. -/
def ReceiveFileState.accept (file : ReceiveFileState) (transferBytes : BinaryId) (offer : IncomingFile)
    (segmentBytes : Nat) (chunk : BinaryChunk) : Option ReceiveFileState :=
  if file.writing then none
  else
    let segmentEnd := min (saturatingAdd file.segmentOffset segmentBytes) offer.file.sizeBytes
    (ChunkBounds.nextOffset ⟨transferBytes, offer.fileBytes, file.receivedBytes, segmentEnd⟩ chunk.header
      chunk.payload.length).map fun next =>
        { file with
          hasher := file.hasher.update chunk.payload
          segmentHasher := file.segmentHasher.update chunk.payload
          receivedBytes := next
          chunks := file.chunks ++ [chunk.payload] }

def ReceiveState.accept (receive : ReceiveState) (chunk : BinaryChunk) : Option ReceiveState :=
  if ¬(receive.started ∧ chunk.header.transferId = receive.offer.transferBytes) then none
  else
    match receive.payload with
    | .buffered chunks =>
      receive.offer.files.head?.bind fun offer =>
        (ChunkBounds.nextOffset ⟨receive.offer.transferBytes, offer.fileBytes, receive.receivedBytes,
          offer.file.sizeBytes⟩ chunk.header chunk.payload.length).map fun next =>
            { receive with
              hasher := receive.hasher.update chunk.payload
              receivedBytes := next
              payload := .buffered (chunks ++ [chunk.payload]) }
    | .streamed segmentBytes currentFileIndex files =>
      receive.offer.files[currentFileIndex]?.bind fun offer => files[currentFileIndex]?.bind fun file =>
        (file.accept receive.offer.transferBytes offer segmentBytes chunk).map fun file =>
          { receive with
            receivedBytes := receive.receivedBytes + chunk.payload.length
            payload := .streamed segmentBytes currentFileIndex (files.set currentFileIndex file) }

namespace Peer

def handleBinary (peer : Peer) (frame : Bytes) : Peer :=
  match decodeBinaryChunk frame with
  | .error _ => peer.fail none "invalid binary transfer frame"
  | .ok chunk =>
    match peer.receive with
    | none =>
      if peer.incoming.any (·.transferBytes == chunk.header.transferId) && peer.pendingRecovery.isSome then peer
      else peer.fail none "binary frame arrived without an accepted transfer"
    | some receive =>
      match receive.accept chunk with
      | some receive => { peer with receive := some receive }
      | none =>
        let transferId := receive.offer.transferId
        ((peer.clearTransfer transferId).sendTransferError transferId "invalid_chunk"
          "binary chunk order or bounds are invalid").fail (some transferId) "文件分块顺序或长度无效"

/-! ## The commit of a segment -/

end Peer

/-- The commit that was received. -/
structure SegmentCommit where
  transferId : String
  fileId : String
  segmentIndex : Nat
  offset : Nat
  bytes : Nat
  blake3 : String
  deriving DecidableEq, Repr

/-- The bounds and the digest are those of the segment that was collected. -/
def ReceiveFileState.commits (file : ReceiveFileState) (offer : IncomingFile) (segmentBytes : Nat)
    (commit : SegmentCommit) : Bool :=
  parseBinaryId commit.fileId "file" = some offer.fileBytes ∧ file.writing = false ∧
    file.segmentIndex = commit.segmentIndex ∧ file.segmentOffset = commit.offset ∧
    file.receivedBytes = min (saturatingAdd file.segmentOffset segmentBytes) offer.file.sizeBytes ∧
    commit.bytes = file.receivedBytes - file.segmentOffset ∧ file.segmentHasher.finalize = commit.blake3

/-- The segment is taken out to be written. -/
def ReceiveFileState.beginWrite (file : ReceiveFileState) : ReceiveFileState :=
  { file with writer := none, chunks := [], segmentHasher := .new, writing := true }

/-- The state in which the segment is written, and what the task gets. -/
def ReceiveState.prepareWrite (receive : ReceiveState) (commit : SegmentCommit) :
    Except String (ReceiveState × SegmentWrite × StreamingFileWriter) :=
  if receive.offer.transferId ≠ commit.transferId then .error "segment commit id does not match"
  else
    match receive.payload with
    | .buffered _ => .error "segment commit was sent for a buffered transfer"
    | .streamed segmentBytes currentFileIndex files =>
      match receive.offer.files[currentFileIndex]?, files[currentFileIndex]? with
      | none, _ => .error "segment commit file is unavailable"
      | some _, none => .error "segment receiver is unavailable"
      | some offer, some file =>
        if !file.commits offer segmentBytes commit then .error "segment commit bounds or hash do not match"
        else
          match file.writer with
          | none => .error "streaming writer is unavailable"
          | some writer =>
            .ok ({ receive with
                payload := .streamed segmentBytes currentFileIndex (files.set currentFileIndex file.beginWrite) },
              { transferId := commit.transferId, fileId := commit.fileId, segmentIndex := commit.segmentIndex,
                offset := commit.offset, blake3 := commit.blake3, data := file.chunks.flatten,
                committedBytes := min (saturatingAdd file.segmentOffset segmentBytes) offer.file.sizeBytes,
                fileIndex := currentFileIndex, recoveryPersisted := receive.recoveryPersisted,
                generation := receive.generation },
              writer)

namespace Peer

def prepareWrite (peer : Peer) (commit : SegmentCommit) :
    Except String (ReceiveState × SegmentWrite × StreamingFileWriter) :=
  match peer.receive with
  | none => .error "segment commit has no active receiver"
  | some receive => receive.prepareWrite commit

def handleSegmentCommit (peer : Peer) (commit : SegmentCommit) : Peer :=
  match peer.prepareWrite commit with
  | .error message =>
    ((peer.clearTransfer commit.transferId).sendTransferError commit.transferId "invalid_segment" message).fail
      (some commit.transferId) "文件分段校验失败"
  | .ok (receive, segment, writer) =>
    ({ peer with receive := some receive } : Peer).spawn (.write segment (.write writer))

/-! ## The task that writes a segment -/

def receiveGenerationMatches (peer : Peer) (transferId : String) (generation : Nat) : Bool :=
  peer.receive.any fun receive => receive.offer.transferId == transferId && receive.generation == generation

/-- The write is that of the transfer that is received. -/
def isCurrent (peer : Peer) (segment : SegmentWrite) : Bool :=
  peer.receiveGenerationMatches segment.transferId segment.generation

end Peer

def recoveryFile (offer : IncomingFile) (state : ReceiveFileState) : Option StreamRecoveryFile :=
  state.writer.map fun writer =>
    { fileId := formatBinaryId "file" offer.fileBytes, name := offer.file.name, mime := offer.file.mime,
      sizeBytes := offer.file.sizeBytes, handle := writer.handle, committedBytes := state.segmentOffset,
      lastSegmentBlake3 := state.lastSegmentBlake3 }

def recoveryRecordFromReceive (receive : ReceiveState) (peerId : String) : Option StreamRecoveryRecord :=
  match receive.payload with
  | .buffered _ => none
  | .streamed segmentBytes _ files =>
    ((receive.offer.files.zip files).mapM fun (offer, state) => recoveryFile offer state).map fun files =>
      { transferId := receive.offer.transferId, peerId, segmentBytes, files }

/-- The state of a file after its segment was written. -/
def ReceiveFileState.committed (file : ReceiveFileState) (writer : StreamingFileWriter) (committedBytes : Nat)
    (blake3 : String) : ReceiveFileState :=
  { file with
    writer := some writer
    segmentIndex := file.segmentIndex + 1
    segmentOffset := committedBytes
    committedHasher := file.hasher
    lastSegmentBlake3 := some blake3
    writing := false }

/-- The next file that is not empty. -/
def nextFileIndex (offer : IncomingOffer) (fileIndex : Nat) : Nat :=
  match (offer.files.drop (fileIndex + 1)).findIdx? fun file => 0 < file.file.sizeBytes with
  | some index => fileIndex + 1 + index
  | none => offer.files.length

/-- The state after the segment was written, unless it is not the one that was to be written. -/
def ReceiveState.installSegment (receive : ReceiveState) (segment : SegmentWrite) (writer : StreamingFileWriter) :
    Option ReceiveState :=
  match receive.payload with
  | .buffered _ => none
  | .streamed segmentBytes currentFileIndex files =>
    files[segment.fileIndex]?.bind fun file =>
      if file.segmentIndex ≠ segment.segmentIndex ∨ file.writing = false then none
      else
        let complete := receive.offer.files[segment.fileIndex]?.any (·.file.sizeBytes == segment.committedBytes)
        some
          { receive with
            resumeRequested := false
            payload := .streamed segmentBytes
              (if complete then nextFileIndex receive.offer segment.fileIndex else currentFileIndex)
              (files.set segment.fileIndex (file.committed writer segment.committedBytes segment.blake3)) }

namespace Peer

/-- The channel is gone for good, or for now. -/
def channelFailed (peer : Peer) (transferId : String) (error : BrowserPlatformError) : Peer :=
  if error.reconnectableChannelError then peer.suspendStreamForReconnect.emit (.connectionState .closed)
  else peer.fail (some transferId) error.text

/-- The acknowledgement, or the cursors if they were asked for meanwhile. -/
def answerSegment (peer : Peer) (segment : SegmentWrite) (resumeRequested : Bool) : Peer :=
  if resumeRequested then
    match peer.sendStreamResume segment.transferId with
    | .error error => peer.fail (some segment.transferId) error.text
    | .ok peer => peer
  else
    match peer.sendControl (.segmentAck segment.transferId segment.fileId segment.segmentIndex segment.committedBytes
        segment.blake3) with
    | .error error => peer.channelFailed segment.transferId error
    | .ok peer => peer

/-- The transfer is given up because the segment is not on the disk. -/
def writeFailed (peer : Peer) (transferId code message : String) (error : BrowserPlatformError) : Peer :=
  ((peer.clearTransfer transferId).sendTransferError transferId code message).fail (some transferId) error.text

variable (n : TaskId) (segment : SegmentWrite)

def endWrite (peer : Peer) : Peer := peer.setTask n (.write segment .finished)

/-- A call of the writer failed: the transfer is paused if the user can help, and given up if not. -/
def writerFailed (peer : Peer) (code message : String) (error : BrowserPlatformError) : Peer :=
  if !peer.isCurrent segment then peer.endWrite n segment
  else
    match error.recoverableStreamPauseReason with
    | some reason => peer.setTask n (.write segment (.pauseAbort reason))
    | none => (peer.endWrite n segment).writeFailed segment.transferId code message error

/-- The segment is on the disk: the state moves on, and the record follows. -/
def segmentWritten (peer : Peer) (writer : StreamingFileWriter) : Peer :=
  match peer.receive with
  | none => peer.endWrite n segment
  | some receive =>
    match receive.installSegment segment writer with
    | none =>
      ((peer.endWrite n segment).clearTransfer segment.transferId).fail (some segment.transferId)
        "streaming receiver state changed while writing"
    | some next =>
      let peer : Peer := { peer with receive := some next }
      let recovery := if next.recoveryPersisted then peer.targetPeer.bind (recoveryRecordFromReceive next) else none
      match recovery with
      | some recovery => peer.setTask n (.write segment (.save recovery receive.resumeRequested))
      | none => (peer.endWrite n segment).answerSegment segment receive.resumeRequested

/-- The writers that are not at work are aborted one after the other. -/
def abortIdle (peer : Peer) (reason : StreamPauseReason) (completedBytes totalBytes : Nat) : Nat → Peer
  | 0 =>
    let peer := peer.endWrite n segment
    if peer.isOffered segment.transferId && peer.hasRecovery segment.transferId then
      (peer.trySendControl (.streamPaused segment.transferId reason)).emit
        (.transferPaused segment.transferId .receive reason completedBytes totalBytes)
    else peer
  | idleWriters + 1 => peer.setTask n (.write segment (.pauseIdle reason completedBytes totalBytes (idleWriters + 1)))

end Peer

/-- The record is that of the offer. -/
def streamRecoveryMatches (offer : IncomingOffer) (peerId : String) (recovery : StreamRecoveryRecord) : Bool :=
  match offer.mode with
  | .buffered => false
  | .streamed segmentBytes =>
    recovery.transferId = offer.transferId ∧ recovery.peerId = peerId ∧ recovery.segmentBytes = segmentBytes ∧
      recovery.files.length = offer.files.length ∧
      ((offer.files.zip recovery.files).all fun (offer, file) =>
        file.fileId = formatBinaryId "file" offer.fileBytes ∧ file.name = offer.file.name ∧
          file.mime = offer.file.mime ∧ file.sizeBytes = offer.file.sizeBytes) ∧
      (validateCheckpointPrefix segmentBytes (recovery.files.map fun file =>
        { fileId := file.fileId, sizeBytes := file.sizeBytes, committedBytes := file.committedBytes,
          lastSegmentBlake3 := file.lastSegmentBlake3 })).toBool

namespace Peer

variable (n : TaskId) (segment : SegmentWrite)

/-- The receive state becomes an offer again, from which the user may resume. -/
def pauseReceive (peer : Peer) (reason : StreamPauseReason) (recovery : StreamRecoveryRecord) : Peer :=
  match peer.receive with
  | none => peer.endWrite n segment
  | some receive =>
    if receive.offer.transferId ≠ segment.transferId ∨ receive.generation ≠ segment.generation ∨
        ¬peer.targetPeer.any (streamRecoveryMatches receive.offer · recovery) then peer.endWrite n segment
    else
      let idleWriters :=
        match receive.payload with
        | .streamed _ _ files => (files.filterMap (·.writer)).length
        | .buffered _ => 0
      abortIdle n segment
        { peer with
          receive := none
          incoming := some receive.offer
          pendingRecovery := some recovery
          pausedReceiveReason := some reason }
        reason (recovery.files.map (·.committedBytes)).sum receive.offer.totalBytes idleWriters

/-- The task of a segment goes on with what the browser answers. -/
def wakeWrite (peer : Peer) (point : WritePoint) (answer : Answer) : Peer :=
  match point with
  | .write writer =>
    match writer.writeAt segment.offset segment.data answer with
    | .error error =>
      peer.writerFailed n segment "storage_write_failed" "receiver could not write the streaming file" error
    | .ok writer =>
      if !peer.isCurrent segment then peer.endWrite n segment
      else if segment.recoveryPersisted then peer.setTask n (.write segment (.commit writer))
      else peer.segmentWritten n segment writer
  | .commit writer =>
    match writer.commitCheckpoint peer.disk answer with
    | .error error =>
      peer.writerFailed n segment "storage_checkpoint_failed" "receiver could not commit the streaming checkpoint" error
    | .ok (writer, disk) =>
      let peer : Peer := { peer with disk }
      if !peer.isCurrent segment then peer.endWrite n segment
      else peer.setTask n (.write segment (.reopen writer))
  | .reopen writer =>
    match writer.reopenAfterCheckpoint peer.disk answer with
    | .error error =>
      peer.writerFailed n segment "storage_reopen_failed" "receiver could not reopen the streaming destination" error
    | .ok writer => if !peer.isCurrent segment then peer.endWrite n segment else peer.segmentWritten n segment writer
  | .save recovery resumeRequested =>
    match answer with
    | .error error =>
      if !peer.isCurrent segment then peer.endWrite n segment
      else peer.setTask n (.write segment (.deleteFailed error))
    | .ok _ =>
      let peer : Peer := { peer with streamRecovery := peer.streamRecovery.insert recovery.transferId recovery }
      if !peer.isCurrent segment then peer.endWrite n segment
      else (peer.endWrite n segment).answerSegment segment resumeRequested
  | .deleteFailed error =>
    let peer : Peer :=
      match answer with
      | .error _ => peer
      | .ok _ => { peer with streamRecovery := peer.streamRecovery.erase segment.transferId }
    (peer.endWrite n segment).writeFailed segment.transferId "recovery_checkpoint_failed"
      "receiver could not persist the verified checkpoint" error
  | .pauseAbort reason =>
    if !peer.isCurrent segment then peer.endWrite n segment
    else peer.setTask n (.write segment (.pauseLoad reason))
  | .pauseLoad reason =>
    match answer, peer.streamRecovery[segment.transferId]? with
    | .ok _, some recovery =>
      if !peer.isCurrent segment then peer.endWrite n segment else peer.pauseReceive n segment reason recovery
    | _, _ =>
      (((peer.endWrite n segment).clearTransfer segment.transferId).sendTransferError segment.transferId
        "recovery_checkpoint_missing" "receiver could not preserve the last durable checkpoint").fail
        (some segment.transferId) "无法保留已校验的磁盘检查点"
  | .pauseIdle reason completedBytes totalBytes idleWriters =>
    abortIdle n segment peer reason completedBytes totalBytes (idleWriters - 1)
  | .finished => peer

/-! ## The end of a transfer -/

end Peer

/-- The file is complete and is the one that was announced. -/
def ReceiveFileState.isIntact (file : ReceiveFileState) (offer : IncomingFile) (digest : FileDigest) : Bool :=
  file.receivedBytes = offer.file.sizeBytes ∧ file.segmentOffset = offer.file.sizeBytes ∧ file.chunks.isEmpty ∧
    file.writing = false ∧ parseBinaryId digest.fileId "file" = some offer.fileBytes ∧
    digest.sizeBytes = offer.file.sizeBytes ∧ digest.blake3 = file.hasher.finalize

/-- Every file is complete and announced. -/
def ReceiveState.isIntact (receive : ReceiveState) (transferId : String) (totalBytes : Nat) (digests : List FileDigest) :
    Bool :=
  match receive.payload with
  | .buffered _ => false
  | .streamed _ _ files =>
    receive.offer.transferId = transferId ∧ receive.offer.mode ≠ .buffered ∧
      digests.length = receive.offer.files.length ∧ totalBytes = receive.offer.totalBytes ∧
      receive.receivedBytes = totalBytes ∧ digests ≠ [] ∧
      ((receive.offer.files.zip (files.zip digests)).all fun (offer, file, digest) => file.isIntact offer digest)

def ReceiveState.writers (receive : ReceiveState) : List StreamingFileWriter :=
  match receive.payload with
  | .buffered _ => []
  | .streamed _ _ files => files.filterMap (·.writer)

inductive CompletionSignalOutcome
  | enqueued | reconnectableFailure | fatalFailure
  deriving DecidableEq, Repr

inductive CompletionAction
  | attemptRecoveryCleanupAndComplete | preserveRecoveryAndReconnect | preserveRecoveryAndFail
  deriving DecidableEq, Repr

def completionAction : CompletionSignalOutcome → CompletionAction
  | .enqueued => .attemptRecoveryCleanupAndComplete
  | .reconnectableFailure => .preserveRecoveryAndReconnect
  | .fatalFailure => .preserveRecoveryAndFail

def recoveryCleanupRetryDelayMs : Nat → Option Nat
  | 1 => some 50
  | 2 => some 150
  | _ => none

namespace Peer

variable (n : TaskId) (closing : Closing)

def endClose (peer : Peer) : Peer := peer.setTask n (.close closing .finished)

def completionSignalled (peer : Peer) (outcome : CompletionSignalOutcome) (message : String) : Peer :=
  match completionAction outcome with
  | .attemptRecoveryCleanupAndComplete => peer.setTask n (.close closing (.cleaning 0))
  | .preserveRecoveryAndReconnect =>
    (peer.endClose n closing).suspendStreamForReconnect.emit (.connectionState .closed)
  | .preserveRecoveryAndFail => (peer.endClose n closing).fail (some closing.transferId) message

def signalCompletion (peer : Peer) : Peer :=
  match peer.sendControl (.streamComplete closing.transferId closing.totalBytes closing.digests) with
  | .ok peer => peer.completionSignalled n closing .enqueued ""
  | .error error =>
    peer.completionSignalled n closing
      (if error.reconnectableChannelError then .reconnectableFailure else .fatalFailure) error.text

/-- The files are closed one after the other; those that are closed already take no time. -/
def closeNext (peer : Peer) : List StreamingFileWriter → Peer
  | [] => peer.signalCompletion n closing
  | writer :: writers =>
    if writer.closed then peer.closeNext writers
    else peer.setTask n (.close closing (.closing (writer :: writers)))

def receiveCompleted (peer : Peer) : Peer :=
  (peer.endClose n closing).emit
    (.transferCompleted closing.transferId .receive closing.transferFiles (batchBlake3 closing.digests))

def wakeClose (peer : Peer) (point : ClosingPoint) (answer : Answer) : Peer :=
  match point with
  | .closing [] => peer.signalCompletion n closing
  | .closing (writer :: writers) =>
    match writer.close peer.disk answer with
    | .error error =>
      ((peer.endClose n closing).sendTransferError closing.transferId "storage_close_failed"
        "receiver could not finish the streaming files").fail (some closing.transferId) error.text
    | .ok disk => closeNext n closing { peer with disk } writers
  | .cleaning failedAttempts =>
    match answer with
    | .ok _ =>
      receiveCompleted n closing { peer with streamRecovery := peer.streamRecovery.erase closing.transferId }
    | .error _ =>
      match recoveryCleanupRetryDelayMs (failedAttempts + 1) with
      | some _ => peer.setTask n (.close closing (.cleaning (failedAttempts + 1)))
      | none => peer.receiveCompleted n closing
  | .finished => peer

/-- The task that closes the files, at its beginning. -/
def finishStreamReceive (peer : Peer) (transferId : String) (totalBytes : Nat) (digests : List FileDigest) : Peer :=
  match peer.receive with
  | none => peer
  | some receive =>
    let peer : Peer := { peer with receive := none }
    if !receive.isIntact transferId totalBytes digests || receive.writers.length ≠ receive.offer.files.length then
      (peer.sendTransferError transferId "integrity_mismatch" "streamed bytes failed integrity verification").fail
        (some transferId) "文件完整性校验失败"
    else
      peer.spawn (.close { transferId, totalBytes, digests, transferFiles := receive.offer.transferFiles }
        (.closing receive.writers))

end Peer

/-- What becomes of the download that is made of the chunks. -/
inductive Download
  | created | noBlob | noUrl
  deriving DecidableEq, Repr

namespace Peer

def finishReceive (peer : Peer) (transferId : String) (bytes : Nat) (blake3 : String) (download : Download) : Peer :=
  match peer.receive with
  | none => peer
  | some receive =>
    let peer : Peer := { peer with receive := none }
    match receive.offer.files.head? with
    | none => peer.fail (some transferId) "接收文件信息缺失"
    | some offer =>
      if receive.offer.transferId ≠ transferId ∨ receive.offer.mode ≠ .buffered ∨ receive.receivedBytes ≠ bytes ∨
          receive.offer.files.length ≠ 1 ∨ bytes ≠ offer.file.sizeBytes ∨ receive.hasher.finalize ≠ blake3 then
        (peer.sendTransferError transferId "integrity_mismatch" "received bytes failed integrity verification").fail
          (some transferId) "文件完整性校验失败"
      else
        match receive.payload, download with
        | .streamed _ _ _, _ => peer.fail (some transferId) "接收模式不匹配"
        | .buffered _, .noBlob => peer.fail (some transferId) "无法创建接收文件"
        | .buffered _, .noUrl => peer.fail (some transferId) "无法创建文件下载地址"
        | .buffered _, .created =>
          (peer.trySendControl (.complete transferId bytes blake3)).emit
            (.transferCompleted transferId .receive [offer.file] blake3)

end Peer

end P2PTransmission.Rtc
