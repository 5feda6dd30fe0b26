import P2PTransmission.Rtc.Lifecycle

/-!
# Sending

A transfer is sent by a task. It goes through the files, the segments of each file from the committed one on, and the
chunks of each segment; after a segment it waits for the acknowledgement. Before each chunk it looks whether it is still
the task of the current generation; after a chunk was read from the file it does not look again.
-/

set_option autoImplicit false

namespace P2PTransmission.Rtc

variable [Blake3]

namespace Peer

def outgoingCancelled (peer : Peer) (transferId : String) : Bool :=
  peer.outgoing.all fun outgoing => outgoing.transferId != transferId || outgoing.cancelled

def outgoingGenerationMatches (peer : Peer) (transferId : String) (generation : Nat) : Bool :=
  peer.outgoing.any fun outgoing =>
    outgoing.transferId == transferId && outgoing.generation == generation && !outgoing.cancelled

def withOutgoing (peer : Peer) (change : OutgoingState → OutgoingState) : Peer :=
  { peer with outgoing := peer.outgoing.map change }

def spawnOutgoing (peer : Peer) (transferId : String) (generation : Nat) : Peer :=
  peer.spawn (.send transferId generation .spawned)

variable (n : TaskId) (transferId : String) (generation : Nat)

def sendAt (peer : Peer) (point : SendPoint) : Peer := peer.setTask n (.send transferId generation point)

/-- The task is over. What went wrong counts only if it is still the task of the transfer. -/
def sendEnded (peer : Peer) (answer : Answer) : Peer :=
  let peer := peer.sendAt n transferId generation .finished
  match answer with
  | .ok _ => peer
  | .error error =>
    if !peer.outgoingGenerationMatches transferId generation then peer
    else if error.reconnectableChannelError then peer.suspendStreamForReconnect.emit (.connectionState .closed)
    else (peer.clearTransfer transferId).fail (some transferId) error.text

def sendFailed (peer : Peer) (message : String) : Peer :=
  peer.sendEnded n transferId generation (.error (.browser message))

/-! ## Streamed -/

/-- All files were sent. -/
def sendStreamComplete (peer : Peer) (loop : SendLoop) : Peer :=
  if !peer.outgoingGenerationMatches transferId generation then peer.sendEnded n transferId generation (.ok ())
  else
    let peer := peer.withOutgoing fun outgoing =>
      { outgoing with expectedDigests := loop.digests, sentBytes := loop.totalBytes }
    match peer.sendControlOn loop.channel (.streamComplete transferId loop.totalBytes loop.digests) with
    | .error error => peer.sendEnded n transferId generation (.error error)
    | .ok peer =>
      (peer.emit (.awaitingVerification transferId loop.transferFiles)).sendEnded n transferId generation (.ok ())

/-- The next chunk is read, unless the task is stale or the channel holds too much. -/
def sendChunk (peer : Peer) (loop : SendLoop) (file : SendFile) (segment : SendSegment) (congested : Bool) : Peer :=
  if !peer.outgoingGenerationMatches transferId generation || peer.outgoingCancelled transferId then
    peer.sendEnded n transferId generation (.ok ())
  else if congested then peer.sendAt n transferId generation (.congested loop file segment)
  else
    peer.sendAt n transferId generation (.reading loop file segment
      (min (segment.segment.length - segment.segmentSent) loop.ready.maxChunkBytes))

/-- The commit of a segment whose chunks were all sent. -/
def sendSegmentCommit (peer : Peer) (loop : SendLoop) (file : SendFile) (segment : SendSegment) : Peer :=
  match peer.outgoing with
  | none => peer.sendFailed n transferId generation "outgoing transfer disappeared"
  | some outgoing =>
    let blake3 := segment.segmentHasher.finalize
    let peer : Peer :=
      { peer with
        outgoing := some
          { outgoing with
            pendingAck := some
              { fileIndex := loop.fileIndex
                segmentIndex := segment.segment.index
                committedBytes := segment.segment.offset + segment.segment.length
                blake3
                fileHasher := file.fileHasher
                sender := some n } } }
    match peer.sendControlOn loop.channel (.segmentCommit transferId (formatBinaryId "file" file.fileBytes)
        segment.segment.index segment.segment.offset segment.segment.length blake3) with
    | .error error => peer.sendEnded n transferId generation (.error error)
    | .ok peer => peer.sendAt n transferId generation (.acknowledging loop file segment none)

/-- The chunks of a segment one after the other, then its commit. -/
def sendSegment (peer : Peer) (loop : SendLoop) (file : SendFile) (segment : SendSegment) (congested : Bool) : Peer :=
  if segment.segmentSent < segment.segment.length then
    peer.sendChunk n transferId generation loop file segment congested
  else peer.sendSegmentCommit n transferId generation loop file segment

/-- What a chunk becomes on the wire. -/
def chunkFrame (loop : SendLoop) (file : SendFile) (offset chunkLength : Nat) (bytes : Bytes) : Frame :=
  .binary (encodeBinaryChunk loop.transferBytes file.fileBytes offset chunkLength bytes)

/-- A chunk was read: it is sent, whatever happened meanwhile. -/
def sendChunkRead (peer : Peer) (loop : SendLoop) (file : SendFile) (segment : SendSegment) (chunkLength : Nat)
    (choice : Choice) : Peer :=
  match choice.answer with
  | .error error => peer.sendEnded n transferId generation (.error error)
  | .ok _ =>
    let offset := segment.segment.offset + segment.segmentSent
    let bytes := slice file.browserFile.content offset (offset + chunkLength)
    match peer.sendOn loop.channel (chunkFrame loop file offset chunkLength bytes) with
    | .error error => peer.sendEnded n transferId generation (.error error)
    | .ok peer =>
      if peer.outgoing.isNone then peer.sendFailed n transferId generation "outgoing transfer disappeared"
      else
        (peer.withOutgoing fun outgoing =>
          { outgoing with sentBytes := loop.precedingBytes + offset + chunkLength }).sendSegment n transferId generation
          loop { file with fileHasher := file.fileHasher.update bytes }
          { segment with
            segmentHasher := segment.segmentHasher.update bytes
            segmentSent := segment.segmentSent + chunkLength }
          choice.congested

/-- The digest of a file all of whose segments were sent. -/
def fileDigest (file : SendFile) : FileDigest :=
  { fileId := formatBinaryId "file" file.fileBytes, sizeBytes := file.file.sizeBytes, blake3 := file.fileHasher.finalize }

def SendLoop.next (loop : SendLoop) (file : SendFile) : SendLoop :=
  { loop with
    digests := loop.digests ++ [fileDigest file]
    precedingBytes := loop.precedingBytes + file.file.sizeBytes
    fileIndex := loop.fileIndex + 1 }

def withExpectedHash (outgoing : OutgoingState) (fileIndex : Nat) (digest : String) : OutgoingState :=
  { outgoing with files := outgoing.files.modify fileIndex fun file => { file with expectedHash := some digest } }

/-- The first segment that is not committed. -/
def startSegment (file : OutgoingFileState) (segmentBytes : Nat) : Nat :=
  if file.committedBytes = file.file.sizeBytes then
    (SegmentPlan.segmentCount ⟨file.file.sizeBytes, segmentBytes⟩)
  else file.committedBytes / segmentBytes

/-- The files that are left, from the current one on. -/
def sendFiles (congested : Bool) : Nat → Peer → SendLoop → Peer
  | 0, peer, loop => peer.sendStreamComplete n transferId generation loop
  | rest + 1, peer, loop =>
    match peer.outgoing with
    | none => peer.sendFailed n transferId generation "outgoing transfer disappeared"
    | some outgoing =>
      if outgoing.generation ≠ generation then peer.sendEnded n transferId generation (.ok ())
      else
        match outgoing.files[loop.fileIndex]? with
        | none => peer.sendFailed n transferId generation "outgoing file disappeared"
        | some state =>
          match SegmentPlan.new state.file.sizeBytes loop.segmentBytes with
          | .error _ => peer.sendFailed n transferId generation "ZeroSegmentSize"
          | .ok segments =>
            let file : SendFile :=
              { browserFile := state.browserFile, file := state.file, fileBytes := state.fileBytes,
                fileHasher := state.committedHasher }
            let index := startSegment state loop.segmentBytes
            if index < segments.segmentCount then
              match segments.segment index with
              | none => peer.sendFailed n transferId generation "segment plan ended early"
              | some segment =>
                peer.sendSegment n transferId generation loop file { segment, segmentHasher := .new, segmentSent := 0 }
                  congested
            else
              sendFiles congested rest
                (peer.withOutgoing (withExpectedHash · loop.fileIndex file.fileHasher.finalize)) (SendLoop.next loop file)

/-- The segment that comes after an acknowledged one, or the next file. -/
def sendAfterSegment (peer : Peer) (loop : SendLoop) (file : SendFile) (index : Nat) (congested : Bool) : Peer :=
  let segments : SegmentPlan := ⟨file.file.sizeBytes, loop.segmentBytes⟩
  if index < segments.segmentCount then
    match segments.segment index with
    | none => peer.sendFailed n transferId generation "segment plan ended early"
    | some segment =>
      peer.sendSegment n transferId generation loop file { segment, segmentHasher := .new, segmentSent := 0 } congested
  else
    match peer.outgoing with
    | none => peer.sendFailed n transferId generation "outgoing transfer disappeared"
    | some outgoing =>
      if outgoing.files.length ≤ loop.fileIndex then
        peer.sendFailed n transferId generation "outgoing file disappeared"
      else
        sendFiles n transferId generation congested (loop.transferFiles.length - (loop.fileIndex + 1))
          (peer.withOutgoing (withExpectedHash · loop.fileIndex file.fileHasher.finalize)) (SendLoop.next loop file)

/-- The task begins, if the receiver is ready for it. -/
def startStreamed (peer : Peer) (outgoing : OutgoingState) (segmentBytes : Nat) : Peer :=
  if outgoing.generation ≠ generation then peer.sendEnded n transferId generation (.ok ())
  else
    match outgoing.streamReady, peer.currentDataChannel with
    | none, _ => peer.sendFailed n transferId generation "streaming receiver is not ready"
    | some ready, channel =>
      if ready.ackWindowBytes < segmentBytes then
        peer.sendFailed n transferId generation "streaming acknowledgement window is too small"
      else
        match channel with
        | .error error => peer.sendEnded n transferId generation (.error error)
        | .ok channel =>
          match peer.sendControlOn channel (.start transferId) with
          | .error error => peer.sendEnded n transferId generation (.error error)
          | .ok peer =>
            (peer.emit (.transferStarted transferId .send outgoing.mode outgoing.transferFiles)).sendAt n transferId
              generation
              (.settling
                { channel, ready, transferBytes := outgoing.transferBytes, totalBytes := outgoing.totalBytes,
                  segmentBytes, transferFiles := outgoing.transferFiles, digests := [], precedingBytes := 0,
                  fileIndex := 0 })

/-! ## Buffered -/

def DEFAULT_CHUNK_BYTES : Nat := 32 * 1024

def startBuffered (peer : Peer) (outgoing : OutgoingState) : Peer :=
  match outgoing.files.head?, peer.currentDataChannel with
  | none, _ => peer.sendFailed n transferId generation "outgoing file disappeared"
  | some _, .error error => peer.sendEnded n transferId generation (.error error)
  | some file, .ok channel =>
    match peer.sendControlOn channel (.start transferId) with
    | .error error => peer.sendEnded n transferId generation (.error error)
    | .ok peer =>
      (peer.emit (.transferStarted transferId .send .buffered [file.file])).sendAt n transferId generation
        (.bufferedSettling
          { channel, browserFile := file.browserFile, file := file.file, transferBytes := outgoing.transferBytes,
            fileBytes := file.fileBytes, hasher := .new, index := 0 })

def sendBufferedComplete (peer : Peer) (loop : BufferedLoop) : Peer :=
  match peer.outgoing with
  | none => peer.sendFailed n transferId generation "outgoing transfer disappeared"
  | some outgoing =>
    if outgoing.files.isEmpty then peer.sendFailed n transferId generation "outgoing file disappeared"
    else
      let peer := peer.withOutgoing (withExpectedHash · 0 loop.hasher.finalize)
      match peer.sendControlOn loop.channel (.complete transferId loop.file.sizeBytes loop.hasher.finalize) with
      | .error error => peer.sendEnded n transferId generation (.error error)
      | .ok peer =>
        (peer.emit (.awaitingVerification transferId [loop.file])).sendEnded n transferId generation (.ok ())

def sendBufferedChunk (peer : Peer) (loop : BufferedLoop) (congested : Bool) : Peer :=
  if loop.index < ChunkPlan.chunkCount ⟨loop.file.sizeBytes, DEFAULT_CHUNK_BYTES⟩ then
    if peer.outgoingCancelled transferId then peer.sendEnded n transferId generation (.ok ())
    else if congested then peer.sendAt n transferId generation (.bufferedCongested loop)
    else peer.sendAt n transferId generation (.bufferedReading loop)
  else peer.sendBufferedComplete n transferId generation loop

def sendBufferedRead (peer : Peer) (loop : BufferedLoop) (choice : Choice) : Peer :=
  match choice.answer, ChunkPlan.chunk ⟨loop.file.sizeBytes, DEFAULT_CHUNK_BYTES⟩ loop.index with
  | .error error, _ => peer.sendEnded n transferId generation (.error error)
  | .ok _, none => peer.sendFailed n transferId generation "chunk plan ended early"
  | .ok _, some descriptor =>
    let stop := descriptor.offset + descriptor.length
    let bytes := slice loop.browserFile.content descriptor.offset stop
    match peer.sendOn loop.channel (.binary (encodeBinaryChunk loop.transferBytes loop.fileBytes descriptor.offset
        descriptor.length bytes)) with
    | .error error => peer.sendEnded n transferId generation (.error error)
    | .ok peer =>
      if peer.outgoing.isNone then peer.sendFailed n transferId generation "outgoing transfer disappeared"
      else
        (peer.withOutgoing fun outgoing => { outgoing with sentBytes := stop }).sendBufferedChunk n transferId generation
          { loop with hasher := loop.hasher.update bytes, index := loop.index + 1 } choice.congested

/-! ## The task -/

def startSending (peer : Peer) : Peer :=
  match peer.outgoing with
  | none => peer.sendFailed n transferId generation "outgoing transfer disappeared"
  | some outgoing =>
    match outgoing.mode with
    | .buffered => peer.startBuffered n transferId generation outgoing
    | .streamed segmentBytes => peer.startStreamed n transferId generation outgoing segmentBytes

/-- The acknowledgement that a task waits for can still come. -/
def senderAlive (peer : Peer) : Bool :=
  (peer.outgoing.bind (·.pendingAck)).any (·.sender == some n) ||
    peer.tasks.toList.any fun (_, task) =>
      match task with
      | .saveAck _ sender _ => sender == some n
      | _ => false

/-- What the task gets for the segment that it has sent, unless it has to wait on. -/
def acknowledgement (peer : Peer) (result : Option (Except String Unit)) (timeout : Bool) : Option (Except String Unit) :=
  match result with
  | some result => some result
  | none =>
    if !peer.senderAlive n then some (.error "streaming acknowledgement was dropped")
    else if timeout then some (.error "streaming acknowledgement timed out")
    else none

/-- The task goes on. While there is nothing to go on with it stays where it is. -/
def wakeSend (peer : Peer) (point : SendPoint) (choice : Choice) : Peer :=
  match point with
  | .spawned => peer.startSending n transferId generation
  | .settling loop => sendFiles n transferId generation choice.congested loop.transferFiles.length peer loop
  | .congested loop file segment => peer.sendChunk n transferId generation loop file segment false
  | .reading loop file segment chunkLength =>
    peer.sendChunkRead n transferId generation loop file segment chunkLength choice
  | .acknowledging loop file segment result =>
    match peer.acknowledgement n result choice.timeout with
    | none => peer
    | some (.error message) => peer.sendFailed n transferId generation message
    | some (.ok _) =>
      peer.sendAfterSegment n transferId generation loop file (segment.segment.index + 1) choice.congested
  | .bufferedSettling loop => peer.sendBufferedChunk n transferId generation loop choice.congested
  | .bufferedCongested loop =>
    if peer.outgoingCancelled transferId then peer.sendEnded n transferId generation (.ok ())
    else peer.sendAt n transferId generation (.bufferedReading loop)
  | .bufferedReading loop => peer.sendBufferedRead n transferId generation loop choice
  | .finished => peer

end Peer

end P2PTransmission.Rtc
