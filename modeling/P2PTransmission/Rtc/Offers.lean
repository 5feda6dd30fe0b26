import P2PTransmission.Rtc.Receiving

/-!
# Offers to the receiver

A manifest is an offer, unless it repeats the one of a transfer that goes on. Before the offer of a streamed transfer is
shown, the record of an earlier attempt is looked up: if its files may be used the transfer goes on by itself, and if the
user has to allow it the offer says so.
-/

set_option autoImplicit false

namespace P2PTransmission.Rtc

variable [Blake3]

namespace Peer

/-! ## Going on from a record -/

/-- The state of a file that was reopened. -/
def restoredFile (recovered : RecoveredStreamingFile) (committedBytes segmentBytes : Nat) : ReceiveFileState :=
  { writer := some recovered.writer
    receivedBytes := committedBytes
    hasher := recovered.hasher
    segmentIndex := if committedBytes = 0 then 0 else (committedBytes + segmentBytes - 1) / segmentBytes
    segmentOffset := committedBytes
    chunks := []
    segmentHasher := .new
    committedHasher := recovered.hasher
    lastSegmentBlake3 := recovered.lastSegmentBlake3
    writing := false }

/-- The first file that is incomplete. -/
def restoredFileIndex (offer : IncomingOffer) (files : List ReceiveFileState) : Nat :=
  match (offer.files.zip files).findIdx? fun (offer, state) => state.segmentOffset < offer.file.sizeBytes with
  | some index => index
  | none => offer.files.length

def restoredReceive (offer : IncomingOffer) (segmentBytes : Nat) (files : List ReceiveFileState) : ReceiveState :=
  { offer
    started := false
    receivedBytes := (files.map (·.receivedBytes)).sum
    payload := .streamed segmentBytes (restoredFileIndex offer files) files
    hasher := .new
    resumeRequested := false
    recoveryPersisted := true
    generation := 0 }

/-- All files are reopened: the transfer is received from now on. -/
def restoreReceive (peer : Peer) (offer : IncomingOffer) (segmentBytes : Nat) (files : List ReceiveFileState) :
    Except BrowserPlatformError Unit × Peer :=
  if files.length ≠ offer.files.length then
    (.error (.browser "saved recovery file count does not match"), peer)
  else if ¬peer.isRestoring offer.transferId ∨ peer.outgoing.isSome ∨ peer.receive.isSome then
    (.error (.browser "streaming recovery is no longer active"), peer)
  else
    let restored : Peer :=
      { peer with
        restoringTransfer := none
        incoming := none
        pendingRecovery := none
        pausedReceiveReason := none
        receive := some (restoredReceive offer segmentBytes files) }
    match restored.sendStreamResume offer.transferId with
    | .ok peer => (.ok (), peer)
    | .error error => (.error error, { restored with receive := none, restoringTransfer := some offer.transferId })

/-- What comes next: another file is reopened, or the outcome. -/
inductive RestoreStep
  | wait (restore : Restore)
  | done (answer : Answer) (peer : Peer)

/-- The next file, if its checkpoint is a segment. -/
def restoreNext (peer : Peer) (restore : Restore) : RestoreStep :=
  match restore.offer.mode with
  | .buffered => .done (.error (.browser "saved recovery does not use streaming mode")) peer
  | .streamed segmentBytes =>
    match restore.rest with
    | [] =>
      let (answer, peer) := peer.restoreReceive restore.offer segmentBytes restore.files
      .done answer peer
    | (offer, recovery) :: _ =>
      if offer.file.sizeBytes < recovery.committedBytes ∨
          (recovery.committedBytes < offer.file.sizeBytes ∧ recovery.committedBytes % segmentBytes ≠ 0) then
        .done (.error (.browser "saved recovery checkpoint is outside a verified segment")) peer
      else .wait restore

def restoreStreamRecovery (peer : Peer) (offer : IncomingOffer) (recovery : StreamRecoveryRecord) : RestoreStep :=
  peer.restoreNext { offer, recovery, files := [], rest := offer.files.zip recovery.files }

/-- The file at the head was reopened. -/
def restoreReopened (peer : Peer) (restore : Restore) (answer : Answer) : RestoreStep :=
  match restore.offer.mode, restore.rest with
  | .streamed segmentBytes, (offer, file) :: rest =>
    match reopenStreamFile peer.disk file.handle file.committedBytes offer.file.sizeBytes segmentBytes answer with
    | .error error => .done (.error error) peer
    | .ok recovered =>
      if recovered.lastSegmentBlake3 ≠ file.lastSegmentBlake3 then
        .done (.error (.browser "saved file no longer matches the recovery checkpoint")) peer
      else
        peer.restoreNext
          { restore with files := restore.files ++ [restoredFile recovered file.committedBytes segmentBytes], rest }
  | _, _ => peer.restoreNext restore

/-! ## The lookup of an offer -/

variable (n : TaskId)

def endLookup (peer : Peer) : Peer := peer.setTask n (.lookup .finished)

def publishIncomingOffer (peer : Peer) (offer : IncomingOffer) (recovery : Option StreamRecoveryRecord) : Peer :=
  if ¬peer.isRestoring offer.transferId ∨ peer.outgoing.isSome ∨ peer.incoming.isSome ∨ peer.receive.isSome then peer
  else
    ({ peer with
      restoringTransfer := none
      pendingRecovery := recovery
      pausedReceiveReason := none
      incoming := some offer } : Peer).emit
      (.incomingOffered offer.transferId offer.mode offer.transferFiles recovery.isSome)

/-- A record that does not help is deleted before the offer is shown. -/
def lookupRestored (peer : Peer) (offer : IncomingOffer) : RestoreStep → Peer
  | .wait restore => peer.setTask n (.lookup (.reopening restore))
  | .done (.ok _) next => next.endLookup n
  | .done (.error _) next => next.setTask n (.lookup (.deleting offer))

def publishAndEnd (peer : Peer) (offer : IncomingOffer) (recovery : Option StreamRecoveryRecord) : Peer :=
  (peer.endLookup n).publishIncomingOffer offer recovery

/-- The task that looks up the record of an offer goes on. -/
def wakeLookup (peer : Peer) (point : LookupPoint) (choice : Choice) : Peer :=
  match point with
  | .spawned offer =>
    match offer.mode with
    | .buffered => peer.publishAndEnd n offer none
    | .streamed _ => peer.setTask n (.lookup (.load offer peer.targetPeer))
  | .load offer peerId =>
    match choice.answer, peer.streamRecovery[offer.transferId]? with
    | .error _, _ => peer.setTask n (.lookup (.deleting offer))
    | .ok _, none => peer.publishAndEnd n offer none
    | .ok _, some recovery =>
      if peerId.any (streamRecoveryMatches offer · recovery) then peer.setTask n (.lookup (.permissions offer recovery))
      else peer.setTask n (.lookup (.deleting offer))
  | .permissions offer recovery =>
    match choice.answer with
    | .error _ => peer.setTask n (.lookup (.deleting offer))
    | .ok _ =>
      if choice.permissions.all (· == .granted) then
        peer.lookupRestored n offer (peer.restoreStreamRecovery offer recovery)
      else if .prompt ∈ choice.permissions then peer.publishAndEnd n offer (some recovery)
      else peer.setTask n (.lookup (.deleting offer))
  | .reopening restore => peer.lookupRestored n restore.offer (peer.restoreReopened restore choice.answer)
  | .deleting offer =>
    let peer : Peer :=
      match choice.answer with
      | .error _ => peer
      | .ok _ => { peer with streamRecovery := peer.streamRecovery.erase offer.transferId }
    peer.publishAndEnd n offer none
  | .finished => peer

/-! ## The manifest -/

end Peer

def IncomingManifestError.code : IncomingManifestError → String
  | invalidTransferId | invalidFileId => "invalid_id"
  | bufferedBatchUnsupported => "buffered_batch_unsupported"

def IncomingManifestError.message : IncomingManifestError → String
  | invalidTransferId => "invalid transfer id"
  | invalidFileId => "invalid file id"
  | bufferedBatchUnsupported => "batch manifests must use streaming mode"

/-- What a manifest means to the receiver. -/
inductive ManifestReaction
  | resumeNow | resumeAfterWrite | paused (reason : StreamPauseReason) | invalidResume | busy | restoreNew
  /-- The transfer that is received is buffered, with the same manifest. -/
  | ignored
  deriving DecidableEq, Repr

namespace Peer

variable (n : TaskId)

def manifestReaction (peer : Peer) (offer : IncomingOffer) : ManifestReaction :=
  match peer.receive with
  | some receive =>
    if ¬(receive.offer.matchesOffer offer ∧ receive.offer.mode ≠ .buffered) then .invalidResume
    else
      match receive.payload with
      | .streamed _ _ files => if files.any (·.writing) then .resumeAfterWrite else .resumeNow
      | .buffered _ => .ignored
  | none =>
    match peer.incoming, peer.pendingRecovery, peer.pausedReceiveReason with
    | some existing, some _, some reason => if existing.matchesOffer offer then .paused reason else .invalidResume
    | _, _, _ =>
      if peer.outgoing.isSome ∨ peer.incoming.isSome ∨ peer.restoringTransfer.isSome then .busy else .restoreNew

/-- The transfer that is received has to be started again. -/
def withReceive (peer : Peer) (change : ReceiveState → ReceiveState) : Peer :=
  { peer with receive := peer.receive.map change }

def handleOffer (peer : Peer) (offer : IncomingOffer) : Peer :=
  match peer.manifestReaction offer with
  | .invalidResume =>
    peer.sendTransferError offer.transferId "resume_mismatch"
      "streaming resume manifest does not match the active transfer"
  | .busy => peer.sendTransferError offer.transferId "busy" "another transfer is active"
  | .paused reason => peer.trySendControl (.streamPaused offer.transferId reason)
  | .resumeNow =>
    let peer := peer.withReceive fun receive => { receive with started := false }
    match peer.sendStreamResume offer.transferId with
    | .error error => peer.fail (some offer.transferId) error.text
    | .ok peer => peer
  | .resumeAfterWrite => peer.withReceive fun receive => { receive with started := false, resumeRequested := true }
  | .restoreNew =>
    ({ peer with restoringTransfer := some offer.transferId } : Peer).spawn (.lookup (.spawned offer))
  | .ignored => peer

def handleManifest (peer : Peer) (transferId : String) (mode : TransferMode) (files : List FileManifest) : Peer :=
  match IncomingOffer.fromManifest transferId mode files with
  | .error error => peer.sendTransferError transferId error.code error.message
  | .ok offer => peer.handleOffer offer

/-! ## Decisions -/

def recoveryRecordFromWriters (offer : IncomingOffer) (segmentBytes : Nat) (peerId : String)
    (writers : List StreamingFileWriter) : StreamRecoveryRecord :=
  { transferId := offer.transferId
    peerId
    segmentBytes
    files := offer.files.zipWith (fun offer writer =>
      { fileId := formatBinaryId "file" offer.fileBytes, name := offer.file.name, mime := offer.file.mime,
        sizeBytes := offer.file.sizeBytes, handle := writer.handle, committedBytes := 0,
        lastSegmentBlake3 := none }) writers }

/-- The first file that is not empty. -/
def firstFileIndex (offer : IncomingOffer) : Nat :=
  match offer.files.findIdx? fun file => 0 < file.file.sizeBytes with
  | some index => index
  | none => offer.files.length

def acceptedReceive (offer : IncomingOffer) (segmentBytes : Nat) (writers : List StreamingFileWriter)
    (recoveryPersisted : Bool) : ReceiveState :=
  { offer
    started := false
    receivedBytes := 0
    payload := .streamed segmentBytes (firstFileIndex offer) (writers.map .new)
    hasher := .new
    resumeRequested := false
    recoveryPersisted
    generation := 0 }

def returnAccept (peer : Peer) (answer : Answer) : Peer := peer.setTask n (.accept (.returned answer))

/-- The user has chosen where the files go, up to the first point at which the program waits. -/
def acceptStreamTransfer (peer : Peer) (transferId : String) (writers : List StreamingFileWriter) : Peer :=
  let returned (peer : Peer) (message : String) := peer.spawn (.accept (.returned (.error (.browser message))))
  match peer.currentDataChannel, peer.incoming with
  | .error error, _ => peer.spawn (.accept (.returned (.error error)))
  | .ok _, none => returned peer "incoming transfer is no longer available"
  | .ok channel, some offer =>
    if offer.transferId ≠ transferId then returned peer "incoming transfer id does not match"
    else
      match offer.mode, peer.targetPeer with
      | .buffered, _ => returned peer "incoming transfer does not use streaming mode"
      | .streamed _, none => returned { peer with incoming := none } "receiver peer is unavailable"
      | .streamed segmentBytes, some peerId =>
        let taken : Peer := { peer with incoming := none, pendingRecovery := none, pausedReceiveReason := none }
        if writers.length ≠ offer.files.length then
          returned { taken with incoming := some offer }
            "streaming destination count does not match the manifest"
        else
          taken.spawn (.accept (.saving offer channel (recoveryRecordFromWriters offer segmentBytes peerId writers)
            writers))

/-- The record was saved or not: the sender is told to begin. -/
def acceptSaved (peer : Peer) (offer : IncomingOffer) (channel : ChannelId) (writers : List StreamingFileWriter)
    (recoveryPersisted : Bool) : Peer :=
  match offer.mode with
  | .buffered => peer.returnAccept n (.ok ())
  | .streamed segmentBytes =>
    -- the decision goes out although the cursors may not
    match peer.sendControlOn channel (.decision offer.transferId true) with
    | .error error => peer.returnAccept n (.error error)
    | .ok peer =>
      match peer.sendControlOn channel (.streamReady offer.transferId DEFAULT_STREAM_CHUNK_BYTES
          (min DEFAULT_STREAM_ACK_WINDOW_BYTES segmentBytes) []) with
      | .error error => peer.returnAccept n (.error error)
      | .ok peer =>
        returnAccept n { peer with receive := some (acceptedReceive offer segmentBytes writers recoveryPersisted) }
          (.ok ())

def wakeAccept (peer : Peer) (point : AcceptPoint) (answer : Answer) : Peer :=
  match point with
  | .saving offer channel record writers =>
    match answer with
    | .ok _ =>
      acceptSaved n { peer with streamRecovery := peer.streamRecovery.insert record.transferId record } offer channel
        writers true
    | .error _ => peer.setTask n (.accept (.deletingUnsaved offer channel writers))
  | .deletingUnsaved offer channel writers =>
    let peer : Peer :=
      match answer with
      | .error _ => peer
      | .ok _ => { peer with streamRecovery := peer.streamRecovery.erase offer.transferId }
    peer.acceptSaved n offer channel writers false
  | .returned _ => peer

def returnResume (peer : Peer) (transferId : String) (answer : Answer) : Peer :=
  peer.setTask n (.resume transferId (.returned answer))

/-- The user wants to go on with a record, up to the first point at which the program waits. -/
def resumeStreamTransfer (peer : Peer) (transferId : String) : Peer :=
  let returned (peer : Peer) (message : String) :=
    peer.spawn (.resume transferId (.returned (.error (.browser message))))
  if peer.isRestoring transferId then peer.spawn (.resume transferId (.returned (.ok ())))
  else
    match peer.incoming, peer.pendingRecovery with
    | none, _ => returned peer "incoming recovery offer is no longer available"
    | some _, none => returned peer "saved streaming recovery is no longer available"
    | some offer, some recovery =>
      if offer.transferId ≠ transferId ∨ recovery.transferId ≠ transferId then
        returned peer "streaming recovery id does not match"
      else
        ({ peer with incoming := none, pendingRecovery := none, restoringTransfer := some transferId } : Peer).spawn
          (.resume transferId (.permissions offer recovery))

/-- The offer is back, with its record. -/
def resumeFailed (peer : Peer) (transferId : String) (offer : IncomingOffer) (recovery : StreamRecoveryRecord)
    (error : BrowserPlatformError) : Peer :=
  returnResume n
    { peer with restoringTransfer := none, incoming := some offer, pendingRecovery := some recovery }
    transferId (.error error)

def resumeRestored (peer : Peer) (transferId : String) (offer : IncomingOffer) (recovery : StreamRecoveryRecord) :
    RestoreStep → Peer
  | .wait restore => peer.setTask n (.resume transferId (.reopening restore))
  | .done (.ok _) next => next.returnResume n transferId (.ok ())
  | .done (.error error) next => next.resumeFailed n transferId offer recovery error

def wakeResume (peer : Peer) (transferId : String) (point : ResumePoint) (choice : Choice) : Peer :=
  match point with
  | .permissions offer recovery =>
    match choice.answer with
    | .error error => peer.resumeFailed n transferId offer recovery error
    | .ok _ =>
      if choice.permissions.all (· == .granted) then
        peer.resumeRestored n transferId offer recovery (peer.restoreStreamRecovery offer recovery)
      else peer.resumeFailed n transferId offer recovery (.browser "未获得原保存位置的写入权限")
  | .reopening restore =>
    peer.resumeRestored n transferId restore.offer restore.recovery (peer.restoreReopened restore choice.answer)
  | .returned _ => peer

/-- The user decides on an offer that needs no destination, or declines one. -/
def decideTransfer (peer : Peer) (transferId : String) (accepted : Bool) : Answer × Peer :=
  match peer.currentDataChannel, peer.incoming with
  | .error error, _ => (.error error, peer)
  | .ok _, none => (.error (.browser "incoming transfer is no longer available"), peer)
  | .ok channel, some offer =>
    if offer.transferId ≠ transferId then (.error (.browser "incoming transfer id does not match"), peer)
    else
      let taken : Peer := { peer with incoming := none, pendingRecovery := none, pausedReceiveReason := none }
      if accepted then
        if offer.mode ≠ .buffered then
          (.error (.browser "streaming transfer requires a save destination"), { taken with incoming := some offer })
        else
          match taken.sendControlOn channel (.decision transferId true) with
          | .error error => (.error error, taken)
          | .ok peer =>
            (.ok (),
              { peer with
                receive := some
                  { offer, started := false, receivedBytes := 0, payload := .buffered [], hasher := .new,
                    resumeRequested := false, recoveryPersisted := false, generation := 0 } })
      else
        match taken.sendControlOn channel (.decision transferId false) with
        | .error error => (.error error, taken)
        | .ok peer =>
          (.ok (), (peer.emit (.transferRejected transferId .receive offer.transferFiles)).spawn
            (.deleteStream transferId))

end Peer

end P2PTransmission.Rtc
