import P2PTransmission.Rtc.Offers

/-!
# Decisions that fail

The three calls by which the user decides on what is offered, each from its beginning to its end with nothing else in between.
The browser may refuse to send a message although the channel is open (`Refusals`); the files are reopened, and the record is
saved, with the answers that are given. Where nothing is refused the calls are those of the tasks.

The question is what a call that fails leaves of the offer, of the record that the user may resume from, and of the reason for
which the transfer was paused (`Kept`).
-/

set_option autoImplicit false

namespace P2PTransmission.Rtc

variable [Blake3]

/-- The error with which the browser refuses a message, if it refuses it. -/
abbrev Refusals : Type := ControlMessage → Option BrowserPlatformError

namespace Peer

variable (refuses : Refusals)

/-! ## Sending -/

def sendControlThrough (peer : Peer) (channel : ChannelId) (message : ControlMessage) : Except BrowserPlatformError Peer :=
  match peer.sendControlOn channel message with
  | .error error => .error error
  | .ok next =>
    match refuses message with
    | some error => .error error
    | none => .ok next

/-- The request for a stream. -/
def streamReadyRequest (transferId : String) (segmentBytes : Nat) (resume : List ResumeCursor) : ControlMessage :=
  .streamReady transferId DEFAULT_STREAM_CHUNK_BYTES (min DEFAULT_STREAM_ACK_WINDOW_BYTES segmentBytes) resume

/-- The decision and the cursors. The decision goes out although the cursors may not. -/
def sendStreamReadyThrough (peer : Peer) (channel : ChannelId) (transferId : String) (segmentBytes : Nat)
    (resume : List ResumeCursor) : Answer × Peer :=
  match peer.sendControlThrough refuses channel (.decision transferId true) with
  | .error error => (.error error, peer)
  | .ok peer =>
    match peer.sendControlThrough refuses channel (streamReadyRequest transferId segmentBytes resume) with
    | .error error => (.error error, peer)
    | .ok peer => (.ok (), peer)

def sendStreamResumeThrough (peer : Peer) (transferId : String) : Answer × Peer :=
  match peer.receive with
  | none => (.error (.browser "streaming receiver is unavailable"), peer)
  | some receive =>
    if receive.offer.transferId ≠ transferId then (.error (.browser "streaming receiver id does not match"), peer)
    else
      match receive.payload with
      | .buffered _ => (.error (.browser "streaming receiver mode does not match"), peer)
      | .streamed segmentBytes _ files =>
        match peer.currentDataChannel with
        | .error error => (.error error, peer)
        | .ok channel =>
          peer.sendStreamReadyThrough refuses channel transferId segmentBytes (receive.offer.files.zipWith resumeCursor files)

/-! ## The calls -/

/-- How `decide_transfer` and `accept_stream_transfer` begin: with the channel to answer on and the offer of this transfer. -/
def withAsked (peer : Peer) (transferId : String) (body : ChannelId → IncomingOffer → Answer × Peer) : Answer × Peer :=
  match peer.currentDataChannel, peer.incoming with
  | .error error, _ => (.error error, peer)
  | .ok _, none => (.error (.browser "incoming transfer is no longer available"), peer)
  | .ok channel, some offer =>
    if offer.transferId ≠ transferId then (.error (.browser "incoming transfer id does not match"), peer)
    else body channel offer

/-- `decide_transfer`. -/
def decideThrough (peer : Peer) (transferId : String) (accepted : Bool) : Answer × Peer :=
  peer.withAsked transferId fun channel offer =>
    let taken : Peer := { peer with incoming := none, pendingRecovery := none, pausedReceiveReason := none }
    if accepted then
      if offer.mode ≠ .buffered then
        (.error (.browser "streaming transfer requires a save destination"), { taken with incoming := some offer })
      else
        match taken.sendControlThrough refuses channel (.decision transferId true) with
        | .error error => (.error error, taken)
        | .ok peer =>
          (.ok (),
            { peer with
              receive := some
                { offer, started := false, receivedBytes := 0, payload := .buffered [], hasher := .new,
                  resumeRequested := false, recoveryPersisted := false, generation := 0 } })
    else
      match taken.sendControlThrough refuses channel (.decision transferId false) with
      | .error error => (.error error, taken)
      | .ok peer =>
        (.ok (), (peer.emit (.transferRejected transferId .receive offer.transferFiles)).spawn
          (.deleteStream transferId))

/-- The record is saved, or else deleted: whether it is there. -/
def saveRecovery (peer : Peer) (record : StreamRecoveryRecord) (saved deleted : Answer) : Bool × Peer :=
  match saved, deleted with
  | .ok _, _ => (true, { peer with streamRecovery := peer.streamRecovery.insert record.transferId record })
  | .error _, .ok _ => (false, { peer with streamRecovery := peer.streamRecovery.erase record.transferId })
  | .error _, .error _ => (false, peer)

/-- `accept_stream_transfer`. -/
def acceptStreamThrough (peer : Peer) (transferId : String) (writers : List StreamingFileWriter) (saved deleted : Answer) :
    Answer × Peer :=
  peer.withAsked transferId fun channel offer =>
    match offer.mode, peer.targetPeer with
    | .buffered, _ => (.error (.browser "incoming transfer does not use streaming mode"), peer)
    | .streamed _, none => (.error (.browser "receiver peer is unavailable"), { peer with incoming := none })
    | .streamed segmentBytes, some peerId =>
      let taken : Peer := { peer with incoming := none, pendingRecovery := none, pausedReceiveReason := none }
      if writers.length ≠ offer.files.length then
        (.error (.browser "streaming destination count does not match the manifest"), { taken with incoming := some offer })
      else
        let (recoveryPersisted, peer) :=
          taken.saveRecovery (recoveryRecordFromWriters offer segmentBytes peerId writers) saved deleted
        match peer.sendStreamReadyThrough refuses channel transferId segmentBytes [] with
        | (.error error, peer) => (.error error, peer)
        | (.ok _, peer) =>
          (.ok (), { peer with receive := some (acceptedReceive offer segmentBytes writers recoveryPersisted) })

/-- The files of a record one after the other, with the answers of the browser. -/
def reopenFiles (disk : Disk) (segmentBytes : Nat) (answers : Nat → Answer) :
    Nat → List (IncomingFile × StreamRecoveryFile) → Except BrowserPlatformError (List ReceiveFileState)
  | _, [] => .ok []
  | index, (offer, recovery) :: rest =>
    if offer.file.sizeBytes < recovery.committedBytes ∨
        (recovery.committedBytes < offer.file.sizeBytes ∧ recovery.committedBytes % segmentBytes ≠ 0) then
      .error (.browser "saved recovery checkpoint is outside a verified segment")
    else
      match reopenStreamFile disk recovery.handle recovery.committedBytes offer.file.sizeBytes segmentBytes
          (answers index) with
      | .error error => .error error
      | .ok recovered =>
        if recovered.lastSegmentBlake3 ≠ recovery.lastSegmentBlake3 then
          .error (.browser "saved file no longer matches the recovery checkpoint")
        else
          (reopenFiles disk segmentBytes answers (index + 1) rest).map
            (restoredFile recovered recovery.committedBytes segmentBytes :: ·)

/-- `restore_stream_recovery`. -/
def restoreThrough (peer : Peer) (offer : IncomingOffer) (recovery : StreamRecoveryRecord) (answers : Nat → Answer) :
    Answer × Peer :=
  match offer.mode with
  | .buffered => (.error (.browser "saved recovery does not use streaming mode"), peer)
  | .streamed segmentBytes =>
    match reopenFiles peer.disk segmentBytes answers 0 (offer.files.zip recovery.files) with
    | .error error => (.error error, peer)
    | .ok files =>
      if files.length ≠ offer.files.length then
        (.error (.browser "saved recovery file count does not match"), peer)
      else if ¬peer.isRestoring offer.transferId ∨ peer.outgoing.isSome ∨ peer.receive.isSome then
        (.error (.browser "streaming recovery is no longer active"), peer)
      else
        let restored : Peer :=
          { peer with
            restoringTransfer := none
            incoming := none
            pendingRecovery := none
            pausedReceiveReason := none
            receive := some (restoredReceive offer segmentBytes files) }
        match restored.sendStreamResumeThrough refuses offer.transferId with
        | (.ok _, peer) => (.ok (), peer)
        | (.error error, peer) => (.error error, { peer with receive := none, restoringTransfer := some offer.transferId })

/-- `resume_stream_transfer`. -/
def resumeStreamThrough (peer : Peer) (transferId : String) (permissions : Except BrowserPlatformError (List FilePermission))
    (answers : Nat → Answer) : Answer × Peer :=
  if peer.isRestoring transferId then (.ok (), peer)
  else
    match peer.incoming, peer.pendingRecovery with
    | none, _ => (.error (.browser "incoming recovery offer is no longer available"), peer)
    | some _, none => (.error (.browser "saved streaming recovery is no longer available"), peer)
    | some offer, some recovery =>
      if offer.transferId ≠ transferId ∨ recovery.transferId ≠ transferId then
        (.error (.browser "streaming recovery id does not match"), peer)
      else
        let taken : Peer :=
          { peer with incoming := none, pendingRecovery := none, restoringTransfer := some transferId }
        let putBack (peer : Peer) : Peer :=
          { peer with restoringTransfer := none, incoming := some offer, pendingRecovery := some recovery }
        match permissions with
        | .error error => (.error error, putBack taken)
        | .ok values =>
          if values.all (· == .granted) then
            match taken.restoreThrough refuses offer recovery answers with
            | (.ok _, next) => (.ok (), next)
            | (.error error, next) => (.error error, putBack next)
          else (.error (.browser "未获得原保存位置的写入权限"), putBack taken)

end Peer

/-! ## What a call that fails leaves -/

/-- What the user may decide on is as it was. -/
structure Kept (before after : Peer) : Prop where
  incoming : after.incoming = before.incoming
  pendingRecovery : after.pendingRecovery = before.pendingRecovery
  receive : after.receive = before.receive
  pausedReceiveReason : after.pausedReceiveReason = before.pausedReceiveReason

def KeptIfFailed (before : Peer) (outcome : Answer × Peer) : Prop :=
  ∀ error, outcome.1 = .error error → Kept before outcome.2

/-- The message is well formed, and the browser does not refuse it. -/
def Goes (refuses : Refusals) (message : ControlMessage) : Prop := message.validate = .ok () ∧ refuses message = none

section Failures

variable {refuses : Refusals} {peer : Peer} {channel : ChannelId} {message : ControlMessage} {transferId : String}

omit [Blake3] in
theorem Kept.refl (peer : Peer) : Kept peer peer := ⟨rfl, rfl, rfl, rfl⟩

omit [Blake3] in
theorem keptIfFailed_ok {next : Peer} : KeptIfFailed peer (.ok (), next) := fun _ hfailed => by cases hfailed

omit [Blake3] in
theorem keptIfFailed_error {error : BrowserPlatformError} {next : Peer} :
    KeptIfFailed peer (.error error, next) ↔ Kept peer next :=
  ⟨fun h => h error rfl, fun h _ _ => h⟩

omit [Blake3] in
/-- A message on an open channel goes out, or is refused. -/
theorem sendControlThrough_cases (hopen : peer.dataChannel = some ⟨channel, true⟩) (message : ControlMessage) :
    (Goes refuses message ∧ peer.sendControlThrough refuses channel message = .ok (peer.withSent channel (.control message))) ∨
      (¬Goes refuses message ∧ ∃ error, peer.sendControlThrough refuses channel message = .error error) := by
  unfold Peer.sendControlThrough Peer.sendControlOn Goes
  cases hvalid : message.validate with
  | error error =>
    refine .inr ⟨?_, _, rfl⟩
    rintro ⟨hok, -⟩
    cases hok
  | ok value =>
    have hsent : peer.sendOn channel (.control message) = .ok (peer.withSent channel (.control message)) := by
      unfold Peer.sendOn
      rw [if_pos hopen]
      rfl
    dsimp only
    rw [hsent]
    cases hrefused : refuses message with
    | none => exact .inl ⟨⟨rfl, rfl⟩, rfl⟩
    | some error =>
      refine .inr ⟨?_, error, rfl⟩
      rintro ⟨-, hnone⟩
      cases hnone

/-- The offer of this transfer is there, and the channel to answer it. -/
structure Peer.IsAsked (peer : Peer) (transferId : String) (channel : ChannelId) (offer : IncomingOffer) : Prop where
  isOpen : peer.dataChannel = some ⟨channel, true⟩
  isOffered : peer.incoming = some offer
  sameId : offer.transferId = transferId

omit [Blake3] in
/-- A call that finds no offer fails and changes nothing. -/
theorem withAsked_kept {body : ChannelId → IncomingOffer → Answer × Peer} :
    KeptIfFailed peer (peer.withAsked transferId body) ↔
      ∀ channel offer, peer.IsAsked transferId channel offer → KeptIfFailed peer (body channel offer) := by
  unfold Peer.withAsked
  constructor
  · rintro h channel offer ⟨hopen, hoffered, hid⟩
    rw [Peer.currentDataChannel_of_open hopen, hoffered] at h
    dsimp only at h
    rwa [if_neg (by rw [not_not]; exact hid)] at h
  · intro h
    cases hchannel : peer.currentDataChannel with
    | error error => exact keptIfFailed_error.mpr (.refl peer)
    | ok channel =>
      cases hoffered : peer.incoming with
      | none => exact keptIfFailed_error.mpr (.refl peer)
      | some offer =>
        dsimp only
        split
        · exact keptIfFailed_error.mpr (.refl peer)
        · rename_i hid
          exact h channel offer ⟨Peer.currentDataChannel_ok hchannel, hoffered, not_not.mp hid⟩

/-! ## `decide_transfer` -/

/-- A streamed offer is accepted without a destination while a record or a pause would be forgotten, or the decision cannot be
sent. -/
def Peer.LosesByDeciding (peer : Peer) (refuses : Refusals) (transferId : String) (accepted : Bool) : Prop :=
  ∃ channel offer, peer.IsAsked transferId channel offer ∧
    if accepted = true ∧ offer.mode ≠ .buffered then peer.pendingRecovery ≠ none ∨ peer.pausedReceiveReason ≠ none
    else ¬Goes refuses (.decision transferId accepted)

omit [Blake3] in
theorem not_kept_without_offer {next : Peer} {offer : IncomingOffer} (hoffered : peer.incoming = some offer)
    (hgone : next.incoming = none) : ¬Kept peer next := by
  intro hkept
  have hincoming := hkept.incoming
  rw [hgone, hoffered] at hincoming
  cases hincoming

omit [Blake3] in
/-- The offer is put back, and nothing else. -/
theorem kept_putBack {offer : IncomingOffer} (hoffered : peer.incoming = some offer) :
    Kept peer { peer with incoming := some offer, pendingRecovery := none, pausedReceiveReason := none } ↔
      ¬(peer.pendingRecovery ≠ none ∨ peer.pausedReceiveReason ≠ none) := by
  rw [not_or, not_not, not_not]
  constructor
  · rintro ⟨-, hrecovery, -, hreason⟩
    exact ⟨hrecovery.symm, hreason.symm⟩
  · rintro ⟨hrecovery, hreason⟩
    exact ⟨hoffered.symm, hrecovery.symm, rfl, hreason.symm⟩

omit [Blake3] in
theorem decideThrough_kept {accepted : Bool} : KeptIfFailed peer (peer.decideThrough refuses transferId accepted) ↔
    ¬peer.LosesByDeciding refuses transferId accepted := by
  unfold Peer.decideThrough Peer.LosesByDeciding
  rw [withAsked_kept]
  simp only [not_exists, not_and]
  refine forall_congr' fun channel => forall_congr' fun offer => forall_congr' fun hasked => ?_
  by_cases hstreamed : accepted = true ∧ offer.mode ≠ .buffered
  · obtain ⟨rfl, hmode⟩ := hstreamed
    rw [if_pos rfl, if_pos hmode, if_pos ⟨rfl, hmode⟩, keptIfFailed_error]
    exact kept_putBack hasked.isOffered
  · rw [if_neg hstreamed, not_not]
    have hopen : ({ peer with incoming := none, pendingRecovery := none, pausedReceiveReason := none } : Peer).dataChannel =
        some ⟨channel, true⟩ := hasked.isOpen
    have hlost : ¬Kept peer { peer with incoming := none, pendingRecovery := none, pausedReceiveReason := none } :=
      not_kept_without_offer hasked.isOffered rfl
    rcases sendControlThrough_cases hopen (.decision transferId accepted) with ⟨hgoes, hsent⟩ | ⟨hrefused, error, hsent⟩
    · cases accepted with
      | false =>
        rw [if_neg Bool.false_ne_true, hsent]
        exact iff_of_true keptIfFailed_ok hgoes
      | true =>
        rw [if_pos rfl, if_neg fun hmode => hstreamed ⟨rfl, hmode⟩, hsent]
        exact iff_of_true keptIfFailed_ok hgoes
    · cases accepted with
      | false =>
        rw [if_neg Bool.false_ne_true, hsent]
        exact iff_of_false (fun hkept => hlost (keptIfFailed_error.mp hkept)) hrefused
      | true =>
        rw [if_pos rfl, if_neg fun hmode => hstreamed ⟨rfl, hmode⟩, hsent]
        exact iff_of_false (fun hkept => hlost (keptIfFailed_error.mp hkept)) hrefused

/-! ## `accept_stream_transfer` -/

/-- The decision and the cursors go out. -/
def StreamReadyGoes (refuses : Refusals) (transferId : String) (segmentBytes : Nat) (resume : List ResumeCursor) : Prop :=
  Goes refuses (.decision transferId true) ∧ Goes refuses (Peer.streamReadyRequest transferId segmentBytes resume)

omit [Blake3] in
/-- The two messages go out, or the call fails with nothing changed but what was sent. -/
theorem sendStreamReadyThrough_cases (hopen : peer.dataChannel = some ⟨channel, true⟩) (segmentBytes : Nat)
    (resume : List ResumeCursor) :
    (StreamReadyGoes refuses transferId segmentBytes resume ∧
        ∃ next, peer.sendStreamReadyThrough refuses channel transferId segmentBytes resume = (.ok (), next)) ∨
      (¬StreamReadyGoes refuses transferId segmentBytes resume ∧ ∃ error next,
        peer.sendStreamReadyThrough refuses channel transferId segmentBytes resume = (.error error, next) ∧
          ∃ sent, next = { peer with sent }) := by
  unfold Peer.sendStreamReadyThrough StreamReadyGoes
  rcases sendControlThrough_cases hopen (.decision transferId true) with ⟨hdecision, hsent⟩ | ⟨hrefused, error, hsent⟩
  · rw [hsent]
    dsimp only
    have hstillOpen : (peer.withSent channel (.control (.decision transferId true))).dataChannel = some ⟨channel, true⟩ := hopen
    rcases sendControlThrough_cases hstillOpen (Peer.streamReadyRequest transferId segmentBytes resume) with
      ⟨hready, hsentReady⟩ | ⟨hrefused, error, hsentReady⟩
    · rw [hsentReady]
      exact .inl ⟨⟨hdecision, hready⟩, _, rfl⟩
    · rw [hsentReady]
      exact .inr ⟨fun hgoes => hrefused hgoes.2, error, _, rfl, _, rfl⟩
  · rw [hsent]
    exact .inr ⟨fun hgoes => hrefused hgoes.1, error, _, rfl, _, rfl⟩

/-- The peer is unknown, or the destinations do not fit while a record or a pause would be forgotten, or the decision and the
cursors cannot be sent. -/
def Peer.LosesByAccepting (peer : Peer) (refuses : Refusals) (transferId : String) (writers : List StreamingFileWriter) : Prop :=
  ∃ channel offer, peer.IsAsked transferId channel offer ∧ ∃ segmentBytes, offer.mode = .streamed segmentBytes ∧
    (peer.targetPeer = none ∨
      if writers.length ≠ offer.files.length then peer.pendingRecovery ≠ none ∨ peer.pausedReceiveReason ≠ none
      else ¬StreamReadyGoes refuses transferId segmentBytes [])

omit [Blake3] in
/-- The record is nothing that the user decides on. -/
theorem saveRecovery_eq (peer : Peer) (record : StreamRecoveryRecord) (saved deleted : Answer) :
    ∃ streamRecovery, (peer.saveRecovery record saved deleted).2 = { peer with streamRecovery } := by
  unfold Peer.saveRecovery
  cases saved with
  | ok value => exact ⟨_, rfl⟩
  | error error =>
    cases deleted with
    | ok value => exact ⟨_, rfl⟩
    | error error => exact ⟨_, rfl⟩

omit [Blake3] in
theorem acceptStreamThrough_kept {writers : List StreamingFileWriter} {saved deleted : Answer} :
    KeptIfFailed peer (peer.acceptStreamThrough refuses transferId writers saved deleted) ↔
      ¬peer.LosesByAccepting refuses transferId writers := by
  unfold Peer.acceptStreamThrough Peer.LosesByAccepting
  rw [withAsked_kept]
  simp only [not_exists, not_and]
  refine forall_congr' fun channel => forall_congr' fun offer => forall_congr' fun hasked => ?_
  split
  · rename_i hmode
    refine iff_of_true (keptIfFailed_error.mpr (.refl peer)) ?_
    intro segmentBytes hstreamed
    rw [hmode] at hstreamed
    cases hstreamed
  · rename_i segmentBytes hmode htarget
    refine iff_of_false ?_ fun hnot => hnot segmentBytes hmode (.inl htarget)
    rw [keptIfFailed_error]
    exact not_kept_without_offer hasked.isOffered rfl
  · rename_i segmentBytes peerId hmode htarget
    have hcondition : (∀ other, offer.mode = .streamed other → ¬(peer.targetPeer = none ∨
        if writers.length ≠ offer.files.length then peer.pendingRecovery ≠ none ∨ peer.pausedReceiveReason ≠ none
        else ¬StreamReadyGoes refuses transferId other [])) ↔
        ¬if writers.length ≠ offer.files.length then peer.pendingRecovery ≠ none ∨ peer.pausedReceiveReason ≠ none
          else ¬StreamReadyGoes refuses transferId segmentBytes [] := by
      rw [hmode, htarget]
      simp
    rw [hcondition]
    by_cases hcount : writers.length ≠ offer.files.length
    · rw [if_pos hcount, if_pos hcount, keptIfFailed_error]
      exact kept_putBack hasked.isOffered
    · rw [if_neg hcount, if_neg hcount, not_not]
      generalize htaken : ({ peer with incoming := none, pendingRecovery := none, pausedReceiveReason := none } : Peer) = taken
      obtain ⟨streamRecovery, hrecorded⟩ := saveRecovery_eq taken
        (Peer.recoveryRecordFromWriters offer segmentBytes peerId writers) saved deleted
      rw [hrecorded]
      have hopen : ({ taken with streamRecovery } : Peer).dataChannel = some ⟨channel, true⟩ := by
        rw [← htaken]
        exact hasked.isOpen
      rcases sendStreamReadyThrough_cases hopen segmentBytes [] with
        ⟨hgoes, next, hsent⟩ | ⟨hrefused, error, next, hsent, sent, rfl⟩
      · rw [hsent]
        exact iff_of_true keptIfFailed_ok hgoes
      · rw [hsent]
        refine iff_of_false ?_ hrefused
        rw [keptIfFailed_error]
        exact not_kept_without_offer hasked.isOffered (by rw [← htaken])

/-! ## `resume_stream_transfer` -/

/-- The files of a record are reopened, for a transfer that nothing stands in the way of. -/
structure Peer.Reopens (peer : Peer) (offer : IncomingOffer) (recovery : StreamRecoveryRecord) (answers : Nat → Answer)
    (segmentBytes : Nat) (files : List ReceiveFileState) : Prop where
  streamed : offer.mode = .streamed segmentBytes
  reopened : Peer.reopenFiles peer.disk segmentBytes answers 0 (offer.files.zip recovery.files) = .ok files
  complete : files.length = offer.files.length
  noOutgoing : peer.outgoing = none
  noReceive : peer.receive = none

theorem Peer.Reopens.unique {offer : IncomingOffer} {recovery : StreamRecoveryRecord} {answers : Nat → Answer}
    {segmentBytes other : Nat} {files found : List ReceiveFileState}
    (h : peer.Reopens offer recovery answers segmentBytes files) (hother : peer.Reopens offer recovery answers other found) :
    segmentBytes = other ∧ files = found := by
  obtain rfl : segmentBytes = other := TransferMode.streamed.inj (h.streamed.symm.trans hother.streamed)
  exact ⟨rfl, Except.ok.inj (h.reopened.symm.trans hother.reopened)⟩

/-- The transfer was paused, the record and its files are as they should be, but the cursors cannot be sent. -/
def Peer.LosesByResuming (peer : Peer) (refuses : Refusals) (transferId : String)
    (permissions : Except BrowserPlatformError (List FilePermission)) (answers : Nat → Answer) : Prop :=
  peer.isRestoring transferId = false ∧ peer.pausedReceiveReason ≠ none ∧
    ∃ offer recovery values segmentBytes files, peer.incoming = some offer ∧ peer.pendingRecovery = some recovery ∧
      offer.transferId = transferId ∧ recovery.transferId = transferId ∧ permissions = .ok values ∧
      values.all (· == .granted) = true ∧ peer.Reopens offer recovery answers segmentBytes files ∧
      ∀ channel, peer.dataChannel = some ⟨channel, true⟩ →
        ¬StreamReadyGoes refuses transferId segmentBytes (offer.files.zipWith Peer.resumeCursor files)

omit [Blake3] in
/-- Everything is put back but the reason of the pause, if that was dropped. -/
theorem kept_afterResume {next : Peer} {offer : IncomingOffer} {recovery : StreamRecoveryRecord}
    (hoffered : peer.incoming = some offer) (hrecovery : peer.pendingRecovery = some recovery)
    (hreceive : next.receive = peer.receive) :
    Kept peer { next with restoringTransfer := none, incoming := some offer, pendingRecovery := some recovery } ↔
      next.pausedReceiveReason = peer.pausedReceiveReason :=
  ⟨fun h => h.pausedReceiveReason, fun h => ⟨hoffered.symm, hrecovery.symm, hreceive, h⟩⟩

omit [Blake3] in
/-- The cursors of a transfer that was restored go out, or the call fails with nothing changed but what was sent. -/
theorem sendStreamResumeThrough_restored (refuses : Refusals) {offer : IncomingOffer} {segmentBytes : Nat} {files : List ReceiveFileState}
    (hreceive : peer.receive = some (Peer.restoredReceive offer segmentBytes files)) :
    ((∃ next, peer.sendStreamResumeThrough refuses offer.transferId = (.ok (), next)) ∧
        ∃ channel, peer.dataChannel = some ⟨channel, true⟩ ∧
          StreamReadyGoes refuses offer.transferId segmentBytes (offer.files.zipWith Peer.resumeCursor files)) ∨
      ((∃ error sent, peer.sendStreamResumeThrough refuses offer.transferId = (.error error, { peer with sent })) ∧
        ∀ channel, peer.dataChannel = some ⟨channel, true⟩ →
          ¬StreamReadyGoes refuses offer.transferId segmentBytes (offer.files.zipWith Peer.resumeCursor files)) := by
  cases hchannel : peer.currentDataChannel with
  | error error =>
    have hfailed : peer.sendStreamResumeThrough refuses offer.transferId = (.error error, peer) := by
      unfold Peer.sendStreamResumeThrough
      rw [hreceive, hchannel]
      exact if_neg (by rw [not_not]; rfl)
    refine .inr ⟨⟨error, peer.sent, hfailed⟩, ?_⟩
    intro channel hopen
    rw [Peer.currentDataChannel_of_open hopen] at hchannel
    cases hchannel
  | ok channel =>
    have hopen := Peer.currentDataChannel_ok hchannel
    have hcontinues : peer.sendStreamResumeThrough refuses offer.transferId =
        peer.sendStreamReadyThrough refuses channel offer.transferId segmentBytes
          (offer.files.zipWith Peer.resumeCursor files) := by
      unfold Peer.sendStreamResumeThrough
      rw [hreceive, hchannel]
      exact if_neg (by rw [not_not]; rfl)
    rcases sendStreamReadyThrough_cases hopen segmentBytes (offer.files.zipWith Peer.resumeCursor files) with
      ⟨hgoes, next, hsent⟩ | ⟨hrefused, error, next, hsent, sent, rfl⟩
    · exact .inl ⟨⟨next, hcontinues.trans hsent⟩, channel, hopen, hgoes⟩
    · exact .inr ⟨⟨error, sent, hcontinues.trans hsent⟩, fun _ _ => hrefused⟩

theorem restoreThrough_cases (refuses : Refusals) {offer : IncomingOffer} {recovery : StreamRecoveryRecord} {answers : Nat → Answer}
    (hrestoring : peer.isRestoring offer.transferId = true) :
    (∃ segmentBytes files, peer.Reopens offer recovery answers segmentBytes files ∧
        ((∃ next, peer.restoreThrough refuses offer recovery answers = (.ok (), next)) ∧
            (∃ channel, peer.dataChannel = some ⟨channel, true⟩ ∧
              StreamReadyGoes refuses offer.transferId segmentBytes (offer.files.zipWith Peer.resumeCursor files)) ∨
          (∃ error next, peer.restoreThrough refuses offer recovery answers = (.error error, next) ∧
              next.receive = none ∧ next.pausedReceiveReason = none) ∧
            ∀ channel, peer.dataChannel = some ⟨channel, true⟩ →
              ¬StreamReadyGoes refuses offer.transferId segmentBytes (offer.files.zipWith Peer.resumeCursor files))) ∨
      (¬∃ segmentBytes files, peer.Reopens offer recovery answers segmentBytes files) ∧
        ∃ error, peer.restoreThrough refuses offer recovery answers = (.error error, peer) := by
  unfold Peer.restoreThrough
  split
  · rename_i hmode
    refine .inr ⟨?_, _, rfl⟩
    rintro ⟨segmentBytes, files, hreopens⟩
    have hstreamed := hreopens.streamed
    rw [hmode] at hstreamed
    cases hstreamed
  · rename_i segmentBytes hmode
    have hsegment : ∀ {other files}, peer.Reopens offer recovery answers other files → other = segmentBytes := by
      intro other files hreopens
      have hstreamed := hreopens.streamed
      rw [hmode] at hstreamed
      exact (TransferMode.streamed.inj hstreamed).symm
    cases hreopened : Peer.reopenFiles peer.disk segmentBytes answers 0 (offer.files.zip recovery.files) with
    | error error =>
      refine .inr ⟨?_, error, rfl⟩
      rintro ⟨other, files, hreopens⟩
      obtain rfl := hsegment hreopens
      have hfiles := hreopens.reopened
      rw [hreopened] at hfiles
      cases hfiles
    | ok files =>
      have hfiles : ∀ {other found}, peer.Reopens offer recovery answers other found → found = files := by
        intro other found hreopens
        obtain rfl := hsegment hreopens
        have hfound := hreopens.reopened
        rw [hreopened] at hfound
        exact (Except.ok.inj hfound).symm
      dsimp only
      by_cases hcount : files.length ≠ offer.files.length
      · rw [if_pos hcount]
        refine .inr ⟨?_, _, rfl⟩
        rintro ⟨other, found, hreopens⟩
        obtain rfl := hfiles hreopens
        exact hcount hreopens.complete
      · rw [if_neg hcount]
        by_cases hbusy : ¬peer.isRestoring offer.transferId ∨ peer.outgoing.isSome ∨ peer.receive.isSome
        · rw [if_pos hbusy]
          refine .inr ⟨?_, _, rfl⟩
          rintro ⟨other, found, hreopens⟩
          rcases hbusy with hnot | hsome | hsome
          · exact hnot hrestoring
          · rw [hreopens.noOutgoing] at hsome
            cases hsome
          · rw [hreopens.noReceive] at hsome
            cases hsome
        · rw [if_neg hbusy]
          rw [not_or, not_or, Option.not_isSome_iff_eq_none, Option.not_isSome_iff_eq_none] at hbusy
          refine .inl ⟨segmentBytes, files, ⟨hmode, hreopened, not_not.mp hcount, hbusy.2.1, hbusy.2.2⟩, ?_⟩
          generalize hrestored : ({ peer with
            restoringTransfer := none
            incoming := none
            pendingRecovery := none
            pausedReceiveReason := none
            receive := some (Peer.restoredReceive offer segmentBytes files) } : Peer) = restored
          have hreceive : restored.receive = some (Peer.restoredReceive offer segmentBytes files) := by rw [← hrestored]
          have hchannel : restored.dataChannel = peer.dataChannel := by rw [← hrestored]
          rcases sendStreamResumeThrough_restored refuses hreceive with
            ⟨⟨next, hsent⟩, hgoes⟩ | ⟨⟨error, sent, hsent⟩, hrefused⟩
          · rw [hsent]
            rw [hchannel] at hgoes
            exact .inl ⟨⟨next, rfl⟩, hgoes⟩
          · rw [hsent]
            rw [hchannel] at hrefused
            refine .inr ⟨⟨error, _, rfl, rfl, ?_⟩, hrefused⟩
            rw [← hrestored]

theorem resumeStreamThrough_kept {permissions : Except BrowserPlatformError (List FilePermission)} {answers : Nat → Answer} :
    KeptIfFailed peer (peer.resumeStreamThrough refuses transferId permissions answers) ↔
      ¬peer.LosesByResuming refuses transferId permissions answers := by
  unfold Peer.resumeStreamThrough
  cases hrestoring : peer.isRestoring transferId with
  | true =>
    refine iff_of_true keptIfFailed_ok ?_
    rintro ⟨hnot, -⟩
    rw [hrestoring] at hnot
    cases hnot
  | false =>
    rw [if_neg Bool.false_ne_true]
    split
    · rename_i hnone
      refine iff_of_true (keptIfFailed_error.mpr (.refl peer)) ?_
      rintro ⟨-, -, offer, recovery, values, segmentBytes, files, hoffered, -⟩
      rw [hnone] at hoffered
      cases hoffered
    · rename_i offer hoffered hnone
      refine iff_of_true (keptIfFailed_error.mpr (.refl peer)) ?_
      rintro ⟨-, -, other, recovery, values, segmentBytes, files, -, hrecovery, -⟩
      rw [hnone] at hrecovery
      cases hrecovery
    · rename_i offer recovery hoffered hrecovery
      have hsame : ∀ {other found}, peer.incoming = some other → peer.pendingRecovery = some found →
          other = offer ∧ found = recovery := by
        intro other found hother hfound
        rw [hoffered] at hother
        rw [hrecovery] at hfound
        exact ⟨(Option.some.inj hother).symm, (Option.some.inj hfound).symm⟩
      split
      · rename_i hids
        refine iff_of_true (keptIfFailed_error.mpr (.refl peer)) ?_
        rintro ⟨-, -, other, found, values, segmentBytes, files, hother, hfound, hofferId, hrecoveryId, -⟩
        obtain ⟨rfl, rfl⟩ := hsame hother hfound
        rcases hids with hdiffers | hdiffers
        · exact hdiffers hofferId
        · exact hdiffers hrecoveryId
      · rename_i hids
        rw [not_or, not_not, not_not] at hids
        obtain ⟨rfl, hrecoveryId⟩ := hids
        cases permissions with
        | error error =>
          refine iff_of_true (keptIfFailed_error.mpr ((kept_afterResume hoffered hrecovery rfl).mpr rfl)) ?_
          rintro ⟨-, -, other, found, values, segmentBytes, files, -, -, -, -, hvalues, -⟩
          cases hvalues
        | ok values =>
          dsimp only
          by_cases hgranted : values.all (· == .granted) = true
          · rw [if_pos hgranted]
            generalize htaken : ({ peer with
              incoming := none, pendingRecovery := none, restoringTransfer := some offer.transferId } : Peer) = taken
            have htakenRestoring : taken.isRestoring offer.transferId = true := by
              rw [← htaken]
              exact beq_self_eq_true _
            have hreopensIff : ∀ {other : Nat} {found}, taken.Reopens offer recovery answers other found ↔
                peer.Reopens offer recovery answers other found := by
              intro other found
              rw [← htaken]
              exact ⟨fun ⟨h₁, h₂, h₃, h₄, h₅⟩ => ⟨h₁, h₂, h₃, h₄, h₅⟩, fun ⟨h₁, h₂, h₃, h₄, h₅⟩ => ⟨h₁, h₂, h₃, h₄, h₅⟩⟩
            have hchannel : taken.dataChannel = peer.dataChannel := by rw [← htaken]
            have htakenReceive : taken.receive = peer.receive := by rw [← htaken]
            have htakenReason : taken.pausedReceiveReason = peer.pausedReceiveReason := by rw [← htaken]
            rcases restoreThrough_cases refuses htakenRestoring with
              ⟨segmentBytes, files, hreopens, ⟨⟨next, hok⟩, channel, hopen, hgoes⟩ |
                ⟨⟨error, next, hfailed, hreceive, hreason⟩, hrefused⟩⟩ | ⟨hnothing, error, hfailed⟩
            · rw [hok]
              refine iff_of_true keptIfFailed_ok ?_
              rintro ⟨-, -, other, found, _, segment, reopened, hother, hfound, -, -, -, -, hreopened, hrefused⟩
              obtain ⟨rfl, rfl⟩ := hsame hother hfound
              obtain ⟨rfl, rfl⟩ := (hreopensIff.mp hreopens).unique hreopened
              exact hrefused channel (by rw [← hchannel]; exact hopen) hgoes
            · rw [hfailed, keptIfFailed_error, kept_afterResume hoffered hrecovery
                (by rw [hreceive, ← htakenReceive, hreopens.noReceive]), hreason]
              constructor
              · rintro hnone ⟨-, hpaused, -⟩
                exact hpaused hnone.symm
              · intro hkeeps
                by_contra hpaused
                refine hkeeps ⟨hrestoring, fun hnone => hpaused hnone.symm, offer, recovery, values, segmentBytes, files, hoffered,
                  hrecovery, rfl, hrecoveryId, rfl, hgranted, hreopensIff.mp hreopens, ?_⟩
                rw [← hchannel]
                exact hrefused
            · rw [hfailed]
              refine iff_of_true (keptIfFailed_error.mpr ((kept_afterResume hoffered hrecovery htakenReceive).mpr htakenReason))
                ?_
              rintro ⟨-, -, other, found, _, segment, reopened, hother, hfound, -, -, -, -, hreopened, -⟩
              obtain ⟨rfl, rfl⟩ := hsame hother hfound
              exact hnothing ⟨segment, reopened, hreopensIff.mpr hreopened⟩
          · rw [if_neg hgranted]
            refine iff_of_true (keptIfFailed_error.mpr ((kept_afterResume hoffered hrecovery rfl).mpr rfl)) ?_
            rintro ⟨-, -, other, found, values', segmentBytes, files, -, -, -, -, hvalues, hall, -⟩
            obtain rfl := Except.ok.inj hvalues
            exact hgranted hall

/-! ## The three calls -/

/-- **When a call that fails loses nothing.** -/
theorem failed_decision_kept_iff (refuses : Refusals) (peer : Peer) (transferId : String) :
    (∀ accepted, KeptIfFailed peer (peer.decideThrough refuses transferId accepted) ↔
        ¬peer.LosesByDeciding refuses transferId accepted) ∧
      (∀ writers saved deleted, KeptIfFailed peer (peer.acceptStreamThrough refuses transferId writers saved deleted) ↔
        ¬peer.LosesByAccepting refuses transferId writers) ∧
      ∀ permissions answers, KeptIfFailed peer (peer.resumeStreamThrough refuses transferId permissions answers) ↔
        ¬peer.LosesByResuming refuses transferId permissions answers :=
  ⟨fun _ => decideThrough_kept, fun _ _ _ => acceptStreamThrough_kept, fun _ _ => resumeStreamThrough_kept⟩

omit [Blake3] in
/-- The user declines, the browser refuses to send the decision, and the offer is gone. -/
theorem refused_decision_loses_offer :
    ¬∀ (_ : Blake3) (refuses : Refusals) (peer : Peer) (transferId : String),
      (∀ accepted, KeptIfFailed peer (peer.decideThrough refuses transferId accepted)) ∧
        (∀ writers saved deleted, KeptIfFailed peer (peer.acceptStreamThrough refuses transferId writers saved deleted)) ∧
        ∀ permissions answers, KeptIfFailed peer (peer.resumeStreamThrough refuses transferId permissions answers) := by
  intro hclaim
  let offer : IncomingOffer :=
    { transferId := formatBinaryId "transfer" (Vector.replicate 16 0), transferBytes := Vector.replicate 16 0,
      mode := .buffered, files := [⟨Vector.replicate 16 0, { name := "a", mime := none, sizeBytes := 1 }⟩] }
  have hkept := (hclaim ⟨fun _ => ""⟩ (fun _ => some (.browser "OperationError"))
    { dataChannel := some ⟨0, true⟩, incoming := some offer } offer.transferId).1 false
  refine decideThrough_kept.mp hkept ⟨0, offer, ⟨rfl, rfl, rfl⟩, ?_⟩
  rw [if_neg (by simp)]
  rintro ⟨-, hnone⟩
  cases hnone

end Failures

/-! ## Where nothing is refused -/

section Unrefused

variable {peer : Peer} {channel : ChannelId} {message : ControlMessage}

omit [Blake3] in
theorem sendControlThrough_unrefused :
    peer.sendControlThrough (fun _ => none) channel message = peer.sendControlOn channel message := by
  unfold Peer.sendControlThrough
  cases peer.sendControlOn channel message with
  | error error => rfl
  | ok next => rfl

omit [Blake3] in
/-- The call is the one of the tasks. -/
theorem decideThrough_unrefused (transferId : String) (accepted : Bool) :
    peer.decideThrough (fun _ => none) transferId accepted = peer.decideTransfer transferId accepted := by
  unfold Peer.decideThrough Peer.withAsked Peer.decideTransfer
  simp only [sendControlThrough_unrefused] <;> rfl

end Unrefused

end P2PTransmission.Rtc
