import P2PTransmission.Foundation.TreeMap
import P2PTransmission.Rtc.Control

/-!
# What does not concern the sender

Most of what happens to a peer leaves its outgoing transfer alone, suspends it or drops it, and starts no task that sends.
`Passes may peer next` says so of one piece of the program; `may` is what the tasks at work may become in it.
-/

set_option autoImplicit false

namespace P2PTransmission.Rtc

/-- The task neither sends a transfer nor installs one. -/
def Task.isAside : Task → Bool
  | .send _ _ _ | .offer _ | .restoreOutgoing _ _ | .resumeOutgoing _ => false
  | _ => true

/-! ## The outgoing transfer -/

/-- The part of the state of a file that is its committed checkpoint. -/
def OutgoingFileState.committed (file : OutgoingFileState) : BinaryId × TransferFile × Nat × Hasher × Option String :=
  (file.fileBytes, file.file, file.committedBytes, file.committedHasher, file.lastSegmentBlake3)

/-- The transfer waits for another connection. -/
structure OutgoingState.Waits (outgoing next : OutgoingState) : Prop where
  bounded : next.generation ≤ U64_MAX
  notBefore : outgoing.generation ≤ U64_MAX → outgoing.generation ≤ next.generation
  later : outgoing.generation < U64_MAX → outgoing.generation < next.generation
  accepted : next.accepted = false
  streamReady : next.streamReady = none
  sending : next.sending = false

/-- The transfer goes on as before. -/
structure OutgoingState.GoesOn (outgoing next : OutgoingState) : Prop where
  generation : next.generation = outgoing.generation
  accepted : next.accepted = outgoing.accepted
  streamReady : next.streamReady = outgoing.streamReady
  sending : next.sending = outgoing.sending

/-- The same transfer with the same committed checkpoint: it goes on or, if it is streamed, waits for another connection. -/
structure OutgoingState.Follows (outgoing next : OutgoingState) : Prop where
  transferId : next.transferId = outgoing.transferId
  mode : next.mode = outgoing.mode
  committed : next.files.map (·.committed) = outgoing.files.map (·.committed)
  goesOn : outgoing.GoesOn next ∨ (outgoing.isStreamed = true ∧ outgoing.Waits next)

namespace OutgoingState

variable {outgoing next last : OutgoingState}

theorem GoesOn.refl (outgoing : OutgoingState) : outgoing.GoesOn outgoing := ⟨rfl, rfl, rfl, rfl⟩

theorem Waits.trans (h : outgoing.Waits next) (h' : next.Waits last) : outgoing.Waits last where
  bounded := h'.bounded
  notBefore hle := (h.notBefore hle).trans (h'.notBefore h.bounded)
  later hlt := (h.later hlt).trans_le (h'.notBefore h.bounded)
  accepted := h'.accepted
  streamReady := h'.streamReady
  sending := h'.sending

theorem Waits.goesOn (h : outgoing.Waits next) (h' : next.GoesOn last) : outgoing.Waits last where
  bounded := by rw [h'.generation]; exact h.bounded
  notBefore := by rw [h'.generation]; exact h.notBefore
  later := by rw [h'.generation]; exact h.later
  accepted := h'.accepted.trans h.accepted
  streamReady := h'.streamReady.trans h.streamReady
  sending := h'.sending.trans h.sending

theorem GoesOn.waits (h : outgoing.GoesOn next) (h' : next.Waits last) : outgoing.Waits last where
  bounded := h'.bounded
  notBefore := by rw [← h.generation]; exact h'.notBefore
  later := by rw [← h.generation]; exact h'.later
  accepted := h'.accepted
  streamReady := h'.streamReady
  sending := h'.sending

theorem GoesOn.trans (h : outgoing.GoesOn next) (h' : next.GoesOn last) : outgoing.GoesOn last :=
  ⟨h'.generation.trans h.generation, h'.accepted.trans h.accepted, h'.streamReady.trans h.streamReady,
    h'.sending.trans h.sending⟩

theorem Follows.refl (outgoing : OutgoingState) : outgoing.Follows outgoing := ⟨rfl, rfl, rfl, .inl (.refl outgoing)⟩

theorem isStreamed_congr (h : next.mode = outgoing.mode) : next.isStreamed = outgoing.isStreamed := by
  unfold isStreamed
  rw [h]

theorem Follows.trans (h : outgoing.Follows next) (h' : next.Follows last) : outgoing.Follows last where
  transferId := h'.transferId.trans h.transferId
  mode := h'.mode.trans h.mode
  committed := h'.committed.trans h.committed
  goesOn := by
    rcases h.goesOn with hgoes | ⟨hstreamed, hwaits⟩ <;> rcases h'.goesOn with hgoes' | ⟨hstreamed', hwaits'⟩
    · exact .inl (hgoes.trans hgoes')
    · exact .inr ⟨(isStreamed_congr h.mode).symm.trans hstreamed', hgoes.waits hwaits'⟩
    · exact .inr ⟨hstreamed, hwaits.goesOn hgoes'⟩
    · exact .inr ⟨hstreamed, hwaits.trans hwaits'⟩

theorem suspended_waits (outgoing : OutgoingState) : outgoing.Waits outgoing.suspended where
  bounded := Nat.min_le_right _ _
  notBefore hle := Nat.le_min.mpr ⟨Nat.le_succ _, hle⟩
  later hlt := Nat.lt_min.mpr ⟨Nat.lt_succ_self _, hlt⟩
  accepted := rfl
  streamReady := rfl
  sending := rfl

theorem suspended_follows (h : outgoing.isStreamed = true) : outgoing.Follows outgoing.suspended :=
  ⟨rfl, rfl, rfl, .inr ⟨h, outgoing.suspended_waits⟩⟩

end OutgoingState

/-! ## A piece of the program -/

namespace Peer

structure Passes (may : TaskId → Task → Prop) (peer next : Peer) : Prop where
  channel : next.dataChannel = peer.dataChannel
  outgoing : ∀ now, next.outgoing = some now → ∃ outgoing, peer.outgoing = some outgoing ∧ outgoing.Follows now
  nextTask : peer.nextTask ≤ next.nextTask
  tasks : ∀ m, next.tasks[m]? = peer.tasks[m]? ∨ ∃ task, next.tasks[m]? = some task ∧
    (may m task ∨ (peer.nextTask ≤ m ∧ m < next.nextTask ∧ task.isAside = true))

/-- The task at work stays one that does not concern the sender. -/
def StaysAside (n : TaskId) (m : TaskId) (task : Task) : Prop := m = n ∧ task.isAside = true

/-- No task is at work. -/
def NoTask (_ : TaskId) (_ : Task) : Prop := False

namespace Passes

variable {may : TaskId → Task → Prop} {peer next last : Peer}

/-- Other parts of the state. -/
theorem of_eq (hchannel : next.dataChannel = peer.dataChannel) (houtgoing : next.outgoing = peer.outgoing)
    (htasks : next.tasks = peer.tasks) (hnext : next.nextTask = peer.nextTask) : peer.Passes may next where
  channel := hchannel
  outgoing now h := ⟨now, by rw [← houtgoing, h], .refl now⟩
  nextTask := by rw [hnext]
  tasks m := .inl (by rw [htasks])

theorem refl (peer : Peer) : peer.Passes may peer := of_eq rfl rfl rfl rfl

theorem trans (h : peer.Passes may next) (h' : next.Passes may last) : peer.Passes may last where
  channel := h'.channel.trans h.channel
  outgoing now hlast := by
    obtain ⟨between, hbetween, hfollows'⟩ := h'.outgoing now hlast
    obtain ⟨outgoing, hout, hfollows⟩ := h.outgoing between hbetween
    exact ⟨outgoing, hout, hfollows.trans hfollows'⟩
  nextTask := h.nextTask.trans h'.nextTask
  tasks m := by
    rcases h'.tasks m with hsame | ⟨task, htask, hmay⟩
    · rw [hsame]
      rcases h.tasks m with h | ⟨task, htask, hmay⟩
      · exact .inl h
      · refine .inr ⟨task, htask, hmay.imp id ?_⟩
        rintro ⟨hle, hlt, haside⟩
        exact ⟨hle, hlt.trans_le h'.nextTask, haside⟩
    · refine .inr ⟨task, htask, hmay.imp id ?_⟩
      rintro ⟨hle, hlt, haside⟩
      exact ⟨h.nextTask.trans hle, hlt, haside⟩

theorem emit (peer : Peer) (event : RtcEvent) : peer.Passes may (peer.emit event) := of_eq rfl rfl rfl rfl

theorem fail (peer : Peer) (transferId : Option String) (message : String) :
    peer.Passes may (peer.fail transferId message) := of_eq rfl rfl rfl rfl

theorem withSent (peer : Peer) (channel : ChannelId) (frame : Frame) : peer.Passes may (peer.withSent channel frame) :=
  of_eq rfl rfl rfl rfl

theorem trySendControl (peer : Peer) (message : ControlMessage) : peer.Passes may (peer.trySendControl message) := by
  rcases trySendControl_cases peer message with h | ⟨channel, -, h⟩
  · rw [h]
    exact refl peer
  · rw [h]
    exact withSent peer channel _

theorem sendTransferError (peer : Peer) (transferId code message : String) :
    peer.Passes may (peer.sendTransferError transferId code message) := trySendControl peer _

theorem sendControlOn {channel : ChannelId} {message : ControlMessage} (h : peer.sendControlOn channel message = .ok next) :
    peer.Passes may next := by
  obtain ⟨-, -, rfl⟩ := sendControlOn_ok h
  exact withSent peer channel _

theorem sendControl {message : ControlMessage} (h : peer.sendControl message = .ok next) : peer.Passes may next := by
  obtain ⟨channel, -, -, rfl⟩ := sendControl_ok h
  exact withSent peer channel _

theorem sendStreamResume {transferId : String} (h : peer.sendStreamResume transferId = .ok next) :
    peer.Passes may next := by
  obtain ⟨_, _, _, _, channel, -, -, -, -, rfl⟩ := sendStreamResume_ok h
  exact (withSent peer channel _).trans (withSent _ channel _)

theorem spawn (peer : Peer) {task : Task} (haside : task.isAside = true) : peer.Passes may (peer.spawn task) where
  channel := rfl
  outgoing now h := ⟨now, h, .refl now⟩
  nextTask := Nat.le_succ _
  tasks m := by
    show (peer.tasks.insert peer.nextTask task)[m]? = _ ∨ _
    by_cases hm : peer.nextTask = m
    · subst hm
      right
      refine ⟨task, ?_, .inr ⟨Nat.le_refl _, Nat.lt_succ_self _, haside⟩⟩
      show (peer.tasks.insert peer.nextTask task)[peer.nextTask]? = _
      rw [BTreeMap.getElem?_insert, if_pos rfl]
    · left
      rw [BTreeMap.getElem?_insert, if_neg hm]

theorem setTask (peer : Peer) {n : TaskId} {task : Task} (hmay : may n task) : peer.Passes may (peer.setTask n task) where
  channel := rfl
  outgoing now h := ⟨now, h, .refl now⟩
  nextTask := Nat.le_refl _
  tasks m := by
    show (peer.tasks.insert n task)[m]? = _ ∨ _
    by_cases hm : n = m
    · subst hm
      right
      refine ⟨task, ?_, .inl hmay⟩
      show (peer.tasks.insert n task)[n]? = _
      rw [BTreeMap.getElem?_insert, if_pos rfl]
    · left
      rw [BTreeMap.getElem?_insert, if_neg hm]

theorem spawnDeleteStream (peer : Peer) (delete : Bool) (transferId : String) :
    peer.Passes may (peer.spawnDeleteStream delete transferId) := by
  unfold Peer.spawnDeleteStream
  cases delete
  · exact refl peer
  · exact spawn peer rfl

theorem spawnDeleteOutgoing (peer : Peer) (recoveryPeer : Option String) :
    peer.Passes may (peer.spawnDeleteOutgoing recoveryPeer) := by
  unfold Peer.spawnDeleteOutgoing
  cases recoveryPeer
  · exact refl peer
  · exact spawn peer rfl

/-- The outgoing transfer is gone, or as it was. -/
theorem of_none (hchannel : next.dataChannel = peer.dataChannel)
    (houtgoing : next.outgoing = peer.outgoing ∨ next.outgoing = none)
    (htasks : next.tasks = peer.tasks) (hnext : next.nextTask = peer.nextTask) : peer.Passes may next where
  channel := hchannel
  outgoing now h := by
    rcases houtgoing with hsame | hnone
    · exact ⟨now, by rw [← hsame, h], .refl now⟩
    · rw [hnone] at h
      cases h
  nextTask := by rw [hnext]
  tasks m := .inl (by rw [htasks])

theorem withoutTransfer (peer : Peer) (transferId : String) : peer.Passes may (peer.withoutTransfer transferId) := by
  have houtgoing : (peer.withoutTransfer transferId).outgoing = peer.outgoing ∨
      (peer.withoutTransfer transferId).outgoing = none := by
    unfold Peer.withoutTransfer
    cases peer.sends transferId
    · exact .inl rfl
    · exact .inr rfl
  exact of_none rfl houtgoing rfl rfl

theorem clearTransfer (peer : Peer) (transferId : String) : peer.Passes may (peer.clearTransfer transferId) :=
  ((withoutTransfer peer transferId).trans (spawnDeleteStream _ _ _)).trans (spawnDeleteOutgoing _ _)

theorem suspendStreamForReconnect (peer : Peer) : peer.Passes may peer.suspendStreamForReconnect where
  channel := rfl
  outgoing now h := by
    obtain ⟨outgoing, hout, hnow⟩ := Option.map_eq_some_iff.mp h
    refine ⟨outgoing, hout, ?_⟩
    cases hstreamed : outgoing.isStreamed with
    | false =>
      rw [hstreamed] at hnow
      rw [← hnow]
      exact .refl outgoing
    | true =>
      rw [hstreamed] at hnow
      rw [← hnow]
      exact OutgoingState.suspended_follows hstreamed
  nextTask := Nat.le_refl _
  tasks _ := .inl rfl

/-- A failure of the transfer that is received. -/
theorem dropped (peer : Peer) (transferId code message text : String) :
    peer.Passes may (((peer.clearTransfer transferId).sendTransferError transferId code message).fail (some transferId)
      text) :=
  ((clearTransfer peer transferId).trans (sendTransferError _ _ _ _)).trans (fail _ _ _)

/-! ## Frames -/

section Frames

variable [Blake3]

omit [Blake3] in
theorem handleBinary (peer : Peer) (frame : Bytes) : peer.Passes may (peer.handleBinary frame) := by
  unfold Peer.handleBinary
  split
  · exact fail _ _ _
  · split
    · split
      · exact refl peer
      · exact fail _ _ _
    · split
      · exact of_eq rfl rfl rfl rfl
      · exact dropped _ _ _ _ _

theorem handleSegmentCommit (peer : Peer) (commit : SegmentCommit) : peer.Passes may (peer.handleSegmentCommit commit) := by
  unfold Peer.handleSegmentCommit
  split
  · exact dropped _ _ _ _ _
  · rename_i receive segment writer _
    exact (of_eq rfl rfl rfl rfl : peer.Passes may { peer with receive := some receive }).trans (spawn _ rfl)

omit [Blake3] in
theorem handleStart (peer : Peer) (transferId : String) : peer.Passes may (peer.handleStart transferId) := by
  unfold Peer.handleStart
  split
  · exact fail _ _ _
  · split
    · exact fail _ _ _
    · exact of_eq rfl rfl rfl rfl

omit [Blake3] in
theorem handleOffer (peer : Peer) (offer : IncomingOffer) : peer.Passes may (peer.handleOffer offer) := by
  unfold Peer.handleOffer
  split
  · exact sendTransferError _ _ _ _
  · exact sendTransferError _ _ _ _
  · exact trySendControl _ _
  · have hwaits : peer.Passes may (peer.withReceive fun receive => { receive with started := false }) :=
      of_eq rfl rfl rfl rfl
    refine hwaits.trans ?_
    dsimp only
    split
    · exact fail _ _ _
    · rename_i hresume
      exact sendStreamResume hresume
  · exact of_eq rfl rfl rfl rfl
  · have hrestoring : peer.Passes may { peer with restoringTransfer := some offer.transferId } := of_eq rfl rfl rfl rfl
    exact hrestoring.trans (spawn _ rfl)
  · exact refl peer

omit [Blake3] in
theorem handleManifest (peer : Peer) (transferId : String) (mode : TransferMode) (files : List FileManifest) :
    peer.Passes may (peer.handleManifest transferId mode files) := by
  unfold Peer.handleManifest
  split
  · exact sendTransferError _ _ _ _
  · exact handleOffer peer _

theorem finishStreamReceive (peer : Peer) (transferId : String) (totalBytes : Nat) (digests : List FileDigest) :
    peer.Passes may (peer.finishStreamReceive transferId totalBytes digests) := by
  unfold Peer.finishStreamReceive
  split
  · exact refl peer
  · have htaken : peer.Passes may { peer with receive := none } := of_eq rfl rfl rfl rfl
    refine htaken.trans ?_
    split
    · exact (sendTransferError _ _ _ _).trans (fail _ _ _)
    · exact spawn _ rfl

theorem finishReceive (peer : Peer) (transferId : String) (bytes : Nat) (blake3 : String) (download : Download) :
    peer.Passes may (peer.finishReceive transferId bytes blake3 download) := by
  unfold Peer.finishReceive
  split
  · exact refl peer
  · have htaken : peer.Passes may { peer with receive := none } := of_eq rfl rfl rfl rfl
    refine htaken.trans ?_
    split
    · exact fail _ _ _
    · split
      · exact (sendTransferError _ _ _ _).trans (fail _ _ _)
      · split
        · exact fail _ _ _
        · exact fail _ _ _
        · exact fail _ _ _
        · exact (trySendControl _ _).trans (emit _ _)

/-- The outgoing transfer is verified. -/
theorem streamVerified (peer : Peer) (transferId : String) (totalBytes : Nat) (digests : List FileDigest) :
    peer.Passes may (peer.streamVerified transferId totalBytes digests) := by
  unfold Peer.streamVerified
  split
  · exact fail _ _ _
  · split
    · exact fail _ _ _
    · have hgone : peer.Passes may { peer with outgoing := none } := of_none rfl (.inr rfl) rfl rfl
      exact (hgone.trans (emit _ _)).trans (spawnDeleteOutgoing _ _)

omit [Blake3] in
theorem bufferedVerified (peer : Peer) (transferId : String) (bytes : Nat) (blake3 : String) :
    peer.Passes may (peer.bufferedVerified transferId bytes blake3) := by
  unfold Peer.bufferedVerified
  split
  · exact fail _ _ _
  · split
    · exact fail _ _ _
    · have hgone : peer.Passes may { peer with outgoing := none } := of_none rfl (.inr rfl) rfl rfl
      exact hgone.trans (emit _ _)

omit [Blake3] in
theorem dataChannelOpened (peer : Peer) : peer.Passes may peer.dataChannelOpened := by
  unfold Peer.dataChannelOpened
  refine (emit peer .dataChannelReady).trans ?_
  dsimp only
  split
  · exact refl _
  · split
    · split
      · exact fail _ _ _
      · rename_i hsend
        exact sendControl hsend
    · exact refl _

end Frames

/-! ## Commands of the application -/

section Commands

variable [Blake3]

omit [Blake3] in
theorem decideTransfer (peer : Peer) (transferId : String) (accepted : Bool) :
    peer.Passes may (peer.decideTransfer transferId accepted).2 := by
  unfold Peer.decideTransfer
  split
  · exact refl peer
  · exact refl peer
  · split
    · exact refl peer
    · have htaken : peer.Passes may
          { peer with incoming := none, pendingRecovery := none, pausedReceiveReason := none } := of_eq rfl rfl rfl rfl
      refine htaken.trans ?_
      dsimp only
      split
      · split
        · exact of_eq rfl rfl rfl rfl
        · split
          · exact refl _
          · rename_i hsend
            exact (sendControlOn hsend).trans (of_eq rfl rfl rfl rfl)
      · split
        · exact refl _
        · rename_i hsend
          exact ((sendControlOn hsend).trans (emit _ _)).trans (spawn _ rfl)

omit [Blake3] in
theorem acceptStreamTransfer (peer : Peer) (transferId : String) (writers : List StreamingFileWriter) :
    peer.Passes may (peer.acceptStreamTransfer transferId writers) := by
  unfold Peer.acceptStreamTransfer
  split
  · exact spawn _ rfl
  · exact spawn _ rfl
  · split
    · exact spawn _ rfl
    · split
      · exact spawn _ rfl
      · have htaken : peer.Passes may { peer with incoming := none } := of_eq rfl rfl rfl rfl
        exact htaken.trans (spawn _ rfl)
      · have htaken : peer.Passes may
            { peer with incoming := none, pendingRecovery := none, pausedReceiveReason := none } := of_eq rfl rfl rfl rfl
        refine htaken.trans ?_
        dsimp only
        split
        · rename_i offer _ _ _ _ _ _ _
          refine Passes.trans ?_ (spawn _ rfl)
          exact of_eq rfl rfl rfl rfl
        · exact spawn _ rfl

omit [Blake3] in
theorem resumeStreamTransfer (peer : Peer) (transferId : String) :
    peer.Passes may (peer.resumeStreamTransfer transferId) := by
  unfold Peer.resumeStreamTransfer
  split
  · exact spawn _ rfl
  · split
    · exact spawn _ rfl
    · exact spawn _ rfl
    · split
      · exact spawn _ rfl
      · refine Passes.trans ?_ (spawn _ rfl)
        exact of_eq rfl rfl rfl rfl

end Commands

/-! ## Tasks that do not concern the sender -/

section Tasks

variable [Blake3] {n : TaskId}

omit [Blake3] in
theorem setAside (peer : Peer) {task : Task} (haside : task.isAside = true) :
    peer.Passes (StaysAside n) (peer.setTask n task) := setTask peer ⟨rfl, haside⟩

omit [Blake3] in
theorem channelFailed (peer : Peer) (transferId : String) (error : BrowserPlatformError) :
    peer.Passes may (peer.channelFailed transferId error) := by
  unfold Peer.channelFailed
  split
  · exact (suspendStreamForReconnect peer).trans (emit _ _)
  · exact fail _ _ _

omit [Blake3] in
theorem answerSegment (peer : Peer) (segment : SegmentWrite) (resumeRequested : Bool) :
    peer.Passes may (peer.answerSegment segment resumeRequested) := by
  unfold Peer.answerSegment
  split
  · split
    · exact fail _ _ _
    · rename_i hresume
      exact sendStreamResume hresume
  · split
    · exact channelFailed _ _ _
    · rename_i hsend
      exact sendControl hsend

omit [Blake3] in
theorem writeFailed (peer : Peer) (transferId code message : String) (error : BrowserPlatformError) :
    peer.Passes may (peer.writeFailed transferId code message error) := dropped _ _ _ _ _

omit [Blake3] in
theorem endWrite (peer : Peer) (segment : SegmentWrite) : peer.Passes (StaysAside n) (peer.endWrite n segment) :=
  setAside peer rfl

omit [Blake3] in
theorem writerFailed (peer : Peer) (segment : SegmentWrite) (code message : String) (error : BrowserPlatformError) :
    peer.Passes (StaysAside n) (peer.writerFailed n segment code message error) := by
  unfold Peer.writerFailed
  split
  · exact endWrite _ _
  · split
    · exact setAside _ rfl
    · exact (endWrite _ _).trans (writeFailed _ _ _ _ _)

omit [Blake3] in
theorem segmentWritten (peer : Peer) (segment : SegmentWrite) (writer : StreamingFileWriter) :
    peer.Passes (StaysAside n) (peer.segmentWritten n segment writer) := by
  unfold Peer.segmentWritten
  split
  · exact endWrite _ _
  · split
    · exact ((endWrite _ _).trans (clearTransfer _ _)).trans (fail _ _ _)
    · rename_i next _
      have hnext : peer.Passes (StaysAside n) { peer with receive := some next } := of_eq rfl rfl rfl rfl
      refine hnext.trans ?_
      dsimp only
      split
      · exact setAside _ rfl
      · exact (endWrite _ _).trans (answerSegment _ _ _)

omit [Blake3] in
theorem abortIdle (peer : Peer) (segment : SegmentWrite) (reason : StreamPauseReason)
    (completedBytes totalBytes idleWriters : Nat) :
    peer.Passes (StaysAside n) (peer.abortIdle n segment reason completedBytes totalBytes idleWriters) := by
  unfold Peer.abortIdle
  split
  · refine (endWrite peer segment).trans ?_
    dsimp only
    split
    · exact (trySendControl _ _).trans (emit _ _)
    · exact refl _
  · exact setAside _ rfl

omit [Blake3] in
theorem pauseReceive (peer : Peer) (segment : SegmentWrite) (reason : StreamPauseReason)
    (recovery : StreamRecoveryRecord) :
    peer.Passes (StaysAside n) (peer.pauseReceive n segment reason recovery) := by
  unfold Peer.pauseReceive
  split
  · exact endWrite _ _
  · split
    · exact endWrite _ _
    · rename_i receive _ _
      have hoffered : peer.Passes (StaysAside n)
          { peer with
            receive := none
            incoming := some receive.offer
            pendingRecovery := some recovery
            pausedReceiveReason := some reason } := of_eq rfl rfl rfl rfl
      exact hoffered.trans (abortIdle _ _ _ _ _ _)

omit [Blake3] in
theorem wakeWrite (peer : Peer) (segment : SegmentWrite) (point : WritePoint) (answer : Answer) :
    peer.Passes (StaysAside n) (peer.wakeWrite n segment point answer) := by
  unfold Peer.wakeWrite
  split
  · split
    · exact writerFailed _ _ _ _ _
    · split
      · exact endWrite _ _
      · split
        · exact setAside _ rfl
        · exact segmentWritten _ _ _
  · split
    · exact writerFailed _ _ _ _ _
    · rename_i disk _
      have hdisk : peer.Passes (StaysAside n) { peer with disk } := of_eq rfl rfl rfl rfl
      refine hdisk.trans ?_
      dsimp only
      split
      · exact endWrite _ _
      · exact setAside _ rfl
  · split
    · exact writerFailed _ _ _ _ _
    · split
      · exact endWrite _ _
      · exact segmentWritten _ _ _
  · split
    · split
      · exact endWrite _ _
      · exact setAside _ rfl
    · rename_i recovery resumeRequested _ _
      have hsaved : peer.Passes (StaysAside n)
          { peer with streamRecovery := peer.streamRecovery.insert recovery.transferId recovery } :=
        of_eq rfl rfl rfl rfl
      refine hsaved.trans ?_
      dsimp only
      split
      · exact endWrite _ _
      · exact (endWrite _ _).trans (answerSegment _ _ _)
  · dsimp only
    split
    · exact (endWrite _ _).trans (writeFailed _ _ _ _ _)
    · refine Passes.trans ?_ ((endWrite _ _).trans (writeFailed _ _ _ _ _))
      exact of_eq rfl rfl rfl rfl
  · split
    · exact endWrite _ _
    · exact setAside _ rfl
  · split
    · split
      · exact endWrite _ _
      · exact pauseReceive _ _ _ _
    · exact (endWrite _ _).trans (dropped _ _ _ _ _)
  · exact abortIdle _ _ _ _ _ _
  · exact refl peer

omit [Blake3] in
theorem completionSignalled (peer : Peer) (closing : Closing) (outcome : CompletionSignalOutcome) (message : String) :
    peer.Passes (StaysAside n) (peer.completionSignalled n closing outcome message) := by
  unfold Peer.completionSignalled
  split
  · exact setAside _ rfl
  · exact ((setAside peer rfl).trans (suspendStreamForReconnect _)).trans (emit _ _)
  · exact (setAside peer rfl).trans (fail _ _ _)

omit [Blake3] in
theorem signalCompletion (peer : Peer) (closing : Closing) :
    peer.Passes (StaysAside n) (peer.signalCompletion n closing) := by
  unfold Peer.signalCompletion
  split
  · rename_i hsend
    exact (sendControl hsend).trans (completionSignalled _ _ _ _)
  · exact completionSignalled _ _ _ _

omit [Blake3] in
theorem closeNext (peer : Peer) (closing : Closing) (writers : List StreamingFileWriter) :
    peer.Passes (StaysAside n) (peer.closeNext n closing writers) := by
  induction writers with
  | nil => exact signalCompletion peer closing
  | cons writer writers ih =>
    unfold Peer.closeNext
    split
    · exact ih
    · exact setAside _ rfl

theorem receiveCompleted (peer : Peer) (closing : Closing) :
    peer.Passes (StaysAside n) (peer.receiveCompleted n closing) := (setAside peer rfl).trans (emit _ _)

theorem wakeClose (peer : Peer) (closing : Closing) (point : ClosingPoint) (answer : Answer) :
    peer.Passes (StaysAside n) (peer.wakeClose n closing point answer) := by
  unfold Peer.wakeClose
  split
  · exact signalCompletion _ _
  · split
    · exact ((setAside peer rfl).trans (sendTransferError _ _ _ _)).trans (fail _ _ _)
    · rename_i disk _
      have hdisk : peer.Passes (StaysAside n) { peer with disk } := of_eq rfl rfl rfl rfl
      exact hdisk.trans (closeNext _ _ _)
  · split
    · refine Passes.trans ?_ (receiveCompleted _ _)
      exact of_eq rfl rfl rfl rfl
    · split
      · exact setAside _ rfl
      · exact receiveCompleted _ _
  · exact refl peer

omit [Blake3] in
theorem publishIncomingOffer (peer : Peer) (offer : IncomingOffer) (recovery : Option StreamRecoveryRecord) :
    peer.Passes may (peer.publishIncomingOffer offer recovery) := by
  unfold Peer.publishIncomingOffer
  split
  · exact refl peer
  · refine Passes.trans ?_ (emit _ _)
    exact of_eq rfl rfl rfl rfl

omit [Blake3] in
theorem publishAndEnd (peer : Peer) (offer : IncomingOffer) (recovery : Option StreamRecoveryRecord) :
    peer.Passes (StaysAside n) (peer.publishAndEnd n offer recovery) :=
  (setAside peer rfl).trans (publishIncomingOffer _ _ _)

omit [Blake3] in
theorem restoreReceive (peer : Peer) (offer : IncomingOffer) (segmentBytes : Nat) (files : List ReceiveFileState) :
    peer.Passes may (peer.restoreReceive offer segmentBytes files).2 := by
  unfold Peer.restoreReceive
  split
  · exact refl peer
  · split
    · exact refl peer
    · dsimp only
      split
      · rename_i hresume
        refine Passes.trans ?_ (sendStreamResume hresume)
        exact of_eq rfl rfl rfl rfl
      · exact of_eq rfl rfl rfl rfl

/-- What a restoration has done when it is over. -/
def StepPasses (may : TaskId → Task → Prop) (peer : Peer) : RestoreStep → Prop
  | .wait _ => True
  | .done _ next => peer.Passes may next

omit [Blake3] in
theorem restoreNext (peer : Peer) (restore : Restore) : StepPasses may peer (peer.restoreNext restore) := by
  unfold Peer.restoreNext
  split
  · exact refl peer
  · split
    · exact restoreReceive _ _ _ _
    · split
      · exact refl peer
      · trivial

theorem restoreReopened (peer : Peer) (restore : Restore) (answer : Answer) :
    StepPasses may peer (peer.restoreReopened restore answer) := by
  unfold Peer.restoreReopened
  split
  · split
    · exact refl peer
    · split
      · exact refl peer
      · exact restoreNext _ _
  · exact restoreNext _ _

omit [Blake3] in
theorem lookupRestored (peer : Peer) (offer : IncomingOffer) {step : RestoreStep}
    (h : StepPasses (StaysAside n) peer step) : peer.Passes (StaysAside n) (peer.lookupRestored n offer step) := by
  unfold Peer.lookupRestored
  split
  · exact setAside _ rfl
  · exact Passes.trans h (setAside _ rfl)
  · exact Passes.trans h (setAside _ rfl)

theorem wakeLookup (peer : Peer) (point : LookupPoint) (choice : Choice) :
    peer.Passes (StaysAside n) (peer.wakeLookup n point choice) := by
  unfold Peer.wakeLookup
  split
  · split
    · exact publishAndEnd _ _ _
    · exact setAside _ rfl
  · split
    · exact setAside _ rfl
    · exact publishAndEnd _ _ _
    · split
      · exact setAside _ rfl
      · exact setAside _ rfl
  · split
    · exact setAside _ rfl
    · split
      · exact lookupRestored _ _ (restoreNext _ _)
      · split
        · exact publishAndEnd _ _ _
        · exact setAside _ rfl
  · exact lookupRestored _ _ (restoreReopened _ _ _)
  · refine Passes.trans ?_ (publishAndEnd _ _ _)
    split
    · exact refl peer
    · exact of_eq rfl rfl rfl rfl
  · exact refl peer

omit [Blake3] in
theorem acceptSaved (peer : Peer) (offer : IncomingOffer) (channel : ChannelId) (writers : List StreamingFileWriter)
    (recoveryPersisted : Bool) :
    peer.Passes (StaysAside n) (peer.acceptSaved n offer channel writers recoveryPersisted) := by
  unfold Peer.acceptSaved
  split
  · exact setAside _ rfl
  · split
    · exact setAside _ rfl
    · rename_i hdecision
      refine (sendControlOn hdecision).trans ?_
      split
      · exact setAside _ rfl
      · rename_i hready
        refine ((sendControlOn hready).trans ?_).trans (setAside _ rfl)
        exact of_eq rfl rfl rfl rfl

omit [Blake3] in
theorem wakeAccept (peer : Peer) (point : AcceptPoint) (answer : Answer) :
    peer.Passes (StaysAside n) (peer.wakeAccept n point answer) := by
  unfold Peer.wakeAccept
  split
  · split
    · refine Passes.trans ?_ (acceptSaved _ _ _ _ _)
      exact of_eq rfl rfl rfl rfl
    · exact setAside _ rfl
  · refine Passes.trans ?_ (acceptSaved _ _ _ _ _)
    split
    · exact refl peer
    · exact of_eq rfl rfl rfl rfl
  · exact refl peer

omit [Blake3] in
theorem resumeFailed (peer : Peer) (transferId : String) (offer : IncomingOffer) (recovery : StreamRecoveryRecord)
    (error : BrowserPlatformError) :
    peer.Passes (StaysAside n) (peer.resumeFailed n transferId offer recovery error) := by
  refine Passes.trans ?_ (setAside _ rfl)
  exact of_eq rfl rfl rfl rfl

omit [Blake3] in
theorem resumeRestored (peer : Peer) (transferId : String) (offer : IncomingOffer) (recovery : StreamRecoveryRecord)
    {step : RestoreStep} (h : StepPasses (StaysAside n) peer step) :
    peer.Passes (StaysAside n) (peer.resumeRestored n transferId offer recovery step) := by
  unfold Peer.resumeRestored
  split
  · exact setAside _ rfl
  · exact Passes.trans h (setAside _ rfl)
  · exact Passes.trans h (resumeFailed _ _ _ _ _)

theorem wakeResume (peer : Peer) (transferId : String) (point : ResumePoint) (choice : Choice) :
    peer.Passes (StaysAside n) (peer.wakeResume n transferId point choice) := by
  unfold Peer.wakeResume
  split
  · split
    · exact resumeFailed _ _ _ _ _
    · split
      · exact resumeRestored _ _ _ _ (restoreNext _ _)
      · exact resumeFailed _ _ _ _ _
  · exact resumeRestored _ _ _ _ (restoreReopened _ _ _)
  · exact refl peer

omit [Blake3] in
theorem returnCancel (peer : Peer) (transferId : String) (reason : CancelReason)
    (firstError : Option BrowserPlatformError) :
    peer.Passes (StaysAside n) (peer.returnCancel n transferId reason firstError) := (setAside peer rfl).trans (emit _ _)

omit [Blake3] in
theorem cancelOutgoingRecord (peer : Peer) (transferId : String) (reason : CancelReason)
    (firstError : Option BrowserPlatformError) (outgoingPeer : Option String) :
    peer.Passes (StaysAside n) (peer.cancelOutgoingRecord n transferId reason firstError outgoingPeer) := by
  unfold Peer.cancelOutgoingRecord
  split
  · exact setAside _ rfl
  · exact returnCancel _ _ _ _

omit [Blake3] in
theorem cancelNext (peer : Peer) (transferId : String) (reason : CancelReason)
    (firstError : Option BrowserPlatformError) (deleteRecovery : Bool) (outgoingPeer : Option String) (writers : Nat) :
    peer.Passes (StaysAside n) (peer.cancelNext n transferId reason firstError deleteRecovery outgoingPeer writers) := by
  unfold Peer.cancelNext
  split
  · exact setAside _ rfl
  · split
    · exact setAside _ rfl
    · exact cancelOutgoingRecord _ _ _ _ _

omit [Blake3] in
theorem eraseOutgoingRecovery (peer : Peer) (peerId : String) (answer : Answer) :
    peer.Passes may (peer.eraseOutgoingRecovery peerId answer) := by
  unfold Peer.eraseOutgoingRecovery
  split
  · exact refl peer
  · exact of_eq rfl rfl rfl rfl

omit [Blake3] in
theorem wakeCancel (peer : Peer) (transferId : String) (reason : CancelReason) (firstError : Option BrowserPlatformError)
    (point : CancelPoint) (answer : Answer) :
    peer.Passes (StaysAside n) (peer.wakeCancel n transferId reason firstError point answer) := by
  unfold Peer.wakeCancel
  dsimp only
  split
  · exact cancelNext _ _ _ _ _ _ _
  · refine Passes.trans ?_ (cancelOutgoingRecord _ _ _ _ _)
    split
    · exact refl peer
    · exact of_eq rfl rfl rfl rfl
  · exact (eraseOutgoingRecovery _ _ _).trans (returnCancel _ _ _ _)
  · exact refl peer

omit [Blake3] in
/-- A task that was started by the same piece of the program counts as a new one. -/
theorem of_spawned (h : peer.Passes (StaysAside peer.nextTask) next) (hlt : peer.nextTask < next.nextTask) :
    peer.Passes may next where
  channel := h.channel
  outgoing := h.outgoing
  nextTask := h.nextTask
  tasks m := by
    rcases h.tasks m with hsame | ⟨task, htask, ⟨rfl, haside⟩ | hnew⟩
    · exact .inl hsame
    · exact .inr ⟨task, htask, .inr ⟨Nat.le_refl _, hlt, haside⟩⟩
    · exact .inr ⟨task, htask, .inr hnew⟩

omit [Blake3] in
theorem cancelTransfer (peer : Peer) (reason : CancelReason) : peer.Passes may (peer.cancelTransfer reason) := by
  unfold Peer.cancelTransfer
  split
  · exact refl peer
  · rename_i transferId _
    -- whether the other peer was told makes no difference here
    have hrest : ∀ (told : Peer) (firstError : Option BrowserPlatformError), told.nextTask = peer.nextTask →
        peer.Passes (StaysAside peer.nextTask) told → peer.Passes may
          (((told.withoutTransfer transferId).spawn .finished).cancelNext told.nextTask transferId reason firstError
            (peer.receivesSomehow transferId) (peer.outgoingRecoveryPeer transferId) (peer.writersToAbort transferId)) := by
      intro told firstError hsame htold
      have hspawned : told.Passes (StaysAside peer.nextTask) ((told.withoutTransfer transferId).spawn .finished) :=
        (withoutTransfer told transferId).trans (spawn _ rfl)
      have hcancel := cancelNext (n := told.nextTask) ((told.withoutTransfer transferId).spawn .finished) transferId reason
        firstError (peer.receivesSomehow transferId) (peer.outgoingRecoveryPeer transferId)
        (peer.writersToAbort transferId)
      have hlt := hcancel.nextTask
      rw [hsame] at hcancel hlt ⊢
      refine of_spawned ((htold.trans hspawned).trans hcancel) (Nat.lt_of_lt_of_le ?_ hlt)
      show peer.nextTask < told.nextTask + 1
      rw [hsame]
      exact Nat.lt_succ_self _
    dsimp only
    split
    · exact hrest peer none rfl (refl peer)
    · split
      · exact hrest peer _ rfl (refl peer)
      · rename_i hsend
        obtain ⟨-, -, htold⟩ := sendControlOn_ok hsend
        exact hrest _ none (by rw [htold]; rfl) (sendControlOn hsend)

end Tasks

end Passes

end Peer

end P2PTransmission.Rtc
