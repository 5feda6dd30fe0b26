import P2PTransmission.Client.Reducer
import P2PTransmission.Foundation.TreeMap
import P2PTransmission.Rtc.Peer

/-!
# What the client shows of the transfers

The part of `AppModel` that the transfer events of the connections change, one entry for each peer, and the plan that
`plan_transfer_event` makes of an event: what becomes of the entry, and what the user is notified of. In the room of a receiver
the entry that was written last is shown as the transfer of the room.

The events are those of `RtcEvent` that are not about the connection or about texts.
-/

set_option autoImplicit false

namespace P2PTransmission

open Rtc (TransferFile TransferMode TransferDirection CancelReason StreamPauseReason)

/-! ## Entries -/

inductive TransferLinkState where
  | ready
  | waiting
  | paused
  deriving DecidableEq, Repr

/-- A transfer that is under way. -/
structure ActiveTransfer where
  transferId : String
  direction : TransferDirection
  streamed : Bool
  file : TransferFile
  files : List TransferFile
  completedBytes : Nat
  awaitingVerification : Bool
  linkState : TransferLinkState
  storagePause : Option StreamPauseReason
  deriving DecidableEq, Repr

inductive TransferState where
  | idle
  | offering (transferId : String) (file : TransferFile) (files : List TransferFile)
  | outgoingRecovery (transferId : String) (file : TransferFile) (files : List TransferFile)
  | incoming (transferId : String) (mode : TransferMode) (file : TransferFile) (files : List TransferFile)
      (recoveryAvailable : Bool)
  | active (transfer : ActiveTransfer)
  | rejected (direction : TransferDirection) (file : TransferFile) (files : List TransferFile)
  | completed (direction : TransferDirection) (file : TransferFile) (files : List TransferFile) (blake3 : String)
      (downloadUrl : Option String)
  | cancelled (file : Option TransferFile) (reason : CancelReason)
  | failed (file : Option TransferFile) (message : String)
  deriving DecidableEq, Repr

/-- `transfer_file`. -/
def transferFile : TransferState → Option TransferFile
  | .offering _ file _ | .outgoingRecovery _ file _ | .incoming _ _ file _ _ => some file
  | .active transfer => some transfer.file
  | .rejected _ file _ | .completed _ file _ _ _ => some file
  | .cancelled file _ | .failed file _ => file
  | .idle => none

def isStreamed : TransferMode → Bool
  | .buffered => false
  | .streamed _ => true

/-- `transfer_is_streamed`. -/
def transferIsStreamed : TransferState → Bool
  | .outgoingRecovery _ _ _ => true
  | .incoming _ mode _ _ _ => isStreamed mode
  | .active transfer => transfer.streamed
  | .completed .receive _ _ _ downloadUrl => downloadUrl.isNone
  | _ => false

structure TransferModel extends AppModel where
  transfer : TransferState
  transfersByPeer : BTreeMap String TransferState

/-! ## Events -/

inductive TransferEvent where
  | outgoingOffered (transferId : String) (file : TransferFile) (files : List TransferFile)
  | outgoingRecoveryOffered (transferId : String) (file : TransferFile) (files : List TransferFile)
  | incomingOffered (transferId : String) (mode : TransferMode) (file : TransferFile) (files : List TransferFile)
      (recoveryAvailable : Bool)
  | transferStarted (transferId : String) (direction : TransferDirection) (mode : TransferMode) (file : TransferFile)
      (files : List TransferFile)
  | transferProgress (transferId : String) (direction : TransferDirection) (completedBytes totalBytes : Nat)
  | awaitingVerification (transferId : String) (file : TransferFile) (files : List TransferFile)
  | transferRejected (transferId : String) (direction : TransferDirection) (file : TransferFile) (files : List TransferFile)
  | transferCompleted (transferId : String) (direction : TransferDirection) (file : TransferFile) (files : List TransferFile)
      (blake3 : String) (downloadUrl : Option String)
  | transferCancelled (transferId : String) (reason : CancelReason)
  | transferPaused (transferId : String) (direction : TransferDirection) (reason : StreamPauseReason)
      (completedBytes totalBytes : Nat)
  | transferFailed (transferId : Option String) (message : String)
  deriving DecidableEq, Repr

structure NotificationEffect where
  title : String
  body : String
  tag : String
  deriving DecidableEq, Repr

inductive TransferMutation where
  | setPeerTransfer (peerId : String) (transfer : TransferState) (notice : Option String) (clearError : Bool)
  | progress (peerId transferId : String) (direction : TransferDirection) (completedBytes : Nat)
  deriving DecidableEq, Repr

structure PlannedTransferEvent where
  mutation : Option TransferMutation
  notification : Option NotificationEffect
  deriving DecidableEq, Repr

namespace PlannedTransferEvent

def none : PlannedTransferEvent := { mutation := .none, notification := .none }

def setPeerTransfer (peerId : String) (transfer : TransferState) : PlannedTransferEvent :=
  { mutation := some (.setPeerTransfer peerId transfer .none false), notification := .none }

end PlannedTransferEvent

/-! ## Plans -/

/-- How many files an event is about. -/
def fileCount (files : List TransferFile) : Nat := max files.length 1

namespace TransferModel

variable (model : TransferModel) (peerId : String)

/-! ### `offer` -/

def planIncoming (transferId : String) (mode : TransferMode) (file : TransferFile) (files : List TransferFile)
    (recoveryAvailable : Bool) : PlannedTransferEvent :=
  { PlannedTransferEvent.setPeerTransfer peerId (.incoming transferId mode file files recoveryAvailable) with
    notification := some
      { title := "收到文件请求"
        body :=
          if fileCount files = 1 then "收到文件：" ++ file.name
          else "收到 " ++ file.name ++ " 等 " ++ toString (fileCount files) ++ " 个文件"
        tag := "file-" ++ transferId } }

/-- How far the transfer had come, if it is the one that is shown. -/
def startedBytes (transferId : String) : Nat :=
  match model.transfersByPeer[peerId]? with
  | some (.active transfer) => if transfer.transferId = transferId then transfer.completedBytes else 0
  | _ => 0

def planStarted (transferId : String) (direction : TransferDirection) (mode : TransferMode) (file : TransferFile)
    (files : List TransferFile) : PlannedTransferEvent :=
  .setPeerTransfer peerId
    (.active
      { transferId, direction, streamed := isStreamed mode, completedBytes := model.startedBytes peerId transferId, file, files,
        awaitingVerification := false, linkState := .ready, storagePause := none })

def planAwaitingVerification (transferId : String) (file : TransferFile) (files : List TransferFile) :
    PlannedTransferEvent :=
  .setPeerTransfer peerId
    (.active
      { transferId, direction := .send, streamed := model.transfersByPeer[peerId]?.any transferIsStreamed,
        completedBytes := file.sizeBytes, file, files, awaitingVerification := true, linkState := .ready,
        storagePause := none })

/-! ### `progress` -/

def transferProgressIsValid (current : TransferState) (transferId : String) (direction : TransferDirection)
    (completedBytes : Nat) : Bool :=
  match current with
  | .active transfer =>
    transfer.transferId == transferId && transfer.direction == direction && !transfer.awaitingVerification &&
      transfer.linkState == .ready && transfer.storagePause.isNone && decide (transfer.completedBytes ≤ completedBytes) &&
      decide (completedBytes ≤ transfer.file.sizeBytes)
  | _ => false

def planProgress (transferId : String) (direction : TransferDirection) (completedBytes : Nat) : PlannedTransferEvent :=
  match model.transfersByPeer[peerId]? with
  | none => .none
  | some current =>
    if transferProgressIsValid current transferId direction completedBytes then
      { mutation := some (.progress peerId transferId direction completedBytes), notification := none }
    else .none

/-! ### `pause` -/

def planPaused (transferId : String) (direction : TransferDirection) (reason : StreamPauseReason) (completedBytes : Nat) :
    PlannedTransferEvent :=
  match model.transfersByPeer[peerId]? with
  | some (.active transfer) =>
    if transfer.transferId = transferId then
      { mutation := some (.setPeerTransfer peerId
          (.active { transfer with
            direction, completedBytes, awaitingVerification := false, linkState := .ready, storagePause := some reason })
          (some (if direction = .receive then "传输已暂停，最后一个校验检查点已保留" else "接收方已暂停传输，当前进度已保留"))
          true)
        notification := none }
    else .none
  | _ => .none

/-! ### `terminal` -/

def planCompleted (direction : TransferDirection) (file : TransferFile) (files : List TransferFile) (blake3 : String)
    (downloadUrl : Option String) : PlannedTransferEvent :=
  { mutation := some (.setPeerTransfer peerId (.completed direction file files blake3 downloadUrl)
      (some
        (if direction = .send then "文件已发送并通过接收端校验"
        else if downloadUrl.isNone then "文件已保存并通过完整性校验"
        else "文件已接收并通过完整性校验"))
      false)
    notification :=
      if direction = .receive then
        some
          { title := "文件接收完成"
            body :=
              if fileCount files = 1 then file.name ++ " 已通过完整性校验"
              else toString (fileCount files) ++ " 个文件已通过完整性校验"
            tag := "file-received-" ++ peerId }
      else none }

/-- The file of the entry, whichever transfer the entry is about. -/
def shownFile : Option TransferFile := model.transfersByPeer[peerId]?.bind transferFile

/-- `plan_transfer_event`. The events that end a transfer are planned without its id. -/
def planTransferEvent : TransferEvent → PlannedTransferEvent
  | .outgoingOffered transferId file files => .setPeerTransfer peerId (.offering transferId file files)
  | .outgoingRecoveryOffered transferId file files => .setPeerTransfer peerId (.outgoingRecovery transferId file files)
  | .incomingOffered transferId mode file files recoveryAvailable =>
    planIncoming peerId transferId mode file files recoveryAvailable
  | .transferStarted transferId direction mode file files => model.planStarted peerId transferId direction mode file files
  | .awaitingVerification transferId file files => model.planAwaitingVerification peerId transferId file files
  | .transferProgress transferId direction completedBytes _ => model.planProgress peerId transferId direction completedBytes
  | .transferPaused transferId direction reason completedBytes _ =>
    model.planPaused peerId transferId direction reason completedBytes
  | .transferRejected _ direction file files => .setPeerTransfer peerId (.rejected direction file files)
  | .transferCompleted _ direction file files blake3 downloadUrl =>
    planCompleted peerId direction file files blake3 downloadUrl
  | .transferCancelled _ reason => .setPeerTransfer peerId (.cancelled (model.shownFile peerId) reason)
  | .transferFailed _ message => .setPeerTransfer peerId (.failed (model.shownFile peerId) message)

/-! ## What becomes of a plan -/

/-- The room is that of a receiver. -/
def isReceiver : Bool :=
  match model.screen with
  | .room .receiver _ => true
  | _ => false

def setPeerTransfer (transfer : TransferState) : TransferModel :=
  { model with
    transfersByPeer := model.transfersByPeer.insert peerId transfer
    transfer := if model.isReceiver then transfer else model.transfer }

/-- `apply_transfer_progress`. -/
def applyTransferProgress (current : TransferState) (transferId : String) (direction : TransferDirection)
    (completedBytes : Nat) : Option TransferState :=
  if transferProgressIsValid current transferId direction completedBytes then
    match current with
    | .active transfer => some (.active { transfer with completedBytes })
    | _ => none
  else none

/-- `apply_peer_transfer_progress`. -/
def applyPeerTransferProgress (transferId : String) (direction : TransferDirection) (completedBytes : Nat) : TransferModel :=
  match model.transfersByPeer[peerId]? with
  | none => model
  | some current =>
    match applyTransferProgress current transferId direction completedBytes with
    | none => model
    | some next =>
      { model with
        transfersByPeer := model.transfersByPeer.insert peerId next
        transfer :=
          if model.isReceiver then (applyTransferProgress model.transfer transferId direction completedBytes).getD next
          else model.transfer }

def apply (plan : PlannedTransferEvent) : TransferModel :=
  match plan.mutation with
  | none => model
  | some (.setPeerTransfer peerId transfer notice clearError) =>
    ({ model with
      error := if clearError then none else model.error
      notice := notice.or model.notice } : TransferModel).setPeerTransfer peerId transfer
  | some (.progress peerId transferId direction completedBytes) =>
    model.applyPeerTransferProgress peerId transferId direction completedBytes

/-- `handle_transfer_event`: the model afterwards, and the notification. -/
def handleTransferEvent (event : TransferEvent) : TransferModel × Option NotificationEffect :=
  (model.apply (model.planTransferEvent peerId event), (model.planTransferEvent peerId event).notification)

end TransferModel

end P2PTransmission
