import P2PTransmission.Client.Transfers
import P2PTransmission.Foundation.WorkTokens

/-!
# The connections to the peers, as the client sees them

The part of `AppModel` that the transitions of `rtc_transition` change: one entry for each peer, with the work that is pending
for it (a timer that was started, and the token it was given), the phase that the room shows for all of them, and the last
error of a connection. Peers are created and removed as `rtc_session` does it.

The generations are 64-bit counters that wrap around.
-/

set_option autoImplicit false

namespace P2PTransmission

open Rtc (RtcConnectionPhase)
open WorkTokens (Token)

/-! ## The entries -/

inductive RtcPhase where
  | inactive
  | waitingPeer
  | connecting
  | ready
  | disconnected
  | failed
  deriving DecidableEq, Repr

inductive OutgoingRecoveryPhase where
  | pending
  | checking
  | complete
  deriving DecidableEq, Repr

inductive PendingRtcWork where
  | ownerOfferTimeout (attempt : Nat)
  | ownerRetryDelay (nextAttempt : Nat)
  | passiveDeadline
  | disconnectedDeadline
  deriving DecidableEq, Repr

structure PeerRtcError where
  peerId : String
  message : String
  deriving DecidableEq, Repr

/-- The number of values of a generation. -/
def GENERATIONS : Nat := 2 ^ 64

/-- `wrapping_add(1)`. -/
def nextGeneration (generation : Nat) : Nat := (generation + 1) % GENERATIONS

structure PeerRtcState where
  phase : RtcPhase
  instanceGeneration : Nat
  workGeneration : Nat
  pendingWork : Option PendingRtcWork
  outgoingRecovery : OutgoingRecoveryPhase
  deriving DecidableEq, Repr

namespace PeerRtcState

def new (instanceGeneration : Nat) : PeerRtcState :=
  { phase := .waitingPeer, instanceGeneration, workGeneration := 0, pendingWork := none, outgoingRecovery := .pending }

variable (peerState : PeerRtcState)

def armWork (pendingWork : PendingRtcWork) : PeerRtcState :=
  { peerState with workGeneration := nextGeneration peerState.workGeneration, pendingWork := some pendingWork }

/-- The token that `arm_work` returns. -/
def armedToken : Token := ⟨peerState.instanceGeneration, nextGeneration peerState.workGeneration⟩

def invalidateWork : PeerRtcState :=
  { peerState with workGeneration := nextGeneration peerState.workGeneration, pendingWork := none }

def workIsCurrent (token : Token) (expected : PendingRtcWork) : Bool :=
  peerState.instanceGeneration == token.instanceGeneration && peerState.workGeneration == token.workGeneration &&
    peerState.pendingWork == some expected

end PeerRtcState

structure RtcModel extends TransferModel where
  rtcAggregatePhase : RtcPhase
  rtcPeerGeneration : Nat
  rtcPeerStates : BTreeMap String PeerRtcState
  rtcError : Option PeerRtcError

inductive OwnerTimeoutStep where
  | ignore
  | retry (token : Token) (nextAttempt delayMs : Nat)
  | failed (transferPaused : Bool)
  deriving DecidableEq, Repr

inductive PassiveDeadlineStep where
  | ignore
  | failed (transferPaused : Bool)
  deriving DecidableEq, Repr

inductive RtcRecoveryAction where
  | none
  | restartOffer
  | armPassiveDeadline
  | waitForReconnect (token : Token)
  deriving DecidableEq, Repr

/-! ## The aggregate -/

/-- Some peer is in the phase. -/
def hasPhase (peers : BTreeMap String PeerRtcState) (phase : RtcPhase) : Bool :=
  peers.toList.any fun entry => entry.2.phase = phase

def isRoom : Screen → Bool
  | .room _ _ => true
  | .booting | .lobby | .waiting .. => false

/-- The phase that stands for all peers. -/
def aggregatePhase (screen : Screen) (peers : BTreeMap String PeerRtcState) : RtcPhase :=
  if peers.isEmpty then if isRoom screen then .waitingPeer else .inactive
  else if hasPhase peers .ready then .ready
  else if hasPhase peers .connecting then .connecting
  else if hasPhase peers .disconnected then .disconnected
  else if hasPhase peers .failed then .failed
  else .waitingPeer

namespace RtcModel

variable (model : RtcModel) (peerId : String)

def refreshAggregateRtc : RtcModel :=
  { model with rtcAggregatePhase := aggregatePhase model.screen model.rtcPeerStates }

def setState (peerState : PeerRtcState) : RtcModel :=
  { model with rtcPeerStates := model.rtcPeerStates.insert peerId peerState }

/-! ## Errors and transfers -/

def setPeerRtcError (message : String) : RtcModel :=
  { model with error := some message, rtcError := some { peerId, message } }

def clearPeerRtcError : RtcModel :=
  match model.rtcError.filter fun rtcError => rtcError.peerId = peerId with
  | none => model
  | some rtcError =>
    { model with rtcError := none, error := if model.error = some rtcError.message then none else model.error }

/-- `set_peer_transfer_link_state`. -/
def setPeerTransferLinkState (linkState : TransferLinkState) : Bool × RtcModel :=
  match model.transfersByPeer[peerId]? with
  | some (.active transfer) =>
    if transfer.streamed then
      (true,
        { model with
          toTransferModel := model.toTransferModel.setPeerTransfer peerId (.active { transfer with linkState }) })
    else (false, model)
  | some .idle | some (.offering ..) | some (.outgoingRecovery ..) | some (.incoming ..) | some (.rejected ..)
  | some (.completed ..) | some (.cancelled ..) | some (.failed ..) | none => (false, model)

/-- A stream is interrupted, though not by the storage. -/
def recoversStream : Bool :=
  match model.transfersByPeer[peerId]? with
  | some (.active transfer) =>
    transfer.streamed && (transfer.linkState == .waiting || transfer.linkState == .paused) && transfer.storagePause.isNone
  | some .idle | some (.offering ..) | some (.outgoingRecovery ..) | some (.incoming ..) | some (.rejected ..)
  | some (.completed ..) | some (.cancelled ..) | some (.failed ..) | none => false

/-! ## Peers -/

/-- `allocate_rtc_peer_generation`. -/
def allocateRtcPeerGeneration : Nat × RtcModel :=
  (nextGeneration model.rtcPeerGeneration,
    { model with
      rtcPeerGeneration := nextGeneration model.rtcPeerGeneration
      rtcPeerStates := model.rtcPeerStates.insert peerId (.new (nextGeneration model.rtcPeerGeneration)) })

/-- The connection to the peer has failed to start; the answer is whether a stream was paused. -/
def markPeerStartFailed (instanceGeneration : Nat) : Option Bool × RtcModel :=
  match model.rtcPeerStates[peerId]? with
  | none => (none, model)
  | some peerState =>
    if peerState.instanceGeneration ≠ instanceGeneration then (none, model)
    else
      let paused := (model.setState peerId { peerState.invalidateWork with phase := .failed }).setPeerTransferLinkState peerId
        .paused
      (some paused.1, paused.2.refreshAggregateRtc)

/-- `ensure_rtc_peer` for a peer that is not registered; the browser may refuse the connection. -/
def ensureRtcPeer (refused : Option String) : RtcModel :=
  let allocated := model.allocateRtcPeerGeneration peerId
  match refused with
  | none => allocated.2.refreshAggregateRtc
  | some message => (allocated.2.markPeerStartFailed peerId allocated.1).2.setPeerRtcError peerId message

/-- `remove_rtc_peer`. -/
def removeRtcPeer : RtcModel :=
  let cleared := model.clearPeerRtcError peerId
  { cleared with
    rtcPeerStates := cleared.rtcPeerStates.erase peerId
    transfersByPeer := cleared.transfersByPeer.erase peerId
    transfer := if cleared.isReceiver then .idle else cleared.transfer : RtcModel }.refreshAggregateRtc

/-- `reset_all_rtc_peers`. -/
def resetAllRtcPeers : RtcModel :=
  let cleared :=
    match model.rtcError with
    | none => model
    | some rtcError => model.clearPeerRtcError rtcError.peerId
  { cleared with rtcPeerStates := ∅ : RtcModel }.refreshAggregateRtc

/-! ## Work -/

def beginOutgoingRecovery : Option Nat × RtcModel :=
  match model.rtcPeerStates[peerId]? with
  | none => (none, model)
  | some peerState =>
    if peerState.outgoingRecovery ≠ .pending then (none, model)
    else (some peerState.instanceGeneration, model.setState peerId { peerState with outgoingRecovery := .checking })

def finishOutgoingRecovery (instanceGeneration : Nat) : Bool × RtcModel :=
  match model.rtcPeerStates[peerId]? with
  | none => (false, model)
  | some peerState =>
    if peerState.instanceGeneration ≠ instanceGeneration || peerState.outgoingRecovery ≠ .checking then (false, model)
    else (true, model.setState peerId { peerState with outgoingRecovery := .complete })

def beginOwnerOffer (instanceGeneration attempt : Nat) : Option Token × RtcModel :=
  match model.rtcPeerStates[peerId]? with
  | none => (none, model)
  | some peerState =>
    if peerState.instanceGeneration ≠ instanceGeneration then (none, model)
    else
      let armed := model.setState peerId { peerState.armWork (.ownerOfferTimeout attempt) with phase := .connecting }
      (some peerState.armedToken,
        ((armed.clearPeerRtcError peerId).setPeerTransferLinkState peerId .waiting).2.refreshAggregateRtc)

/-- `u8::saturating_add(1)`. -/
def followingAttempt (attempt : Nat) : Nat := min (attempt + 1) 255

def advanceOwnerTimeout (token : Token) (attempt : Nat) (retryDelayMs : Option Nat) : OwnerTimeoutStep × RtcModel :=
  match model.rtcPeerStates[peerId]? with
  | none => (.ignore, model)
  | some peerState =>
    if !peerState.workIsCurrent token (.ownerOfferTimeout attempt) then (.ignore, model)
    else
      match retryDelayMs with
      | none =>
        let paused := (model.setState peerId { peerState.invalidateWork with phase := .failed }).setPeerTransferLinkState
          peerId .paused
        (.failed paused.1, paused.2.refreshAggregateRtc)
      | some delayMs =>
        (.retry peerState.armedToken (followingAttempt attempt) delayMs,
          model.setState peerId (peerState.armWork (.ownerRetryDelay (followingAttempt attempt))))

def claimOwnerRetry (token : Token) (nextAttempt : Nat) : Bool × RtcModel :=
  match model.rtcPeerStates[peerId]? with
  | none => (false, model)
  | some peerState =>
    if !peerState.workIsCurrent token (.ownerRetryDelay nextAttempt) then (false, model)
    else (true, model.setState peerId { peerState with pendingWork := none })

def beginPassiveDeadline : Option Token × RtcModel :=
  match model.rtcPeerStates[peerId]? with
  | none => (none, model)
  | some peerState =>
    let armed := model.setState peerId { peerState.armWork .passiveDeadline with phase := .connecting }
    (some peerState.armedToken, (armed.clearPeerRtcError peerId).refreshAggregateRtc)

def claimDisconnectedDeadline (token : Token) : Bool × RtcModel :=
  match model.rtcPeerStates[peerId]? with
  | none => (false, model)
  | some peerState =>
    if !peerState.workIsCurrent token .disconnectedDeadline then (false, model)
    else (true, model.setState peerId peerState.invalidateWork)

def claimPassiveDeadline (token : Token) : PassiveDeadlineStep × RtcModel :=
  match model.rtcPeerStates[peerId]? with
  | none => (.ignore, model)
  | some peerState =>
    if !peerState.workIsCurrent token .passiveDeadline then (.ignore, model)
    else
      let paused := (model.setState peerId { peerState.invalidateWork with phase := .failed }).setPeerTransferLinkState peerId
        .paused
      (.failed paused.1, paused.2.refreshAggregateRtc)

/-! ## Reports -/

/-- The answer is whether an interrupted stream goes on. -/
def markDataChannelReady : Bool × RtcModel :=
  match model.rtcPeerStates[peerId]? with
  | none => (false, model)
  | some peerState =>
    let ready := model.setState peerId { peerState.invalidateWork with phase := .ready }
    (model.recoversStream peerId, (ready.clearPeerRtcError peerId).refreshAggregateRtc)

def resetPeerWaiting : Bool × RtcModel :=
  match model.rtcPeerStates[peerId]? with
  | none => (false, model)
  | some peerState =>
    let waiting := model.setState peerId { peerState.invalidateWork with phase := .waitingPeer }
    (true, (waiting.clearPeerRtcError peerId).refreshAggregateRtc)

def reduceConnectionState (role : RoomRole) (connectionPhase : RtcConnectionPhase) : RtcRecoveryAction × RtcModel :=
  match model.rtcPeerStates[peerId]? with
  | none => (.none, model)
  | some peerState =>
    if role = .receiver && peerState.phase = .failed then (.none, model)
    else
      match connectionPhase with
      | .failed | .closed =>
        let lost := model.setState peerId { peerState.invalidateWork with phase := .disconnected }
        (if role = .owner then .restartOffer else .armPassiveDeadline,
          (lost.setPeerTransferLinkState peerId .waiting).2.refreshAggregateRtc)
      | .disconnected =>
        if peerState.pendingWork.isNone then
          (.waitForReconnect peerState.armedToken,
            (model.setState peerId
              { peerState.armWork .disconnectedDeadline with phase := .disconnected }).refreshAggregateRtc)
        else (.none, (model.setState peerId { peerState with phase := .disconnected }).refreshAggregateRtc)
      | .new | .connecting | .connected =>
        (.none,
          (model.setState peerId
            { peerState with phase := if peerState.phase = .ready then .ready else .connecting }).refreshAggregateRtc)

end RtcModel

end P2PTransmission
