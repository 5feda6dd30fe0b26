import P2PTransmission.Rtc.Lifecycle
import P2PTransmission.Wire.Client

/-!
# Signals

How a connection comes about: the offer of the one side, the answer of the other, and the candidates of both, which the server
passes on. A `RtcPeer` is a peer with what belongs to its connection. The calls of the application run from their beginning to
their end; where they start a task the task is returned (`PendingSignalTask`).

A connection has an epoch and a negotiation id. Whatever gives the connection up also begins another epoch.

Left out: the servers of a configuration, which only the browser reads, and the closures that the browser calls, which come and
go with the connection and its channel.
-/

set_option autoImplicit false

namespace P2PTransmission.Rtc

open Wire (Signal)

def NEGOTIATION_SIGNAL_LIMIT : Nat := 64

/-- A connection of the browser. -/
abbrev ConnectionId : Type := Nat

/-! ## State -/

structure OutgoingTextState where
  transferId : String
  text : String
  accepted : Bool
  deriving DecidableEq, Repr

structure IncomingTextOffer where
  transferId : String
  characterCount : Nat
  byteLength : Nat
  deriving DecidableEq, Repr

/-- What the application is told besides the transfers of files. -/
inductive PeerNotice
  | outboundSignal (toPeerId negotiationId : String) (signal : Signal)
  | negotiationFailed (message : String)
  | textTransferCancelled (transferId : String)
  deriving DecidableEq, Repr

structure RtcPeer extends Peer where
  /-- The time up to which the configuration may be used. -/
  validUntilMs : Nat
  peerConnection : Option ConnectionId := none
  negotiationId : Option String := none
  negotiating : Bool := false
  localDescriptionAnnounced : Bool := false
  remoteDescriptionPending : Bool := false
  remoteDescriptionSet : Bool := false
  pendingLocalCandidates : List Signal := []
  pendingRemoteCandidates : List (String × String × Signal) := []
  outgoingText : Option OutgoingTextState := none
  incomingText : Option IncomingTextOffer := none
  receivingText : Option IncomingTextOffer := none
  notices : List PeerNotice := []

/-- The errors of `BrowserPlatformError` that the calls give. -/
inductive SignalingError
  | rtcConfigExpired
  | browser (message : String)
  deriving DecidableEq, Repr

inductive PendingSignalTask
  | offer (peerConnection : ConnectionId) (connectionEpoch : Nat) (negotiationId fromPeer sdp : String)
  | answer (peerConnection : ConnectionId) (connectionEpoch : Nat) (negotiationId sdp : String)
  | iceCandidate (peerConnection : ConnectionId) (connectionEpoch : Nat) (negotiationId : String) (signal : Signal)
  deriving DecidableEq, Repr

inductive PreparedSignal
  | task (task : PendingSignalTask)
  | deferred
  | ignored
  deriving DecidableEq, Repr

inductive OfferStart
  | started
  | alreadyActive
  deriving DecidableEq, Repr

inductive SignalAcceptance
  | scheduled
  | deferred
  | ignored
  deriving DecidableEq, Repr

/-- The task that makes an offer. -/
structure OfferTask where
  peerConnection : ConnectionId
  connectionEpoch : Nat
  negotiationId : String
  targetPeer : String
  deriving DecidableEq, Repr

namespace RtcPeer

variable (peer : RtcPeer)

def notify (notice : PeerNotice) : RtcPeer := { peer with notices := peer.notices ++ [notice] }

/-- `rtc_config.is_valid`. -/
def rtcConfigValid (nowMs : Nat) : Bool := decide (0 < peer.validUntilMs - nowMs)

/-! ## Giving the connection up -/

/-- What `clear_peer_resources` does besides. -/
def clearConnection : RtcPeer :=
  { peer with
    peerConnection := none
    negotiationId := none
    negotiating := false
    localDescriptionAnnounced := false
    remoteDescriptionPending := false
    remoteDescriptionSet := false
    pendingLocalCandidates := []
    pendingRemoteCandidates := [] }

def notifyTextCancelled (cancelled : Option String) : RtcPeer :=
  match cancelled with
  | some transferId => peer.notify (.textTransferCancelled transferId)
  | none => peer

/-- A text that is under way, the one that goes out before the others. -/
def activeTextId : Option String :=
  (peer.outgoingText.map (·.transferId)).or <|
  (peer.incomingText.map (·.transferId)).or <|
  peer.receivingText.map (·.transferId)

/-- One text is dropped: the others are not looked at. -/
def takeText : RtcPeer :=
  match peer.outgoingText, peer.incomingText with
  | some _, _ => { peer with outgoingText := none }
  | none, some _ => { peer with incomingText := none }
  | none, none => { peer with receivingText := none }

def prepareReconnect : RtcPeer :=
  ({ peer.takeText.clearConnection with toPeer := peer.toPeer.prepareReconnect } : RtcPeer).notifyTextCancelled peer.activeTextId

def reset : RtcPeer :=
  ({ peer.clearConnection with
    toPeer := peer.toPeer.reset
    outgoingText := none
    incomingText := none
    receivingText := none } : RtcPeer).notifyTextCancelled peer.activeTextId

/-! ## Connections -/

/-- The connection is the one of this negotiation with this peer. -/
def negotiates (target negotiationId : String) : Option ConnectionId :=
  match peer.peerConnection, peer.targetPeer, peer.negotiationId with
  | some connection, some existingTarget, some existingId =>
    if existingTarget = target ∧ existingId = negotiationId then some connection else none
  | _, _, _ => none

/-- A connection that is in the way. -/
def hasOtherConnection (target negotiationId : String) : Bool :=
  peer.peerConnection.isSome && peer.targetPeer.isSome && peer.negotiationId.isSome &&
    (peer.negotiates target negotiationId).isNone

/-- The connection is installed: the candidates that came before it are kept if they are meant for it. -/
def installConnection (target negotiationId : String) (connection : ConnectionId) : RtcPeer :=
  { peer with
    connectionEpoch := peer.connectionEpoch + 1
    targetPeer := some target
    negotiationId := some negotiationId
    localDescriptionAnnounced := false
    remoteDescriptionPending := false
    remoteDescriptionSet := false
    pendingLocalCandidates := []
    pendingRemoteCandidates := peer.pendingRemoteCandidates.filter fun (fromPeer, candidateId, _) =>
      fromPeer == target && candidateId == negotiationId
    peerConnection := some connection }

/-- `ensure_peer_connection`, with what the browser says to a new connection. -/
def ensurePeerConnection (target negotiationId : String) (nowMs : Nat) (built : Except String ConnectionId) :
    Except SignalingError (ConnectionId × Nat) × RtcPeer :=
  match peer.negotiates target negotiationId with
  | some connection => (.ok (connection, peer.connectionEpoch), peer)
  | none =>
    if peer.rtcConfigValid nowMs then
      let peer := if peer.hasOtherConnection target negotiationId then peer.reset else peer
      match built with
      | .error message => (.error (.browser message), peer)
      | .ok connection =>
        let peer := peer.installConnection target negotiationId connection
        (.ok (connection, peer.connectionEpoch), peer)
    else (.error .rtcConfigExpired, peer)

/-! ## Calls -/

/-- `start_offer`, with the negotiation id that was drawn. The channel of the connection is new, and not open. -/
def startOffer (target : String) (drawn : Except String String) (nowMs : Nat) (built : Except String ConnectionId)
    (channel : ChannelId) : Except SignalingError (OfferStart × Option OfferTask) × RtcPeer :=
  if peer.negotiating ∨ (peer.targetPeer = some target ∧ peer.peerConnection.isSome) then
    (.ok (.alreadyActive, none), peer)
  else
    match drawn with
    | .error message => (.error (.browser message), peer)
    | .ok negotiationId =>
      match peer.ensurePeerConnection target negotiationId nowMs built with
      | (.error error, peer) => (.error error, peer)
      | (.ok (connection, epoch), peer) =>
        -- the epoch is looked at again, but nothing can have come in between
        (.ok (.started, some ⟨connection, epoch, negotiationId, target⟩),
          { peer with negotiating := true, toPeer := peer.toPeer.installDataChannel channel })

/-- The connection is already that of the offer. -/
def sameNegotiation (fromPeer negotiationId : String) : Bool :=
  peer.peerConnection.isSome && peer.targetPeer == some fromPeer && peer.negotiationId == some negotiationId

/-- A connection is given up for another one. -/
def withoutConnection : RtcPeer := if peer.peerConnection.isSome then peer.prepareReconnect else peer

def prepareOffer (fromPeer negotiationId sdp : String) (nowMs : Nat) (built : Except String ConnectionId) :
    Except SignalingError PreparedSignal × RtcPeer :=
  if peer.sameNegotiation fromPeer negotiationId then (.ok .ignored, peer)
  else
    match peer.withoutConnection.ensurePeerConnection fromPeer negotiationId nowMs built with
    | (.error error, peer) => (.error error, peer)
    | (.ok (connection, epoch), peer) => (.ok (.task (.offer connection epoch negotiationId fromPeer sdp)), peer)

def prepareAnswer (fromPeer negotiationId sdp : String) : Except SignalingError PreparedSignal × RtcPeer :=
  if peer.targetPeer ≠ some fromPeer ∨ peer.negotiationId ≠ some negotiationId then (.ok .ignored, peer)
  else
    match peer.peerConnection with
    | none => (.ok .ignored, peer)
    | some connection =>
      if !peer.localDescriptionAnnounced || peer.remoteDescriptionPending || peer.remoteDescriptionSet then (.ok .ignored, peer)
      else
        (.ok (.task (.answer connection peer.connectionEpoch negotiationId sdp)), { peer with remoteDescriptionPending := true })

/-- A candidate of another connection is not wanted, if there is a connection. -/
def foreign (fromPeer negotiationId : String) : Bool :=
  peer.targetPeer.any (· != fromPeer) || peer.negotiationId.any (· != negotiationId)

def queueCandidate (fromPeer negotiationId : String) (candidate : Signal) :
    Except SignalingError PreparedSignal × RtcPeer :=
  if NEGOTIATION_SIGNAL_LIMIT ≤ peer.pendingRemoteCandidates.length then
    (.error (.browser "too many queued ICE candidates"), peer)
  else
    (.ok .deferred,
      { peer with pendingRemoteCandidates := peer.pendingRemoteCandidates ++ [(fromPeer, negotiationId, candidate)] })

def prepareCandidate (fromPeer negotiationId : String) (candidate : Signal) : Except SignalingError PreparedSignal × RtcPeer :=
  if peer.foreign fromPeer negotiationId then (.ok .ignored, peer)
  else
    match peer.remoteDescriptionSet, peer.peerConnection with
    | true, some connection => (.ok (.task (.iceCandidate connection peer.connectionEpoch negotiationId candidate)), peer)
    | _, _ => peer.queueCandidate fromPeer negotiationId candidate

def prepareSignalTask (fromPeer negotiationId : String) (signal : Signal) (nowMs : Nat) (built : Except String ConnectionId) :
    Except SignalingError PreparedSignal × RtcPeer :=
  match signal with
  | .offer sdp => peer.prepareOffer fromPeer negotiationId sdp nowMs built
  | .answer sdp => peer.prepareAnswer fromPeer negotiationId sdp
  | .iceCandidate candidate sdpMid sdpMLineIndex =>
    peer.prepareCandidate fromPeer negotiationId (.iceCandidate candidate sdpMid sdpMLineIndex)

/-- `accept_signal`, and the task that it starts. -/
def acceptSignal (fromPeer negotiationId : String) (signal : Signal) (nowMs : Nat) (built : Except String ConnectionId) :
    Except SignalingError (SignalAcceptance × Option PendingSignalTask) × RtcPeer :=
  match peer.prepareSignalTask fromPeer negotiationId signal nowMs built with
  | (.error error, peer) => (.error error, peer)
  | (.ok (.task task), peer) => (.ok (.scheduled, some task), peer)
  | (.ok .deferred, peer) => (.ok (.deferred, none), peer)
  | (.ok .ignored, peer) => (.ok (.ignored, none), peer)

end RtcPeer

end P2PTransmission.Rtc
