import P2PTransmission.Rtc.Signaling
import P2PTransmission.Wire.Control

/-!
# Texts

A short text is offered, accepted, sent and acknowledged over the data channel. A peer sends or receives one text at a time,
and only while it transfers no files. The person who gets an offer is not asked: the peer accepts whenever it is free.

Of the state of a peer this is the part about texts; of the files it only matters whether a transfer is active. What was given
to the channel waits in `outbox` until it arrives at the other end. A timeout that was scheduled waits in `timeouts` until it
elapses.
-/

set_option autoImplicit false

namespace P2PTransmission.Rtc

open Wire (TextMessage)

inductive TextError
  | browser (message : String)
  | decode (error : ProtocolError)
  deriving DecidableEq, Repr

def TextError.text : TextError → String
  | browser message => "browser API failed: " ++ message
  | decode error => "response could not be decoded: " ++ error.text

inductive TextEvent
  | outgoingOffered (transferId : String) (characterCount byteLength : Nat)
  | incomingOffered (transferId : String) (characterCount byteLength : Nat)
  | accepted (transferId : String) (direction : TransferDirection)
  | rejected (transferId : String) (direction : TransferDirection)
  | received (transferId text : String)
  | delivered (transferId : String)
  | cancelled (transferId : String)
  | failed (transferId message : String)
  deriving DecidableEq, Repr

/-- What a scheduled timeout waits for: `schedule_outgoing_text_timeout`, `schedule_incoming_text_timeout`. -/
inductive TextTimeout
  | outgoing (transferId : String) (accepted : Bool)
  | incoming (transferId : String)
  deriving DecidableEq, Repr

def TextTimeout.transferId : TextTimeout → String
  | outgoing transferId _ | incoming transferId => transferId

inductive TextChannel
  | absent | closed | opened
  deriving DecidableEq, Repr

structure TextPeer where
  channel : TextChannel := .opened
  /-- Files are offered, sent, received or restored. -/
  transferActive : Bool := false
  outgoingText : Option OutgoingTextState := none
  incomingText : Option IncomingTextOffer := none
  receivingText : Option IncomingTextOffer := none
  outbox : List TextMessage := []
  events : List TextEvent := []
  timeouts : List TextTimeout := []
  deriving DecidableEq, Repr

namespace TextPeer

def emit (peer : TextPeer) (event : TextEvent) : TextPeer := { peer with events := peer.events ++ [event] }

/-- `text_fail`. -/
def textFail (peer : TextPeer) (transferId message : String) : TextPeer := peer.emit (.failed transferId message)

def schedule (peer : TextPeer) (timeout : TextTimeout) : TextPeer := { peer with timeouts := peer.timeouts ++ [timeout] }

def currentDataChannel (peer : TextPeer) : Except TextError Unit :=
  match peer.channel with
  | .absent => .error (.browser "DataChannel is not ready")
  | .closed => .error (.browser "DataChannel is not open")
  | .opened => .ok ()

/-- `send_control_on`: a message is checked before it is sent. -/
def sendControlOn (peer : TextPeer) (message : TextMessage) : Except TextError TextPeer :=
  match message.validate with
  | .error error => .error (.decode error)
  | .ok _ => .ok { peer with outbox := peer.outbox ++ [message] }

/-- The message is sent if there is a channel; whether that went well does not matter. -/
def trySend (peer : TextPeer) (message : TextMessage) : TextPeer :=
  match peer.currentDataChannel with
  | .error _ => peer
  | .ok _ =>
    match peer.sendControlOn message with
    | .error _ => peer
    | .ok sent => sent

def activeTextTransferId (peer : TextPeer) : Option String :=
  ((peer.outgoingText.map (·.transferId)).or (peer.incomingText.map (·.transferId))).or
    (peer.receivingText.map (·.transferId))

def fileOrTextTransferActive (peer : TextPeer) : Bool := peer.transferActive || peer.activeTextTransferId.isSome

/-- The state without this text: `clear_text_transfer`. -/
def cleared (peer : TextPeer) (transferId : String) : TextPeer :=
  { peer with
    outgoingText := peer.outgoingText.filter (·.transferId != transferId)
    incomingText := peer.incomingText.filter (·.transferId != transferId)
    receivingText := peer.receivingText.filter (·.transferId != transferId) }

/-- Whether there was something to clear. -/
def holds (peer : TextPeer) (transferId : String) : Bool :=
  peer.outgoingText.any (·.transferId == transferId) || peer.incomingText.any (·.transferId == transferId) ||
    peer.receivingText.any (·.transferId == transferId)

/-! ## Calls -/

/-- The id is the one that was drawn. -/
def offerText (peer : TextPeer) (transferId text : String) : Except TextError String × TextPeer :=
  if 2 ^ 32 ≤ text.length then (.error (.browser "text contains too many characters"), peer)
  else if 2 ^ 32 ≤ text.utf8ByteSize then (.error (.browser "text payload is too large"), peer)
  else
    match (TextMessage.textPayload transferId text).validate with
    | .error error => (.error (.decode error), peer)
    | .ok _ =>
      match (TextMessage.textOffer transferId text.length text.utf8ByteSize).validate with
      | .error error => (.error (.decode error), peer)
      | .ok _ =>
        match peer.currentDataChannel with
        | .error error => (.error error, peer)
        | .ok _ =>
          match peer.fileOrTextTransferActive with
          | true => (.error (.browser "another transfer is already active"), peer)
          | false =>
            match
              { peer with outgoingText := some ⟨transferId, text, false⟩ }.sendControlOn
                (.textOffer transferId text.length text.utf8ByteSize) with
            | .error error => (.error error, { peer with outgoingText := none })
            | .ok sent =>
              (.ok transferId,
                (sent.emit (.outgoingOffered transferId text.length text.utf8ByteSize)).schedule (.outgoing transferId false))

def decideText (peer : TextPeer) (transferId : String) (accepted : Bool) : Except TextError Unit × TextPeer :=
  match peer.currentDataChannel with
  | .error error => (.error error, peer)
  | .ok _ =>
    match peer.incomingText with
    | none => (.error (.browser "incoming text is no longer available"), peer)
    | some offer =>
      if offer.transferId ≠ transferId then (.error (.browser "incoming text id does not match"), peer)
      else
        match peer.sendControlOn (.textDecision transferId accepted) with
        | .error error => (.error error, peer)
        | .ok sent =>
          match accepted with
          | true =>
            (.ok (),
              ({ sent with incomingText := none, receivingText := some offer }.emit (.accepted transferId .receive)).schedule
                (.incoming transferId))
          | false => (.ok (), { sent with incomingText := none }.emit (.rejected transferId .receive))

def cancelText (peer : TextPeer) : Except TextError Unit × TextPeer :=
  match peer.activeTextTransferId with
  | none => (.ok (), peer)
  | some transferId =>
    match peer.currentDataChannel with
    | .error _ => (.ok (), (peer.cleared transferId).emit (.cancelled transferId))
    | .ok _ =>
      match peer.sendControlOn (.textCancel transferId) with
      | .error error => (.error error, peer)
      | .ok sent => (.ok (), (sent.cleared transferId).emit (.cancelled transferId))

/-! ## Messages -/

def handleTextOffer (peer : TextPeer) (transferId : String) (characterCount byteLength : Nat) : TextPeer :=
  match peer.fileOrTextTransferActive with
  | true => peer.trySend (.textDecision transferId false)
  | false =>
    match
      ({ peer with incomingText := some ⟨transferId, characterCount, byteLength⟩ }.emit
        (.incomingOffered transferId characterCount byteLength)).decideText transferId true with
    | (.ok _, decided) => decided
    | (.error error, decided) => (decided.cleared transferId).textFail transferId error.text

def handleTextDecision (peer : TextPeer) (transferId : String) (accepted : Bool) : TextPeer :=
  match peer.outgoingText with
  | none => peer.textFail transferId "text decision arrived without an offer"
  | some outgoing =>
    if outgoing.transferId ≠ transferId then peer.textFail transferId "text decision id does not match"
    else
      match outgoing.accepted, accepted with
      | true, _ => peer.textFail transferId "duplicate text decision"
      | false, false => { peer with outgoingText := none }.emit (.rejected transferId .send)
      | false, true =>
        match peer.currentDataChannel with
        | .error error =>
          ({ peer with outgoingText := some { outgoing with accepted := true } }.cleared transferId).textFail transferId error.text
        | .ok _ =>
          match
            { peer with outgoingText := some { outgoing with accepted := true } }.sendControlOn
              (.textPayload transferId outgoing.text) with
          | .error error =>
            ({ peer with outgoingText := some { outgoing with accepted := true } }.cleared transferId).textFail transferId
              error.text
          | .ok sent => (sent.emit (.accepted transferId .send)).schedule (.outgoing transferId true)

def handleTextPayload (peer : TextPeer) (transferId text : String) : TextPeer :=
  match peer.receivingText with
  | none => peer.textFail transferId "text payload arrived before acceptance"
  | some offer =>
    if offer.transferId ≠ transferId then peer.textFail transferId "text payload id does not match"
    else if text.length ≠ offer.characterCount ∨ text.utf8ByteSize ≠ offer.byteLength then
      ({ peer with receivingText := none }.textFail transferId "text payload metadata does not match").trySend
        (.textCancel transferId)
    else if Wire.MAX_TEXT_TRANSFER_CHARS < text.length ∨ Wire.MAX_TEXT_TRANSFER_BYTES < text.utf8ByteSize then
      { peer with receivingText := none }.textFail transferId "text payload exceeds the supported limit"
    else ({ peer with receivingText := none }.trySend (.textReceipt transferId)).emit (.received transferId text)

def handleTextReceipt (peer : TextPeer) (transferId : String) : TextPeer :=
  match peer.outgoingText.any fun outgoing => outgoing.transferId == transferId && outgoing.accepted with
  | true => { peer with outgoingText := none }.emit (.delivered transferId)
  | false => peer.textFail transferId "text receipt does not match an active transfer"

def handleTextCancel (peer : TextPeer) (transferId : String) : TextPeer :=
  match peer.holds transferId with
  | true => (peer.cleared transferId).emit (.cancelled transferId)
  | false => peer.cleared transferId

/-- The part of `handle_control` about texts. -/
def handleControl (peer : TextPeer) : TextMessage → TextPeer
  | .textOffer transferId characterCount byteLength => peer.handleTextOffer transferId characterCount byteLength
  | .textDecision transferId accepted => peer.handleTextDecision transferId accepted
  | .textPayload transferId text => peer.handleTextPayload transferId text
  | .textReceipt transferId => peer.handleTextReceipt transferId
  | .textCancel transferId => peer.handleTextCancel transferId

/-! ## Timeouts -/

def timeoutTextTransfer (peer : TextPeer) (transferId : String) : TextPeer :=
  match peer.holds transferId with
  | true => ((peer.trySend (.textCancel transferId)).cleared transferId).textFail transferId "text transfer timed out"
  | false => (peer.trySend (.textCancel transferId)).cleared transferId

/-- Whether the state is still the one that the timeout was scheduled for. -/
def timedOut (peer : TextPeer) : TextTimeout → Bool
  | .outgoing transferId accepted =>
    peer.outgoingText.any fun state => state.transferId == transferId && state.accepted == accepted
  | .incoming transferId => peer.receivingText.any (·.transferId == transferId)

/-- A timeout that was scheduled elapses. -/
def elapse (peer : TextPeer) (timeout : TextTimeout) : TextPeer :=
  if timeout ∈ peer.timeouts then
    match { peer with timeouts := peer.timeouts.erase timeout }.timedOut timeout with
    | true => { peer with timeouts := peer.timeouts.erase timeout }.timeoutTextTransfer timeout.transferId
    | false => { peer with timeouts := peer.timeouts.erase timeout }
  else peer

end TextPeer

/-! ## Runs of a peer -/

/-- What the application and the clock do. -/
inductive TextCall
  | offer (transferId text : String)
  | decide (transferId : String) (accepted : Bool)
  | cancel
  | timeout (timeout : TextTimeout)
  /-- Transfers of files begin or end. -/
  | transfers (active : Bool)
  deriving DecidableEq, Repr

inductive TextInput
  | call (call : TextCall)
  | message (message : TextMessage)
  | channel (channel : TextChannel)
  deriving DecidableEq, Repr

namespace TextPeer

def call (peer : TextPeer) : TextCall → TextPeer
  | .offer transferId text => (peer.offerText transferId text).2
  | .decide transferId accepted => (peer.decideText transferId accepted).2
  | .cancel => peer.cancelText.2
  | .timeout timeout => peer.elapse timeout
  | .transfers active => { peer with transferActive := active }

def input (peer : TextPeer) : TextInput → TextPeer
  | .call call => peer.call call
  | .message message => peer.handleControl message
  | .channel channel => { peer with channel }

end TextPeer

end P2PTransmission.Rtc
