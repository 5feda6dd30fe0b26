import P2PTransmission.Foundation.Json
import P2PTransmission.Rtc.Message

/-!
# Control frames

The text in which a control message travels over the data channel. The messages about files are those of the transfer model;
here they are joined by those about texts, and all of them carry the version of the protocol they are written in.

A message is checked before it is written (`encodeControlFrame`) and after it was read (`parseControlMessage`). What reads a
text in JSON is a parameter.
-/

set_option autoImplicit false

namespace P2PTransmission.Wire

open Rtc Json

def MAX_CONTROL_FRAME_BYTES : Nat := 64 * 1024

def MAX_TEXT_TRANSFER_CHARS : Nat := 500

def MAX_TEXT_TRANSFER_BYTES : Nat := 4 * 1024

/-! ## Messages -/

/-- The messages about texts. -/
inductive TextMessage
  | textOffer (transferId : String) (characterCount byteLength : Nat)
  | textDecision (transferId : String) (accepted : Bool)
  | textPayload (transferId text : String)
  | textReceipt (transferId : String)
  | textCancel (transferId : String)
  deriving DecidableEq, Repr

inductive ControlBody
  | text (message : TextMessage)
  | transfer (message : Rtc.ControlMessage)
  deriving DecidableEq, Repr

/-! ### Machine integers -/

def U16 (n : Nat) : Prop := n < 2 ^ 16

def U32 (n : Nat) : Prop := n < 2 ^ 32

def U64 (n : Nat) : Prop := n < 2 ^ 64

def TextMessage.Fits : TextMessage → Prop
  | textOffer _ characterCount byteLength => U32 characterCount ∧ U32 byteLength
  | textDecision _ _ | textPayload _ _ | textReceipt _ | textCancel _ => True

/-- The numbers of the message fit into the types of their fields. -/
def TransferFits : Rtc.ControlMessage → Prop
  | .manifest _ mode files =>
    (match mode with | .buffered => True | .streamed segmentBytes => U32 segmentBytes) ∧ ∀ file ∈ files, U64 file.sizeBytes
  | .streamReady _ maxChunkBytes ackWindowBytes resume =>
    U32 maxChunkBytes ∧ U64 ackWindowBytes ∧ ∀ cursor ∈ resume, U64 cursor.committedBytes
  | .segmentCommit _ _ segmentIndex offset bytes _ => U64 segmentIndex ∧ U64 offset ∧ U32 bytes
  | .segmentAck _ _ segmentIndex committedBytes _ => U64 segmentIndex ∧ U64 committedBytes
  | .complete _ bytes _ => U64 bytes
  | .streamComplete _ totalBytes files => U64 totalBytes ∧ ∀ file ∈ files, U64 file.sizeBytes
  | .decision _ _ | .start _ | .streamPaused _ _ | .cancel _ _ | .error _ _ _ => True

def ControlBody.Fits : ControlBody → Prop
  | text message => message.Fits
  | transfer message => TransferFits message

/-- A control message as it is written, with the version in front. -/
structure ControlMessage where
  version : ProtocolVersion
  body : ControlBody
  versionFits : U16 version.major ∧ U16 version.minor
  fits : body.Fits

theorem current_fits : U16 CURRENT_PROTOCOL.major ∧ U16 CURRENT_PROTOCOL.minor := by
  unfold U16
  decide

/-! ## Validation -/

def validateMultilineText (value field : String) (maxBytes : Nat) : Except ProtocolError Unit :=
  if value.isEmpty then .error (.emptyField field)
  else if maxBytes < value.utf8ByteSize then .error (.fieldTooLong field value.utf8ByteSize maxBytes)
  else if value.toList.any fun c => Rtc.isControl c && !(c == '\r' || c == '\n' || c == '\t') then .error (.invalidField field)
  else .ok ()

namespace TextMessage

def transferId : TextMessage → String
  | textOffer transferId _ _ | textDecision transferId _ | textPayload transferId _ | textReceipt transferId
  | textCancel transferId => transferId

def validateBody : TextMessage → Except ProtocolError Unit
  | textOffer _ characterCount byteLength =>
    if characterCount = 0 ∨ MAX_TEXT_TRANSFER_CHARS < characterCount then .error (.invalidField "character_count")
    else if byteLength = 0 ∨ MAX_TEXT_TRANSFER_BYTES < byteLength then .error (.invalidField "byte_length")
    else .ok ()
  | textPayload _ text =>
    match validateMultilineText text "text" MAX_TEXT_TRANSFER_BYTES with
    | .error error => .error error
    | .ok _ => if MAX_TEXT_TRANSFER_CHARS < text.length then .error (.invalidField "text") else .ok ()
  | textDecision _ _ | textReceipt _ | textCancel _ => .ok ()

def validate (message : TextMessage) : Except ProtocolError Unit :=
  match validateToken message.transferId "transfer_id" with
  | .error error => .error error
  | .ok _ => message.validateBody

end TextMessage

def ControlBody.validate : ControlBody → Except ProtocolError Unit
  | text message => message.validate
  | transfer message => message.validate

def ControlMessage.validate (message : ControlMessage) : Except ProtocolError Unit :=
  match message.version.validate with
  | .error error => .error error
  | .ok _ => message.body.validate

/-! ## The text of a message -/

def writeVersion (version : ProtocolVersion) : String :=
  writeObject [("major", writeNat version.major), ("minor", writeNat version.minor)]

def writeMode : TransferMode → String
  | .buffered => writeString "buffered"
  | .streamed segmentBytes => writeObject [("streamed", writeObject [("segment_bytes", writeNat segmentBytes)])]

def writeFileManifest (file : FileManifest) : String :=
  writeObject
    [("file_id", writeString file.fileId), ("name", writeString file.name), ("mime", writeOption writeString file.mime),
      ("size_bytes", writeNat file.sizeBytes)]

def writeCursor (cursor : ResumeCursor) : String :=
  writeObject
    [("file_id", writeString cursor.fileId), ("committed_bytes", writeNat cursor.committedBytes),
      ("last_segment_blake3", writeOption writeString cursor.lastSegmentBlake3)]

def writeDigest (digest : FileDigest) : String :=
  writeObject
    [("file_id", writeString digest.fileId), ("size_bytes", writeNat digest.sizeBytes),
      ("blake3", writeString digest.blake3)]

def writeCancelReason : CancelReason → String
  | .senderCancelled => writeString "sender_cancelled"
  | .receiverCancelled => writeString "receiver_cancelled"
  | .timeout => writeString "timeout"
  | .peerClosed => writeString "peer_closed"

def writePauseReason : StreamPauseReason → String
  | .destinationQuotaExceeded => writeString "destination_quota_exceeded"
  | .destinationPermissionDenied => writeString "destination_permission_denied"

/-- The tag of the message, its transfer, and the members after that. -/
def TextMessage.fields : TextMessage → String × String × List (String × String)
  | textOffer transferId characterCount byteLength =>
    ("text_offer", transferId,
      [("character_count", writeNat characterCount), ("byte_length", writeNat byteLength)])
  | textDecision transferId accepted => ("text_decision", transferId, [("accepted", writeBool accepted)])
  | textPayload transferId text => ("text_payload", transferId, [("text", writeString text)])
  | textReceipt transferId => ("text_receipt", transferId, [])
  | textCancel transferId => ("text_cancel", transferId, [])

def transferFields : Rtc.ControlMessage → String × String × List (String × String)
  | .manifest transferId mode files =>
    ("manifest", transferId, [("mode", writeMode mode), ("files", writeArray (files.map writeFileManifest))])
  | .decision transferId accepted => ("decision", transferId, [("accepted", writeBool accepted)])
  | .start transferId => ("start", transferId, [])
  | .streamReady transferId maxChunkBytes ackWindowBytes resume =>
    ("stream_ready", transferId,
      [("max_chunk_bytes", writeNat maxChunkBytes), ("ack_window_bytes", writeNat ackWindowBytes),
        ("resume", writeArray (resume.map writeCursor))])
  | .segmentCommit transferId fileId segmentIndex offset bytes blake3 =>
    ("segment_commit", transferId,
      [("file_id", writeString fileId), ("segment_index", writeNat segmentIndex), ("offset", writeNat offset),
        ("bytes", writeNat bytes), ("blake3", writeString blake3)])
  | .segmentAck transferId fileId segmentIndex committedBytes blake3 =>
    ("segment_ack", transferId,
      [("file_id", writeString fileId), ("segment_index", writeNat segmentIndex),
        ("committed_bytes", writeNat committedBytes), ("blake3", writeString blake3)])
  | .streamPaused transferId reason => ("stream_paused", transferId, [("reason", writePauseReason reason)])
  | .cancel transferId reason => ("cancel", transferId, [("reason", writeCancelReason reason)])
  | .complete transferId bytes blake3 =>
    ("complete", transferId, [("bytes", writeNat bytes), ("blake3", writeString blake3)])
  | .streamComplete transferId totalBytes files =>
    ("stream_complete", transferId,
      [("total_bytes", writeNat totalBytes), ("files", writeArray (files.map writeDigest))])
  | .error transferId code message =>
    ("error", transferId, [("code", writeString code), ("message", writeString message)])

def ControlBody.fields : ControlBody → String × String × List (String × String)
  | text message => message.fields
  | transfer message => transferFields message

/-- The text of a message: its tag, the version, and its fields in their order. -/
def ControlMessage.toJson (message : ControlMessage) : String :=
  let (tag, transferId, fields) := message.body.fields
  writeObject
    (("type", writeString tag) :: ("version", writeVersion message.version) :: ("transfer_id", writeString transferId) ::
      fields)

/-! ## Frames -/

inductive ControlFrameEncodeError
  | protocol (error : ProtocolError)
  | serialize (message : String)
  deriving DecidableEq, Repr

/-- A message that passes its check is written; writing one does not fail. -/
def encodeControlFrame (message : ControlMessage) : Except ControlFrameEncodeError String :=
  match message.validate with
  | .error error => .error (.protocol error)
  | .ok _ => .ok message.toJson

/-- What `fromStr` reads out of a text that is not too long, if it passes its check. -/
def parseControlMessage (fromStr : String → Except String ControlMessage) (input : String) :
    Except ProtocolError ControlMessage :=
  if MAX_CONTROL_FRAME_BYTES < input.utf8ByteSize then
    .error (.frameTooLarge input.utf8ByteSize MAX_CONTROL_FRAME_BYTES)
  else
    match fromStr input with
    | .error error => .error (.invalidJson error)
    | .ok message =>
      match message.validate with
      | .error error => .error error
      | .ok _ => .ok message

end P2PTransmission.Wire
