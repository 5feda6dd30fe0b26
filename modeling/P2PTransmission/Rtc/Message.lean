import P2PTransmission.Rtc.Wire

/-!
# Control messages

What two peers say to each other beside the binary frames, with the checks that a message passes before it is sent and
after it was read. Every message is of the current version of the protocol: one of another version is not parsed.
-/

set_option autoImplicit false

namespace P2PTransmission.Rtc

def MAX_FILES_PER_MANIFEST : Nat := 10

def MAX_BUFFERED_TRANSFER_BYTES : Nat := 100 * 1024 * 1024

def MAX_TRANSFER_BYTES : Nat := 5 * 1024 * 1024 * 1024

def MIN_STREAM_SEGMENT_BYTES : Nat := 1024 * 1024

def MAX_STREAM_SEGMENT_BYTES : Nat := 16 * 1024 * 1024

def MAX_STREAM_ACK_WINDOW_BYTES : Nat := 64 * 1024 * 1024

def MAX_ID_BYTES : Nat := 64

def MAX_FILE_NAME_BYTES : Nat := 1024

def MAX_MIME_BYTES : Nat := 128

def MAX_ERROR_MESSAGE_BYTES : Nat := 512

def DEFAULT_STREAM_CHUNK_BYTES : Nat := 32 * 1024

def DEFAULT_STREAM_SEGMENT_BYTES : Nat := 8 * 1024 * 1024

def DEFAULT_STREAM_ACK_WINDOW_BYTES : Nat := 16 * 1024 * 1024

/-! ## Texts -/

def isControl (character : Char) : Bool :=
  character.toNat < 0x20 || (0x7f ≤ character.toNat && character.toNat < 0xa0)

def isHexDigit (character : Char) : Bool :=
  character.isDigit || ('a' ≤ character && character ≤ 'f') || ('A' ≤ character && character ≤ 'F')

def validateText (value field : String) (maxBytes : Nat) : Except ProtocolError Unit :=
  if value.isEmpty then .error (.emptyField field)
  else if maxBytes < value.utf8ByteSize then .error (.fieldTooLong field value.utf8ByteSize maxBytes)
  else if value.toList.any isControl then .error (.invalidField field)
  else .ok ()

def validateToken (value field : String) : Except ProtocolError Unit :=
  match validateText value field MAX_ID_BYTES with
  | .error error => .error error
  | .ok _ =>
    if value.toList.any fun character => !(character.isAlphanum || character == '_' || character == '-') then
      .error (.invalidField field)
    else .ok ()

/-- A digest is sixty-four hexadecimal digits. -/
def validBlake3 (value : String) : Bool := value.utf8ByteSize == 64 && value.toList.all isHexDigit

def validateBlake3 (value field : String) : Except ProtocolError Unit :=
  if validBlake3 value then .ok () else .error (.invalidField field)

/-! ## Parts of the messages -/

structure TransferFile where
  name : String
  mime : Option String
  sizeBytes : Nat
  deriving DecidableEq, Repr

structure FileManifest where
  fileId : String
  name : String
  mime : Option String
  sizeBytes : Nat
  deriving DecidableEq, Repr

inductive TransferMode
  | buffered
  | streamed (segmentBytes : Nat)
  deriving DecidableEq, Repr

structure ResumeCursor where
  fileId : String
  committedBytes : Nat
  lastSegmentBlake3 : Option String
  deriving DecidableEq, Repr

structure FileDigest where
  fileId : String
  sizeBytes : Nat
  blake3 : String
  deriving DecidableEq, Repr

inductive CancelReason
  | senderCancelled | receiverCancelled | timeout | peerClosed
  deriving DecidableEq, Repr

inductive StreamPauseReason
  | destinationQuotaExceeded | destinationPermissionDenied
  deriving DecidableEq, Repr

inductive ControlMessage
  | manifest (transferId : String) (mode : TransferMode) (files : List FileManifest)
  | decision (transferId : String) (accepted : Bool)
  | start (transferId : String)
  | streamReady (transferId : String) (maxChunkBytes ackWindowBytes : Nat) (resume : List ResumeCursor)
  | segmentCommit (transferId fileId : String) (segmentIndex offset bytes : Nat) (blake3 : String)
  | segmentAck (transferId fileId : String) (segmentIndex committedBytes : Nat) (blake3 : String)
  | streamPaused (transferId : String) (reason : StreamPauseReason)
  | cancel (transferId : String) (reason : CancelReason)
  | complete (transferId : String) (bytes : Nat) (blake3 : String)
  | streamComplete (transferId : String) (totalBytes : Nat) (files : List FileDigest)
  | error (transferId code message : String)
  deriving DecidableEq, Repr

def ControlMessage.transferId : ControlMessage → String
  | manifest transferId _ _ | decision transferId _ | start transferId | streamReady transferId _ _ _
  | segmentCommit transferId _ _ _ _ _ | segmentAck transferId _ _ _ _ | streamPaused transferId _ | cancel transferId _
  | complete transferId _ _ | streamComplete transferId _ _ | error transferId _ _ => transferId

/-! ## Validation -/

def FileManifest.validate (file : FileManifest) : Except ProtocolError Unit := do
  validateToken file.fileId "file_id"
  validateText file.name "file_name" MAX_FILE_NAME_BYTES
  if file.name.toList.any fun character => character == '/' || character == '\\' then
    throw (.invalidField "file_name")
  match file.mime with
  | some mime => validateText mime "mime" MAX_MIME_BYTES
  | none => pure ()

def TransferMode.maxTransferBytes : TransferMode → Nat
  | buffered => MAX_BUFFERED_TRANSFER_BYTES
  | streamed _ => MAX_TRANSFER_BYTES

def TransferMode.validate : TransferMode → Except ProtocolError Unit
  | buffered => .ok ()
  | streamed segmentBytes =>
    if ¬(MIN_STREAM_SEGMENT_BYTES ≤ segmentBytes ∧ segmentBytes ≤ MAX_STREAM_SEGMENT_BYTES) ∨
        segmentBytes % MAX_CHUNK_BYTES ≠ 0 then .error (.invalidField "segment_bytes")
    else .ok ()

def ResumeCursor.validate (cursor : ResumeCursor) : Except ProtocolError Unit := do
  validateToken cursor.fileId "file_id"
  if MAX_TRANSFER_BYTES < cursor.committedBytes then throw .transferTooLarge
  match cursor.committedBytes, cursor.lastSegmentBlake3 with
  | 0, none => pure ()
  | 0, some _ | _ + 1, none => throw (.invalidField "last_segment_blake3")
  | _ + 1, some blake3 => validateBlake3 blake3 "last_segment_blake3"

def FileDigest.validate (digest : FileDigest) : Except ProtocolError Unit := do
  validateToken digest.fileId "file_id"
  if MAX_TRANSFER_BYTES < digest.sizeBytes then throw .transferTooLarge
  validateBlake3 digest.blake3 "blake3"

section UniqueFiles

variable {α : Type} (fileId : α → String) (validate : α → Except ProtocolError Unit) (fileSize : α → Nat)

/-- The total of the files, each of which passes its check and has an identifier that was not seen before. -/
def totalUniqueFiles (seen : List String) (total : Nat) : List α → Except ProtocolError Nat
  | [] => .ok total
  | file :: files =>
    match validate file with
    | .error error => .error error
    | .ok _ =>
      if fileId file ∈ seen then .error .duplicateFileId
      else
        match checkedAdd total (fileSize file) with
        | none => .error .transferTooLarge
        | some total => totalUniqueFiles (fileId file :: seen) total files

def validateUniqueFiles (files : List α) : Except ProtocolError Nat :=
  if MAX_FILES_PER_MANIFEST < files.length then .error .invalidFileCount
  else totalUniqueFiles fileId validate fileSize [] 0 files

end UniqueFiles

namespace ControlMessage

def validateBody : ControlMessage → Except ProtocolError Unit
  | manifest _ mode files => do
    mode.validate
    if files.isEmpty ∨ MAX_FILES_PER_MANIFEST < files.length then throw .invalidFileCount
    let total ← totalUniqueFiles FileManifest.fileId FileManifest.validate FileManifest.sizeBytes [] 0 files
    if mode.maxTransferBytes < total then throw .transferTooLarge
  | streamReady _ maxChunkBytes ackWindowBytes resume => do
    if maxChunkBytes = 0 ∨ MAX_CHUNK_BYTES < maxChunkBytes then throw (.invalidField "max_chunk_bytes")
    if ackWindowBytes < maxChunkBytes ∨ MAX_STREAM_ACK_WINDOW_BYTES < ackWindowBytes then
      throw (.invalidField "ack_window_bytes")
    let _ ← validateUniqueFiles ResumeCursor.fileId ResumeCursor.validate (fun _ => 0) resume
  | segmentCommit _ fileId _ offset bytes blake3 => do
    validateToken fileId "file_id"
    if bytes = 0 ∨ MAX_STREAM_SEGMENT_BYTES < bytes then throw (.invalidField "segment_bytes")
    match checkedAdd offset bytes with
    | none => throw .offsetOverflow
    | some stop =>
      if MAX_TRANSFER_BYTES < stop then throw .transferTooLarge
      validateBlake3 blake3 "blake3"
  | segmentAck _ fileId _ committedBytes blake3 => do
    validateToken fileId "file_id"
    if committedBytes = 0 ∨ MAX_TRANSFER_BYTES < committedBytes then throw (.invalidField "committed_bytes")
    validateBlake3 blake3 "blake3"
  | complete _ bytes blake3 => do
    if MAX_BUFFERED_TRANSFER_BYTES < bytes then throw .transferTooLarge
    validateBlake3 blake3 "blake3"
  | streamComplete _ totalBytes files => do
    if files.isEmpty then throw .invalidFileCount
    let actual ← validateUniqueFiles FileDigest.fileId FileDigest.validate FileDigest.sizeBytes files
    if actual ≠ totalBytes ∨ MAX_TRANSFER_BYTES < totalBytes then throw (.invalidField "total_bytes")
  | error _ code message => do
    validateToken code "error_code"
    validateText message "error_message" MAX_ERROR_MESSAGE_BYTES
  | decision _ _ | start _ | streamPaused _ _ | cancel _ _ => pure ()

def validate (message : ControlMessage) : Except ProtocolError Unit := do
  validateToken message.transferId "transfer_id"
  message.validateBody

end ControlMessage

end P2PTransmission.Rtc
