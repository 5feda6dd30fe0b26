import P2PTransmission.Rtc.Message

/-!
# Manifests

The offer that a manifest makes to the receiver, and the plan that the sender makes for the selected files.
-/

set_option autoImplicit false

namespace P2PTransmission.Rtc

structure IncomingFile where
  fileBytes : BinaryId
  file : TransferFile
  deriving DecidableEq, Repr

structure IncomingOffer where
  transferId : String
  transferBytes : BinaryId
  mode : TransferMode
  files : List IncomingFile
  deriving DecidableEq, Repr

inductive IncomingManifestError
  | invalidTransferId | invalidFileId | bufferedBatchUnsupported
  deriving DecidableEq, Repr

namespace IncomingOffer

def incomingFile (file : FileManifest) : Option IncomingFile :=
  (parseBinaryId file.fileId "file").map fun fileBytes =>
    { fileBytes, file := { name := file.name, mime := file.mime, sizeBytes := file.sizeBytes } }

def fromManifest (transferId : String) (mode : TransferMode) (files : List FileManifest) :
    Except IncomingManifestError IncomingOffer :=
  match parseBinaryId transferId "transfer", files.mapM incomingFile with
  | none, _ => .error .invalidTransferId
  | some _, none => .error .invalidFileId
  | some transferBytes, some files =>
    if mode = .buffered ∧ files.length ≠ 1 then .error .bufferedBatchUnsupported
    else .ok { transferId, transferBytes, mode, files }

def transferFiles (offer : IncomingOffer) : List TransferFile := offer.files.map (·.file)

def totalBytes (offer : IncomingOffer) : Nat := (offer.files.map (·.file.sizeBytes)).sum

/-- The same transfer with the same files: the comparison goes through every field. -/
def matchesOffer (offer other : IncomingOffer) : Bool := offer == other

end IncomingOffer

/-! ## The plan of the sender -/

inductive OutgoingPlanError
  | invalidFileCount | sizeOverflow | transferTooLarge
  deriving DecidableEq, Repr

structure TransferPlan where
  totalBytes : Nat
  mode : TransferMode
  deriving DecidableEq, Repr

def planTransfer (files : List TransferFile) : Except OutgoingPlanError TransferPlan :=
  if files.isEmpty ∨ MAX_FILES_PER_MANIFEST < files.length then .error .invalidFileCount
  else
    match files.foldlM (fun total file => checkedAdd total file.sizeBytes) 0 with
    | none => .error .sizeOverflow
    | some totalBytes =>
      if MAX_TRANSFER_BYTES < totalBytes then .error .transferTooLarge
      else if files.length = 1 ∧ totalBytes ≤ MAX_BUFFERED_TRANSFER_BYTES then .ok { totalBytes, mode := .buffered }
      else .ok { totalBytes, mode := .streamed DEFAULT_STREAM_SEGMENT_BYTES }

def batchBlake3 [Blake3] : List FileDigest → String
  | [file] => file.blake3
  | files => (files.foldl (fun hasher file => ((hasher.update file.fileId.toUTF8.toList).update
      (beBytes 8 file.sizeBytes)).update file.blake3.toUTF8.toList) Hasher.new).finalize

end P2PTransmission.Rtc
