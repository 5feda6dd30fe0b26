import P2PTransmission.Rtc.Manifest
import P2PTransmission.Foundation.TreeMap

/-!
# Files and recovery records

The files of the two users, the writers of the receiver and the records from which a transfer goes on after a reload.

A writer collects what is written to it; the file changes when the writer is closed. What an operation of the browser
answers is not known to the program: each one is given its answer.
-/

set_option autoImplicit false

namespace P2PTransmission.Rtc

/-! ## Errors of the platform -/

inductive BrowserStorageOperation
  | chooseSource | chooseDestination | requestPermission | readSource | readDestination | openDestination
  | writeDestination | commitDestination | reopenDestination | closeDestination | abortDestination
  deriving DecidableEq, Repr

def BrowserStorageOperation.text : BrowserStorageOperation → String
  | chooseSource => "choose source file"
  | chooseDestination => "choose destination"
  | requestPermission => "request file permission"
  | readSource => "read source file"
  | readDestination => "read destination checkpoint"
  | openDestination => "open destination"
  | writeDestination => "write destination"
  | commitDestination => "commit destination checkpoint"
  | reopenDestination => "reopen destination"
  | closeDestination => "close destination"
  | abortDestination => "abort destination write"

inductive BrowserStorageErrorKind
  | permissionDenied | quotaExceeded | notFound | invalidState | unknown
  deriving DecidableEq, Repr

def BrowserStorageErrorKind.text : BrowserStorageErrorKind → String
  | permissionDenied => "permission denied"
  | quotaExceeded => "storage quota exceeded"
  | notFound => "file or directory not found"
  | invalidState => "invalid file system state"
  | unknown => "unknown storage failure"

inductive BrowserPlatformError
  | userCancelled
  | storage (operation : BrowserStorageOperation) (kind : BrowserStorageErrorKind) (message : String)
  | browser (message : String)
  | decode (message : String)
  deriving DecidableEq, Repr

namespace BrowserPlatformError

def text : BrowserPlatformError → String
  | userCancelled => "browser operation was cancelled by the user"
  | storage operation kind message =>
    "browser storage failed while trying to " ++ operation.text ++ ": " ++ kind.text ++ ": " ++ message
  | browser message => "browser API failed: " ++ message
  | decode message => "response could not be decoded: " ++ message

/-- The channel is gone, so that the transfer may go on when there is another. -/
def reconnectableChannelError (error : BrowserPlatformError) : Bool :=
  ["RTCDataChannel", "DataChannel is not open", "DataChannel is not ready"].any fun part =>
    error.text.toList.tails.any part.toList.isPrefixOf

/-- The user can do something about it. -/
def recoverableStreamPauseReason : BrowserPlatformError → Option StreamPauseReason
  | storage _ .quotaExceeded _ => some .destinationQuotaExceeded
  | storage _ .permissionDenied _ => some .destinationPermissionDenied
  | _ => none

end BrowserPlatformError

/-! ## Writers -/

abbrev FileHandle : Type := Nat

/-- The files that handles stand for. -/
abbrev Disk : Type := BTreeMap FileHandle Bytes

structure StreamingFileWriter where
  handle : FileHandle
  /-- What the file is going to be. -/
  writable : Bytes
  nextOffset : Nat
  closed : Bool
  deriving DecidableEq, Repr

/-- Bytes written at a position, over what is there and after zeros where nothing is. -/
def overwrite (content : Bytes) (offset : Nat) (bytes : Bytes) : Bytes :=
  (content ++ List.replicate (offset - content.length) 0).take offset ++ bytes ++ content.drop (offset + bytes.length)

/-- What the browser answers to a call: nothing, or what went wrong. -/
abbrev Answer : Type := Except BrowserPlatformError Unit

namespace StreamingFileWriter

/-- A writer of a file that was just chosen. -/
def fresh (handle : FileHandle) : StreamingFileWriter := { handle, writable := [], nextOffset := 0, closed := false }

def writeAt (writer : StreamingFileWriter) (offset : Nat) (bytes : Bytes) (answer : Answer) :
    Except BrowserPlatformError StreamingFileWriter :=
  if writer.closed then .error (.browser "streaming file writer is already closed")
  else if offset ≠ writer.nextOffset then
    .error (.browser s!"streaming write offset {offset} does not match {writer.nextOffset}")
  else
    match checkedAdd offset bytes.length, answer with
    | none, _ => .error (.browser "streaming offset overflow")
    | some _, .error error => .error error
    | some nextOffset, .ok _ => .ok { writer with writable := overwrite writer.writable offset bytes, nextOffset }

def commitCheckpoint (writer : StreamingFileWriter) (disk : Disk) (answer : Answer) :
    Except BrowserPlatformError (StreamingFileWriter × Disk) :=
  if writer.closed then .error (.browser "streaming file writer is already closed")
  else
    match answer with
    | .error error => .error error
    | .ok _ => .ok ({ writer with closed := true }, disk.insert writer.handle writer.writable)

def reopenAfterCheckpoint (writer : StreamingFileWriter) (disk : Disk) (answer : Answer) :
    Except BrowserPlatformError StreamingFileWriter :=
  if !writer.closed then .error (.browser "streaming file writer must commit before reopening")
  else
    match answer with
    | .error error => .error error
    | .ok _ => .ok { writer with writable := disk[writer.handle]?.getD [], closed := false }

def close (writer : StreamingFileWriter) (disk : Disk) (answer : Answer) : Except BrowserPlatformError Disk :=
  if writer.closed then .ok disk
  else
    match answer with
    | .error error => .error error
    | .ok _ => .ok (disk.insert writer.handle writer.writable)

end StreamingFileWriter

/-! ## Segments of a file that is read again -/

/-- The hasher and the last digest after the committed bytes were read segment by segment. -/
def rehash [Blake3] (content : Bytes) (committedBytes segmentBytes : Nat) :
    Nat → Nat → Hasher → Option String → Option (Hasher × Option String)
  | 0, _, hasher, last => some (hasher, last)
  | fuel + 1, offset, hasher, last =>
    if offset < committedBytes then
      let stop := min (saturatingAdd offset segmentBytes) committedBytes
      let bytes := slice content offset stop
      if bytes.length = stop - offset then
        rehash content committedBytes segmentBytes fuel stop (hasher.update bytes) (some (Blake3.hash bytes))
      else none
    else some (hasher, last)

structure RecoveredStreamingFile where
  writer : StreamingFileWriter
  hasher : Hasher
  lastSegmentBlake3 : Option String
  deriving DecidableEq, Repr

def reopenStreamFile [Blake3] (disk : Disk) (handle : FileHandle) (committedBytes expectedSizeBytes segmentBytes : Nat)
    (answer : Answer) : Except BrowserPlatformError RecoveredStreamingFile :=
  match answer with
  | .error error => .error error
  | .ok _ =>
    let file := disk[handle]?.getD []
    if file.length < committedBytes ∨ expectedSizeBytes < file.length then
      .error (.browser "saved file size is outside the recovery manifest")
    else
      match rehash file committedBytes segmentBytes (committedBytes + 1) 0 Hasher.new none with
      | none => .error (.browser "saved file changed while validating the recovery checkpoint")
      | some (hasher, lastSegmentBlake3) =>
        let writable := if 0 < committedBytes then file else []
        .ok { writer := { handle, writable, nextOffset := committedBytes, closed := false }, hasher, lastSegmentBlake3 }

/-! ## Source files -/

/-- A file that was selected, as it was at that time. -/
structure File where
  name : String
  mime : Option String
  content : Bytes
  lastModifiedMs : Nat
  deriving DecidableEq, Repr

structure BrowserFile where
  inner : File
  sourceHandle : Option FileHandle
  deriving DecidableEq, Repr

def BrowserFile.metadata (file : BrowserFile) : TransferFile :=
  { name := file.inner.name, mime := file.inner.mime, sizeBytes := file.inner.content.length }

structure RecoveredSourceFile where
  file : File
  hasher : Hasher
  lastSegmentBlake3 : Option String
  deriving DecidableEq, Repr

/-- What a source file is expected to be. -/
structure ExpectedSource where
  name : String
  mime : Option String
  sizeBytes : Nat
  lastModifiedMs : Nat
  deriving DecidableEq, Repr

def recoverSourceFile [Blake3] (file : File) (expected : ExpectedSource) (committedBytes segmentBytes : Nat)
    (answer : Answer) : Except BrowserPlatformError RecoveredSourceFile :=
  match answer with
  | .error error => .error error
  | .ok _ =>
    if file.name ≠ expected.name ∨ file.mime ≠ expected.mime ∨ file.content.length ≠ expected.sizeBytes ∨
        file.lastModifiedMs ≠ expected.lastModifiedMs ∨ expected.sizeBytes < committedBytes then
      .error (.browser "source file changed after the transfer checkpoint")
    else
      match rehash file.content committedBytes segmentBytes (committedBytes + 1) 0 Hasher.new none with
      | none => .error (.browser "source file changed while validating the checkpoint")
      | some (hasher, lastSegmentBlake3) => .ok { file, hasher, lastSegmentBlake3 }

inductive FilePermission
  | granted | prompt | denied
  deriving DecidableEq, Repr

/-! ## Recovery records -/

structure StreamRecoveryFile where
  fileId : String
  name : String
  mime : Option String
  sizeBytes : Nat
  handle : FileHandle
  committedBytes : Nat
  lastSegmentBlake3 : Option String
  deriving DecidableEq, Repr

structure StreamRecoveryRecord where
  transferId : String
  peerId : String
  segmentBytes : Nat
  files : List StreamRecoveryFile
  deriving DecidableEq, Repr

structure OutgoingRecoveryFile where
  fileId : String
  name : String
  mime : Option String
  sizeBytes : Nat
  lastModifiedMs : Nat
  handle : FileHandle
  committedBytes : Nat
  lastSegmentBlake3 : Option String
  deriving DecidableEq, Repr

structure OutgoingRecoveryRecord where
  transferId : String
  peerId : String
  segmentBytes : Nat
  files : List OutgoingRecoveryFile
  deriving DecidableEq, Repr

end P2PTransmission.Rtc
