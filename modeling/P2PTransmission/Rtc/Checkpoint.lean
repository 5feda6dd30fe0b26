import P2PTransmission.Rtc.Manifest

/-!
# Checkpoints

How far each file has got: so many bytes are verified, and this is the digest of the last segment of them. The files are
sent in order, so that the verified bytes are a prefix of the whole: complete files, one that may be incomplete, and
files without any.
-/

set_option autoImplicit false

namespace P2PTransmission.Rtc

structure ManifestFile where
  fileId : String
  sizeBytes : Nat
  deriving DecidableEq, Repr

structure Checkpoint where
  fileId : String
  sizeBytes : Nat
  committedBytes : Nat
  lastSegmentBlake3 : Option String
  deriving DecidableEq, Repr

structure PendingCheckpoint where
  fileIndex : Nat
  committedBytes : Nat
  blake3 : String
  deriving DecidableEq, Repr

structure ResolvedCheckpoint where
  committedBytes : Nat
  lastSegmentBlake3 : Option String
  deriving DecidableEq, Repr

inductive ResumeDisposition
  | keepCurrent
  | promotePending (fileIndex : Nat)
  deriving DecidableEq, Repr

inductive CheckpointError
  | zeroSegmentBytes | fileCountMismatch | fileOrderMismatch | invalidCheckpoint | stateMismatch
  deriving DecidableEq, Repr

namespace Checkpoint

/-- The bytes end at a segment or with the file. -/
def aligned (segmentBytes : Nat) (file : Checkpoint) : Bool :=
  file.committedBytes ≤ file.sizeBytes ∧
    (file.committedBytes = file.sizeBytes ∨ file.committedBytes % segmentBytes = 0)

/-- There is a digest exactly if there is a segment. -/
def verified (file : Checkpoint) : Bool :=
  (file.committedBytes == 0 && file.lastSegmentBlake3.isNone) ||
    (0 < file.committedBytes && file.lastSegmentBlake3.any validBlake3)

end Checkpoint

def validatePrefix (segmentBytes : Nat) : Bool → List Checkpoint → Except CheckpointError Unit
  | _, [] => .ok ()
  | incompleteSeen, file :: files =>
    if !file.aligned segmentBytes || !file.verified || (incompleteSeen && 0 < file.committedBytes) then
      .error .invalidCheckpoint
    else validatePrefix segmentBytes (incompleteSeen || file.committedBytes < file.sizeBytes) files

def validateCheckpointPrefix (segmentBytes : Nat) (files : List Checkpoint) : Except CheckpointError Unit :=
  if segmentBytes = 0 then .error .zeroSegmentBytes else validatePrefix segmentBytes false files

def ResumeCursor.resolved (cursor : ResumeCursor) : ResolvedCheckpoint :=
  { committedBytes := cursor.committedBytes, lastSegmentBlake3 := cursor.lastSegmentBlake3 }

/-- No cursor stands for a file without verified bytes. -/
def ResolvedCheckpoint.ofCursor (cursor : Option ResumeCursor) : ResolvedCheckpoint :=
  (cursor.map ResumeCursor.resolved).getD { committedBytes := 0, lastSegmentBlake3 := none }

def resolveFiles (resume : List ResumeCursor) : Nat → List ManifestFile → Except CheckpointError (List ResolvedCheckpoint)
  | _, [] => .ok []
  | index, file :: files =>
    if resume[index]?.any (·.fileId != file.fileId) then .error .fileOrderMismatch
    else (resolveFiles resume (index + 1) files).map (ResolvedCheckpoint.ofCursor resume[index]? :: ·)

def resolveManifestResume (segmentBytes : Nat) (files : List ManifestFile) (resume : List ResumeCursor) :
    Except CheckpointError (List ResolvedCheckpoint) :=
  if !resume.isEmpty && resume.length != files.length then .error .fileCountMismatch
  else
    match resolveFiles resume 0 files with
    | .error error => .error error
    | .ok resolved =>
      (validateCheckpointPrefix segmentBytes (files.zipWith (fun file resolved =>
        { fileId := file.fileId, sizeBytes := file.sizeBytes, committedBytes := resolved.committedBytes,
          lastSegmentBlake3 := resolved.lastSegmentBlake3 }) resolved)).map fun _ => resolved

namespace Checkpoint

/-- What the receiver says of the file. -/
def received (resume : List ResumeCursor) (file : Checkpoint) : Except CheckpointError ResolvedCheckpoint :=
  if resume.isEmpty then .ok (.ofCursor none)
  else
    match resume.find? (·.fileId == file.fileId) with
    | none => .error .stateMismatch
    | some cursor => .ok cursor.resolved

def currentMatches (file : Checkpoint) (received : ResolvedCheckpoint) : Bool :=
  received.committedBytes == file.committedBytes &&
    if received.committedBytes == 0 then received.lastSegmentBlake3.isNone
    else received.lastSegmentBlake3 == file.lastSegmentBlake3

end Checkpoint

def PendingCheckpoint.matchesReceived (pending : PendingCheckpoint) (fileIndex : Nat) (received : ResolvedCheckpoint) :
    Bool :=
  pending.fileIndex == fileIndex && pending.committedBytes == received.committedBytes &&
    some pending.blake3 == received.lastSegmentBlake3

/-- The files one after the other, with the file whose pending segment the receiver has, if there is one so far. -/
def matchFiles (pending : Option PendingCheckpoint) :
    Nat → Option Nat → List (Checkpoint × ResolvedCheckpoint) → Except CheckpointError (Option Nat)
  | _, promotion, [] => .ok promotion
  | fileIndex, promotion, (file, received) :: files =>
    let pendingMatches := pending.any (·.matchesReceived fileIndex received)
    if !file.currentMatches received && !pendingMatches then .error .stateMismatch
    else if pendingMatches && received.committedBytes != file.committedBytes then
      if promotion.isSome then .error .stateMismatch else matchFiles pending (fileIndex + 1) (some fileIndex) files
    else matchFiles pending (fileIndex + 1) promotion files

def matchLiveResume (segmentBytes : Nat) (current : List Checkpoint) (pending : Option PendingCheckpoint)
    (resume : List ResumeCursor) : Except CheckpointError ResumeDisposition :=
  if !resume.isEmpty && resume.length != current.length then .error .fileCountMismatch
  else
    match current.mapM (Checkpoint.received resume) with
    | .error error => .error error
    | .ok resolved =>
      match validateCheckpointPrefix segmentBytes (current.zipWith (fun file resolved =>
          { file with committedBytes := resolved.committedBytes, lastSegmentBlake3 := resolved.lastSegmentBlake3 })
          resolved) with
      | .error error => .error error
      | .ok _ =>
        match matchFiles pending 0 none (current.zip resolved) with
        | .error error => .error error
        | .ok none => .ok .keepCurrent
        | .ok (some fileIndex) => .ok (.promotePending fileIndex)

end P2PTransmission.Rtc
