import P2PTransmission.Deploy.Environment

/-!
# The deployment supervisor

A worker runs the deployment of one operation and leaves its outcome in a file; another process waits for it. They share the
files of the operation under `/tmp`, and the lock that the worker holds as long as it lives. Every access to a file or to the
lock is a step of its own, and between any two steps of the one the other may go on, or the worker may die.

What the world answers is given with a step (`WorkerChoice`, `WaiterChoice`): whether a call succeeds, what the deployment
helper returned and wrote, and what the clock says. The waiter keeps the files as they were when it returned.
-/

set_option autoImplicit false

namespace P2PTransmission.Deploy

namespace Supervisor

/-! ## Payloads -/

/-- A value that `json.loads` gives. -/
inductive Value
  | null
  | bool (value : Bool)
  | int (value : Int)
  /-- A number that is not written as an integer, and the integer that it is equal to, if there is one. -/
  | float (integer : Option Int)
  | str (value : String)
  /-- A list or an object. -/
  | compound
  deriving DecidableEq, Repr

/-- The integer that a value is equal to: `True` is equal to 1. -/
def Value.integer : Value → Option Int
  | bool value => some (if value then 1 else 0)
  | int value => some value
  | float integer => integer
  | null | str _ | compound => none

/-- `==`, where one side is neither a list nor an object. -/
def Value.eq (left right : Value) : Bool :=
  match left.integer, right.integer with
  | some m, some n => m == n
  | none, none => left == right && left != .compound
  | _, _ => false

/-- An object, each of whose names is there once. -/
abbrev Payload : Type := List (String × Value)

def Payload.get (payload : Payload) (key : String) : Option Value := (payload.find? (·.1 == key)).map (·.2)

def Payload.eq (payload expected : Payload) : Bool :=
  payload.length == expected.length && expected.all fun (key, value) => (payload.get key).any (·.eq value)

/-! ## State -/

def SCHEMA : Int := 3

def WAIT_STATE_MISSING : Nat := 20

def WAIT_TIMEOUT : Nat := 22

def WAIT_DEPLOY_FAILED : Nat := 23

def WAIT_STATE_INVALID : Nat := 24

def WAIT_WORKER_LOCKED : Nat := 25

def WORKER_INTERNAL_ERROR : Nat := 70

def WORKER_LOCKED : Nat := 75

def BACKUP_READY_PREFIX : String := "production database backup ready: "

def BACKUP_NOT_REQUIRED_LINE : String := "production database is not present; backup is not required"

structure Operation where
  operationId : String
  version : String
  controlPlaneSha256 : String
  deriving DecidableEq, Repr

def isLowerHex (c : Char) : Bool := isDigit c || 'a' ≤ c && c ≤ 'f'

/-- `OPERATION_ID_RE`. -/
def isOperationId (value : String) : Bool := value.length == 40 && value.toList.all isLowerHex

/-- `SHA256_RE`. -/
def isSha256 (value : String) : Bool := value.length == 64 && value.toList.all isLowerHex

structure BackupResult where
  databaseBackup : Option String
  backupNotRequired : Bool
  deriving DecidableEq, Repr

/-- The text that stands after a prefix. -/
def afterPrefix (start : String) (text : List Char) : Option (List Char) :=
  if start.toList.isPrefixOf text then some (text.drop start.length) else none

/-- So many digits, and what stands after them. -/
def afterDigits (count : Nat) (text : List Char) : Option (List Char) :=
  if (text.take count).length = count ∧ (text.take count).all isDigit then some (text.drop count) else none

/-- `backup_pattern`. -/
def isBackupPath (version : String) (path : List Char) : Bool :=
  (do
    let rest ← afterPrefix "/opt/p2p-transmission/deploy/production/backups/control-" path
    let rest ← afterDigits 8 rest
    let rest ← afterPrefix "T" rest
    let rest ← afterDigits 12 rest
    let rest ← afterPrefix "Z-" rest
    afterPrefix version rest) == some ".sqlite3".toList

/-- What the lines of a log say of the backup. -/
def backupRecords (version : String) : List (List Char) → Option (List BackupResult)
  | [] => some []
  | line :: rest =>
    if line = BACKUP_NOT_REQUIRED_LINE.toList then (backupRecords version rest).map (⟨none, true⟩ :: ·)
    else
      match afterPrefix BACKUP_READY_PREFIX line with
      | none => backupRecords version rest
      | some path =>
        if isBackupPath version path then (backupRecords version rest).map (⟨some (String.ofList path), false⟩ :: ·) else none

/-- `parse_backup_log`. -/
def parseBackupLog (text version : String) : Option BackupResult :=
  if isVersion version then
    match backupRecords version (splitLines [] text.toList) with
    | some [record] => some record
    | _ => none
  else none

namespace Operation

variable (operation : Operation)

def isValid : Bool :=
  isOperationId operation.operationId && isVersion operation.version && isSha256 operation.controlPlaneSha256

def launchPayload : Payload :=
  [("schema", .int SCHEMA), ("operation_id", .str operation.operationId), ("version", .str operation.version),
    ("expected_control_plane_sha256", .str operation.controlPlaneSha256), ("started", .bool true)]

def validateLaunchPayload (payload : Payload) : Bool := payload.eq operation.launchPayload

def workerStatus (exitCode : Nat) (backup : Option BackupResult) : Payload :=
  [("schema", .int SCHEMA), ("operation_id", .str operation.operationId), ("version", .str operation.version),
    ("expected_control_plane_sha256", .str operation.controlPlaneSha256), ("exit_code", .int exitCode),
    ("database_backup", (backup.bind (·.databaseBackup)).elim .null .str),
    ("database_backup_not_required", .bool (backup.any (·.backupNotRequired))), ("finished", .bool true)]

/-- The outcome of the backup that a status claims, with its exit code. -/
def backupEstablished (exitCode : Int) (databaseBackup backupNotRequired : Option Value) : Bool :=
  match databaseBackup, backupNotRequired with
  | some (.str path), some (.bool false) =>
    (parseBackupLog (BACKUP_READY_PREFIX ++ path ++ "\n") operation.version).any (·.databaseBackup == some path)
  | none, some (.bool true) | some .null, some (.bool true) => true
  | none, some (.bool false) | some .null, some (.bool false) => exitCode != 0
  | _, _ => false

/-- `validate_worker_status`: the exit code of a valid status. -/
def validateWorkerStatus (payload : Payload) : Option Int :=
  if (payload.get "schema").any (·.eq (.int SCHEMA)) && (payload.get "operation_id").any (·.eq (.str operation.operationId)) &&
      (payload.get "version").any (·.eq (.str operation.version)) &&
      (payload.get "expected_control_plane_sha256").any (·.eq (.str operation.controlPlaneSha256)) &&
      payload.get "finished" == some (.bool true) then
    match payload.get "exit_code" with
    | some (.int exitCode) =>
      if 0 ≤ exitCode ∧ exitCode ≤ 255 ∧
          operation.backupEstablished exitCode (payload.get "database_backup") (payload.get "database_backup_not_required") then
        some exitCode
      else none
    | _ => none
  else none

end Operation

/-! ## Files -/

/-- A file with an object: one that is there but is not safe, or not an object, is unreadable. -/
inductive JsonFile
  | absent
  | unreadable
  | object (payload : Payload)
  deriving DecidableEq, Repr

def JsonFile.isThere : JsonFile → Bool
  | absent => false
  | unreadable | object _ => true

/-- `read_json_file`. -/
def JsonFile.read : JsonFile → Option Payload
  | absent | unreadable => none
  | object payload => some payload

inductive TextFile
  | absent
  | unreadable
  | text (content : String)
  deriving DecidableEq, Repr

def TextFile.isThere : TextFile → Bool
  | absent => false
  | unreadable | text _ => true

/-- `read_pid`, where the file is there: whether it gives a number. -/
def TextFile.readsPid : TextFile → Bool
  | absent => true
  | unreadable => false
  | text content =>
    content.utf8ByteSize ≤ 32 && content.toList.all (·.toNat < 128) && !(strip content.toList).isEmpty &&
      (strip content.toList).all isDigit

structure Files where
  launchState : JsonFile
  status : JsonFile
  log : TextFile
  pid : TextFile
  /-- The supervisor or an archive is there. -/
  artifacts : Bool
  deriving DecidableEq, Repr

/-! ## The worker -/

inductive WorkerPoint
  | adopting
  | creatingLog
  | writingPid
  | locking
  | validating
  | checkingArtifacts
  | running
  | parsing (exitCode : Nat)
  | noting (exitCode : Nat) (backup : Option BackupResult)
  | persisting (exitCode : Nat) (backup : Option BackupResult)
  | releasing
  | returned
  | dead
  deriving DecidableEq, Repr

structure WorkerChoice where
  /-- The call of this point succeeds. -/
  ok : Bool := true
  /-- The global lock is taken. -/
  busy : Bool := false
  returncode : Int := 0
  /-- What the helper wrote, if that is text. -/
  log : Option String := none
  pid : Nat := 1
  deriving DecidableEq, Repr

/-- `normalize_subprocess_returncode`. -/
def normalizeSubprocessReturncode (returncode : Int) : Option Nat :=
  let normalized := if returncode < 0 then 128 + returncode.natAbs else returncode.natAbs
  if normalized ≤ 255 then some normalized else none

/-- The exit code, once the log was read. -/
def exitCodeAfterLog (exitCode : Nat) (backup : Option BackupResult) : Nat :=
  if backup.isNone && exitCode == 0 then WORKER_INTERNAL_ERROR else exitCode

structure System where
  files : Files
  /-- The worker holds the lock of the operation. -/
  locked : Bool
  worker : WorkerPoint
  deriving DecidableEq, Repr

namespace System

variable (operation : Operation) (system : System)

def goTo (point : WorkerPoint) : System := { system with worker := point }

/-- An exception: what is left to do is to write the status. -/
def failSafely (backup : Option BackupResult) : System := system.goTo (.persisting WORKER_INTERNAL_ERROR backup)

/-- `run_worker`. -/
def stepWorker (choice : WorkerChoice) : System :=
  match system.worker with
  | .adopting =>
    if choice.ok then system.goTo .creatingLog
    -- the descriptor is closed, and the lock with it
    else { system.failSafely none with locked := false }
  | .creatingLog =>
    if choice.ok && !system.files.log.isThere then
      { system.goTo .writingPid with files := { system.files with log := .text "" } }
    else system.failSafely none
  | .writingPid =>
    if choice.ok && system.files.pid != .unreadable then
      { system.goTo .locking with files := { system.files with pid := .text (toString choice.pid ++ "\n") } }
    else system.failSafely none
  | .locking =>
    if choice.busy then system.goTo (.persisting WORKER_LOCKED none)
    else if choice.ok then system.goTo .validating
    else system.failSafely none
  | .validating =>
    if system.files.launchState.read.any operation.validateLaunchPayload then system.goTo .checkingArtifacts
    else system.failSafely none
  | .checkingArtifacts => if choice.ok then system.goTo .running else system.failSafely none
  | .running =>
    match normalizeSubprocessReturncode choice.returncode with
    | some exitCode => if choice.ok then system.goTo (.parsing exitCode) else system.failSafely none
    | none => system.failSafely none
  | .parsing exitCode =>
    let backup := choice.log.bind (parseBackupLog · operation.version)
    if choice.ok then system.goTo (.noting (exitCodeAfterLog exitCode backup) backup) else system.failSafely none
  | .noting exitCode backup =>
    if choice.ok then system.goTo (.persisting exitCode backup) else system.failSafely backup
  | .persisting exitCode backup =>
    if choice.ok && system.files.status != .unreadable then
      { system.goTo .releasing with
        files := { system.files with status := .object (operation.workerStatus exitCode backup) } }
    else system.goTo .releasing
  | .releasing => { system.goTo .returned with locked := false }
  | .returned | .dead => system

/-- The worker is killed; the lock goes with it. -/
def kill : System :=
  match system.worker with
  | .returned => system
  | _ => { system.goTo .dead with locked := false }

end System

/-! ## The waiter -/

inductive Verdict
  | code (exitCode : Nat)
  | raised
  deriving DecidableEq, Repr

inductive WaiterPoint
  | beginning
  | checkingStatus
  | readingLaunch
  | readingStatus
  | probing
  | checkingDeadline
  | lookingForStatus
  | lookingForPid
  | lookingForLog
  | lookingForLaunch (workerStateExists : Bool)
  | lookingForArtifacts (workerStateExists : Bool)
  | rereadingLaunch (workerStateExists : Bool)
  | readingPid
  | returned (verdict : Verdict) (files : Files)
  deriving DecidableEq, Repr

structure WaiterChoice where
  /-- Another process has the lock. -/
  busy : Bool := false
  /-- The lock cannot be opened, or not safely. -/
  lockFails : Bool := false
  /-- The deadline has passed. -/
  expired : Bool := false
  deriving DecidableEq, Repr

/-- `wait_for_worker`. -/
def stepWaiter (operation : Operation) (system : System) (choice : WaiterChoice) : WaiterPoint → WaiterPoint
  | .beginning => if operation.isValid then .checkingStatus else .returned .raised system.files
  | .checkingStatus => if system.files.status.isThere then .readingLaunch else .probing
  | .readingLaunch =>
    if system.files.launchState.read.any operation.validateLaunchPayload then .readingStatus
    else .returned (.code WAIT_STATE_INVALID) system.files
  | .readingStatus =>
    match system.files.status.read.bind operation.validateWorkerStatus with
    | none => .returned (.code WAIT_STATE_INVALID) system.files
    | some exitCode =>
      if exitCode = 0 then .returned (.code 0) system.files
      else if exitCode = WORKER_LOCKED then .returned (.code WAIT_WORKER_LOCKED) system.files
      else .returned (.code WAIT_DEPLOY_FAILED) system.files
  | .probing =>
    if choice.lockFails then .returned .raised system.files
    else if system.locked || choice.busy then .checkingDeadline
    else .lookingForStatus
  | .checkingDeadline => if choice.expired then .returned (.code WAIT_TIMEOUT) system.files else .checkingStatus
  | .lookingForStatus => if system.files.status.isThere then .lookingForLaunch true else .lookingForPid
  | .lookingForPid => if system.files.pid.isThere then .lookingForLaunch true else .lookingForLog
  | .lookingForLog => .lookingForLaunch system.files.log.isThere
  | .lookingForLaunch workerStateExists =>
    if system.files.launchState.isThere then .rereadingLaunch workerStateExists else .lookingForArtifacts workerStateExists
  | .lookingForArtifacts workerStateExists =>
    if workerStateExists then .returned (.code WAIT_STATE_INVALID) system.files
    else if system.files.artifacts then .returned (.code WAIT_DEPLOY_FAILED) system.files
    else .returned (.code WAIT_STATE_MISSING) system.files
  | .rereadingLaunch workerStateExists =>
    match system.files.launchState.read with
    | none => .returned (.code (if workerStateExists then WAIT_STATE_INVALID else WAIT_DEPLOY_FAILED)) system.files
    | some payload =>
      if operation.validateLaunchPayload payload then .readingPid else .returned (.code WAIT_STATE_INVALID) system.files
  | .readingPid =>
    if system.files.pid.readsPid then .returned (.code WAIT_DEPLOY_FAILED) system.files
    else .returned (.code WAIT_STATE_INVALID) system.files
  | .returned verdict files => .returned verdict files

end Supervisor

end P2PTransmission.Deploy
