import P2PTransmission.Deploy.Host

/-!
# Snapshots and the marker of a pending release

The functions of the control plane that take, restore and remove the snapshots of the files of a release, and that write,
read and remove its marker.
-/

set_option autoImplicit false

namespace P2PTransmission.Deploy

/-- What ends a program of the control plane: an operation of the system that failed, a command that failed, or an exit with
a message. -/
inductive Error
  | os | command
  | exit (message : String)
  deriving DecidableEq, Repr

variable {Bytes Image : Type}

/-- A program of the control plane. -/
abbrev Control (Bytes Image A : Type) := Script (Command Bytes Image) Command.Reply Error A

/-! ## Commands -/

namespace Control

def check : Control Bytes Image Bool := Script.ask Command.check

def readEnvironment : Control Bytes Image (Option Bytes) := Script.ask Command.readEnvironment

def writeEnvironment (content : Bytes) : Control Bytes Image Bool := Script.ask (Command.writeEnvironment content)

def readFile (file : Managed) : Control Bytes Image (Option Bytes) := Script.ask (Command.readFile file)

def replaceFile (file : Managed) (content : Bytes) : Control Bytes Image Bool := Script.ask (Command.replaceFile file content)

def takeSnapshot (file : Managed) : Control Bytes Image Bool := Script.ask (Command.takeSnapshot file)

def readSnapshot (file : Managed) : Control Bytes Image (Option Bytes) := Script.ask (Command.readSnapshot file)

def dropSnapshot (file : Managed) : Control Bytes Image Bool := Script.ask (Command.dropSnapshot file)

def pendingExists : Control Bytes Image Bool := Script.ask Command.pendingExists

def readPending : Control Bytes Image (Option (Pending Bytes)) := Script.ask Command.readPending

def writePending (record : Pending Bytes) : Control Bytes Image Bool := Script.ask (Command.writePending record)

def removePending : Control Bytes Image Bool := Script.ask Command.removePending

def imageId (tag : String) : Control Bytes Image (Option Image) := Script.ask (Command.imageId tag)

def runningImageId : Control Bytes Image (Option Image) := Script.ask Command.runningImageId

def probe : Control Bytes Image (Option String) := Script.ask Command.probe

def tagPrevious (tag : String) : Control Bytes Image Bool := Script.ask (Command.tagPrevious tag)

def loadImage (tag : String) (image : Image) : Control Bytes Image Bool := Script.ask (Command.loadImage tag image)

def stop : Control Bytes Image Bool := Script.ask Command.stop

def rm : Control Bytes Image Bool := Script.ask Command.rm

def up (role : Role) : Control Bytes Image Bool := Script.ask (Command.up role)

def backupDatabase : Control Bytes Image (Option (Option (List Write))) := Script.ask Command.backupDatabase

def restoreDatabase (backup : Option (List Write)) : Control Bytes Image Bool := Script.ask (Command.restoreDatabase backup)

def extractArchive (compose nginx : Bytes) : Control Bytes Image Bool := Script.ask (Command.extractArchive compose nginx)

def noteUnproved : Control Bytes Image Unit := Script.ask Command.noteUnproved

/-- An operation that has to succeed. -/
def require (error : Error) (operation : Control Bytes Image Bool) : Control Bytes Image Unit := do
  if ← operation then pure () else throw error

end Control

open Control

/-! ## Snapshots -/

/-- `snapshot_runtime_file`, for `snapshot_nginx` and `snapshot_compose`. -/
def snapshotRuntimeFile (file : Managed) : Control Bytes Image Unit := do
  require (.exit "production rollback directory is unsafe") check
  require .os (takeSnapshot file)

def restoreRuntimeFile (file : Managed) : Control Bytes Image Bool := do
  match ← readSnapshot file with
  | none => pure false
  | some content =>
    let replaced ← replaceFile file content
    -- the temporary file is removed, whatever happened
    require .os check
    pure replaced

def dropSnapshots : List Managed → Control Bytes Image Bool
  | [] => pure true
  | file :: files => do
    let dropped ← dropSnapshot file
    let cleaned ← dropSnapshots files
    pure (dropped && cleaned)

/-- The snapshots are removed, and then the directory is synced. -/
def cleanupSnapshotPaths (files : List Managed) : Control Bytes Image Bool := do
  if files.isEmpty then pure true
  else
    let cleaned ← dropSnapshots files
    let synced ← check
    pure (cleaned && synced)

/-- `ProductionPreflight`: what a rollback needs to know. -/
structure ProductionPreflight (Bytes : Type) where
  previousEnv : Bytes
  previousTag : String
  databaseBackup : Option (List Write)
  expectedImage : String
  databaseMayHaveChanged : Bool := false
  rollbackDatabaseRestored : Bool := false

def snapshotFiles : List Managed := [.nginx, .compose]

/-- `ProductionPreflight.cleanup_snapshots`. -/
def cleanupSnapshots : Control Bytes Image Bool := cleanupSnapshotPaths snapshotFiles

/-! ## The marker -/

def ensureNoPendingRelease : Control Bytes Image Unit := do
  if ← pendingExists then
    throw (.exit "another production release is pending; finalize or roll it back before staging")
  else pure ()

def ProductionPreflight.record (preflight : ProductionPreflight Bytes) (version : String) : Pending Bytes :=
  { releaseVersion := version
    previousEnvironment := preflight.previousEnv
    previousTag := preflight.previousTag
    databaseBackup := preflight.databaseBackup
    databaseMayHaveChanged := preflight.databaseMayHaveChanged
    rollbackDatabaseRestored := preflight.rollbackDatabaseRestored }

def persistPendingRelease (preflight : ProductionPreflight Bytes) (version : String) (requireAbsent : Bool) :
    Control Bytes Image Unit := do
  if requireAbsent then ensureNoPendingRelease
  require (.exit "production rollback directory is unsafe") check
  require .os (writePending (preflight.record version))

def writePendingRelease (preflight : ProductionPreflight Bytes) (version : String) : Control Bytes Image Unit :=
  persistPendingRelease preflight version true

def imageReference (version : String) : String := "p2p-transmission:" ++ version

/-- The checks of a marker that was read, up to those of the files that it names. -/
def Pending.validate [Utf8 Bytes] (record : Pending Bytes) (expectedVersion : String) : Except Error Unit := do
  if record.releaseVersion != expectedVersion then
    throw (.exit "pending production release does not match the requested version")
  if !isVersion record.previousTag then throw (.exit "pending production release previous tag is invalid")
  match Utf8.decode record.previousEnvironment with
  | none => throw (.exit "pending production release environment is invalid")
  | some text =>
    if (parseEnvText text).get "P2P_IMAGE_TAG" != some record.previousTag then
      throw (.exit "pending production release environment tag does not match its metadata")
    if record.rollbackDatabaseRestored && !record.databaseMayHaveChanged then
      throw (.exit "pending production release rollback phase is invalid")

def Pending.preflight (record : Pending Bytes) (expectedVersion : String) : ProductionPreflight Bytes :=
  { previousEnv := record.previousEnvironment
    previousTag := record.previousTag
    databaseBackup := record.databaseBackup
    expectedImage := imageReference expectedVersion
    databaseMayHaveChanged := record.databaseMayHaveChanged
    rollbackDatabaseRestored := record.rollbackDatabaseRestored }

/-- `pending_snapshot_path`. -/
def pendingSnapshotPath (file : Managed) (message : String) : Control Bytes Image Unit := do
  if (← readSnapshot file).isSome then pure () else throw (.exit message)

def loadPendingRelease [Utf8 Bytes] (expectedVersion : String) : Control Bytes Image (ProductionPreflight Bytes) := do
  if !isVersion expectedVersion then throw (.exit "release version contains unsupported characters")
  else
    match ← readPending with
    | none => throw (.exit "pending production release state is missing or unsafe")
    | some record =>
      match record.validate expectedVersion with
      | .error error => throw error
      | .ok () =>
        -- a backup that the marker names has to be there
        require (.exit "pending release database backup is missing or unsafe") check
        pendingSnapshotPath .nginx "pending release Nginx snapshot is missing or unsafe"
        pendingSnapshotPath .compose "pending release Compose snapshot is missing or unsafe"
        pure (record.preflight expectedVersion)

def markPendingDatabaseMayHaveChanged [Utf8 Bytes] (version : String) : Control Bytes Image Unit := do
  let preflight ← loadPendingRelease version
  if preflight.databaseMayHaveChanged then pure ()
  else persistPendingRelease { preflight with databaseMayHaveChanged := true } version false

def markPendingRollbackDatabaseRestored [Utf8 Bytes] (version : String) : Control Bytes Image Unit := do
  let preflight ← loadPendingRelease version
  if !preflight.databaseMayHaveChanged then
    throw (.exit "cannot mark a database restore before the runtime switch phase")
  else if preflight.rollbackDatabaseRestored then pure ()
  else persistPendingRelease { preflight with rollbackDatabaseRestored := true } version false

def closePendingRelease : Control Bytes Image Unit := do
  require (.exit "cannot clear pending production release state") removePending
  require (.exit "cannot clear pending production release state") check
  if ← cleanupSnapshots then pure ()
  else throw (.exit "pending production release closed but rollback snapshot cleanup failed")

/-- `cleanup_abandoned_runtime_snapshots`: the snapshots of the release go if there is no marker that refers to them. -/
def cleanupAbandonedRuntimeSnapshots [Utf8 Bytes] : Control Bytes Image Unit := do
  if ← pendingExists then
    match ← readPending with
    | none => throw (.exit "cannot inspect pending production release")
    | some record => do
      let _ ← loadPendingRelease record.releaseVersion
      pure ()
  else
    require (.exit "cannot remove abandoned rollback snapshot") (dropSnapshot .nginx)
    require (.exit "cannot remove abandoned rollback snapshot") (dropSnapshot .compose)

end P2PTransmission.Deploy
