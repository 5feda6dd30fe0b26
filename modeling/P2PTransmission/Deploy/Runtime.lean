import P2PTransmission.Deploy.Pending

/-!
# Releases and rollbacks

`deploy` stages a release: it checks and loads what was uploaded, takes snapshots and a backup, replaces the source files, and
then switches the runtime under a marker. Whatever fails after the marker was written is rolled back at once; a release that
is left pending is rolled back by `rollbackPendingRelease`, which may itself be repeated.
-/

set_option autoImplicit false

namespace P2PTransmission.Deploy

open Control

variable {Bytes Image : Type} [Utf8 Bytes] [DecidableEq Image]

/-! ## The environment and the files -/

def prepareProductionEnvironment (version : String) (previous : Bytes) : Control Bytes Image Unit := do
  match Utf8.decode previous with
  | none => throw (.exit "production environment is missing on the host")
  | some text =>
    let existing := parseEnvText text
    if existing.isEmpty then throw (.exit "production environment is missing on the host")
    else
      require (.exit "offsite backup configuration is invalid") check
      match (buildProductionEnv existing version).bind formatEnv with
      | .error message => throw (.exit message)
      | .ok rendered =>
        require .os check
        require .os (writeEnvironment (Utf8.encode rendered))

def restoreProductionEnvironment (previous : Bytes) : Control Bytes Image Unit := require .os (writeEnvironment previous)

/-- The environment is restored, and it is told whether that went well. -/
def tryRestoreEnvironment (previous : Bytes) : Control Bytes Image Bool :=
  tryCatch (do restoreProductionEnvironment previous; pure true) fun error =>
    if error = .os then pure false else throw error

def installProductionNginx : Control Bytes Image Unit := do
  match ← readFile .nginxSource with
  | none => throw (.exit "production Nginx configuration is missing")
  | some source =>
    require .os (replaceFile .nginx source)
    require .command check
    require .command check

def restoreNginx : Control Bytes Image Bool := do
  if ← restoreRuntimeFile .nginx then
    if ← check then check else pure false
  else pure false

def restoreCompose : Control Bytes Image Bool := restoreRuntimeFile .compose

/-! ## Readiness and identity -/

/-- The probes of `wait_for_readiness` that are left. -/
def waitForReadiness (expectedRelease : String) : Nat → Control Bytes Image Bool
  | 0 => pure false
  | attempts + 1 => do
    if (← probe) = some expectedRelease then pure true else waitForReadiness expectedRelease attempts

def readinessAttempts : Nat := 45

def waitForProductionReady (expectedRelease : String) : Control Bytes Image Unit := do
  if ← waitForReadiness expectedRelease readinessAttempts then pure ()
  else
    require .command check
    require .command check
    throw (.exit "production readiness check failed")

def currentProductionRelease : Control Bytes Image (Option String) := do
  let release ← probe
  pure (release.filter isVersion)

def runningProductionReleaseMatches (version : String) : Control Bytes Image Bool := do
  if !isVersion version then pure false
  else if (← currentProductionRelease) = some version then
    match ← imageId version with
    | none => pure false
    | some expected => do
      let running ← runningImageId
      pure (running = some expected)
  else pure false

def productionRuntimeMatches (version : String) : Control Bytes Image Bool := do
  if ← runningProductionReleaseMatches version then
    let env ← readEnvironment
    pure (imageTag env = some version)
  else pure false

/-! ## Before the release -/

def requireRollbackImage (previousTag : Option String) : Control Bytes Image String := do
  match previousTag with
  | none => throw (.exit "previous production image tag is missing or invalid")
  | some tag =>
    if !isVersion tag then throw (.exit "previous production image tag is missing or invalid")
    else if (← imageId tag).isSome then pure tag
    else throw (.exit ("previous production image is unavailable: " ++ imageReference tag))

/-- What was uploaded: of the source, the Compose and the Nginx file; and the image. -/
structure Archive (Bytes Image : Type) where
  compose : Bytes
  nginx : Bytes
  image : Image

/-- The archive is inspected, loaded, and the loaded image compared with it. -/
def loadVerifiedDockerImageArchive (archive : Archive Bytes Image) (version : String) : Control Bytes Image Unit := do
  require (.exit "cannot inspect Docker image archive") check
  require .command (loadImage version archive.image)
  if (← imageId version) = some archive.image then pure ()
  else throw (.exit ("loaded Docker image identity mismatch for " ++ imageReference version))

/-- A part of the preflight that gives up cleans up the snapshots taken so far. -/
def cleaningUp {A : Type} (files : List Managed) (script : Control Bytes Image A) : Control Bytes Image A :=
  tryCatch script fun error => do
    if ← cleanupSnapshotPaths files then throw error
    else throw (.exit "production preflight failed and rollback snapshot cleanup was incomplete")

def backupProductionDatabase : Control Bytes Image (Option (List Write)) := do
  match ← backupDatabase with
  | none => throw (.exit "production database backup failed")
  | some backup => pure backup

def preflightProduction (archive : Archive Bytes Image) (version : String) :
    Control Bytes Image (ProductionPreflight Bytes) := do
  match ← readEnvironment with
  | none => throw (.exit "production environment is missing on the host")
  | some previousEnv =>
    let previousTag ← requireRollbackImage (imageTag (some previousEnv))
    cleaningUp [] do
      require .command check
      require .command (tagPrevious previousTag)
      snapshotRuntimeFile .nginx
    cleaningUp [.nginx] (snapshotRuntimeFile .compose)
    let databaseBackup ← cleaningUp snapshotFiles do
      let backup ← backupProductionDatabase
      loadVerifiedDockerImageArchive archive version
      pure backup
    pure { previousEnv, previousTag, databaseBackup, expectedImage := imageReference version }

/-! ## Rollbacks -/

/-- `preflight_release_version`: the version in the name of the image. -/
def preflightReleaseVersion (preflight : ProductionPreflight Bytes) : Control Bytes Image String := do
  if (imageReference "").toList.isPrefixOf preflight.expectedImage.toList then
    let version := String.ofList (preflight.expectedImage.toList.drop (imageReference "").length)
    if isVersion version then pure version else throw (.exit "pending production release version is invalid")
  else throw (.exit "pending production release image is invalid")

/-- The database is put back, and the marker says so before the previous container can write to it again. -/
def rollbackDatabase (preflight : ProductionPreflight Bytes) : Control Bytes Image Bool := do
  if ← restoreDatabase preflight.databaseBackup then
    let version ← preflightReleaseVersion preflight
    markPendingRollbackDatabaseRestored version
    pure true
  else pure false

/-- The part of `rollback_runtime` after the files were restored: the app is stopped and removed, and the database put back. -/
def rollbackContainer (preflight : ProductionPreflight Bytes) : Control Bytes Image Bool := do
  if ← stop then
    if ← rm then
      if preflight.rollbackDatabaseRestored then pure true else rollbackDatabase preflight
    else pure false
  else pure false

def rollbackRuntime (preflight : ProductionPreflight Bytes) : Control Bytes Image Unit := do
  let environmentRestored ← tryRestoreEnvironment preflight.previousEnv
  let composeRestored ← restoreCompose
  let nginxRestored ← restoreNginx
  let prerequisitesRestored ←
    if environmentRestored && composeRestored && nginxRestored then rollbackContainer preflight else pure false
  let runtimeRestored ←
    if prerequisitesRestored then
      if ← up .restored then waitForReadiness preflight.previousTag readinessAttempts else pure false
    else pure false
  if runtimeRestored then pure ()
  else throw (.exit "automatic production rollback failed; manual intervention is required")

def restorePreRuntimeState (preflight : ProductionPreflight Bytes) : Control Bytes Image Unit := do
  let environmentRestored ← tryRestoreEnvironment preflight.previousEnv
  let composeRestored ← restoreCompose
  let nginxRestored ← restoreNginx
  let runtimeUnchanged ←
    if environmentRestored && composeRestored && nginxRestored then productionRuntimeMatches preflight.previousTag
    else pure false
  if runtimeUnchanged then pure ()
  else
    throw (.exit ("pre-runtime production abort could not prove the previous runtime unchanged; " ++
      "manual intervention is required"))

def rollbackRecordedRelease (preflight : ProductionPreflight Bytes) : Control Bytes Image Unit := do
  if !preflight.databaseMayHaveChanged then restorePreRuntimeState preflight
  else if ← runningProductionReleaseMatches preflight.previousTag then restorePreRuntimeState preflight
  else
    noteUnproved
    rollbackRuntime preflight

def rollbackPendingRelease (version : String) : Control Bytes Image Unit := do
  if ← pendingExists then
    let preflight ← loadPendingRelease version
    rollbackRecordedRelease preflight
    closePendingRelease
  else pure ()

/-! ## Releases -/

/-- The release of `deploy_production`, up to its error handler. -/
def switchRuntime (preflight : ProductionPreflight Bytes) (version : String) : Control Bytes Image Unit := do
  writePendingRelease preflight version
  prepareProductionEnvironment version preflight.previousEnv
  require .command check
  markPendingDatabaseMayHaveChanged version
  require .command (up .target)
  waitForProductionReady version
  installProductionNginx

/-- What the error handler of `deploy_production` does before it raises the error again. -/
def reconcile (preflight : ProductionPreflight Bytes) (version : String) : Control Bytes Image Unit := do
  if ← pendingExists then
    let recorded ← loadPendingRelease version
    rollbackRecordedRelease recorded
    closePendingRelease
  else
    restorePreRuntimeState preflight
    if ← cleanupSnapshots then pure ()
    else throw (.exit "production rollback snapshot cleanup was incomplete")

def deployProduction (preflight : ProductionPreflight Bytes) (version : String) : Control Bytes Image Unit :=
  tryCatch (switchRuntime preflight version) fun releaseError => do
    tryCatch (reconcile preflight version) fun _ => throw (.exit "production release and rollback failed")
    throw releaseError

/-- The source files are replaced: the archive is extracted, retired files are removed, the manifest is written. -/
def replaceSource (archive : Archive Bytes Image) : Control Bytes Image Unit := do
  require .command (extractArchive archive.compose archive.nginx)
  require .os check
  require .os check

/-- Both actions, the second one even if the first one gives up. -/
def finallyDo {A : Type} (script : Control Bytes Image A) (cleanup : Control Bytes Image Unit) : Control Bytes Image A := do
  let value ← tryCatch script fun error => do
    cleanup
    throw error
  cleanup
  pure value

def stageRelease (archive : Archive Bytes Image) (version : String) : Control Bytes Image Unit := do
  ensureNoPendingRelease
  -- the artifacts are copied, validated and measured
  require (.exit "release artifacts are invalid") check
  let preflight ← preflightProduction archive version
  tryCatch (replaceSource archive) fun sourceError => do
    let composeRestored ← restoreCompose
    let snapshotsCleaned ← cleanupSnapshots
    if composeRestored && snapshotsCleaned then throw sourceError
    else throw (.exit "source release failed and its rollback files could not be fully reconciled")
  deployProduction preflight version

/-- `cli.deploy`. -/
def deploy (archive : Archive Bytes Image) (version : String) : Control Bytes Image Unit := do
  if !isVersion version then throw (.exit "release version contains unsupported characters")
  else finallyDo (stageRelease archive version) (require .os check)

end P2PTransmission.Deploy
