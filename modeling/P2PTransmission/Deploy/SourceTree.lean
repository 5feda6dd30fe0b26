import Mathlib.Data.List.Sort
import P2PTransmission.Deploy.Pending

/-!
# The source tree of production

The source step of a release: the archive is validated and unpacked over the source tree, the files that the previous
release had and this one has not are removed, and the manifest of the source files is written last. When a command of it
fails, only the Compose file is put back.

What is on the disk is given by path. The programs that are run on it are commands (`Command`): `tar` is a parameter of
which only the documented effect on a path is known (`Tar`). Of each regular file it is recorded whether an archive put it
there, and of a release which paths it took away (`Site`); no command reads these records.
-/

set_option autoImplicit false

namespace P2PTransmission.Deploy.Source

/-! ## Paths -/

/-- The parts of a path, as `PurePosixPath` has them for a normalized one. -/
def parts (path : String) : List String :=
  if path = "" then [] else (path.toList.splitOn '/').map String.ofList

/-- The directories above a path, from the top. -/
def ancestors (path : String) : List String :=
  (List.range ((parts path).length - 1)).map fun depth => String.intercalate "/" ((parts path).take (depth + 1))

/-- `normalize_source_path`: what is accepted is unchanged. A path that starts with a slash has an empty part. -/
def normalizeSourcePath (rawPath : String) : Except Error String :=
  if rawPath = "" || rawPath.toList.contains '\\' then .error (.exit ("invalid source path: '" ++ rawPath ++ "'"))
  else if (parts rawPath).any fun part => part = "" || part = "." || part = ".." then
    .error (.exit ("invalid source path: '" ++ rawPath ++ "'"))
  else .ok rawPath

def endsWith (text suffix : String) : Bool := suffix.toList.isSuffixOf text.toList

def contains (text part : String) : Bool := text.toList.tails.any part.toList.isPrefixOf

/-- `protected_prefixes`. -/
def protectedPrefixes : List (List String) :=
  [ ["deploy", "production", ".env"], ["deploy", "production", "data"], ["deploy", "production", "backups"],
    ["deploy", "production", "rollback"], ["deploy", "production", "source-files.json"], ["deploy", "coturn", ".local"],
    ["deploy", "coturn", "turnserver.conf"], ["deploy", ".env"], ["deploy", "data"] ]

def sourcePathIsProtected (path : String) : Bool :=
  match parts path with
  | [] => true
  | first :: rest =>
    if first = ".git" then true
    else if protectedPrefixes.any fun start => start.isPrefixOf (first :: rest) then true
    else if ["deploy", "coturn"].isPrefixOf (first :: rest) && (endsWith path ".pem" || endsWith path ".key") then true
    else first = "deploy" && (endsWith path ".sqlite" || contains ((first :: rest).getLast?.getD "") ".sqlite-")

/-- The order of strings. -/
def textLess (a b : String) : Bool := a.toList.lex b.toList fun c d => c.toNat < d.toNat

/-- The order of `(item.count('/'), item)`. -/
def keyLess (a b : String) : Bool :=
  (parts a).length < (parts b).length || ((parts a).length = (parts b).length && textLess a b)

def sortedPaths (paths : List String) : List String := paths.insertionSort fun a b => textLess b a = false

/-- The deepest paths first. -/
def deepestFirst (paths : List String) : List String := paths.insertionSort fun a b => keyLess a b = false

/-! ## The disk -/

/-- What is at a path. The content of files plays no part; of a regular file it is noted whether it was extracted from an
archive. -/
inductive Node
  | file (extracted : Bool)
  | directory | link | other
  deriving DecidableEq, Repr

/-- A symbolic link or a regular file. -/
def Node.isFile : Node → Bool
  | .file _ | .link => true
  | .directory | .other => false

abbrev Disk := List (String × Node)

namespace Disk

def node (disk : Disk) (path : String) : Option Node := disk.lookup path

def remove (disk : Disk) (path : String) : Disk := disk.filter fun entry => entry.1 ≠ path

def put (disk : Disk) (path : String) (node : Node) : Disk := (path, node) :: disk.remove path

def hasFile (disk : Disk) (path : String) : Bool := (disk.node path).any Node.isFile

/-- No path is right below this one. -/
def isEmpty (disk : Disk) (path : String) : Bool := disk.all fun entry => (ancestors entry.1).getLast? ≠ some path

/-- `mkdir(parents=True, exist_ok=True)` of the directories above a path. -/
def makeParents (disk : Disk) (path : String) : Disk :=
  (ancestors path).foldl (fun disk above => if (disk.node above).isNone then disk.put above .directory else disk) disk

/-- A path is taken away: a protected one does not stay as it was, or there is no file any more. -/
def loses (before after : Disk) (path : String) : Bool :=
  if sourcePathIsProtected path then (before.node path).isSome && after.node path ≠ before.node path
  else before.hasFile path && !after.hasFile path

/-- The paths that are taken away. -/
def lost (before after : Disk) : List String := (before.map Prod.fst).filter (loses before after)

end Disk

/-! ## The archive -/

/-- The content of a file, as far as the validation looks at it. -/
class Payload (Bytes : Type) where
  length : Bytes → Nat
  sha256 : Bytes → String

inductive Kind (Bytes : Type)
  | file (payload : Bytes)
  | directory | symlink | hardlink | other

structure Member (Bytes : Type) where
  name : String
  kind : Kind Bytes

variable {Bytes : Type}

namespace Member

/-- `member.name.rstrip('/')`. -/
def path (member : Member Bytes) : String :=
  String.ofList (member.name.toList.reverse.dropWhile (· = '/')).reverse

def isFile (member : Member Bytes) : Bool :=
  match member.kind with
  | .file _ => true
  | .directory | .symlink | .hardlink | .other => false

end Member

/-- The paths of the files in an archive. -/
def filesOf (archive : List (Member Bytes)) : List String := (archive.filter Member.isFile).map Member.path

/-- `tar --extract`, with its exit status. What is documented of a path: a member that is there already is removed before it
is extracted, parents that are missing are created, and nothing else changes. -/
structure Tar (Bytes : Type) where
  Choice : Type
  extract : Choice → List (Member Bytes) → Disk → Bool × Disk
  outcome : ∀ choice archive disk path,
    (extract choice archive disk).2.node path = disk.node path ∨
      (∃ member ∈ archive, member.path = path ∧ ((extract choice archive disk).2.node path = none ∨
        (extract choice archive disk).2.node path = some .directory ∨
        member.isFile = true ∧ (extract choice archive disk).2.node path = some (.file true))) ∨
      (disk.node path = none ∧ (extract choice archive disk).2.node path = some .directory)

/-! ## Commands -/

/-- The source tree with its manifest, and what a release has taken away from it: `removed` are all these paths, and
`halfway` the files of its archive that `tar` removed and did not put back. -/
structure Site where
  disk : Disk
  /-- The array in `source-files.json`; `none` when there is no manifest that is safe to read. -/
  manifest : Option (List String)
  removed : List String
  halfway : List String

inductive Command (Bytes : Type)
  /-- What may fail and changes nothing of this. -/
  | check
  | stat (path : String)
  | readManifest
  | tar (archive : List (Member Bytes))
  | unlink (path : String)
  | rmdir (path : String)
  | writeManifest (files : List String)
  | restoreCompose (extracted : Bool)

/-- What a command answers: what it read, or whether it succeeded. -/
def Command.Reply : Command Bytes → Type
  | .stat _ => Option (Option Node)
  | .readManifest => Option (List String)
  | .check | .tar _ | .unlink _ | .rmdir _ | .writeManifest _ | .restoreCompose _ => Bool

structure Choice (T : Type) where
  ok : Bool := true
  /-- A command that fails took effect nevertheless. -/
  effect : Bool := false
  tar : T

def PRODUCTION_COMPOSE : String := "deploy/production/compose.yml"

namespace Site

/-- The disk changes, and it is noted what was taken away. -/
def change (site : Site) (disk : Disk) : Site := { site with disk, removed := site.removed ++ site.disk.lost disk }

/-- The Compose file gets its old content back; what fails may have created directories. -/
def restoreCompose (site : Site) (extracted ok effect : Bool) : Bool × Site :=
  let disk := site.disk.makeParents PRODUCTION_COMPOSE
  if ok && disk.node PRODUCTION_COMPOSE ≠ some .directory then (true, site.change (disk.put PRODUCTION_COMPOSE (.file extracted)))
  else (false, if effect then site.change disk else site)

end Site

def perform (tar : Tar Bytes) (command : Command Bytes) (choice : Choice tar.Choice) (site : Site) :
    command.Reply × Site :=
  match command with
  | .check => (choice.ok, site)
  | .stat path => (if choice.ok then some (site.disk.node path) else none, site)
  | .readManifest => (if choice.ok then site.manifest else none, site)
  | .tar archive =>
    let result := tar.extract choice.tar archive site.disk
    (result.1,
      { site.change result.2 with
        halfway := site.halfway ++ (filesOf archive).filter fun path => site.disk.hasFile path && !result.2.hasFile path })
  | .unlink path =>
    if choice.ok && site.disk.hasFile path then (true, site.change (site.disk.remove path)) else (false, site)
  | .rmdir path =>
    if choice.ok && site.disk.node path = some .directory && site.disk.isEmpty path then
      (true, site.change (site.disk.remove path))
    else (false, site)
  | .writeManifest files =>
    (choice.ok, if choice.ok || choice.effect then { site with manifest := some files } else site)
  | .restoreCompose extracted => site.restoreCompose extracted choice.ok choice.effect

/-- A program on the source tree. -/
abbrev Control (Bytes A : Type) := Script (Command Bytes) Command.Reply Error A

namespace Control

def check : Control Bytes Bool := Script.ask Command.check

def lstat (path : String) : Control Bytes (Option (Option Node)) := Script.ask (Command.stat path)

def readManifest : Control Bytes (Option (List String)) := Script.ask Command.readManifest

def tar (archive : List (Member Bytes)) : Control Bytes Bool := Script.ask (Command.tar archive)

def unlink (path : String) : Control Bytes Bool := Script.ask (Command.unlink path)

def rmdir (path : String) : Control Bytes Bool := Script.ask (Command.rmdir path)

def writeManifest (files : List String) : Control Bytes Bool := Script.ask (Command.writeManifest files)

def restoreCompose (extracted : Bool) : Control Bytes Bool := Script.ask (Command.restoreCompose extracted)

/-- An operation that has to succeed. -/
def require (error : Error) (operation : Control Bytes Bool) : Control Bytes Unit := do
  if ← operation then pure () else throw error

/-- What is at a path, without following a link. -/
def stat (path : String) : Control Bytes (Option Node) := do
  match ← lstat path with
  | some node => pure node
  | none => throw .os

end Control

open Control

/-! ## Validation -/

def lift {A : Type} : Except Error A → Control Bytes A
  | .ok value => pure value
  | .error error => throw error

/-- The loop of `safe_source_target` over the directories above. -/
def checkParents (relative : String) : List String → Control Bytes Unit
  | [] => pure ()
  | cursor :: below => do
    match ← stat cursor with
    | some .link => throw (.exit ("source path crosses a symbolic link: " ++ relative))
    | some (.file _) | some .other => throw (.exit ("source path has a non-directory parent: " ++ relative))
    | some .directory | none => checkParents relative below

/-- `safe_source_target`. With no link above it, the target does not escape. -/
def safeSourceTarget (relative : String) : Control Bytes Unit := do
  let normalized ← lift (normalizeSourcePath relative)
  checkParents relative (ancestors normalized)

/-- The path of a member that may be extracted. -/
def memberPath (member : Member Bytes) : Control Bytes String := do
  match member.kind with
  | .symlink | .hardlink => throw (.exit "source archive must not contain symbolic links")
  | .other => throw (.exit ("source archive contains an unsupported entry: " ++ member.name))
  | .file _ | .directory =>
    let normalized ← lift (normalizeSourcePath member.path)
    if sourcePathIsProtected normalized then
      throw (.exit ("source archive contains a protected production path: " ++ normalized))
    else
      safeSourceTarget normalized
      return normalized

/-- The loop of `source_archive_files`. -/
def archiveFiles : List (Member Bytes) → Control Bytes (List String)
  | [] => pure []
  | member :: members => do
    let normalized ← memberPath member
    let files ← archiveFiles members
    return if member.isFile then normalized :: files else files

def sourceArchiveFiles (archive : List (Member Bytes)) : Control Bytes (List String) := do
  require .os check
  archiveFiles archive

def MAX_RUNTIME_CONFIG_BYTES : Nat := 256 * 1024

def TRACKED_RUNTIME_CONFIG_HASHES : List (String × String) :=
  [ ("deploy/production/compose.yml", "39317b5feafc35faba893e41d1570293990ef26770e81a6e561cd14277579696"),
    ("deploy/production/nginx/p2p.yxswy.com.conf", "2f2cbe32cf30c684b8029742d26c914c211a8e4804a0f423de540f25f26cbc39") ]

/-- The members of the tracked paths: each is a file and the only one of its path. -/
def trackedMembers : List (Member Bytes) → List (String × Bytes) → Except Error (List (String × Bytes))
  | [], members => .ok members
  | member :: rest, members => do
    let normalized ← normalizeSourcePath member.path
    if (TRACKED_RUNTIME_CONFIG_HASHES.map Prod.fst).contains normalized then
      match member.kind with
      | .file payload =>
        if (members.lookup normalized).isSome then
          throw (.exit ("source archive runtime configuration is ambiguous: " ++ normalized))
        trackedMembers rest ((normalized, payload) :: members)
      | .directory | .symlink | .hardlink | .other =>
        throw (.exit ("source archive runtime configuration is ambiguous: " ++ normalized))
    else trackedMembers rest members

def checkTracked [Payload Bytes] (members : List (String × Bytes)) : List (String × String) → Except Error Unit
  | [] => .ok ()
  | (path, expected) :: rest => do
    match members.lookup path with
    | none => throw (.exit ("source archive is missing runtime configuration: " ++ path))
    | some payload =>
      if MAX_RUNTIME_CONFIG_BYTES < Payload.length payload then
        throw (.exit ("source archive runtime configuration is too large: " ++ path))
      if Payload.sha256 payload ≠ expected then
        throw (.exit ("source archive runtime configuration is not approved: " ++ path))
      checkTracked members rest

def verifyTrackedRuntimeConfiguration [Payload Bytes] (archive : List (Member Bytes)) : Control Bytes Unit := do
  require .os check
  let members ← lift (trackedMembers archive [])
  lift (checkTracked members TRACKED_RUNTIME_CONFIG_HASHES)

def validateSourceArchive [Payload Bytes] (archive : List (Member Bytes)) : Control Bytes Unit := do
  require (.exit "source archive private snapshot is unavailable") check
  let _ ← sourceArchiveFiles archive
  verifyTrackedRuntimeConfiguration archive

/-! ## Retired files -/

/-- `read_source_manifest`. -/
def readSourceManifest : Control Bytes (List String) := do
  match ← readManifest with
  | some payload => lift (payload.mapM normalizeSourcePath)
  | none => throw (.exit "current production source manifest is missing; clean bootstrap is required")

/-- The files that are retired, in order: how many were removed, and the directories above them. -/
def removeFiles : List String → Control Bytes (Nat × List String)
  | [] => pure (0, [])
  | relative :: rest => do
    if sourcePathIsProtected relative then removeFiles rest
    else
      safeSourceTarget relative
      match ← stat relative with
      | some .link | some (.file _) =>
        require .os (unlink relative)
        let found ← removeFiles rest
        return (found.1 + 1, ancestors relative ++ found.2)
      | some .other => throw (.exit ("cannot safely remove retired source path: " ++ relative))
      | some .directory | none =>
        let found ← removeFiles rest
        return (found.1, ancestors relative ++ found.2)

/-- A directory that cannot be removed stays. -/
def removeDirectories : List String → Control Bytes Unit
  | [] => pure ()
  | relative :: rest => do
    safeSourceTarget relative
    if sourcePathIsProtected relative then removeDirectories rest
    else
      match ← stat relative with
      | some .directory =>
        let _ ← rmdir relative
        removeDirectories rest
      | some (.file _) | some .link | some .other | none => removeDirectories rest

def removeRetiredSourceFiles (currentFiles : List String) : Control Bytes Nat := do
  let previousFiles ← readSourceManifest
  let found ← removeFiles (deepestFirst (previousFiles.dedup.filter fun path => path ∉ currentFiles))
  removeDirectories (deepestFirst found.2.dedup)
  return found.1

/-! ## The source step -/

def extractArchive (archive : List (Member Bytes)) : Control Bytes Unit := require .command (tar archive)

def writeSourceManifest (files : List String) : Control Bytes Unit := require .os (writeManifest (sortedPaths files.dedup))

/-- `snapshot_compose`: whether the file was extracted stays known. -/
def snapshotCompose : Control Bytes Bool := do
  match ← stat PRODUCTION_COMPOSE with
  | some (.file extracted) =>
    require (.exit "production rollback directory is unsafe") check
    return extracted
  | some .directory | some .link | some .other | none =>
    throw (.exit "production rollback source is missing or unsafe")

/-- What a source step does that fails: the Compose file is put back, and the snapshots are removed. -/
def recover (compose : Bool) (error : Error) : Control Bytes Unit := do
  let composeRestored ← Control.restoreCompose compose
  let snapshotsCleaned ← check
  if composeRestored && snapshotsCleaned then throw error
  else throw (.exit "source release failed and its rollback files could not be fully reconciled")

/-- `deploy` up to the end of the source step. -/
def sourceStep [Payload Bytes] (archive : List (Member Bytes)) : Control Bytes Unit := do
  -- nothing is pending, and the archives have been copied
  require .os check
  validateSourceArchive archive
  -- the image archive
  require .os check
  let currentFiles ← sourceArchiveFiles archive
  let _ ← readSourceManifest
  -- the capacity of the disk, and what else is checked before
  require .os check
  let compose ← snapshotCompose
  tryCatch
    (do
      extractArchive archive
      let _ ← removeRetiredSourceFiles currentFiles
      writeSourceManifest currentFiles)
    (recover compose)

end P2PTransmission.Deploy.Source
