import Mathlib.Logic.Function.Basic
import P2PTransmission.Deploy.Environment
import P2PTransmission.Foundation.Script

/-!
# The production host

What a release and its rollback find on the host and change there: the environment file, the Compose and the Nginx file and
their snapshots, the marker of a pending release, the images and the container of the app, and its database. The control
plane gives the host one command after another; whether a command succeeds, and what a failing one leaves behind, is the
choice of the host.

Beside the state of the host there is a record of what happened since the stage began (`Ledger`): every write that a container
committed, and the events that the order of a rollback is about. No command reads it.
-/

set_option autoImplicit false

namespace P2PTransmission.Deploy

/-- Files hold bytes, and some of them are UTF-8 text. -/
class Utf8 (Bytes : Type) where
  decode : Bytes → Option String
  encode : String → Bytes

/-- The files that a release replaces, and the one in the source tree that it takes the Nginx configuration from. -/
inductive Managed
  | compose | nginx | nginxSource
  deriving DecidableEq, Repr

/-- Which container it is: the one that ran before the stage, one that the release started, or one that a rollback started. -/
inductive Role
  | previous | target | restored
  deriving DecidableEq, Repr

/-- A write that a container committed, and whether the backup of the release had been made by then. -/
structure Write where
  role : Role
  sinceBackup : Bool
  number : Nat
  deriving DecidableEq, Repr

structure Container (Image : Type) where
  image : Image
  running : Bool
  role : Role
  deriving DecidableEq

/-- `pending.json`. A backup is given by what is in it. -/
structure Pending (Bytes : Type) where
  releaseVersion : String
  previousEnvironment : Bytes
  previousTag : String
  databaseBackup : Option (List Write)
  databaseMayHaveChanged : Bool
  rollbackDatabaseRestored : Bool

/-- The host. A tag of `p2p-transmission` names an image; there is a single container of the app at most. The snapshots are
those of the release that is staged. -/
structure Host (Bytes Image : Type) where
  env : Option Bytes
  files : Managed → Option Bytes
  snapshots : Managed → Option Bytes
  pending : Option (Pending Bytes)
  images : String → Option Image
  container : Option (Container Image)

/-- What happens in a release and in its rollbacks. -/
inductive Happening
  | backedUp
  /-- A container was started by `docker compose up`. -/
  | started (role : Role)
  /-- A rollback after the switch phase could not prove that the previous release is still running. -/
  | unproved
  /-- `restore_production_database` was executed. -/
  | restored
  deriving DecidableEq, Repr

/-- The database, whether there are artifacts of a restore beside it, all writes that were committed to it, and what has
happened, in order. -/
structure Ledger where
  database : Option (List Write)
  artifacts : Bool
  committed : List Write
  history : List Happening
  deriving DecidableEq, Repr

structure Site (Bytes Image : Type) where
  host : Host Bytes Image
  ledger : Ledger

/-! ## Commands -/

inductive Command (Bytes Image : Type)
  /-- What may fail and changes nothing of this. -/
  | check
  | readEnvironment
  | writeEnvironment (content : Bytes)
  | readFile (file : Managed)
  | replaceFile (file : Managed) (content : Bytes)
  | takeSnapshot (file : Managed)
  | readSnapshot (file : Managed)
  | dropSnapshot (file : Managed)
  | pendingExists
  | readPending
  | writePending (record : Pending Bytes)
  | removePending
  | imageId (tag : String)
  | runningImageId
  | probe
  | tagPrevious (tag : String)
  | loadImage (tag : String) (image : Image)
  | stop
  | rm
  | up (role : Role)
  | backupDatabase
  | restoreDatabase (backup : Option (List Write))
  | extractArchive (compose nginx : Bytes)
  /-- Nothing is done: it is noted that the previous release was not proved to run. -/
  | noteUnproved

variable {Bytes Image : Type}

/-- What a command answers: what it read, or whether it succeeded. -/
def Command.Reply : Command Bytes Image → Type
  | .readEnvironment | .readFile _ | .readSnapshot _ => Option Bytes
  | .readPending => Option (Pending Bytes)
  | .imageId _ | .runningImageId => Option Image
  | .probe => Option String
  | .backupDatabase => Option (Option (List Write))
  | .noteUnproved => Unit
  | .check | .writeEnvironment _ | .replaceFile .. | .takeSnapshot _ | .dropSnapshot _ | .pendingExists | .writePending _
  | .removePending | .tagPrevious _ | .loadImage .. | .stop | .rm | .up _ | .restoreDatabase _ | .extractArchive .. => Bool

/-- How `docker compose up` ends: it succeeds with a new container, or it finds nothing to change; or it fails, and leaves the
old container as it was, stopped or removed, or a new one that it created, or even started. -/
inductive Up
  | recreated | kept | untouched | stopped | removed | created | started
  deriving DecidableEq, Repr

/-- How the restoration of the database ends: with success; or not, and the files are as they were, or those of the backup, or
there are artifacts beside what is left of them. -/
inductive Restore
  | restored | refused | installed
  | broken (database : Option (List Write))
  deriving DecidableEq, Repr

/-- The choice of the host at a command. -/
structure Choice (Bytes : Type) where
  /-- What the container wrote before. -/
  writes : List Nat := []
  ok : Bool := true
  /-- A command that fails took effect nevertheless. -/
  effect : Bool := false
  /-- What a failing extraction leaves of a file that it wrote. -/
  torn : Option (Option Bytes) := none
  up : Up := .recreated
  restore : Restore := .restored

/-! ## What they do -/

/-- The tag in an environment file. -/
def imageTag [Utf8 Bytes] (env : Option Bytes) : Option String :=
  (env.bind Utf8.decode).bind fun text => (parseEnvText text).get "P2P_IMAGE_TAG"

/-- The container commits writes, if it runs. -/
def Site.written (site : Site Bytes Image) (numbers : List Nat) : Site Bytes Image :=
  match site.host.container with
  | some ⟨_, true, role⟩ =>
    let writes := numbers.map fun number => ⟨role, site.ledger.history.contains .backedUp, number⟩
    { site with
      ledger :=
        { site.ledger with
          database := if writes.isEmpty then site.ledger.database else some (site.ledger.database.getD [] ++ writes)
          committed := site.ledger.committed ++ writes } }
  | _ => site

def Ledger.note (ledger : Ledger) (happening : Happening) : Ledger :=
  { ledger with history := ledger.history ++ [happening] }

/-- A change that a command makes if it succeeds, and perhaps even if it fails. -/
def Site.change (site : Site Bytes Image) (choice : Choice Bytes) (host : Host Bytes Image) : Bool × Site Bytes Image :=
  (choice.ok, if choice.ok || choice.effect then { site with host } else site)

/-- A container is started from the image. -/
def Site.start (site : Site Bytes Image) (image : Image) (role : Role) : Site Bytes Image :=
  { host := { site.host with container := some ⟨image, true, role⟩ }, ledger := site.ledger.note (.started role) }

/-- `docker compose up -d --no-build --no-deps app`. -/
def Site.up [Utf8 Bytes] [DecidableEq Image] (site : Site Bytes Image) (role : Role) (choice : Choice Bytes) :
    Bool × Site Bytes Image :=
  match (imageTag site.host.env).bind site.host.images with
  | none => (false, site)
  | some image =>
    match choice.up, site.host.container with
    | .kept, some container =>
      -- a container of the same image goes on, or is started again
      if container.image = image then
        (true, { site with host := { site.host with container := some { container with running := true } } })
      else (true, site.start image role)
    | .kept, none | .recreated, _ => (true, site.start image role)
    | .untouched, _ => (false, site)
    | .stopped, container =>
      (false,
        { site with host := { site.host with container := container.map fun old => { old with running := false } } })
    | .removed, _ => (false, { site with host := { site.host with container := none } })
    | .created, _ => (false, { site with host := { site.host with container := some ⟨image, false, role⟩ } })
    | .started, _ => (false, site.start image role)

/-- `restore_production_database`. -/
def Ledger.restore (ledger : Ledger) (backup : Option (List Write)) (choice : Restore) : Bool × Ledger :=
  let ledger := ledger.note .restored
  if ledger.artifacts then (false, ledger)
  else
    match choice with
    | .restored => (true, { ledger with database := backup })
    | .refused => (false, ledger)
    | .installed => (false, { ledger with database := backup })
    | .broken database => (false, { ledger with database, artifacts := true })

/-- What the host does at a command. -/
def perform [Utf8 Bytes] [DecidableEq Image] (release : Image → String) (command : Command Bytes Image)
    (choice : Choice Bytes) (before : Site Bytes Image) : command.Reply × Site Bytes Image :=
  let site := before.written choice.writes
  let host := site.host
  match command with
  | .check => (choice.ok, site)
  | .readEnvironment => (if choice.ok then host.env else none, site)
  | .writeEnvironment content => site.change choice { host with env := some content }
  | .readFile file => (if choice.ok then host.files file else none, site)
  | .replaceFile file content => site.change choice { host with files := Function.update host.files file (some content) }
  | .takeSnapshot file =>
    match host.files file with
    | none => (false, site)
    | some content =>
      if choice.ok then
        (true, { site with host := { host with snapshots := Function.update host.snapshots file (some content) } })
      else (false, site)
  | .readSnapshot file => (if choice.ok then host.snapshots file else none, site)
  | .dropSnapshot file => site.change choice { host with snapshots := Function.update host.snapshots file none }
  | .pendingExists => (host.pending.isSome, site)
  | .readPending => (if choice.ok then host.pending else none, site)
  | .writePending record => site.change choice { host with pending := some record }
  | .removePending => site.change choice { host with pending := none }
  | .imageId tag => (if choice.ok then host.images tag else none, site)
  | .runningImageId =>
    (if choice.ok then (host.container.filter fun container => container.running).map (·.image) else none, site)
  | .probe =>
    (if choice.ok then (host.container.filter fun container => container.running).map (release ·.image) else none, site)
  | .tagPrevious tag => site.change choice { host with images := Function.update host.images "previous" (host.images tag) }
  | .loadImage tag image => site.change choice { host with images := Function.update host.images tag (some image) }
  | .stop =>
    site.change choice { host with container := host.container.map fun container => { container with running := false } }
  | .rm => site.change choice { host with container := none }
  | .up role => site.up role choice
  | .backupDatabase =>
    if choice.ok && !site.ledger.artifacts then
      (some site.ledger.database, { site with ledger := site.ledger.note .backedUp })
    else (none, site)
  | .restoreDatabase backup =>
    ((site.ledger.restore backup choice.restore).1,
      { site with ledger := (site.ledger.restore backup choice.restore).2 })
  | .extractArchive compose nginx =>
    if choice.ok then
      (true,
        { site with
          host :=
            { host with
              files :=
                Function.update (Function.update host.files .compose (some compose)) .nginxSource (some nginx) } })
    else
      match choice.torn with
      | none => (false, site)
      | some left => (false, { site with host := { host with files := Function.update host.files .compose left } })
  | .noteUnproved => ((), { site with ledger := site.ledger.note .unproved })

end P2PTransmission.Deploy
