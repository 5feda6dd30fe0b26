import Mathlib.Logic.Function.Basic
import Mathlib.Data.List.Nodup

/-!
# Installing a prepared database

A rollback puts a copy of the backup in the place of the production database. The copy is prepared beside it; the database
and its sidecars are moved into a quarantine; the copy is published by a rename and verified; and the quarantine is removed.
What goes wrong before that is reversed.

The program is a machine that performs one operation on the directory at a time. Each of them succeeds or fails, a rename
atomically, and the process may stop between any two of them: a crash is a run that ends there.
-/

set_option autoImplicit false

namespace P2PTransmission.Deploy

variable {Content : Type}

/-! ## The directory -/

/-- The database and the sidecars that SQLite keeps beside it. -/
inductive RuntimeFile
  | main | wal | shm
  deriving DecidableEq, Repr

def runtimeFiles : List RuntimeFile := [.main, .wal, .shm]

/-- The files of the database directory: under their own names, the prepared copy and the quarantine under the names of this
attempt (`.restore-` and `.rollback-` with its token), and whether there is such a file of an earlier attempt. The copy is
written under a name that is none of these. -/
structure Directory (Content : Type) where
  runtime : RuntimeFile → Option Content
  prepared : Option Content := none
  quarantine : RuntimeFile → Option Content := fun _ => none
  earlier : Bool := false

/-- There are files that a recovery by hand would have to look at. -/
def Directory.hasArtifacts (directory : Directory Content) : Bool :=
  directory.earlier || directory.prepared.isSome || runtimeFiles.any fun file => (directory.quarantine file).isSome

/-- The content of the backup, and no sidecar. -/
def installedFiles (backup : Content) : RuntimeFile → Option Content
  | .main => some backup
  | .wal | .shm => none

/-! ## Points of the program -/

/-- How an operation ends. -/
inductive Outcome
  | succeeds | fails
  deriving DecidableEq, Repr

/-- The message with which the installation gives up. -/
inductive Failure
  | artifacts
  | preparation
  | install (restored : Bool)
  | cleanup
  deriving DecidableEq, Repr

/-- The operation that comes next. -/
inductive Point
  | inspecting
  | copying | verifyingCopy | syncingCopy | syncingCopyDirectory | droppingCopy
  | moving (rest : List RuntimeFile)
  | publishing | syncingPublished | verifying | syncingDatabase
  | removing (rest : List RuntimeFile)
  | reinstating (rest : List RuntimeFile)
  | syncingReversal
  | droppingPrepared (restored : Bool)
  | cleaning (rest : List RuntimeFile)
  | syncingCleanup
  | returnedTrue
  | returnedFalse (failure : Failure)
  | raised
  deriving DecidableEq, Repr

/-- The state of `install_prepared_database`: the directory, what comes next, and the variables of the program. -/
structure Install (Content : Type) where
  directory : Directory Content
  point : Point
  moved : List RuntimeFile
  installed : Bool
  /-- The database in its place was verified. -/
  verified : Bool

namespace Install

def start (directory : Directory Content) : Install Content :=
  { directory, point := .inspecting, moved := [], installed := false, verified := false }

/-- The installation is reversed: first what was not there is removed, if the copy was published. -/
def reverse (state : Install Content) : Install Content :=
  if state.installed then { state with point := .removing (runtimeFiles.filter fun file => file ∉ state.moved) }
  else { state with point := .reinstating state.moved.reverse }

/-! ### Operations -/

/-- A file is moved into the quarantine, if it exists. -/
def move (state : Install Content) (file : RuntimeFile) (rest : List RuntimeFile) : Install Content :=
  match state.directory.runtime file with
  | none => { state with point := .moving rest }
  | some content =>
    { state with
      directory :=
        { state.directory with
          runtime := Function.update state.directory.runtime file none
          quarantine := Function.update state.directory.quarantine file (some content) }
      moved := state.moved ++ [file]
      point := .moving rest }

/-- The prepared copy takes the name of the database. -/
def publish (state : Install Content) : Install Content :=
  { state with
    directory :=
      { state.directory with
        runtime := Function.update state.directory.runtime .main state.directory.prepared
        prepared := none }
    installed := true
    point := .syncingPublished }

def remove (state : Install Content) (file : RuntimeFile) (rest : List RuntimeFile) : Install Content :=
  { state with
    directory := { state.directory with runtime := Function.update state.directory.runtime file none }
    point := .removing rest }

/-- A file comes back from the quarantine. -/
def reinstate (state : Install Content) (file : RuntimeFile) (rest : List RuntimeFile) : Install Content :=
  { state with
    directory :=
      { state.directory with
        runtime := Function.update state.directory.runtime file (state.directory.quarantine file)
        quarantine := Function.update state.directory.quarantine file none }
    point := .reinstating rest }

def clean (state : Install Content) (file : RuntimeFile) (rest : List RuntimeFile) : Install Content :=
  { state with
    directory := { state.directory with quarantine := Function.update state.directory.quarantine file none }
    point := .cleaning rest }

def dropPrepared (state : Install Content) (failure : Failure) : Install Content :=
  { state with directory := { state.directory with prepared := none }, point := .returnedFalse failure }

/-- One operation of the program. -/
def step (backup : Content) (state : Install Content) (outcome : Outcome) : Install Content :=
  match state.point, outcome with
  | .inspecting, .succeeds =>
    if state.directory.hasArtifacts then { state with point := .returnedFalse .artifacts }
    else { state with point := .copying }
  | .inspecting, .fails => { state with point := .raised }
  -- the copy is made, verified and synced before any of the current files changes
  | .copying, .succeeds =>
    { state with directory := { state.directory with prepared := some backup }, point := .verifyingCopy }
  | .verifyingCopy, .succeeds => { state with point := .syncingCopy }
  | .syncingCopy, .succeeds => { state with point := .syncingCopyDirectory }
  | .syncingCopyDirectory, .succeeds => { state with point := .moving runtimeFiles }
  | .copying, .fails | .verifyingCopy, .fails | .syncingCopy, .fails | .syncingCopyDirectory, .fails =>
    { state with point := .droppingCopy }
  | .droppingCopy, .succeeds => state.dropPrepared .preparation
  | .droppingCopy, .fails => { state with point := .raised }
  | .moving (file :: rest), .succeeds => state.move file rest
  | .moving [], _ => { state with point := .publishing }
  | .publishing, .succeeds => state.publish
  | .syncingPublished, .succeeds => { state with point := .verifying }
  | .verifying, .succeeds => { state with verified := true, point := .syncingDatabase }
  | .syncingDatabase, .succeeds => { state with point := .cleaning runtimeFiles }
  | .moving (_ :: _), .fails | .publishing, .fails | .syncingPublished, .fails | .verifying, .fails
  | .syncingDatabase, .fails => state.reverse
  -- the reversal stops at its first failure
  | .removing (file :: rest), .succeeds => state.remove file rest
  | .removing [], _ => { state with point := .reinstating state.moved.reverse }
  | .reinstating (file :: rest), .succeeds => state.reinstate file rest
  | .reinstating [], _ => { state with point := .syncingReversal }
  | .syncingReversal, .succeeds => { state with point := .droppingPrepared true }
  | .removing (_ :: _), .fails | .reinstating (_ :: _), .fails | .syncingReversal, .fails =>
    { state with point := .droppingPrepared false }
  | .droppingPrepared restored, .succeeds => state.dropPrepared (.install restored)
  | .droppingPrepared _, .fails => { state with point := .raised }
  | .cleaning (file :: rest), .succeeds => state.clean file rest
  | .cleaning [], _ => { state with point := .syncingCleanup }
  | .syncingCleanup, .succeeds => { state with point := .returnedTrue }
  | .cleaning (_ :: _), .fails | .syncingCleanup, .fails => { state with point := .returnedFalse .cleanup }
  | .returnedTrue, _ | .returnedFalse _, _ | .raised, _ => state

/-- The state after the operations; the process may have stopped there. -/
def after (backup : Content) (directory : Directory Content) (outcomes : List Outcome) : Install Content :=
  outcomes.foldl (step backup) (start directory)

end Install

end P2PTransmission.Deploy
