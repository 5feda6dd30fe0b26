import P2PTransmission.Foundation.Newest
import P2PTransmission.Deploy.Pending
import Mathlib.Data.String.Basic

/-!
# Backups of the database

`backup_production_database`, which writes a new backup and keeps the first ten in the order of their names, and
`pending_database_backup_path`, which a rollback uses to find the backup that was recorded.

A name begins with the reading of the clock, so the order of the names is that of creation as long as the clock goes
forward. When it was set back, the new backup may be one of those that are removed.
-/

set_option autoImplicit false

namespace P2PTransmission.Deploy.Backups

open Newest

/-! ## Model -/

def DATABASE_BACKUP_LIMIT : Nat := 10

/-- What a name in the directory of the backups stands for. -/
structure Entry where
  name : String
  linklike : Bool
  isFile : Bool
  links : Nat
  owner : Nat
  mode : Nat
  deriving DecidableEq, Repr

/-- The pattern `control-*.sqlite3`. -/
def isBackupName (name : String) : Bool :=
  "control-".toList.isPrefixOf name.toList && ".sqlite3".toList.isSuffixOf name.toList &&
    "control-".length + ".sqlite3".length ≤ name.length

/-- The host, as far as the backups are concerned; the directory lists its entries in the order of their creation. -/
structure Host where
  restoreTargetSafe : Bool
  recoveryArtifacts : List String
  databasePresent : Bool
  backupRootSafe : Bool
  effectiveUid : Nat
  directory : List Entry
  distinct : (directory.map Entry.name).Nodup

/-- What the operations of the host answer. -/
structure Answers where
  /-- The error of a copy that fails: whatever it has left is removed again, also if it was published. -/
  copies : Option String
  /-- Whether the file of that name can be removed. -/
  unlinks : String → Bool
  synced : Bool

namespace Host

variable (host : Host)

def backups : List Entry := host.directory.filter fun entry => isBackupName entry.name

def remove (name : String) : Host :=
  { host with
    directory := host.directory.filter fun entry => entry.name ≠ name
    distinct := host.distinct.sublist (List.filter_sublist.map Entry.name) }

/-- A backup that has been copied is published: it stands behind all others. -/
def publish (name : String) (hnew : name ∉ host.directory.map Entry.name) : Host :=
  { host with
    directory := host.directory ++
      [{ name, linklike := false, isFile := true, links := 1, owner := host.effectiveUid, mode := 0o600 }]
    distinct := by
      rw [List.map_append, List.nodup_append]
      refine ⟨host.distinct, List.nodup_singleton _, fun old hold new hmem => ?_⟩
      rintro rfl
      obtain rfl := List.mem_singleton.mp hmem
      exact hnew hold }

/-- The old backups are removed one by one, up to one that cannot be. -/
def unlinkAll (unlinks : String → Bool) : List String → Host → Bool × Host
  | [], host => (true, host)
  | name :: names, host => if unlinks name then unlinkAll unlinks names (host.remove name) else (false, host)

def destination (timestamp version : String) : String := "control-" ++ timestamp ++ "-" ++ version ++ ".sqlite3"

def backupProductionDatabase (answers : Answers) (timestamp version : String) : Except Error (Option String) × Host :=
  if !host.restoreTargetSafe then (.error (.exit "production database layout is unsafe for backup"), host)
  else if !host.recoveryArtifacts.isEmpty then
    (.error (.exit ("production database recovery artifacts require manual reconciliation: " ++
      String.intercalate ", " host.recoveryArtifacts)), host)
  else if !host.databasePresent then (.ok none, host)
  else if !host.backupRootSafe then (.error (.exit "database backup directory is unsafe"), host)
  else if host.backups.any fun entry => entry.linklike || !entry.isFile then
    (.error (.exit "database backup cleanup encountered an unsafe path"), host)
  else if hnew : destination timestamp version ∈ host.directory.map Entry.name then
    (.error (.exit "database backup destination already exists or is unsafe"), host)
  else
    match answers.copies with
    | some message => (.error (.exit ("production database backup failed: " ++ message)), host)
    | none =>
      let old := surplus DATABASE_BACKUP_LIMIT (host.backups.map Entry.name ++ [destination timestamp version])
      let result := unlinkAll answers.unlinks old (host.publish (destination timestamp version) hnew)
      if !result.1 then (.error .os, result.2)
      else if !answers.synced then (.error .os, result.2)
      else (.ok (some (destination timestamp version)), result.2)

/-- The backup that a pending release has recorded. -/
def pendingDatabaseBackupPath (name : String) : Except Error String :=
  match host.directory.find? fun entry => entry.name = name with
  | none => .error (.exit "pending release database backup is unavailable")
  | some entry =>
    if entry.linklike || !entry.isFile || entry.links ≠ 1 || entry.owner ≠ host.effectiveUid || entry.mode ≠ 0o600 then
      .error (.exit "pending release database backup is missing or unsafe")
    else .ok name

/-! ## What a call does -/

section

variable {host}

theorem unlinkAll_ok {unlinks : String → Bool} : ∀ {names : List String} {host after : Host},
    unlinkAll unlinks names host = (true, after) →
      after.directory = host.directory.filter (fun entry => entry.name ∉ names) ∧ after.effectiveUid = host.effectiveUid
  | [], host, after, h => by
    cases h
    simp
  | name :: names, host, after, h => by
    unfold unlinkAll at h
    split at h
    · obtain ⟨hdirectory, huid⟩ := unlinkAll_ok h
      refine ⟨?_, huid⟩
      rw [hdirectory, remove, List.filter_filter]
      refine List.filter_congr fun entry _ => ?_
      simp [Bool.and_comm]
    · cases h

/-- What a call that returns a path has done. -/
structure Written (host : Host) (path : String) (after : Host) : Prop where
  new : path ∉ host.directory.map Entry.name
  directory : after.directory = (host.publish path new).directory.filter fun entry =>
    entry.name ∉ surplus DATABASE_BACKUP_LIMIT (host.backups.map Entry.name ++ [path])
  effectiveUid : after.effectiveUid = host.effectiveUid

theorem backupProductionDatabase_ok {answers : Answers} {timestamp version path : String} {after : Host}
    (h : host.backupProductionDatabase answers timestamp version = (.ok (some path), after)) :
    path = destination timestamp version ∧ Written host path after := by
  unfold backupProductionDatabase at h
  iterate 5
    split at h
    · cases h
  split at h
  · cases h
  · rename_i hnew
    cases hcopies : answers.copies with
    | some message =>
      rw [hcopies] at h
      cases h
    | none =>
      rw [hcopies] at h
      dsimp only at h
      split at h
      · cases h
      · rename_i hunlinked
        split at h
        · cases h
        · cases h
          obtain ⟨hdirectory, huid⟩ := unlinkAll_ok (Prod.ext (by simpa using hunlinked) rfl)
          exact ⟨rfl, hnew, hdirectory, huid⟩

theorem isBackupName_destination (timestamp version : String) : isBackupName (destination timestamp version) = true := by
  have hlist : (destination timestamp version).toList =
      "control-".toList ++ ((timestamp ++ "-" ++ version).toList ++ ".sqlite3".toList) := by
    simp [destination]
  unfold isBackupName
  rw [Bool.and_eq_true, Bool.and_eq_true, List.isPrefixOf_iff_prefix, List.isSuffixOf_iff_suffix, decide_eq_true_eq]
  refine ⟨⟨?_, ?_⟩, ?_⟩
  · rw [hlist]
    exact List.prefix_append _ _
  · rw [hlist, ← List.append_assoc]
    exact List.suffix_append _ _
  · simp only [← String.length_toList]
    rw [hlist]
    simp only [List.length_append]
    omega

/-- The names of the backups afterwards are those that are not removed. -/
theorem Written.names {path : String} {after : Host} (h : Written host path after) (hpath : isBackupName path = true) :
    after.backups.map Entry.name = (host.backups.map Entry.name ++ [path]).filter fun name =>
      name ∉ surplus DATABASE_BACKUP_LIMIT (host.backups.map Entry.name ++ [path]) := by
  generalize hsurplus : surplus DATABASE_BACKUP_LIMIT (host.backups.map Entry.name ++ [path]) = removed
  have hdirectory := h.directory
  rw [hsurplus] at hdirectory
  have hbackups : after.backups = ((host.publish path h.new).backups).filter fun entry => entry.name ∉ removed := by
    unfold backups
    rw [hdirectory, List.filter_filter, List.filter_filter]
    exact List.filter_congr fun entry _ => Bool.and_comm _ _
  have hpublished : (host.publish path h.new).backups.map Entry.name = host.backups.map Entry.name ++ [path] := by
    unfold backups publish
    rw [List.filter_append, List.filter_singleton, hpath, List.map_append]
    rfl
  rw [hbackups, ← hpublished, List.filter_map]
  rfl

theorem Written.nodup {path : String} {after : Host} (h : Written host path after) :
    (host.backups.map Entry.name ++ [path]).Nodup := by
  rw [List.nodup_append]
  refine ⟨host.distinct.sublist (List.filter_sublist.map Entry.name), List.nodup_singleton _, fun old hold new hmem => ?_⟩
  rintro rfl
  obtain rfl := List.mem_singleton.mp hmem
  exact h.new ((List.filter_sublist.map Entry.name).subset hold)

/-- A rollback finds the new backup if it is still there. -/
theorem Written.loads {path : String} {after : Host} (h : Written host path after)
    (hpresent : path ∈ after.backups.map Entry.name) : after.pendingDatabaseBackupPath path = .ok path := by
  have hfound : (after.directory.find? fun entry => entry.name = path) =
      some { name := path, linklike := false, isFile := true, links := 1, owner := host.effectiveUid, mode := 0o600 } := by
    obtain ⟨entry, hentry, hname⟩ := List.mem_map.mp hpresent
    have hsome : (after.directory.find? fun entry => entry.name = path).isSome = true :=
      List.find?_isSome.mpr ⟨entry, (List.mem_filter.mp hentry).1, by simpa using hname⟩
    obtain ⟨found, hfind⟩ := Option.isSome_iff_exists.mp hsome
    have hsame : found.name = path := by simpa using List.find?_some hfind
    have hmem := List.mem_of_find?_eq_some hfind
    rw [h.directory] at hmem
    rcases List.mem_append.mp (List.mem_filter.mp hmem).1 with hold | hnew
    · exact absurd (hsame ▸ List.mem_map_of_mem hold) h.new
    · rw [hfind, List.mem_singleton.mp hnew]
  unfold pendingDatabaseBackupPath
  rw [hfound, h.effectiveUid]
  simp

/-! ## Main result -/

/-- The new backup is kept, the backups that are kept are the newest ones up to the limit, and the new one can be
loaded. -/
structure Keeps (host : Host) (path : String) (after : Host) : Prop where
  present : path ∈ after.backups.map Entry.name
  newest : after.backups.map Entry.name = (host.backups.map Entry.name ++ [path]).drop
    (host.backups.length + 1 - DATABASE_BACKUP_LIMIT)
  loadable : after.pendingDatabaseBackupPath path = .ok path

/-- **The new backup and the newest ones are kept exactly if the names of the newest backups come after those of all older
ones.** -/
theorem backups_kept_iff {answers : Answers} {timestamp version path : String} {after : Host}
    (h : host.backupProductionDatabase answers timestamp version = (.ok (some path), after)) :
    Keeps host path after ↔
      ∀ older ∈ (host.backups.map Entry.name ++ [destination timestamp version]).take
          (host.backups.length + 1 - DATABASE_BACKUP_LIMIT),
        ∀ newer ∈ (host.backups.map Entry.name ++ [destination timestamp version]).drop
          (host.backups.length + 1 - DATABASE_BACKUP_LIMIT), older < newer := by
  obtain ⟨rfl, hwritten⟩ := backupProductionDatabase_ok h
  have hnames := hwritten.names (isBackupName_destination timestamp version)
  have hexcess : excess DATABASE_BACKUP_LIMIT (host.backups.map Entry.name ++ [destination timestamp version]) =
      host.backups.length + 1 - DATABASE_BACKUP_LIMIT := by
    rw [excess, List.length_append, List.length_map, List.length_singleton]
  have hiff := filter_surplus_iff DATABASE_BACKUP_LIMIT hwritten.nodup
  rw [← hnames, hexcess] at hiff
  rw [← hiff]
  refine ⟨Keeps.newest, fun hnewest => ?_⟩
  have hpresent : destination timestamp version ∈ after.backups.map Entry.name := by
    rw [hnewest, List.drop_append_of_le_length]
    · exact List.mem_append_right _ (List.mem_singleton_self _)
    · rw [List.length_map, DATABASE_BACKUP_LIMIT]
      omega
  exact ⟨hpresent, hnewest, hwritten.loads hpresent⟩

/-- A host with backups of these names. -/
def sample (names : List String) (hnames : names.Nodup) : Host where
  restoreTargetSafe := true
  recoveryArtifacts := []
  databasePresent := true
  backupRootSafe := true
  effectiveUid := 0
  directory := names.map fun name => { name, linklike := false, isFile := true, links := 1, owner := 0, mode := 0o600 }
  distinct := by
    rw [List.map_map]
    exact hnames.map fun _ _ h => h

/-- The names of the backups of the first ten days of a year. -/
def firstDays (year : String) : List String :=
  (List.range 10).map fun day => destination (year ++ "010" ++ day.repr ++ "T000000000000Z") "1.0.0"

def sampleAnswers : Answers where
  copies := none
  unlinks _ := true
  synced := true

theorem backups_kept_iff_sample : ∃ path after, (sample (firstDays "2025") (by decide)).backupProductionDatabase
    sampleAnswers "20260101T000000000000Z" "1.1.0" = (.ok (some path), after) ∧
      Keeps (sample (firstDays "2025") (by decide)) path after := by
  have hbackup : (sample (firstDays "2025") (by decide)).backupProductionDatabase sampleAnswers "20260101T000000000000Z"
      "1.1.0" = (.ok (some (destination "20260101T000000000000Z" "1.1.0")), _) := rfl
  exact ⟨_, _, hbackup, (backups_kept_iff hbackup).mpr (by decide)⟩

/-- The clock was set back: the backup whose path is returned is gone. -/
theorem new_backup_removed : ¬∀ (host : Host) answers timestamp version path after,
    host.backupProductionDatabase answers timestamp version = (.ok (some path), after) →
      path ∈ after.backups.map Entry.name := by
  intro h
  have hpresent := h (sample (firstDays "2030") (by decide)) sampleAnswers "20260101T000000000000Z" "1.1.0" _ _ rfl
  revert hpresent
  decide

end

end Host

end P2PTransmission.Deploy.Backups
