import P2PTransmission.Deploy.Rollback
import P2PTransmission.Foundation.Run

/-!
# Rollbacks keep the writes

The database is put back only after a rollback of the switch phase could not prove that the previous release is still running,
and never again once the restored container was started (`Ledger.Ordered`). So a write of the previous release is lost only if
it was made between the backup and the stop of its container (`Site.Kept`), wherever the stage and the rollbacks crash.
Whether the target container was started before is another matter: a failed probe of a running container is enough for the
database to be put back (`restored_without_target`).
-/

set_option autoImplicit false

namespace P2PTransmission.Deploy

open Script (Holds holds_bind holds_ite holds_tryCatch)

variable {Bytes Image A : Type}

/-! ## The order of what happens -/

/-- Whenever this happens, the target's container had been started since the backup. -/
def Ledger.AfterSwitch (ledger : Ledger) (happening : Happening) : Prop :=
  ∀ earlier later, ledger.history = earlier ++ happening :: later → [.backedUp, .started .target].Sublist earlier

/-- The database is not put back once the restored container was started. -/
def Ledger.NeverAgain (ledger : Ledger) : Prop :=
  ∀ earlier later, ledger.history = earlier ++ .restored :: later → .started .restored ∉ earlier

/-- Before the database is put back a rollback has given up on the running release, and no restored container was started. -/
def Ledger.Ordered (ledger : Ledger) : Prop :=
  ∀ earlier later, ledger.history = earlier ++ .restored :: later → .unproved ∈ earlier ∧ .started .restored ∉ earlier

namespace Ledger.Ordered

variable {ledger : Ledger}

theorem note (h : ledger.Ordered) (happening : Happening)
    (hrestored : happening = .restored → .unproved ∈ ledger.history ∧ .started .restored ∉ ledger.history) :
    (ledger.note happening).Ordered := by
  intro earlier later hsplit
  rcases snoc_split hsplit with ⟨-, rfl, hsame⟩ | ⟨rest, -, hrest⟩
  · exact hrestored hsame.symm
  · exact h earlier rest hrest

theorem neverAgain (h : ledger.Ordered) : ledger.NeverAgain := fun earlier later hsplit => (h earlier later hsplit).2

/-- What holds whenever a rollback gives up on the running release holds whenever the database is put back. -/
theorem afterSwitch (h : ledger.Ordered) (hswitched : ledger.AfterSwitch .unproved) : ledger.AfterSwitch .restored := by
  intro earlier later hsplit
  obtain ⟨before, between, hearlier⟩ := List.append_of_mem (h earlier later hsplit).1
  rw [hearlier, List.append_assoc, List.cons_append] at hsplit
  have hbefore := hswitched before _ hsplit
  rw [hearlier]
  exact hbefore.trans (List.sublist_append_left before _)

end Ledger.Ordered

/-! ## Writes -/

/-- A write of the previous release outside the interval between the backup and the stop of its container: one made before the
backup, or one made by the container that a rollback started. -/
def Write.Lasting (write : Write) : Prop := write.role = .restored ∨ (write.role = .previous ∧ write.sinceBackup = false)

/-- The lasting writes are in the database. -/
def Ledger.Holds (ledger : Ledger) : Prop := ∀ write ∈ ledger.committed, write.Lasting → write ∈ ledger.database.getD []

/-- Before the backup: the container is that of before, and what it wrote is in the database. -/
structure Site.Fresh (site : Site Bytes Image) : Prop where
  pending : site.host.pending = none
  history : site.ledger.history = []
  container : ∀ container, site.host.container = some container → container.role = .previous
  committed : ∀ write ∈ site.ledger.committed,
    write.role = .previous ∧ write.sinceBackup = false ∧ write ∈ site.ledger.database.getD []

/-- After the backup. -/
structure Site.Kept (site : Site Bytes Image) (backup : Option (List Write)) : Prop where
  backedUp : .backedUp ∈ site.ledger.history
  saved : ∀ write ∈ site.ledger.committed, write.sinceBackup = false → write ∈ backup.getD []
  /-- The marker names the backup, and it tells that a restored container was started. -/
  marker : ∀ record, site.host.pending = some record →
    record.databaseBackup = backup ∧ (.started .restored ∈ site.ledger.history → record.rollbackDatabaseRestored = true)
  /-- Without a restored container nothing was written by one. -/
  unrestored : .started .restored ∉ site.ledger.history →
    (∀ write ∈ site.ledger.committed, write.role ≠ .restored) ∧
      ∀ container, site.host.container = some container → container.running = true → container.role ≠ .restored
  holds : site.ledger.artifacts = false → site.ledger.Holds
  /-- A restoration that failed in the middle is never passed over. -/
  broken : site.ledger.artifacts = true →
    site.host.container = none ∧ ∃ record, site.host.pending = some record ∧ record.rollbackDatabaseRestored = false
  ordered : site.ledger.Ordered

variable {site middle after : Site Bytes Image} {host : Host Bytes Image} {backup : Option (List Write)}
  {record : Pending Bytes} {write : Write}

theorem Site.mem_written (numbers : List Nat) (h : write ∈ (site.written numbers).ledger.committed) :
    write ∈ site.ledger.committed ∨ ∃ image role, site.host.container = some ⟨image, true, role⟩ ∧ write.role = role ∧
      write.sinceBackup = site.ledger.history.contains .backedUp ∧ write ∈ (site.written numbers).ledger.database.getD [] := by
  obtain ⟨⟨env, files, snapshots, pending, images, container⟩, ledger⟩ := site
  rcases container with _ | ⟨image, _ | _, role⟩
  · exact .inl h
  · exact .inl h
  · rcases List.mem_append.mp h with h | h
    · exact .inl h
    · refine .inr ⟨image, role, rfl, ?_⟩
      obtain ⟨number, hnumber, hwrite⟩ := List.mem_map.mp h
      refine ⟨by rw [← hwrite], by rw [← hwrite], ?_⟩
      cases numbers with
      | nil => cases hnumber
      | cons first numbers => exact List.mem_append_right _ h

theorem Site.database_written (numbers : List Nat) (h : write ∈ site.ledger.database.getD []) :
    write ∈ (site.written numbers).ledger.database.getD [] := by
  obtain ⟨⟨env, files, snapshots, pending, images, container⟩, ledger⟩ := site
  rcases container with _ | ⟨image, _ | _, role⟩
  · exact h
  · exact h
  · cases numbers with
    | nil => exact h
    | cons first numbers => exact List.mem_append_left _ h

theorem Site.Fresh.of_to (h : site.Fresh) (hto : site.To host after) (hpending : host.pending = site.host.pending) :
    after.Fresh := by
  obtain ⟨hcontainer, numbers, rfl⟩ := hto
  refine ⟨hpending.trans h.pending, (site.history_written numbers).trans h.history, fun container hsame => ?_, fun write hwrite => ?_⟩
  · exact h.container container (hcontainer.symm.trans hsame)
  · rcases site.mem_written numbers hwrite with hold | ⟨image, role, hruns, hrole, hsince, hdatabase⟩
    · obtain ⟨hrole, hsince, hdatabase⟩ := h.committed write hold
      exact ⟨hrole, hsince, site.database_written numbers hdatabase⟩
    · refine ⟨hrole.trans (h.container _ hruns), ?_, hdatabase⟩
      rw [hsince, h.history]
      rfl

namespace Site.Kept

/-- Another marker, of the same backup. -/
theorem remark (h : site.Kept backup) (hto : site.To host after)
    (hmarker : ∀ record, host.pending = some record → record.databaseBackup = backup ∧
      (.started .restored ∈ site.ledger.history → record.rollbackDatabaseRestored = true))
    (hbroken : site.ledger.artifacts = true → ∃ record, host.pending = some record ∧ record.rollbackDatabaseRestored = false) :
    after.Kept backup := by
  obtain ⟨hcontainer, numbers, rfl⟩ := hto
  have hhistory := site.history_written numbers
  have hsince : site.ledger.history.contains .backedUp = true := List.contains_iff_mem.mpr h.backedUp
  refine ⟨?_, fun write hwrite hfalse => ?_, fun record hrecord => ?_, fun hnot => ?_, fun hsound write hwrite hlasting => ?_, fun hartifacts => ?_, ?_⟩
  · rw [hhistory]
    exact h.backedUp
  · rcases site.mem_written numbers hwrite with hold | ⟨image, role, -, -, hnew, -⟩
    · exact h.saved write hold hfalse
    · cases hfalse.symm.trans (hnew.trans hsince)
  · rw [hhistory]
    exact hmarker record hrecord
  · rw [hhistory] at hnot
    obtain ⟨hcommitted, hrunning⟩ := h.unrestored hnot
    refine ⟨fun write hwrite => ?_, fun container hsame => hrunning container (hcontainer.symm.trans hsame)⟩
    rcases site.mem_written numbers hwrite with hold | ⟨image, role, hruns, hrole, -, -⟩
    · exact hcommitted write hold
    · rw [hrole]
      exact hrunning _ hruns rfl
  · rw [site.artifacts_written] at hsound
    rcases site.mem_written numbers hwrite with hold | ⟨image, role, -, -, -, hdatabase⟩
    · exact site.database_written numbers (h.holds hsound write hold hlasting)
    · exact hdatabase
  · rw [site.artifacts_written] at hartifacts
    exact ⟨hcontainer.trans (h.broken hartifacts).1, hbroken hartifacts⟩
  · unfold Ledger.Ordered
    rw [hhistory]
    exact h.ordered

theorem of_to (h : site.Kept backup) (hto : site.To host after) (hpending : host.pending = site.host.pending) :
    after.Kept backup := by
  refine h.remark hto (fun record hrecord => h.marker record (hpending.symm.trans hrecord)) fun hartifacts => ?_
  rw [hpending]
  exact (h.broken hartifacts).2

/-- Something else than a restoration is noted, and no start of the restored container. -/
theorem note (h : site.Kept backup) (happening : Happening) (hrestored : happening ≠ .restored)
    (hstarted : happening ≠ .started .restored) : (site.note happening).Kept backup := by
  have hmem : .started .restored ∈ (site.note happening).ledger.history ↔ .started .restored ∈ site.ledger.history := by
    show .started .restored ∈ site.ledger.history ++ [happening] ↔ _
    rw [List.mem_append, List.mem_singleton]
    exact ⟨fun hmem => hmem.resolve_right fun hsame => hstarted hsame.symm, .inl⟩
  refine ⟨List.mem_append_left _ h.backedUp, h.saved, fun record hrecord => ?_, fun hnot => ?_, h.holds, h.broken,
    h.ordered.note happening fun hsame => absurd hsame hrestored⟩
  · rw [hmem]
    exact h.marker record hrecord
  · rw [hmem] at hnot
    exact h.unrestored hnot

/-- Another container, which does not run if it is one that a rollback created. -/
theorem withContainer (h : site.Kept backup) (container : Option (Container Image))
    (hrole : .started .restored ∉ site.ledger.history →
      ∀ other, container = some other → other.running = true → other.role ≠ .restored)
    (hbroken : site.ledger.artifacts = true → container = none) : (site.withContainer container).Kept backup where
  backedUp := h.backedUp
  saved := h.saved
  marker := h.marker
  unrestored hnot := ⟨(h.unrestored hnot).1, hrole hnot⟩
  holds := h.holds
  broken hartifacts := ⟨hbroken hartifacts, (h.broken hartifacts).2⟩
  ordered := h.ordered

/-- A container is started; a restored one only if the marker tells. -/
theorem start (h : site.Kept backup) (hsound : site.ledger.artifacts = false) (image : Image) (role : Role)
    (hmarker : role = .restored → ∀ record, site.host.pending = some record → record.rollbackDatabaseRestored = true) :
    (site.start image role).Kept backup := by
  have hmem : .started .restored ∈ (site.start image role).ledger.history ↔
      .started .restored ∈ site.ledger.history ∨ role = .restored := by
    show .started .restored ∈ site.ledger.history ++ [.started role] ↔ _
    rw [List.mem_append, List.mem_singleton, Happening.started.injEq, eq_comm (a := Role.restored)]
  refine ⟨List.mem_append_left _ h.backedUp, h.saved, fun record hrecord => ⟨(h.marker record hrecord).1, fun hin => ?_⟩,
    fun hnot => ?_, h.holds, fun hartifacts => ?_, h.ordered.note _ fun hsame => (by cases hsame)⟩
  · rcases hmem.mp hin with hin | hrole
    · exact (h.marker record hrecord).2 hin
    · exact hmarker hrole record hrecord
  · rw [hmem, not_or] at hnot
    refine ⟨(h.unrestored hnot.1).1, fun container hcontainer _ => ?_⟩
    obtain rfl := Option.some.inj hcontainer
    exact hnot.2
  · cases hsound.symm.trans hartifacts

end Site.Kept

/-- What a run has left, before the backup or after it. -/
def Site.Safe (site : Site Bytes Image) : Prop := site.Fresh ∨ ∃ backup, site.Kept backup

theorem Site.Safe.of_to (h : site.Safe) (hto : site.To host after) (hpending : host.pending = site.host.pending) : after.Safe := by
  rcases h with h | ⟨backup, h⟩
  · exact .inl (h.of_to hto hpending)
  · exact .inr ⟨backup, h.of_to hto hpending⟩

theorem Site.Kept.safe (h : site.Kept backup) : site.Safe := .inr ⟨backup, h⟩

variable [Utf8 Bytes] [DecidableEq Image] {release : Image → String}

/-- What `docker compose up` may do to the container: nothing, start one from an image, or leave one that runs only if the
old one was the same. -/
theorem Site.up_cases (site : Site Bytes Image) (role : Role) (choice : Choice Bytes) :
    (∃ image, (site.up role choice).2 = site.start image role) ∨
      ∃ container, (site.up role choice).2 = site.withContainer container ∧
        ∀ other, container = some other → other.running = true →
          ∃ old, site.host.container = some old ∧ other.role = old.role := by
  have hsame : ∃ container, site = site.withContainer container ∧ ∀ other, container = some other → other.running = true →
      ∃ old, site.host.container = some old ∧ other.role = old.role :=
    ⟨site.host.container, rfl, fun other hother _ => ⟨other, hother, rfl⟩⟩
  unfold Site.up
  cases (imageTag site.host.env).bind site.host.images with
  | none => exact .inr hsame
  | some image =>
    dsimp only
    split
    · split
      · rename_i container _ hcontainer _
        refine .inr ⟨_, rfl, fun other hother _ => ⟨container, hcontainer, ?_⟩⟩
        rw [← Option.some.inj hother]
      · exact .inl ⟨image, rfl⟩
    · exact .inl ⟨image, rfl⟩
    · exact .inl ⟨image, rfl⟩
    · exact .inr hsame
    · refine .inr ⟨_, rfl, fun other hother hruns => ?_⟩
      obtain ⟨old, -, hold⟩ := Option.map_eq_some_iff.mp hother
      rw [← hold] at hruns
      cases hruns
    · exact .inr ⟨none, rfl, fun other hother => (by cases hother)⟩
    · refine .inr ⟨_, rfl, fun other hother hruns => ?_⟩
      rw [← Option.some.inj hother] at hruns
      cases hruns
    · exact .inl ⟨image, rfl⟩

theorem Site.Kept.up (h : site.Kept backup) (hsound : site.ledger.artifacts = false)
    (hold : ∀ container, site.host.container = some container → container.role ≠ .restored) (role : Role)
    (hmarker : role = .restored → ∀ record, site.host.pending = some record → record.rollbackDatabaseRestored = true)
    (choice : Choice Bytes) :
    (site.up role choice).2.Kept backup ∧ (site.up role choice).2.ledger.artifacts = false := by
  rcases site.up_cases role choice with ⟨image, hup⟩ | ⟨container, hup, hruns⟩
  · rw [hup]
    exact ⟨h.start hsound image role hmarker, hsound⟩
  · rw [hup]
    refine ⟨h.withContainer container (fun _ other hother hrunning => ?_) fun hartifacts => ?_, hsound⟩
    · obtain ⟨old, hsame, hrole⟩ := hruns other hother hrunning
      rw [hrole]
      exact hold old hsame
    · cases hsound.symm.trans hartifacts

/-! ## Rolling back -/

/-- The previous container may be started again: there is no other, the database is whole, and the marker says so. -/
structure Site.Restartable (site : Site Bytes Image) (backup : Option (List Write)) : Prop where
  kept : site.Kept backup
  container : site.host.container = none
  sound : site.ledger.artifacts = false
  marker : ∀ record, site.host.pending = some record → record.rollbackDatabaseRestored = true

omit [Utf8 Bytes] [DecidableEq Image] in
/-- The database is put back where no restored container was started, and the app is stopped. -/
theorem Site.Kept.restore (h : site.Kept backup) (hcontainer : site.host.container = none)
    (hpending : site.host.pending = some record) (hnot : record.rollbackDatabaseRestored = false)
    (hunproved : .unproved ∈ site.ledger.history) (choice : Restore) :
    Site.Kept { site with ledger := (site.ledger.restore backup choice).2 } backup ∧
      ((site.ledger.restore backup choice).1 = true → (site.ledger.restore backup choice).2.artifacts = false) := by
  have hunrestored : .started .restored ∉ site.ledger.history := by
    intro hstarted
    cases hnot.symm.trans ((h.marker record hpending).2 hstarted)
  obtain ⟨hcommitted, hrunning⟩ := h.unrestored hunrestored
  have hmem : Happening.started .restored ∉ site.ledger.history ++ [.restored] := by
    rw [List.mem_append, List.mem_singleton]
    rintro (hin | hsame)
    · exact hunrestored hin
    · cases hsame
  have hbackup : ∀ write ∈ site.ledger.committed, write.Lasting → write ∈ backup.getD [] := by
    rintro write hwrite (hrole | ⟨-, hsince⟩)
    · exact absurd hrole (hcommitted write hwrite)
    · exact h.saved write hwrite hsince
  -- whatever has become of the database
  have hkept : ∀ database artifacts, (artifacts = false → ∀ write ∈ site.ledger.committed, write.Lasting → write ∈ database.getD []) →
      Site.Kept ⟨site.host, { site.ledger.note .restored with database, artifacts }⟩ backup := by
    intro database artifacts hholds
    refine ⟨List.mem_append_left _ h.backedUp, h.saved, fun other hother => ⟨(h.marker other hother).1, fun hin => absurd hin hmem⟩,
      fun _ => ⟨hcommitted, hrunning⟩, hholds, fun _ => ⟨hcontainer, record, hpending, hnot⟩, ?_⟩
    exact h.ordered.note .restored fun _ => ⟨hunproved, hunrestored⟩
  unfold Ledger.restore
  dsimp only
  cases hartifacts : site.ledger.artifacts with
  | true =>
    have hsame := hkept site.ledger.database site.ledger.artifacts fun hsound => (by cases hartifacts.symm.trans hsound)
    have hnoted : (site.ledger.note .restored).artifacts = true := hartifacts
    rw [if_pos hnoted]
    exact ⟨hsame, fun h => (by cases h)⟩
  | false =>
    have hnoted : ¬(site.ledger.note .restored).artifacts = true := by
      show ¬site.ledger.artifacts = true
      rw [hartifacts]
      decide
    rw [if_neg hnoted]
    cases choice with
    | restored =>
      have hsame := hkept backup site.ledger.artifacts fun _ => hbackup
      exact ⟨hsame, fun _ => hartifacts⟩
    | refused =>
      have hsame := hkept site.ledger.database site.ledger.artifacts h.holds
      exact ⟨hsame, fun h => (by cases h)⟩
    | installed =>
      have hsame := hkept backup site.ledger.artifacts fun _ => hbackup
      exact ⟨hsame, fun h => (by cases h)⟩
    | broken database =>
      have hsame := hkept database true fun hsound => (by cases hsound)
      exact ⟨hsame, fun h => (by cases h)⟩

theorem rollbackDatabase_restartable (preflight : ProductionPreflight Bytes) (h : site.Kept preflight.databaseBackup)
    (hcontainer : site.host.container = none) (hpending : site.host.pending = some record)
    (hnot : record.rollbackDatabaseRestored = false) (hunproved : .unproved ∈ site.ledger.history) :
    Holds (perform release) Site.Safe (rollbackDatabase preflight)
      (fun restored after => after.Kept preflight.databaseBackup ∧
        (restored = true → after.Restartable preflight.databaseBackup))
      (fun _ after => after.Kept preflight.databaseBackup) site := by
  refine holds_bind (holds_restoreDatabase h.safe fun choice middle hmiddle => ?_)
  have hmiddleKept := h.of_to hmiddle rfl
  have hnone : middle.host.container = none := by rw [hmiddle.host_eq]; exact hcontainer
  have hmarked : middle.host.pending = some record := by rw [hmiddle.host_eq]; exact hpending
  have hgave : .unproved ∈ middle.ledger.history := by rw [hmiddle.history_eq]; exact hunproved
  obtain ⟨hkept, hsound⟩ := hmiddleKept.restore hnone hmarked hnot hgave choice
  have hhost : ({ middle with ledger := (middle.ledger.restore preflight.databaseBackup choice).2 } :
      Site Bytes Image).host = middle.host := rfl
  generalize hlater : ({ middle with ledger := (middle.ledger.restore preflight.databaseBackup choice).2 } : Site Bytes Image) = later
    at hkept hhost
  have hledger : later.ledger = (middle.ledger.restore preflight.databaseBackup choice).2 := by rw [← hlater]
  rw [← hledger] at hsound
  refine holds_ite (fun hrestored => ?_) fun _ => ⟨hkept, fun h => (by cases h)⟩
  refine holds_bind (holds_preflightReleaseVersion (fun version => ?_) fun _ => hkept)
  have hafter : ∀ {found last}, later.host.pending = some found →
      later.To { later.host with pending := some { found with rollbackDatabaseRestored := true } } last →
        last.Restartable preflight.databaseBackup := by
    intro found last hfound hlast
    have hflag : ∀ other, last.host.pending = some other → other.rollbackDatabaseRestored = true := by
      intro other hother
      rw [hlast.host_eq] at hother
      rw [← Option.some.inj hother]
    refine ⟨hkept.remark hlast (fun other hother => ?_) fun hartifacts => ?_, ?_, ?_, hflag⟩
    · obtain rfl := Option.some.inj hother
      exact ⟨(hkept.marker found hfound).1, fun _ => rfl⟩
    · cases (hsound hrestored).symm.trans hartifacts
    · rw [hlast.host_eq]
      exact (congrArg Host.container hhost).trans hnone
    · rw [hlast.artifacts_eq]
      exact hsound hrestored
  refine holds_bind (holds_markPendingRollbackDatabaseRestored (fun last hlast => (hkept.of_to hlast rfl).safe) ?_ ?_)
  · intro found last hfound hlast
    exact ⟨(hafter hfound hlast).kept, fun _ => hafter hfound hlast⟩
  · rintro error last (hlast | ⟨found, hfound, hlast⟩)
    · exact hkept.of_to hlast rfl
    · exact (hafter hfound hlast).kept

theorem rollbackContainer_restartable (h : site.Kept backup) (hpending : site.host.pending = some record)
    (hunproved : .unproved ∈ site.ledger.history) (version : String) :
    Holds (perform release) Site.Safe (rollbackContainer (record.preflight version))
      (fun ready after => after.Kept backup ∧ (ready = true → after.Restartable backup)) (fun _ after => after.Kept backup) site := by
  refine holds_bind (holds_stop h.safe ?_ fun after hafter => ⟨h.of_to hafter rfl, fun hready => (by cases hready)⟩)
  intro stopped middle hmiddle
  have hstopped : (middle.withContainer (site.host.container.map fun container => { container with running := false })).Kept
      backup := by
    refine (h.of_to hmiddle rfl).withContainer _ (fun _ other hother hruns => ?_) fun hartifacts => ?_
    · obtain ⟨old, -, hold⟩ := Option.map_eq_some_iff.mp hother
      rw [← hold] at hruns
      cases hruns
    · rw [hmiddle.artifacts_eq] at hartifacts
      rw [(h.broken hartifacts).1]
      rfl
  have hmarked : (middle.withContainer (site.host.container.map fun container => { container with running := false })).host.pending
      = some record := by
    show middle.host.pending = _
    rw [hmiddle.host_eq]
    exact hpending
  have hgave : .unproved ∈
      (middle.withContainer (site.host.container.map fun container => { container with running := false })).ledger.history := by
    show .unproved ∈ middle.ledger.history
    rw [hmiddle.history_eq]
    exact hunproved
  generalize middle.withContainer _ = after at hstopped hmarked hgave
  refine holds_ite (fun _ => ?_) fun _ => ⟨hstopped, fun hready => (by cases hready)⟩
  refine holds_bind (holds_rm hstopped.safe ?_ fun later hlater => ⟨hstopped.of_to hlater rfl, fun hready => (by cases hready)⟩)
  intro removed later hlater
  have hremoved : (later.withContainer none).Kept backup :=
    (hstopped.of_to hlater rfl).withContainer none (fun _ other hother => (by cases hother)) fun _ => rfl
  have hpendingLater : (later.withContainer none).host.pending = some record := by
    show later.host.pending = _
    rw [hlater.host_eq]
    exact hmarked
  have hgaveLater : .unproved ∈ (later.withContainer none).ledger.history := by
    show .unproved ∈ later.ledger.history
    rw [hlater.history_eq]
    exact hgave
  have hcontainer : (later.withContainer none).host.container = none := rfl
  generalize later.withContainer none = last at hremoved hpendingLater hgaveLater hcontainer
  refine holds_ite (fun _ => ?_) fun _ => ⟨hremoved, fun hready => (by cases hready)⟩
  obtain ⟨hbackup, -⟩ := hremoved.marker record hpendingLater
  refine holds_ite (fun hrestored => ?_) fun hnot => ?_
  · -- an earlier rollback has put the database back
    refine ⟨hremoved, fun _ => ⟨hremoved, hcontainer, ?_, fun other hother => ?_⟩⟩
    · cases hartifacts : last.ledger.artifacts with
      | false => rfl
      | true =>
        obtain ⟨-, other, hother, hfalse⟩ := hremoved.broken hartifacts
        obtain rfl := Option.some.inj (hpendingLater.symm.trans hother)
        cases (show record.rollbackDatabaseRestored = true from hrestored).symm.trans hfalse
    · obtain rfl := Option.some.inj (hpendingLater.symm.trans hother)
      exact hrestored
  · have hfalse : record.rollbackDatabaseRestored = false := Bool.eq_false_iff.mpr hnot
    rw [← hbackup] at hremoved ⊢
    exact rollbackDatabase_restartable (record.preflight version) hremoved hcontainer hpendingLater hfalse hgaveLater

/-- The database is whole when a rollback returns. -/
def Site.Whole (site : Site Bytes Image) (backup : Option (List Write)) : Prop :=
  site.Kept backup ∧ site.ledger.artifacts = false

theorem rollbackRuntime_whole (h : site.Kept backup) (hpending : site.host.pending = some record)
    (hunproved : .unproved ∈ site.ledger.history) (version : String) :
    Holds (perform release) Site.Safe (rollbackRuntime (record.preflight version)) (fun _ after => after.Whole backup)
      (fun _ after => after.Kept backup) site := by
  rw [rollbackRuntime_eq]
  have hrestoring : ∀ after, site.Restoring (record.preflight version).previousEnv after → after.Kept backup := by
    rintro after ⟨env, files, -, -, hto⟩
    exact h.of_to hto rfl
  refine holds_restoreFiles (fun after hafter => (hrestoring after hafter).safe) ?_ hrestoring hrestoring
  intro after hafter
  have hkept := hrestoring after hafter.restoring
  obtain ⟨files, -, -, -, hto⟩ := hafter
  have hmarked : after.host.pending = some record := by rw [hto.host_eq]; exact hpending
  have hgave : .unproved ∈ after.ledger.history := by rw [hto.history_eq]; exact hunproved
  refine holds_bind ((rollbackContainer_restartable hkept hmarked hgave version).mono ?_ fun _ _ hraise => hraise)
  rintro ready later ⟨hlater, hready⟩
  cases ready with
  | false => exact hlater
  | true =>
    refine holds_bind (holds_up hlater.safe fun choice middle hmiddle => ?_)
    have hrestartable := hready rfl
    obtain ⟨hup, hsound⟩ := (hlater.of_to hmiddle rfl).up (by rw [hmiddle.artifacts_eq]; exact hrestartable.sound)
      (fun container hcontainer => by
        rw [hmiddle.host_eq, hrestartable.container] at hcontainer
        cases hcontainer) .restored
      (fun _ found hfound => by
        rw [hmiddle.host_eq] at hfound
        exact hrestartable.marker found hfound) choice
    generalize middle.up .restored choice = outcome at hup hsound
    obtain ⟨started, last⟩ := outcome
    cases started with
    | false => exact hup
    | true =>
      refine holds_bind (holds_waitForReadiness readinessAttempts (fun final hfinal => (hup.of_to hfinal rfl).safe)
        fun runtime final hfinal => ?_)
      have hfinalKept := hup.of_to hfinal rfl
      exact holds_ite (fun _ => ⟨hfinalKept, hfinal.artifacts_eq.trans hsound⟩) fun _ => hfinalKept

theorem restorePreRuntimeState_whole (h : site.Kept backup) (preflight : ProductionPreflight Bytes) :
    Holds (perform release) Site.Safe (restorePreRuntimeState preflight) (fun _ after => after.Whole backup)
      (fun _ after => after.Kept backup) site := by
  have hrestoring : ∀ after, site.Restoring preflight.previousEnv after → after.Kept backup := by
    rintro after ⟨env, files, -, -, hto⟩
    exact h.of_to hto rfl
  refine holds_restorePreRuntimeState (fun after hafter => (hrestoring after hafter).safe) ?_ fun _ => hrestoring
  rintro after hafter ⟨image, role, -, hcontainer⟩
  refine ⟨hrestoring after hafter.restoring, ?_⟩
  obtain ⟨files, -, -, -, hto⟩ := hafter
  rw [hto.artifacts_eq]
  cases hartifacts : site.ledger.artifacts with
  | false => rfl
  | true => cases hcontainer.symm.trans (h.broken hartifacts).1

theorem rollbackRecordedRelease_whole (h : site.Kept backup) (hpending : site.host.pending = some record) (version : String) :
    Holds (perform release) Site.Safe (rollbackRecordedRelease (record.preflight version)) (fun _ after => after.Whole backup)
      (fun _ after => after.Kept backup) site := by
  refine holds_ite (fun _ => restorePreRuntimeState_whole h _) fun _ => ?_
  refine holds_bind (holds_runningProductionReleaseMatches (fun after hafter => (h.of_to hafter rfl).safe) ?_ ?_)
  · intro after hafter _
    exact restorePreRuntimeState_whole (h.of_to hafter rfl) _
  · intro after hafter
    have hkept := h.of_to hafter rfl
    refine holds_bind (holds_noteUnproved hkept.safe fun middle hmiddle => ?_)
    have hnoted := (hkept.of_to hmiddle rfl).note .unproved (by decide) (by decide)
    have hmarked : (middle.note .unproved).host.pending = some record := by
      show middle.host.pending = _
      rw [hmiddle.host_eq, hafter.host_eq]
      exact hpending
    exact rollbackRuntime_whole hnoted hmarked (List.mem_append_right _ (List.mem_singleton_self _)) version

theorem reconcileRecorded_whole (h : site.Kept backup) (version : String) :
    Holds (perform release) Site.Safe (do
      let recorded ← loadPendingRelease version
      rollbackRecordedRelease recorded
      closePendingRelease)
      (fun _ after => after.Whole backup) (fun _ after => after.Kept backup) site := by
  refine holds_bind (holds_loadPendingRelease (fun after hafter => (h.of_to hafter rfl).safe) ?_ fun _ after hafter => h.of_to hafter rfl)
  intro record after hafter hpending _
  have hmarked : after.host.pending = some record := by rw [hafter.host_eq]; exact hpending
  refine holds_bind ((rollbackRecordedRelease_whole (h.of_to hafter rfl) hmarked version).mono ?_ fun _ _ hraise => hraise)
  rintro - later ⟨hlater, hsound⟩
  have hclosed : ∀ last, later.Closed last → last.Whole backup := by
    rintro last ⟨snapshots, hto⟩
    refine ⟨hlater.remark hto (fun record hrecord => (by cases hrecord)) fun hartifacts => ?_, ?_⟩
    · cases hsound.symm.trans hartifacts
    · rw [hto.artifacts_eq]
      exact hsound
  refine holds_closePendingRelease hlater.safe (fun last hlast => (hclosed last hlast).1.safe) hclosed ?_
  rintro error last (hlast | hlast)
  · exact hlater.of_to hlast rfl
  · exact (hclosed last hlast).1

/-- **A rollback** that returns leaves the lasting writes in the database. -/
theorem rollbackPendingRelease_holds (h : site.Safe) (version : String) :
    Holds (perform release) Site.Safe (rollbackPendingRelease version) (fun _ after => after.Safe ∧ after.ledger.Holds)
      (fun _ => Site.Safe) site := by
  refine holds_bind (holds_pendingExists h fun after hafter => ?_)
  have hsafe := h.of_to hafter rfl
  cases hpending : site.host.pending with
  | none =>
    refine ⟨hsafe, ?_⟩
    rcases hsafe with hfresh | ⟨backup, hkept⟩
    · exact fun write hwrite _ => (hfresh.committed write hwrite).2.2
    · refine hkept.holds ?_
      cases hartifacts : after.ledger.artifacts with
      | false => rfl
      | true =>
        obtain ⟨-, record, hrecord, -⟩ := hkept.broken hartifacts
        rw [hafter.host_eq, hpending] at hrecord
        cases hrecord
  | some record =>
    rcases hsafe with hfresh | ⟨backup, hkept⟩
    · have hnone := hfresh.pending
      rw [hafter.host_eq, hpending] at hnone
      cases hnone
    · refine (reconcileRecorded_whole hkept version).mono (fun _ later hlater => ?_) fun _ _ hraise => hraise.safe
      exact ⟨hlater.1.safe, hlater.1.holds hlater.2⟩

/-! ## Staging -/

/-- Nothing was started since the backup, and the container is that of before. -/
structure Site.Staged (site : Site Bytes Image) (backup : Option (List Write)) : Prop where
  kept : site.Kept backup
  sound : site.ledger.artifacts = false
  unrestored : .started .restored ∉ site.ledger.history
  container : ∀ container, site.host.container = some container → container.role = .previous

omit [Utf8 Bytes] [DecidableEq Image] in
/-- Any marker of the backup will do. -/
theorem Site.Staged.remark (h : site.Staged backup) (hto : site.To host after)
    (hmarker : ∀ record, host.pending = some record → record.databaseBackup = backup) : after.Staged backup := by
  refine ⟨h.kept.remark hto (fun record hrecord => ⟨hmarker record hrecord, fun hin => absurd hin h.unrestored⟩) fun hartifacts => ?_, ?_, ?_, ?_⟩
  · cases h.sound.symm.trans hartifacts
  · rw [hto.artifacts_eq]
    exact h.sound
  · rw [hto.history_eq]
    exact h.unrestored
  · intro container hcontainer
    rw [hto.host_eq, hto.1] at hcontainer
    exact h.container container hcontainer

omit [Utf8 Bytes] [DecidableEq Image] in
theorem Site.Staged.of_to (h : site.Staged backup) (hto : site.To host after) (hpending : host.pending = site.host.pending) :
    after.Staged backup :=
  h.remark hto fun record hrecord => (h.kept.marker record (hpending.symm.trans hrecord)).1

omit [Utf8 Bytes] [DecidableEq Image] in
/-- The backup is of a database with all writes so far. -/
theorem Site.Fresh.backedUp (h : site.Fresh) (hsound : site.ledger.artifacts = false) :
    (site.note .backedUp).Staged site.ledger.database := by
  have hhistory : (site.note .backedUp).ledger.history = [.backedUp] := by
    show site.ledger.history ++ [.backedUp] = _
    rw [h.history]
    rfl
  have hunrestored : .started .restored ∉ (site.note .backedUp).ledger.history := by
    rw [hhistory]
    decide
  refine ⟨⟨?_, fun write hwrite _ => (h.committed write hwrite).2.2, fun record hrecord => ?_, fun _ => ⟨fun write hwrite => ?_, ?_⟩,
    fun _ write hwrite _ => (h.committed write hwrite).2.2, fun hartifacts => ?_, fun earlier later hsplit => ?_⟩, hsound,
    hunrestored, h.container⟩
  · rw [hhistory]
    exact List.mem_singleton_self _
  · cases h.pending.symm.trans hrecord
  · rw [(h.committed write hwrite).1]
    decide
  · intro container hcontainer _
    rw [h.container container hcontainer]
    decide
  · cases hsound.symm.trans hartifacts
  · rw [hhistory] at hsplit
    have hmem : Happening.restored ∈ [.backedUp] := by
      rw [hsplit]
      exact List.mem_append_right _ List.mem_cons_self
    exact absurd hmem (by decide)

section Staging

variable {preflight : ProductionPreflight Bytes}

theorem switchRuntime_kept (h : site.Staged preflight.databaseBackup) (version : String) :
    Holds (perform release) Site.Safe (switchRuntime preflight version) (fun _ => Site.Safe)
      (fun _ after => after.Kept preflight.databaseBackup) site := by
  have hmark : ∀ {after}, site.To { site.host with pending := some (preflight.record version) } after →
      after.Staged preflight.databaseBackup := by
    intro after hafter
    refine h.remark hafter fun record hrecord => ?_
    rw [← Option.some.inj hrecord]
    rfl
  refine holds_bind (holds_writePendingRelease (fun after hafter => (h.of_to hafter rfl).kept.safe) ?_ ?_)
  · intro marked hmarked
    replace hmarked := hmark hmarked
    refine holds_bind (holds_prepareProductionEnvironment (fun after hafter => (hmarked.of_to hafter rfl).kept.safe) ?_
      fun _ env after hafter => (hmarked.of_to hafter rfl).kept)
    intro env prepared hprepared
    replace hprepared := hmarked.of_to hprepared rfl
    refine holds_bind (holds_requireCheck hprepared.kept.safe ?_ fun after hafter => (hprepared.of_to hafter rfl).kept)
    intro checked hchecked
    replace hchecked := hprepared.of_to hchecked rfl
    have hphase : ∀ {record after}, checked.host.pending = some record →
        checked.To { checked.host with pending := some { record with databaseMayHaveChanged := true } } after →
          after.Staged preflight.databaseBackup := by
      intro record after hrecord hafter
      refine hchecked.remark hafter fun other hother => ?_
      rw [← Option.some.inj hother]
      exact (hchecked.kept.marker record hrecord).1
    refine holds_bind (holds_markPendingDatabaseMayHaveChanged (fun after hafter => (hchecked.of_to hafter rfl).kept.safe) ?_ ?_)
    · intro record switching hrecord hswitching
      replace hswitching := hphase hrecord hswitching
      refine holds_bind (holds_require (holds_up hswitching.kept.safe fun choice middle hmiddle => ?_))
      replace hmiddle := hswitching.of_to hmiddle rfl
      obtain ⟨hup, -⟩ := hmiddle.kept.up hmiddle.sound
        (fun container hcontainer => by rw [hmiddle.container container hcontainer]; decide) .target (fun hrole => (by cases hrole)) choice
      generalize middle.up .target choice = outcome at hup
      refine ⟨fun _ => ?_, fun _ => hup⟩
      refine holds_bind (holds_waitForProductionReady (fun after hafter => (hup.of_to hafter rfl).safe) ?_
        fun _ after hafter => hup.of_to hafter rfl)
      intro ready hready
      replace hready := hup.of_to hready rfl
      exact holds_installProductionNginx (fun files after hafter => (hready.of_to hafter rfl).safe)
        (fun files after hafter => (hready.of_to hafter rfl).safe) fun _ files after hafter => hready.of_to hafter rfl
    · rintro error after (hafter | ⟨record, hrecord, hafter⟩)
      · exact (hchecked.of_to hafter rfl).kept
      · exact (hphase hrecord hafter).kept
  · rintro error after (hafter | hafter)
    · exact (h.of_to hafter rfl).kept
    · exact (hmark hafter).kept

theorem reconcile_kept (h : site.Kept backup) (preflight : ProductionPreflight Bytes) (version : String) :
    Holds (perform release) Site.Safe (reconcile preflight version) (fun _ => Site.Safe) (fun _ => Site.Safe) site := by
  refine holds_bind (holds_pendingExists h.safe fun after hafter => ?_)
  have hkept := h.of_to hafter rfl
  cases site.host.pending with
  | some record =>
    exact (reconcileRecorded_whole hkept version).mono (fun _ _ hreturn => hreturn.1.safe) fun _ _ hraise => hraise.safe
  | none =>
    refine holds_bind ((restorePreRuntimeState_whole hkept preflight).mono (fun _ later hlater => ?_) fun _ _ hraise => hraise.safe)
    have hcleaned : ∀ last, later.Cleaned last → last.Safe := by
      rintro last ⟨snapshots, hto⟩
      exact (hlater.1.of_to hto rfl).safe
    refine holds_bind (holds_cleanupSnapshotPaths snapshotFiles hcleaned fun cleaned last hlast => ?_)
    exact holds_ite (fun _ => hcleaned last hlast) fun _ => hcleaned last hlast

theorem deployProduction_safe (h : site.Staged preflight.databaseBackup) (version : String) :
    Holds (perform release) Site.Safe (deployProduction preflight version) (fun _ => Site.Safe) (fun _ => Site.Safe) site := by
  refine holds_tryCatch ((switchRuntime_kept h version).mono (fun _ _ hreturn => hreturn) fun error after hafter => ?_)
  exact holds_bind (holds_tryCatch ((reconcile_kept hafter preflight version).mono (fun _ _ hreturn => hreturn) fun _ _ hraise => hraise))

end Staging

omit [DecidableEq Image] in
/-- A preflight leaves the site before the backup or after it. -/
theorem preflighted_safe {loaded : Image} {version : String} (h : site.Fresh) (hafter : site.Preflighted version loaded after) :
    after.Safe := by
  rcases hafter with ⟨images, snapshots, -, hto⟩ | ⟨backup, middle, ⟨images, snapshots, -, hmiddle⟩, hsound, -, images', snapshots', -, hto⟩
  · exact .inl (h.of_to hto rfl)
  · exact (((h.of_to hmiddle rfl).backedUp hsound).of_to hto rfl).kept.safe

/-- **A stage** keeps the writes, wherever it ends. -/
theorem deploy_safe (release : Image → String) (archive : Archive Bytes Image) (version : String) (h : site.Fresh) :
    Holds (perform release) Site.Safe (deploy archive version) (fun _ => Site.Safe) (fun _ => Site.Safe) site := by
  have hinv : ∀ after, site.To site.host after → after.Safe := fun after hafter => .inl (h.of_to hafter rfl)
  refine holds_ite (fun _ => hinv site (.refl site)) fun _ => holds_finallyDo ?_
  have hcleanup : ∀ after : Site Bytes Image, after.Safe → Holds (perform release) Site.Safe
      (Control.require .os Control.check) (fun _ => Site.Safe) (fun _ => Site.Safe) after :=
    fun after hafter => holds_requireCheck hafter (fun later hlater => hafter.of_to hlater rfl) fun later hlater => hafter.of_to hlater rfl
  refine Holds.mono ?_ (fun _ => hcleanup) fun _ => hcleanup
  refine holds_bind (holds_ensureNoPendingRelease (hinv site (.refl site)) ?_ fun _ => hinv)
  intro checked hchecked _
  refine holds_bind (holds_requireCheck (hinv checked hchecked) ?_ fun after hafter => hinv after (hchecked.stay hafter))
  intro start hstart
  replace h := h.of_to (hchecked.stay hstart) rfl
  refine holds_bind (holds_preflightProduction (fun after hafter => preflighted_safe h hafter) ?_
    fun _ after hafter => preflighted_safe h hafter)
  rintro previousEnv previousTag backup prepared - -
    ⟨middle, ⟨images, snapshots, -, hmiddle⟩, hsound, rfl, images', snapshots', -, hto⟩ - -
  have hstaged := ((h.of_to hmiddle rfl).backedUp hsound).of_to hto rfl
  have hsourced : ∀ {after}, prepared.Sourced after → after.Staged middle.ledger.database := by
    rintro after ⟨files, -, hafter⟩
    exact hstaged.of_to hafter rfl
  refine holds_bind (holds_tryCatch (holds_replaceSource (fun after hafter => (hsourced hafter).kept.safe) ?_ ?_))
  · intro after hafter
    exact deployProduction_safe (hsourced hafter) version
  · intro error after hafter
    -- the Compose file is put back, and the snapshots go
    replace hafter := hsourced hafter
    have hcompose : ∀ later, after.To after.host later ∨ after.Replaced .compose later → later.Staged middle.ledger.database := by
      rintro later (hlater | ⟨content, -, hlater⟩)
      · exact hafter.of_to hlater rfl
      · exact hafter.of_to hlater rfl
    have htidy : ∀ (returns : Unit → Site Bytes Image → Prop) restored later, later.Staged middle.ledger.database →
        Holds (perform release) Site.Safe (do
          let snapshotsCleaned ← cleanupSnapshots
          if restored && snapshotsCleaned then throw error
          else throw (.exit "source release failed and its rollback files could not be fully reconciled"))
          returns (fun _ => Site.Safe) later := by
      intro returns restored later hlater
      have hcleaned : ∀ last, later.Cleaned last → last.Safe := by
        rintro last ⟨snapshots, hto⟩
        exact (hlater.of_to hto rfl).kept.safe
      refine holds_bind (holds_cleanupSnapshotPaths snapshotFiles hcleaned fun cleaned last hlast => ?_)
      exact holds_ite (fun _ => hcleaned last hlast) fun _ => hcleaned last hlast
    refine holds_bind (holds_restoreRuntimeFile (fun later hlater => (hcompose later hlater).kept.safe) ?_ ?_
      fun later hlater => (hcompose later hlater).kept.safe)
    · intro later hlater
      exact htidy _ true later (hcompose later (.inr hlater))
    · intro later hlater
      exact htidy _ false later (hcompose later hlater)

/-! ## Runs -/

theorem cleanupAbandoned_safe (h : site.Safe) :
    Holds (perform release) Site.Safe cleanupAbandonedRuntimeSnapshots (fun _ => Site.Safe) (fun _ => Site.Safe) site := by
  refine holds_bind (holds_pendingExists h fun after hafter => ?_)
  have hsafe := h.of_to hafter rfl
  cases site.host.pending with
  | some record =>
    refine holds_bind (holds_readPending hsafe fun found read hread _ => ?_)
    have hread := hsafe.of_to hread rfl
    cases found with
    | none => exact hread
    | some found =>
      exact holds_bind (holds_loadPendingRelease (fun later hlater => hread.of_to hlater rfl)
        (fun _ later hlater _ _ => hread.of_to hlater rfl) fun _ later hlater => hread.of_to hlater rfl)
  | none =>
    have hdrop : ∀ {middle : Site Bytes Image} {file : Managed} {returns : Unit → Site Bytes Image → Prop}, middle.Safe →
        (∀ later : Site Bytes Image, later.Safe → returns () later) → Holds (perform release) Site.Safe
          (Control.require (.exit "cannot remove abandoned rollback snapshot") (Control.dropSnapshot file)) returns
          (fun _ => Site.Safe) middle := by
      intro middle file returns hmiddle hreturn
      refine holds_require (holds_dropSnapshot hmiddle ?_ ?_)
      · intro ok later hlater
        have hlater := hmiddle.of_to hlater rfl
        exact ⟨fun _ => hreturn later hlater, fun _ => hlater⟩
      · intro later hlater
        exact ⟨fun hok => (by cases hok), fun _ => hmiddle.of_to hlater rfl⟩
    exact holds_bind (hdrop hsafe fun middle hmiddle => hdrop hmiddle fun later hlater => hlater)

theorem Invocation.run_safe (invocation : Invocation) (choices : List (Choice Bytes)) (h : site.Safe) :
    (invocation.run release choices site).2.Safe := by
  have hscript : Holds (perform release) Site.Safe invocation.script (fun _ => Site.Safe) (fun _ => Site.Safe) site := by
    cases invocation with
    | rollback version => exact (rollbackPendingRelease_holds h version).mono (fun _ _ hreturn => hreturn.1) fun _ _ hraise => hraise
    | cleanup => exact cleanupAbandoned_safe h
  have hrun := hscript.run choices
  unfold Invocation.run
  generalize Script.run (perform release) invocation.script choices site = outcome at hrun
  obtain ⟨ending, after⟩ := outcome
  cases ending <;> exact hrun

theorem afterStage_safe {archive : Archive Bytes Image} {version : String} (choices : List (Choice Bytes))
    (later : List (Invocation × List (Choice Bytes))) (h : site.Fresh) :
    (afterStage release archive version choices later site).Safe := by
  have hstage : (Script.run (perform release) (deploy archive version) choices site).2.Safe := by
    have hrun := Holds.run (deploy_safe release archive version h) choices
    generalize Script.run (perform release) (deploy archive version) choices site = outcome at hrun
    obtain ⟨ending, after⟩ := outcome
    cases ending <;> exact hrun
  unfold afterStage
  generalize (Script.run (perform release) (deploy archive version) choices site).2 = staged at hstage
  induction later generalizing staged with
  | nil => exact hstage
  | cons invocation later ih => exact ih _ (invocation.1.run_safe invocation.2 hstage)

omit [Utf8 Bytes] [DecidableEq Image] in
theorem Site.Safe.ordered (h : site.Safe) : site.ledger.Ordered := by
  rcases h with h | ⟨backup, h⟩
  · intro earlier later hsplit
    rw [h.history] at hsplit
    cases (List.append_eq_nil_iff.mp hsplit.symm).2
  · exact h.ordered

/-- **What a rollback does to the database**, after a stage that ended anywhere and any rollbacks that ended anywhere. If the
target's container was started whenever a rollback could not prove the previous release to run, then the database was put back
only where the target's container had been started since the backup. And whatever the commands and the probes did, it is never
put back again once the restored container was started, and when a rollback returns, every write of the previous release that
was not made between the backup and the stop of its container is in it. -/
theorem rollback_keeps_writes (release : Image → String) (archive : Archive Bytes Image) (version : String)
    (site : Site Bytes Image) (hfresh : site.Fresh) (choices : List (Choice Bytes))
    (later : List (Invocation × List (Choice Bytes))) :
    ((afterStage release archive version choices later site).ledger.AfterSwitch .unproved →
      (afterStage release archive version choices later site).ledger.AfterSwitch .restored) ∧
    (afterStage release archive version choices later site).ledger.NeverAgain ∧
    ∀ requested last after,
      (Invocation.rollback requested).run release last (afterStage release archive version choices later site) =
        (.returned (), after) → after.ledger.Holds := by
  have hsafe : (afterStage release archive version choices later site).Safe := afterStage_safe choices later hfresh
  generalize afterStage release archive version choices later site = found at hsafe
  refine ⟨hsafe.ordered.afterSwitch, hsafe.ordered.neverAgain, fun requested last after hreturned => ?_⟩
  have hrun := Holds.run (show Holds (perform release) _ _ _ _ _ from rollbackPendingRelease_holds hsafe requested) last
  unfold Invocation.run Invocation.script at hreturned
  rw [hreturned] at hrun
  exact hrun.2

/-! ## A probe that fails -/

section Sample

local instance keptUtf8 : Utf8 String := ⟨some, id⟩

theorem sampleSite_fresh : sampleSite.Fresh where
  pending := rfl
  history := rfl
  container container hcontainer := by
    rw [← Option.some.inj hcontainer]
  committed write hwrite := by cases hwrite

theorem extractedStage_history : extractedStage.ledger.history = [.backedUp] := by decide +kernel

/-- The rollback of a stage that had written no marker yet. -/
theorem rollback_keeps_writes_sample :
    extractedStage.ledger.AfterSwitch .restored ∧ extractedStage.ledger.NeverAgain ∧
      ((Invocation.rollback "v2").run sampleRelease [{}] extractedStage).2.ledger.Holds := by
  obtain ⟨hswitched, hnever, hholds⟩ := rollback_keeps_writes sampleRelease sampleArchive "v2" sampleSite sampleSite_fresh
    (List.replicate 15 {}) []
  refine ⟨hswitched fun earlier later hsplit => ?_, hnever, hholds "v2" [{}] _ rfl⟩
  have hmem : Happening.unproved ∈ extractedStage.ledger.history := by
    rw [show extractedStage.ledger.history = _ from hsplit]
    exact List.mem_append_right _ List.mem_cons_self
  rw [extractedStage_history] at hmem
  exact absurd hmem (by decide)

/-- The environment has all that a release asks for. -/
def configuredSite : Site String Nat :=
  { sampleSite with
    host :=
      { sampleSite.host with
        env := some ("P2P_IMAGE_TAG=v1\nP2P_TURN_URLS=t\nP2P_TURN_SECRET=0123456789abcdef\n" ++
          "P2P_CAPABILITY_SECRET=0123456789abcdef0123456789abcdef\nP2P_OFFSITE_BACKUP_REMOTE=r\n" ++
          "P2P_OFFSITE_BACKUP_AGE_RECIPIENT=a\nP2P_OFFSITE_BACKUP_AGE_IDENTITY=i") } }

theorem configuredSite_fresh : configuredSite.Fresh :=
  ⟨rfl, rfl, sampleSite_fresh.container, sampleSite_fresh.committed⟩

/-- So many commands succeed. -/
def smooth (number : Nat) : List (Choice String) := List.replicate number {}

/-- The stage crashes before `docker compose up`, and the single probe of the rollback fails. -/
theorem failedProbe_history :
    (afterStage sampleRelease sampleArchive "v2" (smooth 30) [(.rollback "v2", smooth 5 ++ { ok := false } :: smooth 13)]
      configuredSite).ledger.history = [.backedUp, .unproved] ++ .restored :: [] := by
  decide +kernel

/-- The database is put back, and the target's container was never started. -/
theorem restored_without_target :
    ¬∀ (release : Nat → String) (archive : Archive String Nat) (version : String) (site : Site String Nat), site.Fresh →
      ∀ (choices : List (Choice String)) (later : List (Invocation × List (Choice String))),
        (afterStage release archive version choices later site).ledger.AfterSwitch .restored := by
  intro h
  have hswitched : [Happening.backedUp, .started .target].Sublist [.backedUp, .unproved] :=
    h sampleRelease sampleArchive "v2" configuredSite configuredSite_fresh (smooth 30)
      [(.rollback "v2", smooth 5 ++ { ok := false } :: smooth 13)] [.backedUp, .unproved] [] failedProbe_history
  exact absurd hswitched (by decide)

end Sample

end P2PTransmission.Deploy
