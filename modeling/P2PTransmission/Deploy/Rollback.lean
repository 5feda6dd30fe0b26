import P2PTransmission.Deploy.Rules

/-!
# Rollbacks restore the release

A stage may crash or fail at any command, and so may every rollback after it. What each of them leaves is `Recoverable`: the
next rollback finds what it needs to put the release back that ran before the stage. A rollback that returns has put it back
(`rollback_restores_iff`), unless the stage ended after it had replaced the source files and before it wrote the marker: then
the rollback finds no marker and has nothing to do (`crashed_stage_not_rolled_back`).
-/

set_option autoImplicit false

namespace P2PTransmission.Deploy

open Script (Holds holds_bind holds_ite holds_tryCatch)

variable {Bytes Image A : Type} [Utf8 Bytes] [DecidableEq Image]

/-! ## Runs -/

/-- What may run after the stage. -/
inductive Invocation
  | rollback (version : String)
  /-- `cleanup_abandoned_runtime_snapshots`. -/
  | cleanup
  deriving DecidableEq, Repr

def Invocation.script : Invocation → Control Bytes Image Unit
  | .rollback version => rollbackPendingRelease version
  | .cleanup => cleanupAbandonedRuntimeSnapshots

def Invocation.run (release : Image → String) (invocation : Invocation) (choices : List (Choice Bytes))
    (site : Site Bytes Image) : Ending Error Unit × Site Bytes Image :=
  Script.run (perform release) invocation.script choices site

/-- The site after a stage and what ran after it, each under the choices of the host; choices that come to an end are a
crash. -/
def afterStage (release : Image → String) (archive : Archive Bytes Image) (version : String) (choices : List (Choice Bytes))
    (later : List (Invocation × List (Choice Bytes))) (site : Site Bytes Image) : Site Bytes Image :=
  later.foldl (fun site invocation => (invocation.1.run release invocation.2 site).2)
    (Script.run (perform release) (deploy archive version) choices site).2

/-! ## The release before the stage -/

/-- The app runs from the image. -/
def Host.Serves (host : Host Bytes Image) (image : Image) : Prop := ∃ role, host.container = some ⟨image, true, role⟩

/-- No release is pending, and the app runs from the image that the environment's tag names. -/
structure Host.Settled (host : Host Bytes Image) (image : Image) : Prop where
  pending : host.pending = none
  serves : host.Serves image
  tagged : ∀ tag, imageTag host.env = some tag → host.images tag = some image

/-- The release is that of before. -/
structure Host.RestoredTo (host before : Host Bytes Image) (image : Image) : Prop where
  env : host.env = before.env
  compose : host.files .compose = before.files .compose
  nginx : host.files .nginx = before.files .nginx
  serves : host.Serves image

/-- What a rollback needs to put the release back. -/
structure Host.Recoverable (host before : Host Bytes Image) (image : Image) : Prop where
  images : ∀ tag, imageTag before.env = some tag → host.images tag = some image
  /-- Without a marker only source files may be other ones. -/
  untouched : host.pending = none → host.env = before.env ∧ host.files .nginx = before.files .nginx ∧ host.Serves image
  /-- A marker tells what was there, and so do the snapshots. -/
  marked : ∀ record, host.pending = some record →
    before.env = some record.previousEnvironment ∧ imageTag before.env = some record.previousTag ∧
      host.snapshots .compose = before.files .compose ∧ host.snapshots .nginx = before.files .nginx ∧
        (record.databaseMayHaveChanged = false → host.Serves image)

/-- A marker is there, and it says that the runtime may have been switched. -/
def Host.Switching (host : Host Bytes Image) : Prop :=
  ∃ record, host.pending = some record ∧ record.databaseMayHaveChanged = true

variable {release : Image → String} {site : Site Bytes Image} {before host : Host Bytes Image} {image : Image}
  {record : Pending Bytes}

namespace Host.Recoverable

omit [DecidableEq Image]

theorem of_settled (h : host.Settled image) : host.Recoverable host image where
  images := h.tagged
  untouched _ := ⟨rfl, rfl, h.serves⟩
  marked record hrecord := by
    rw [h.pending] at hrecord
    cases hrecord

/-- With a marker the environment and the files do not matter. -/
theorem change (h : host.Recoverable before image) (hpending : host.pending = some record) (env : Option Bytes)
    (files : Managed → Option Bytes) : { host with env, files }.Recoverable before image where
  images := h.images
  untouched hnone := by cases hpending.symm.trans hnone
  marked := h.marked

/-- In the switch phase the container does not matter either. -/
theorem switch (h : host.Recoverable before image) (hswitching : host.Switching) (container : Option (Container Image)) :
    { host with container }.Recoverable before image where
  images := h.images
  untouched hnone := by
    obtain ⟨record, hpending, -⟩ := hswitching
    cases hpending.symm.trans hnone
  marked record hrecord := by
    obtain ⟨other, hpending, hchanged⟩ := hswitching
    obtain rfl : other = record := Option.some.inj (hpending.symm.trans hrecord)
    obtain ⟨henv, htag, hcompose, hnginx, -⟩ := h.marked other hpending
    refine ⟨henv, htag, hcompose, hnginx, fun hnot => ?_⟩
    rw [hchanged] at hnot
    cases hnot

/-- The marker may come to say more about the phase. -/
theorem advance (h : host.Recoverable before image) (hpending : host.pending = some record) {next : Pending Bytes}
    (henv : next.previousEnvironment = record.previousEnvironment) (htag : next.previousTag = record.previousTag)
    (hphase : next.databaseMayHaveChanged = false → record.databaseMayHaveChanged = false) :
    { host with pending := some next }.Recoverable before image where
  images := h.images
  untouched hnone := by cases hnone
  marked other hother := by
    obtain rfl : next = other := Option.some.inj hother
    obtain ⟨hbefore, hprevious, hcompose, hnginx, hserves⟩ := h.marked record hpending
    rw [henv, htag]
    exact ⟨hbefore, hprevious, hcompose, hnginx, fun hnot => hserves (hphase hnot)⟩

/-- Where the release is restored the marker may go, and the snapshots with it. -/
theorem close (h : host.Recoverable before image) (hrestored : host.RestoredTo before image) (snapshots : Managed → Option Bytes) :
    { host with pending := none, snapshots }.Recoverable before image where
  images := h.images
  untouched _ := ⟨hrestored.env, hrestored.nginx, hrestored.serves⟩
  marked record hrecord := by cases hrecord

/-- Without a marker the snapshots do not matter, nor does the Compose file. -/
theorem tidy (h : host.Recoverable before image) (hpending : host.pending = none) (files snapshots : Managed → Option Bytes)
    (hnginx : files .nginx = host.files .nginx) : { host with files, snapshots }.Recoverable before image where
  images := h.images
  untouched hnone := by
    obtain ⟨henv, hsame, hserves⟩ := h.untouched hnone
    exact ⟨henv, hnginx.trans hsame, hserves⟩
  marked record hrecord := by cases hpending.symm.trans hrecord

end Host.Recoverable

/-- The assertion of all the rules below. -/
def Recovers (before : Host Bytes Image) (image : Image) (site : Site Bytes Image) : Prop :=
  site.host.Recoverable before image

omit [DecidableEq Image] in
theorem Recovers.of_to {after : Site Bytes Image} (h : host.Recoverable before image) (hto : site.To host after) :
    Recovers before image after := by
  unfold Recovers
  rw [hto.host_eq]
  exact h

/-! ## Rolling back -/

section Rolling

variable (h : site.host.Recoverable before image) (hpending : site.host.pending = some record)

include h hpending

omit [DecidableEq Image] in
theorem recovers_restoring {previous : Bytes} {after : Site Bytes Image} (hafter : site.Restoring previous after) :
    Recovers before image after := by
  obtain ⟨env, files, -, -, hto⟩ := hafter
  exact .of_to (h.change hpending env files) hto

omit [DecidableEq Image] in
/-- The files are those of before. -/
theorem restored_files {after : Site Bytes Image} (hafter : site.Restored record.previousEnvironment after) :
    ∃ files, files .compose = before.files .compose ∧ files .nginx = before.files .nginx ∧
      site.To { site.host with env := before.env, files } after := by
  obtain ⟨files, hcompose, hnginx, -, hto⟩ := hafter
  obtain ⟨henv, -, hcomposeSaved, hnginxSaved, -⟩ := h.marked record hpending
  rw [← henv] at hto
  exact ⟨files, hcompose.trans hcomposeSaved, hnginx.trans hnginxSaved, hto⟩

theorem restorePreRuntimeState_restores (version : String) :
    Holds (perform release) (Recovers before image) (restorePreRuntimeState (record.preflight version))
      (fun _ after => Recovers before image after ∧ after.host.RestoredTo before image) (fun _ => Recovers before image) site := by
  refine holds_restorePreRuntimeState (fun after hafter => recovers_restoring h hpending hafter) ?_
    fun _ after hafter => recovers_restoring h hpending hafter
  rintro after hafter ⟨running, role, hrunning, hcontainer⟩
  obtain ⟨files, hcompose, hnginx, hto⟩ := restored_files h hpending hafter
  refine ⟨recovers_restoring h hpending hafter.restoring, ?_⟩
  rw [hto.host_eq]
  obtain ⟨-, htag, -, -, -⟩ := h.marked record hpending
  obtain rfl : image = running := Option.some.inj ((h.images _ htag).symm.trans hrunning)
  exact ⟨rfl, hcompose, hnginx, role, hcontainer⟩

end Rolling

/-- In the switch phase, with all files put back. -/
structure Host.Restarting (host before : Host Bytes Image) (image : Image) : Prop where
  recoverable : host.Recoverable before image
  switching : host.Switching
  env : host.env = before.env
  compose : host.files .compose = before.files .compose
  nginx : host.files .nginx = before.files .nginx

omit [DecidableEq Image] in
theorem Host.Restarting.withContainer (h : host.Restarting before image) (container : Option (Container Image)) :
    { host with container }.Restarting before image :=
  ⟨h.recoverable.switch h.switching container, h.switching, h.env, h.compose, h.nginx⟩

theorem holds_preflightReleaseVersion {inv : Site Bytes Image → Prop} {returns : String → Site Bytes Image → Prop}
    {raises : Error → Site Bytes Image → Prop} {preflight : ProductionPreflight Bytes}
    (hreturn : ∀ version, returns version site) (hraise : ∀ error, raises error site) :
    Holds (perform release) inv (preflightReleaseVersion preflight) returns raises site :=
  holds_ite (fun _ => holds_ite (fun _ => hreturn _) fun _ => hraise _) fun _ => hraise _

theorem rollbackDatabase_restarting {preflight : ProductionPreflight Bytes} (h : site.host.Restarting before image) :
    Holds (perform release) (Recovers before image) (rollbackDatabase preflight)
      (fun _ after => after.host.Restarting before image) (fun _ => Recovers before image) site := by
  refine holds_bind (holds_restoreDatabase h.recoverable fun choice middle hmiddle => ?_)
  have hafter : ({ middle with ledger := (middle.ledger.restore preflight.databaseBackup choice).2 } :
      Site Bytes Image).host.Restarting before image := by
    rw [← hmiddle.host_eq] at h
    exact h
  generalize ({ middle with ledger := (middle.ledger.restore preflight.databaseBackup choice).2 } : Site Bytes Image) = after
    at hafter
  refine holds_ite (fun _ => ?_) fun _ => hafter
  refine holds_bind (holds_preflightReleaseVersion (fun version => ?_) fun _ => hafter.recoverable)
  have hmarked : ∀ {record later}, after.host.pending = some record →
      after.To { after.host with pending := some { record with rollbackDatabaseRestored := true } } later →
        later.host.Restarting before image := by
    intro record later hpending hlater
    rw [hlater.host_eq]
    refine ⟨hafter.recoverable.advance hpending rfl rfl id, ?_, hafter.env, hafter.compose, hafter.nginx⟩
    obtain ⟨other, hother, hchanged⟩ := hafter.switching
    obtain rfl : other = record := Option.some.inj (hother.symm.trans hpending)
    exact ⟨_, rfl, hchanged⟩
  refine holds_bind (holds_markPendingRollbackDatabaseRestored (fun later hlater => .of_to hafter.recoverable hlater) ?_ ?_)
  · intro record later hpending hlater
    exact hmarked hpending hlater
  · rintro error later (hlater | ⟨record, hpending, hlater⟩)
    · exact .of_to hafter.recoverable hlater
    · exact (hmarked hpending hlater).recoverable

theorem rollbackContainer_restarting {preflight : ProductionPreflight Bytes} (h : site.host.Restarting before image) :
    Holds (perform release) (Recovers before image) (rollbackContainer preflight)
      (fun _ after => after.host.Restarting before image) (fun _ => Recovers before image) site := by
  have hwith : ∀ container middle, site.To site.host middle → (middle.withContainer container).host.Restarting before image := by
    intro container middle hmiddle
    rw [← hmiddle.host_eq] at h
    exact h.withContainer container
  refine holds_bind (holds_stop h.recoverable ?_ fun after hafter => ?_)
  · intro stopped middle hmiddle
    have hstopped := hwith (site.host.container.map fun container => { container with running := false }) middle hmiddle
    generalize middle.withContainer _ = after at hstopped
    refine holds_ite (fun _ => ?_) fun _ => hstopped
    refine holds_bind (holds_rm hstopped.recoverable ?_ fun later hlater => ?_)
    · intro removed later hlater
      have hremoved : (later.withContainer none).host.Restarting before image := by
        rw [← hlater.host_eq] at hstopped
        exact hstopped.withContainer none
      exact holds_ite (fun _ => holds_ite (fun _ => hremoved) fun _ => rollbackDatabase_restarting hremoved) fun _ => hremoved
    · show later.host.Restarting before image
      rw [hlater.host_eq]
      exact hstopped
  · show after.host.Restarting before image
    rw [hafter.host_eq]
    exact h

theorem rollbackRuntime_restores (h : site.host.Recoverable before image) (hpending : site.host.pending = some record)
    (hchanged : record.databaseMayHaveChanged = true) (version : String) :
    Holds (perform release) (Recovers before image) (rollbackRuntime (record.preflight version))
      (fun _ after => Recovers before image after ∧ after.host.RestoredTo before image) (fun _ => Recovers before image) site := by
  rw [rollbackRuntime_eq]
  refine holds_restoreFiles (fun after hafter => recovers_restoring h hpending hafter) ?_
    (fun after hafter => recovers_restoring h hpending hafter) fun after hafter => recovers_restoring h hpending hafter
  intro after hafter
  have hstart : after.host.Restarting before image := by
    obtain ⟨files, hcompose, hnginx, hto⟩ := restored_files h hpending hafter
    rw [hto.host_eq]
    exact ⟨h.change hpending _ _, ⟨record, hpending, hchanged⟩, rfl, hcompose, hnginx⟩
  refine holds_bind ((rollbackContainer_restarting hstart).mono (fun prerequisites ready hready => ?_) fun _ _ hraise => hraise)
  cases prerequisites with
  | false => exact hready.recoverable
  | true =>
    refine holds_bind (holds_up hready.recoverable fun choice middle hmiddle => ?_)
    rw [← hmiddle.host_eq] at hready
    obtain ⟨⟨container, hcontainer⟩, hup⟩ := middle.up_host .restored choice
    have hstarted : (middle.up .restored choice).2.host.Restarting before image := by
      rw [hcontainer]
      exact hready.withContainer container
    generalize middle.up .restored choice = outcome at hstarted hup
    obtain ⟨started, last⟩ := outcome
    cases started with
    | false => exact hstarted.recoverable
    | true =>
      obtain ⟨running, role, himage, hserves⟩ := hup rfl
      refine holds_bind (holds_waitForReadiness readinessAttempts (fun later hlater => .of_to hstarted.recoverable hlater)
        fun runtime later hlater => ?_)
      have hlast := Recovers.of_to hstarted.recoverable hlater
      refine holds_ite (fun _ => ⟨hlast, ?_⟩) fun _ => hlast
      -- the image that was started is that of the tag in the environment of before
      have hsame : image = running := by
        rw [hready.env] at himage
        obtain ⟨tag, htag, himage⟩ := Option.bind_eq_some_iff.mp himage
        exact Option.some.inj ((hready.recoverable.images tag htag).symm.trans himage)
      rw [hlater.host_eq, hsame]
      exact ⟨hstarted.env, hstarted.compose, hstarted.nginx, role, hserves⟩

theorem rollbackRecordedRelease_restores (h : site.host.Recoverable before image) (hpending : site.host.pending = some record)
    (version : String) :
    Holds (perform release) (Recovers before image) (rollbackRecordedRelease (record.preflight version))
      (fun _ after => Recovers before image after ∧ after.host.RestoredTo before image) (fun _ => Recovers before image) site := by
  refine holds_ite (fun _ => restorePreRuntimeState_restores h hpending version) fun hnot => ?_
  have hchanged : record.databaseMayHaveChanged = true := by
    cases hphase : record.databaseMayHaveChanged with
    | true => rfl
    | false => exact absurd (show (!record.databaseMayHaveChanged) = true by rw [hphase]; rfl) hnot
  have hsame : ∀ after, site.To site.host after →
      after.host.Recoverable before image ∧ after.host.pending = some record := by
    intro after hafter
    rw [hafter.host_eq]
    exact ⟨h, hpending⟩
  refine holds_bind (holds_runningProductionReleaseMatches (fun after hafter => (hsame after hafter).1) ?_ ?_)
  · intro after hafter _
    exact restorePreRuntimeState_restores (hsame after hafter).1 (hsame after hafter).2 version
  · intro after hafter
    refine holds_bind (holds_noteUnproved (hsame after hafter).1 fun middle hmiddle => ?_)
    obtain ⟨hrecoverable, hmarked⟩ := hsame middle (hafter.stay hmiddle)
    have hnoted : (middle.note .unproved).host.Recoverable before image := hrecoverable
    exact rollbackRuntime_restores hnoted hmarked hchanged version

/-- What the marker says is rolled back, and then the marker is removed. -/
theorem reconcileRecorded_restores (h : site.host.Recoverable before image) (version : String) :
    Holds (perform release) (Recovers before image) (do
      let recorded ← loadPendingRelease version
      rollbackRecordedRelease recorded
      closePendingRelease)
      (fun _ after => Recovers before image after ∧ after.host.RestoredTo before image) (fun _ => Recovers before image) site := by
  refine holds_bind (holds_loadPendingRelease (fun after hafter => .of_to h hafter) ?_ fun _ after hafter => .of_to h hafter)
  intro record after hafter hpending _
  rw [← hafter.host_eq] at h hpending
  refine holds_bind ((rollbackRecordedRelease_restores h hpending version).mono ?_ fun _ _ hraise => hraise)
  rintro - later ⟨hlater, hrestored⟩
  have hclosed : ∀ last, later.Closed last → Recovers before image last ∧ last.host.RestoredTo before image := by
    rintro last ⟨snapshots, hto⟩
    refine ⟨.of_to (hlater.close hrestored snapshots) hto, ?_⟩
    rw [hto.host_eq]
    exact ⟨hrestored.env, hrestored.compose, hrestored.nginx, hrestored.serves⟩
  refine holds_closePendingRelease hlater (fun last hlast => (hclosed last hlast).1) hclosed ?_
  rintro error last (hlast | hlast)
  · exact .of_to hlater hlast
  · exact (hclosed last hlast).1

/-- **A rollback** restores the release if it finds a marker; without one it does nothing. -/
theorem rollbackPendingRelease_restores (h : site.host.Recoverable before image) (version : String) :
    Holds (perform release) (Recovers before image) (rollbackPendingRelease version)
      (fun _ after => Recovers before image after ∧
        (site.host.pending.isSome = true → after.host.RestoredTo before image) ∧
          (site.host.pending = none → after.host = site.host))
      (fun _ => Recovers before image) site := by
  refine holds_bind (holds_pendingExists h fun after hafter => ?_)
  cases hpending : site.host.pending with
  | none => exact ⟨.of_to h hafter, fun hsome => (by cases hsome), fun _ => hafter.host_eq⟩
  | some record =>
    rw [← hafter.host_eq] at h
    refine (reconcileRecorded_restores h version).mono ?_ fun _ _ hraise => hraise
    rintro - later ⟨hlater, hrestored⟩
    exact ⟨hlater, fun _ => hrestored, fun hnone => (by cases hnone)⟩

/-! ## Staging -/

/-- Everything is prepared: there is no marker yet, and the snapshots are those of the files before. -/
structure Host.Ready (host before : Host Bytes Image) (image : Image) (preflight : ProductionPreflight Bytes) : Prop where
  recoverable : host.Recoverable before image
  pending : host.pending = none
  env : before.env = some preflight.previousEnv
  tag : imageTag before.env = some preflight.previousTag
  compose : host.snapshots .compose = before.files .compose
  nginx : host.snapshots .nginx = before.files .nginx

namespace Host.Ready

variable {preflight : ProductionPreflight Bytes}

omit [DecidableEq Image]

/-- The marker is written. -/
theorem mark (h : host.Ready before image preflight) (version : String) :
    { host with pending := some (preflight.record version) }.Recoverable before image where
  images := h.recoverable.images
  untouched hnone := by cases hnone
  marked record hrecord := by
    obtain rfl : preflight.record version = record := Option.some.inj hrecord
    exact ⟨h.env, h.tag, h.compose, h.nginx, fun _ => (h.recoverable.untouched h.pending).2.2⟩

/-- Files are put back without a marker. -/
theorem restoring {after : Site Bytes Image} (h : site.host.Ready before image preflight)
    (hafter : site.Restoring preflight.previousEnv after) :
    Recovers before image after ∧ after.host.pending = none := by
  obtain ⟨env, files, henv, hfiles, hto⟩ := hafter
  obtain ⟨hsame, hnginx, hserves⟩ := h.recoverable.untouched h.pending
  have hrecoverable : { site.host with env, files }.Recoverable before image := by
    refine ⟨h.recoverable.images, fun _ => ⟨?_, ?_, hserves⟩, fun record hrecord => ?_⟩
    · rcases henv with rfl | rfl
      · exact hsame
      · exact h.env.symm
    · rcases hfiles .nginx with hfile | hfile
      · exact hfile.trans hnginx
      · exact hfile.trans h.nginx
    · cases h.pending.symm.trans hrecord
  refine ⟨.of_to hrecoverable hto, ?_⟩
  rw [hto.host_eq]
  exact h.pending

end Host.Ready

section Staging

variable {preflight : ProductionPreflight Bytes}

/-- What a failing switch leaves for the error handler. -/
def Site.Failed (site : Site Bytes Image) (before : Host Bytes Image) (image : Image) (preflight : ProductionPreflight Bytes) : Prop :=
  Recovers before image site ∧ (site.host.pending = none → site.host.Ready before image preflight)

omit [DecidableEq Image] in
theorem Site.Failed.of_marked (h : site.host.Recoverable before image) (hpending : site.host.pending = some record) :
    site.Failed before image preflight :=
  ⟨h, fun hnone => (by cases hpending.symm.trans hnone)⟩

/-- From the switch phase on. -/
theorem runTarget_fails (h : site.host.Recoverable before image) (hswitching : site.host.Switching) (version : String) :
    Holds (perform release) (Recovers before image) (do
      Control.require .command (Control.up .target)
      waitForProductionReady version
      installProductionNginx)
      (fun _ => Recovers before image) (fun _ after => after.Failed before image preflight) site := by
  refine holds_bind (holds_require (holds_up h fun choice middle hmiddle => ?_))
  obtain ⟨⟨container, hcontainer⟩, -⟩ := middle.up_host .target choice
  have hstarted : (middle.up .target choice).2.host.Recoverable before image ∧ (middle.up .target choice).2.host.Switching := by
    rw [hcontainer, hmiddle.host_eq]
    exact ⟨h.switch hswitching container, hswitching⟩
  generalize middle.up .target choice = outcome at hstarted
  obtain ⟨ok, after⟩ := outcome
  obtain ⟨hafter, record, hpending, -⟩ := hstarted
  refine ⟨fun _ => ?_, fun _ => .of_marked hafter hpending⟩
  have hfailed : ∀ later, after.To after.host later → later.Failed before image preflight := by
    intro later hlater
    rw [← hlater.host_eq] at hafter hpending
    exact .of_marked hafter hpending
  refine holds_bind (holds_waitForProductionReady (fun later hlater => (hfailed later hlater).1) ?_ fun _ => hfailed)
  intro ready hready
  have hfiles : ∀ files later, ready.To { ready.host with files } later → later.Failed before image preflight := by
    intro files later hlater
    rw [hready.host_eq] at hlater
    have hchanged := hafter.change hpending after.host.env files
    rw [← (hready.trans hlater).host_eq] at hchanged
    exact .of_marked hchanged ((congrArg Host.pending (hready.trans hlater).host_eq).trans hpending)
  exact holds_installProductionNginx (fun files later hlater => (hfiles files later hlater).1)
    (fun files later hlater => (hfiles files later hlater).1) fun _ => hfiles

theorem switchRuntime_fails (h : site.host.Ready before image preflight) (version : String) :
    Holds (perform release) (Recovers before image) (switchRuntime preflight version)
      (fun _ => Recovers before image) (fun _ after => after.Failed before image preflight) site := by
  have hready : ∀ after, site.To site.host after → after.Failed before image preflight := by
    intro after hafter
    rw [← hafter.host_eq] at h
    exact ⟨h.recoverable, fun _ => h⟩
  refine holds_bind (holds_writePendingRelease (fun after hafter => (hready after hafter).1) ?_ ?_)
  · intro marked hmarked
    -- from here on the marker is there, whatever the environment
    have hmark := h.mark version
    have hfailed : ∀ env after, marked.To { marked.host with env } after →
        after.host.Recoverable before image ∧ after.host.pending = some (preflight.record version) := by
      intro env after hafter
      rw [hmarked.host_eq] at hafter
      rw [hafter.host_eq]
      exact ⟨hmark.change rfl env _, rfl⟩
    have hstays : ∀ after, marked.To marked.host after → Recovers before image after :=
      fun after hafter => (hfailed marked.host.env after hafter).1
    refine holds_bind (holds_prepareProductionEnvironment hstays ?_ fun _ env after hafter =>
      .of_marked (hfailed env after hafter).1 (hfailed env after hafter).2)
    intro env prepared hprepared
    obtain ⟨hrecoverable, hpending⟩ := hfailed env prepared hprepared
    have hkept : ∀ after, prepared.To prepared.host after → after.Failed before image preflight := by
      intro after hafter
      rw [← hafter.host_eq] at hrecoverable hpending
      exact .of_marked hrecoverable hpending
    refine holds_bind (holds_requireCheck hrecoverable ?_ fun after hafter => hkept after hafter)
    intro checked hchecked
    rw [← hchecked.host_eq] at hrecoverable hpending
    have hadvanced : ∀ {record after}, checked.host.pending = some record →
        checked.To { checked.host with pending := some { record with databaseMayHaveChanged := true } } after →
          after.host.Recoverable before image ∧ after.host.pending = some { record with databaseMayHaveChanged := true } := by
      intro record after hrecord hafter
      rw [hafter.host_eq]
      exact ⟨hrecoverable.advance hrecord rfl rfl fun hnot => (by cases hnot), rfl⟩
    have hsame : ∀ after, checked.To checked.host after → after.Failed before image preflight := by
      intro after hafter
      rw [← hafter.host_eq] at hrecoverable hpending
      exact .of_marked hrecoverable hpending
    refine holds_bind (holds_markPendingDatabaseMayHaveChanged (fun after hafter => (hsame after hafter).1) ?_ ?_)
    · intro record after hrecord hafter
      obtain ⟨hswitched, hphase⟩ := hadvanced hrecord hafter
      exact runTarget_fails hswitched ⟨_, hphase, rfl⟩ version
    · rintro error after (hafter | ⟨record, hrecord, hafter⟩)
      · exact hsame after hafter
      · obtain ⟨hswitched, hphase⟩ := hadvanced hrecord hafter
        exact .of_marked hswitched hphase
  · rintro error after (hafter | hafter)
    · exact hready after hafter
    · have hmark := h.mark version
      rw [← hafter.host_eq] at hmark
      exact .of_marked hmark (congrArg Host.pending hafter.host_eq)

/-- The error handler leaves what a later rollback understands. -/
theorem reconcile_recovers (h : site.Failed before image preflight) (version : String) :
    Holds (perform release) (Recovers before image) (reconcile preflight version) (fun _ => Recovers before image)
      (fun _ => Recovers before image) site := by
  refine holds_bind (holds_pendingExists h.1 fun after hafter => ?_)
  cases hpending : site.host.pending with
  | some record =>
    have hrecoverable := h.1
    unfold Recovers at hrecoverable
    rw [← hafter.host_eq] at hrecoverable
    exact (reconcileRecorded_restores hrecoverable version).mono (fun _ _ hreturn => hreturn.1) fun _ _ hraise => hraise
  | none =>
    have hready := h.2 hpending
    rw [← hafter.host_eq] at hready
    refine holds_bind (holds_restorePreRuntimeState (fun later hlater => (hready.restoring hlater).1) ?_
      fun _ later hlater => (hready.restoring hlater).1)
    intro later hlater _
    obtain ⟨hrecoverable, hnone⟩ := hready.restoring hlater.restoring
    have hcleaned : ∀ last, later.Cleaned last → Recovers before image last := by
      rintro last ⟨snapshots, hto⟩
      exact .of_to (hrecoverable.tidy hnone later.host.files snapshots rfl) hto
    refine holds_bind (holds_cleanupSnapshotPaths snapshotFiles hcleaned fun cleaned last hlast => ?_)
    exact holds_ite (fun _ => hcleaned last hlast) fun _ => hcleaned last hlast

theorem deployProduction_recovers (h : site.host.Ready before image preflight) (version : String) :
    Holds (perform release) (Recovers before image) (deployProduction preflight version) (fun _ => Recovers before image)
      (fun _ => Recovers before image) site := by
  refine holds_tryCatch ((switchRuntime_fails h version).mono (fun _ _ hreturn => hreturn) fun error after hafter => ?_)
  refine holds_bind (holds_tryCatch ((reconcile_recovers hafter version).mono (fun _ _ hreturn => hreturn) fun _ _ hraise => hraise))

end Staging

/-- A preflight changes neither what runs nor the files, and the tag of before names the image of before, also if the new
image was loaded under it. -/
theorem preflighted_recovers {archive : Archive Bytes Image} {version : String} (h : site.host.Settled image)
    (hloaded : ∀ tag, imageTag site.host.env = some tag → tag = version → archive.image = image) {after : Site Bytes Image}
    (hafter : site.Preflighted version archive.image after) :
    Recovers site.host image after ∧ after.host.pending = none := by
  have hprepared : ∀ {middle later : Site Bytes Image}, middle.host.Recoverable site.host image →
      middle.host.pending = none → middle.host.env = site.host.env → middle.Prepared version archive.image later →
        (later.host.Recoverable site.host image ∧ later.host.pending = none) ∧ later.host.env = site.host.env := by
    rintro middle later hmiddle hnone henv ⟨images, snapshots, himages, hto⟩
    rw [hto.host_eq]
    refine ⟨⟨⟨fun tag htag => ?_, hmiddle.untouched, fun record hrecord => ?_⟩, hnone⟩, henv⟩
    · rcases himages tag (by rw [henv]; exact htag) with hsame | ⟨hversion, hnew⟩
      · exact hsame.trans (hmiddle.images tag htag)
      · exact hnew.trans (congrArg some (hloaded tag htag hversion))
    · cases hnone.symm.trans hrecord
  rcases hafter with hafter | ⟨backup, middle, hmiddle, -, -, hafter⟩
  · exact (hprepared (.of_settled h) h.pending rfl hafter).1
  · obtain ⟨⟨hrecoverable, hnone⟩, henv⟩ := hprepared (.of_settled h) h.pending rfl hmiddle
    have hnoted : (middle.note .backedUp).host.Recoverable site.host image := hrecoverable
    exact (hprepared hnoted hnone henv hafter).1

/-- **A stage** leaves what a rollback understands, wherever it ends. -/
theorem deploy_recovers {archive : Archive Bytes Image} {version : String} (h : site.host.Settled image)
    (hloaded : ∀ tag, imageTag site.host.env = some tag → tag = version → archive.image = image) :
    Holds (perform release) (Recovers site.host image) (deploy archive version) (fun _ => Recovers site.host image)
      (fun _ => Recovers site.host image) site := by
  have hinv : ∀ after, site.To site.host after → Recovers site.host image after := fun after hafter => .of_to (.of_settled h) hafter
  have hcleanup : ∀ after : Site Bytes Image, Recovers site.host image after →
      Holds (perform release) (Recovers site.host image) (Control.require .os Control.check) (fun _ => Recovers site.host image)
        (fun _ => Recovers site.host image) after := by
    intro after hafter
    exact holds_requireCheck hafter (fun later hlater => .of_to hafter hlater) fun later hlater => .of_to hafter hlater
  refine holds_ite (fun _ => hinv site (.refl site)) fun _ => holds_finallyDo ?_
  refine Holds.mono ?_ (fun _ => hcleanup) fun _ => hcleanup
  refine holds_bind (holds_ensureNoPendingRelease (hinv site (.refl site)) ?_ fun _ => hinv)
  intro checked hchecked _
  refine holds_bind (holds_requireCheck (hinv checked hchecked) ?_ fun after hafter => hinv after (hchecked.stay hafter))
  intro start hstart
  replace hstart := hchecked.stay hstart
  rw [← hstart.host_eq] at h hloaded ⊢
  refine holds_bind (holds_preflightProduction (fun after hafter => (preflighted_recovers h hloaded hafter).1) ?_
    fun _ after hafter => (preflighted_recovers h hloaded hafter).1)
  intro previousEnv previousTag backup prepared henv htag hbacked hcompose hnginx
  obtain ⟨hrecoverable, hnone⟩ := preflighted_recovers h hloaded (.inr ⟨backup, hbacked⟩)
  have hsourced : ∀ {after later : Site Bytes Image}, after.host.Recoverable start.host image → after.host.pending = none →
      after.Sourced later → Recovers start.host image later ∧ later.host.pending = none := by
    rintro after later hbefore hpending ⟨files, hsame, hto⟩
    refine ⟨.of_to (hbefore.tidy hpending files after.host.snapshots hsame) hto, ?_⟩
    rw [hto.host_eq]
    exact hpending
  refine holds_bind (holds_tryCatch (holds_replaceSource (fun after hafter => (hsourced hrecoverable hnone hafter).1) ?_ ?_))
  · intro after hafter
    obtain ⟨hready, hpending⟩ := hsourced hrecoverable hnone hafter
    obtain ⟨files, -, hto⟩ := hafter
    refine deployProduction_recovers ⟨hready, hpending, henv, htag, ?_, ?_⟩ version
    · rw [hto.host_eq]
      exact hcompose
    · rw [hto.host_eq]
      exact hnginx
  · intro error after hafter
    -- the Compose file is put back, and the snapshots go
    obtain ⟨hfailed, hpending⟩ := hsourced hrecoverable hnone hafter
    have hcompose : ∀ later, after.To after.host later ∨ after.Replaced .compose later →
        Recovers start.host image later ∧ later.host.pending = none := by
      rintro later (hlater | ⟨content, -, hlater⟩)
      · exact hsourced hfailed hpending ⟨_, rfl, hlater⟩
      · exact hsourced hfailed hpending ⟨Function.update after.host.files .compose (some content), rfl, hlater⟩
    have htidy : ∀ (returns : Unit → Site Bytes Image → Prop) restored later, Recovers start.host image later →
        later.host.pending = none → Holds (perform release) (Recovers start.host image) (do
          let snapshotsCleaned ← cleanupSnapshots
          if restored && snapshotsCleaned then throw error
          else throw (.exit "source release failed and its rollback files could not be fully reconciled"))
          returns (fun _ => Recovers start.host image) later := by
      intro returns restored later hlater hpending
      have hcleaned : ∀ last, later.Cleaned last → Recovers start.host image last := by
        rintro last ⟨snapshots, hto⟩
        exact .of_to (hlater.tidy hpending later.host.files snapshots rfl) hto
      refine holds_bind (holds_cleanupSnapshotPaths snapshotFiles hcleaned fun cleaned last hlast => ?_)
      exact holds_ite (fun _ => hcleaned last hlast) fun _ => hcleaned last hlast
    refine holds_bind (holds_restoreRuntimeFile (fun later hlater => (hcompose later hlater).1) ?_ ?_
      fun later hlater => (hcompose later hlater).1)
    · intro later hlater
      exact htidy _ true later (hcompose later (.inr hlater)).1 (hcompose later (.inr hlater)).2
    · intro later hlater
      exact htidy _ false later (hcompose later hlater).1 (hcompose later hlater).2

/-! ## Runs -/

/-- The snapshots go only if there is no marker. -/
theorem cleanupAbandoned_recovers (h : site.host.Recoverable before image) :
    Holds (perform release) (Recovers before image) cleanupAbandonedRuntimeSnapshots (fun _ => Recovers before image)
      (fun _ => Recovers before image) site := by
  refine holds_bind (holds_pendingExists h fun after hafter => ?_)
  have hsame := Recovers.of_to h hafter
  cases hpending : site.host.pending with
  | some record =>
    refine holds_bind (holds_readPending hsame fun record read hread _ => ?_)
    have hread := Recovers.of_to hsame hread
    cases record with
    | none => exact hread
    | some record =>
      exact holds_bind (holds_loadPendingRelease (fun later hlater => .of_to hread hlater) (fun _ later hlater _ _ => .of_to hread hlater)
        fun _ later hlater => .of_to hread hlater)
  | none =>
    have hdropped : ∀ {middle later : Site Bytes Image}, site.Cleaned middle → middle.Cleaned later →
        site.Cleaned later ∧ Recovers before image later := by
      intro middle later hmiddle hlater
      obtain ⟨snapshots, hto⟩ := hmiddle.trans hlater
      exact ⟨⟨snapshots, hto⟩, .of_to (h.tidy hpending site.host.files snapshots rfl) hto⟩
    have hstart : site.Cleaned after := .of_to hafter
    have hdrop : ∀ {middle : Site Bytes Image} {file : Managed} {returns : Unit → Site Bytes Image → Prop},
        site.Cleaned middle → (∀ later, site.Cleaned later → returns () later) →
          Holds (perform release) (Recovers before image)
            (Control.require (.exit "cannot remove abandoned rollback snapshot") (Control.dropSnapshot file)) returns
            (fun _ => Recovers before image) middle := by
      intro middle file returns hmiddle hreturn
      refine holds_require (holds_dropSnapshot (hdropped hmiddle (.of_to (.refl middle))).2 ?_ ?_)
      · intro ok later hlater
        have hcleaned := hdropped hmiddle ⟨_, hlater⟩
        exact ⟨fun _ => hreturn later hcleaned.1, fun _ => hcleaned.2⟩
      · intro later hlater
        exact ⟨fun hok => (by cases hok), fun _ => (hdropped hmiddle (.of_to hlater)).2⟩
    refine holds_bind (hdrop hstart fun middle hmiddle => ?_)
    exact hdrop hmiddle fun later hlater => (hdropped hlater (.of_to (.refl later))).2

theorem Invocation.run_recovers (invocation : Invocation) (choices : List (Choice Bytes))
    (h : site.host.Recoverable before image) : Recovers before image (invocation.run release choices site).2 := by
  have hscript : Holds (perform release) (Recovers before image) invocation.script (fun _ => Recovers before image)
      (fun _ => Recovers before image) site := by
    cases invocation with
    | rollback version =>
      exact (rollbackPendingRelease_restores h version).mono (fun _ _ hreturn => hreturn.1) fun _ _ hraise => hraise
    | cleanup => exact cleanupAbandoned_recovers h
  have hrun := hscript.run choices
  unfold Invocation.run
  generalize Script.run (perform release) invocation.script choices site = outcome at hrun
  obtain ⟨ending, after⟩ := outcome
  cases ending <;> exact hrun

theorem afterStage_recovers {archive : Archive Bytes Image} {version : String} (choices : List (Choice Bytes))
    (later : List (Invocation × List (Choice Bytes))) (h : site.host.Settled image)
    (hloaded : ∀ tag, imageTag site.host.env = some tag → tag = version → archive.image = image) :
    Recovers site.host image (afterStage release archive version choices later site) := by
  have hstage : Recovers site.host image (Script.run (perform release) (deploy archive version) choices site).2 := by
    have hrun := Holds.run (show Holds (perform release) _ _ _ _ _ from deploy_recovers h hloaded) choices
    generalize Script.run (perform release) (deploy archive version) choices site = outcome at hrun
    obtain ⟨ending, after⟩ := outcome
    cases ending <;> exact hrun
  unfold afterStage
  generalize (Script.run (perform release) (deploy archive version) choices site).2 = staged at hstage
  induction later generalizing staged with
  | nil => exact hstage
  | cons invocation later ih => exact ih _ (invocation.1.run_recovers invocation.2 hstage)

/-- **A rollback that returns has restored the release if and only if it found a marker**, or the Compose file had not been
replaced: after a stage that ended anywhere, and any rollbacks that ended anywhere. The release before is one whose tag names
the image that runs, and the new image does not replace that one under its tag. -/
theorem rollback_restores_iff (release : Image → String) (archive : Archive Bytes Image) (version : String)
    (site : Site Bytes Image) (image : Image) (hsettled : site.host.Settled image)
    (hloaded : ∀ tag, imageTag site.host.env = some tag → tag = version → archive.image = image)
    (choices : List (Choice Bytes)) (later : List (Invocation × List (Choice Bytes))) (requested : String)
    (last : List (Choice Bytes)) (after : Site Bytes Image)
    (hreturned : (Invocation.rollback requested).run release last (afterStage release archive version choices later site) =
      (.returned (), after)) :
    after.host.RestoredTo site.host image ↔
      (afterStage release archive version choices later site).host.pending.isSome = true ∨
        (afterStage release archive version choices later site).host.files .compose = site.host.files .compose := by
  have hrecovers : Recovers site.host image (afterStage release archive version choices later site) :=
    afterStage_recovers choices later hsettled hloaded
  generalize afterStage release archive version choices later site = found at hrecovers hreturned
  have hrun := Holds.run (show Holds (perform release) _ _ _ _ _ from rollbackPendingRelease_restores hrecovers requested) last
  unfold Invocation.run Invocation.script at hreturned
  rw [hreturned] at hrun
  obtain ⟨-, hmarked, hunmarked⟩ := hrun
  cases hpending : found.host.pending with
  | some record => exact ⟨fun _ => .inl rfl, fun _ => hmarked (by rw [hpending]; rfl)⟩
  | none =>
    have hsame := hunmarked hpending
    rw [hsame]
    obtain ⟨henv, hnginx, hserves⟩ := hrecovers.untouched hpending
    refine ⟨fun hrestored => .inr hrestored.compose, ?_⟩
    rintro (hsome | hcompose)
    · cases hsome
    · exact ⟨henv, hcompose, hnginx, hserves⟩

/-! ## A stage that crashed between the source files and the marker -/

section Sample

local instance sampleUtf8 : Utf8 String := ⟨some, id⟩

/-- Image 1 is release `v1`, and runs. -/
def sampleSite : Site String Nat where
  host :=
    { env := some "P2P_IMAGE_TAG=v1"
      files := fun file => if file = .compose then some "compose of v1" else some "nginx"
      snapshots := fun _ => none
      pending := none
      images := fun tag => if tag = "v1" then some 1 else none
      container := some ⟨1, true, .previous⟩ }
  ledger := { database := none, artifacts := false, committed := [], history := [] }

def sampleArchive : Archive String Nat := { compose := "compose of v2", nginx := "nginx", image := 2 }

def sampleRelease (image : Nat) : String := if image = 1 then "v1" else "v2"

/-- Every command succeeds, up to the extraction of the archive. -/
def extractedStage : Site String Nat :=
  afterStage sampleRelease sampleArchive "v2" (List.replicate 15 {}) [] sampleSite

theorem sampleSite_settled : sampleSite.host.Settled 1 where
  pending := rfl
  serves := ⟨.previous, rfl⟩
  tagged tag htag := by
    obtain rfl : "v1" = tag := Option.some.inj htag
    rfl

theorem sampleArchive_loaded (tag : String) (htag : imageTag sampleSite.host.env = some tag) (hversion : tag = "v2") :
    sampleArchive.image = 1 := by
  obtain rfl : "v1" = tag := Option.some.inj htag
  exact absurd hversion (by decide)

theorem rollback_restores_iff_sample :
    ((Invocation.rollback "v2").run sampleRelease [{}] extractedStage).2.host.RestoredTo sampleSite.host 1 ↔
      extractedStage.host.pending.isSome = true ∨ extractedStage.host.files .compose = sampleSite.host.files .compose :=
  rollback_restores_iff sampleRelease sampleArchive "v2" sampleSite 1 sampleSite_settled sampleArchive_loaded
    (List.replicate 15 {}) [] "v2" [{}] _ rfl

/-- The rollback returns, and the Compose file is that of the release that never ran. -/
theorem crashed_stage_not_rolled_back :
    ¬∀ (release : Nat → String) (archive : Archive String Nat) (version : String) (site : Site String Nat) (image : Nat),
      site.host.Settled image →
      (∀ tag, imageTag site.host.env = some tag → tag = version → archive.image = image) →
      ∀ (choices : List (Choice String)) (later : List (Invocation × List (Choice String))) (requested : String)
        (last : List (Choice String)) (after : Site String Nat),
        (Invocation.rollback requested).run release last (afterStage release archive version choices later site) =
          (.returned (), after) →
        after.host.RestoredTo site.host image := by
  intro h
  have hrestored := h sampleRelease sampleArchive "v2" sampleSite 1 sampleSite_settled sampleArchive_loaded
    (List.replicate 15 {}) [] "v2" [{}] _ rfl
  exact absurd hrestored.compose (by decide)

end Sample

end P2PTransmission.Deploy
