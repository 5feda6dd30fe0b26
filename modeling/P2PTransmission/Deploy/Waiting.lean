import P2PTransmission.Deploy.Supervisor
import P2PTransmission.Foundation.Run

/-!
# The verdict of the waiter

The worker and the waiter side by side, in every order of their steps.

The waiter looks for a status first and at the lock afterwards, and does not look for the status again. A worker that writes its
status and releases the lock in between is taken for one that died (`finished_worker_reported_failed`). As long as that does not
happen the waiter tells the truth (`truthful_of_not_overtaken`): it reports a failure or nothing at all only where there is no
success, and a success only where there is one.
-/

set_option autoImplicit false

namespace P2PTransmission.Deploy.Supervisor

variable {operation : Operation}

/-! ## Side by side -/

structure Joint where
  system : System
  waiter : WaiterPoint
  deriving DecidableEq, Repr

inductive Act
  | worker (choice : WorkerChoice)
  | kill
  | waiter (choice : WaiterChoice)
  deriving DecidableEq, Repr

/-- The worker holds the lock and has done nothing so far. -/
def Joint.start (launchState : JsonFile) (artifacts : Bool) : Joint :=
  { system :=
      { files := { launchState, status := .absent, log := .absent, pid := .absent, artifacts }
        locked := true
        worker := .adopting }
    waiter := .beginning }

def Joint.after (operation : Operation) (joint : Joint) : Act → Joint
  | .worker choice => { joint with system := joint.system.stepWorker operation choice }
  | .kill => { joint with system := joint.system.kill }
  | .waiter choice => { joint with waiter := stepWaiter operation joint.system choice joint.waiter }

def Step (operation : Operation) (joint : Joint) (act : Act) (next : Joint) : Prop := joint.after operation act = next

/-! ## What is true -/

/-- A status of this operation, version and control plane with exit code 0. -/
def Files.Succeeded (operation : Operation) (files : Files) : Prop :=
  ∃ payload, files.status = .object payload ∧ payload.get "exit_code" = some (.int 0) ∧
    (payload.get "operation_id").any (·.eq (.str operation.operationId)) = true ∧
    (payload.get "version").any (·.eq (.str operation.version)) = true ∧
    (payload.get "expected_control_plane_sha256").any (·.eq (.str operation.controlPlaneSha256)) = true

def Files.LaunchValid (operation : Operation) (files : Files) : Prop :=
  files.launchState.read.any operation.validateLaunchPayload = true

/-- The verdict, if there is one, fits the files as they were then. -/
def Joint.Truthful (operation : Operation) (joint : Joint) : Prop :=
  ∀ verdict files, joint.waiter = .returned verdict files →
    (files.Succeeded operation → files.LaunchValid operation →
      verdict ≠ .code WAIT_DEPLOY_FAILED ∧ verdict ≠ .code WAIT_STATE_MISSING) ∧
    (verdict = .code 0 → files.Succeeded operation)

/-- The lock is released, or goes with the worker. -/
def System.Releases (system : System) : Act → Prop
  | .worker _ => system.worker = .releasing
  | .kill => True
  | .waiter _ => False

/-- The waiter has seen no status and is about to look at the lock, and the lock of a worker that succeeded is released. -/
def Joint.Overtaken (operation : Operation) (joint : Joint) (act : Act) : Prop :=
  joint.waiter = .probing ∧ joint.system.files.Succeeded operation ∧ joint.system.Releases act

/-! ## The status -/

/-- The status of a worker has its exit code. -/
theorem workerStatus_exitCode (operation : Operation) (exitCode : Nat) (backup : Option BackupResult) :
    (operation.workerStatus exitCode backup).get "exit_code" = some (.int exitCode) := rfl

/-- The exit code of a valid status is the one that it says. -/
theorem validateWorkerStatus_exitCode {payload : Payload} {exitCode : Int}
    (h : operation.validateWorkerStatus payload = some exitCode) :
    payload.get "exit_code" = some (.int exitCode) ∧
      (payload.get "operation_id").any (·.eq (.str operation.operationId)) = true ∧
      (payload.get "version").any (·.eq (.str operation.version)) = true ∧
      (payload.get "expected_control_plane_sha256").any (·.eq (.str operation.controlPlaneSha256)) = true := by
  unfold Operation.validateWorkerStatus at h
  split at h
  · rename_i hfields
    simp only [Bool.and_eq_true] at hfields
    obtain ⟨⟨⟨⟨-, hid⟩, hversion⟩, hdigest⟩, -⟩ := hfields
    split at h
    · rename_i found hfound
      split at h
      · rw [← Option.some.inj h]
        exact ⟨hfound, hid, hversion, hdigest⟩
      · cases h
    · cases h
  · cases h

theorem not_succeeded_of_absent {files : Files} (h : files.status = .absent) : ¬files.Succeeded operation := by
  rintro ⟨payload, hstatus, -⟩
  rw [h] at hstatus
  cases hstatus

theorem not_succeeded_of_not_there {files : Files} (h : files.status.isThere = false) : ¬files.Succeeded operation := by
  rintro ⟨payload, hstatus, -⟩
  rw [hstatus] at h
  cases h

/-! ## The invariant -/

/-- The worker has not come to its status. -/
def WorkerPoint.unfinished : WorkerPoint → Bool
  | .releasing | .returned | .dead => false
  | _ => true

/-- A worker without the lock does not succeed any more. -/
def WorkerPoint.IsOver (point : WorkerPoint) : Prop :=
  point = .persisting WORKER_INTERNAL_ERROR none ∨ point.unfinished = false

/-- The worker has lost the lock without a success. -/
def System.Failed (operation : Operation) (system : System) : Prop :=
  system.locked = false ∧ ¬system.files.Succeeded operation

/-- The points of the waiter after it has found the lock free. -/
def WaiterPoint.hasProbed : WaiterPoint → Bool
  | .lookingForStatus | .lookingForPid | .lookingForLog | .lookingForLaunch _ | .lookingForArtifacts _ | .rereadingLaunch _
  | .readingPid => true
  | _ => false

structure Joint.Inv (operation : Operation) (joint : Joint) : Prop where
  unfinished : joint.system.worker.unfinished = true → joint.system.files.status = .absent
  unlocked : joint.system.locked = false → joint.system.worker.IsOver
  probing : joint.waiter = .probing → joint.system.locked = false → ¬joint.system.files.Succeeded operation
  probed : joint.waiter.hasProbed = true → joint.system.Failed operation
  truthful : joint.Truthful operation

theorem inv_start (launchState : JsonFile) (artifacts : Bool) : (Joint.start launchState artifacts).Inv operation where
  unfinished _ := rfl
  unlocked h := by cases h
  probing h := by cases h
  probed h := by cases h
  truthful verdict files h := by cases h

/-! ## Steps of the worker -/

/-- What a step of the worker does to the lock and the status. -/
inductive System.Moves (operation : Operation) (system next : System) : Prop
  | goesOn (hbefore : ¬system.worker.IsOver) (hnext : next.worker.unfinished = true) (hlocked : next.locked = system.locked)
      (hstatus : next.files.status = system.files.status)
  | losesLock (hbefore : system.worker.unfinished = true) (hnext : next.worker = .persisting WORKER_INTERNAL_ERROR none)
      (hlocked : next.locked = false) (hstatus : next.files.status = system.files.status)
  | persists (exitCode : Nat) (backup : Option BackupResult) (hbefore : system.worker = .persisting exitCode backup)
      (hnext : next.worker = .releasing) (hlocked : next.locked = system.locked)
      (hstatus : next.files.status = system.files.status ∨
        next.files.status = .object (operation.workerStatus exitCode backup))
  | releases (hbefore : system.worker = .releasing) (hnext : next.worker = .returned) (hlocked : next.locked = false)
      (hfiles : next.files = system.files)
  | rests (hsame : next = system)

theorem isOver_iff {point : WorkerPoint} :
    point.IsOver ↔ point = .persisting WORKER_INTERNAL_ERROR none ∨ point = .releasing ∨ point = .returned ∨ point = .dead := by
  unfold WorkerPoint.IsOver
  cases point <;> simp [WorkerPoint.unfinished]

theorem stepWorker_moves (operation : Operation) (system : System) (choice : WorkerChoice) :
    system.Moves operation (system.stepWorker operation choice) := by
  have hgoesOn : ∀ {next : System}, ¬system.worker.IsOver → next.worker.unfinished = true → next.locked = system.locked →
      next.files.status = system.files.status → system.Moves operation next := fun h₁ h₂ h₃ h₄ => .goesOn h₁ h₂ h₃ h₄
  unfold System.stepWorker
  cases hpoint : system.worker with
  | adopting =>
    dsimp only
    split
    · exact hgoesOn (by rw [hpoint, isOver_iff]; simp) rfl rfl rfl
    · exact .losesLock (by rw [hpoint]; rfl) rfl rfl rfl
  | creatingLog | writingPid | checkingArtifacts | validating | parsing | noting =>
    dsimp only
    split <;> exact hgoesOn (by rw [hpoint, isOver_iff]; simp) rfl rfl rfl
  | locking =>
    dsimp only
    split
    · exact hgoesOn (by rw [hpoint, isOver_iff]; simp) rfl rfl rfl
    · split <;> exact hgoesOn (by rw [hpoint, isOver_iff]; simp) rfl rfl rfl
  | running =>
    dsimp only
    split
    · split <;> exact hgoesOn (by rw [hpoint, isOver_iff]; simp) rfl rfl rfl
    · exact hgoesOn (by rw [hpoint, isOver_iff]; simp) rfl rfl rfl
  | persisting exitCode backup =>
    dsimp only
    split
    · exact .persists exitCode backup hpoint rfl rfl (.inr rfl)
    · exact .persists exitCode backup hpoint rfl rfl (.inl rfl)
  | releasing => exact .releases hpoint rfl rfl rfl
  | returned | dead => exact .rests rfl

theorem succeeded_congr {files other : Files} (h : files.status = other.status) :
    files.Succeeded operation ↔ other.Succeeded operation := by
  unfold Files.Succeeded
  rw [h]

/-- The status of a worker that failed is no success. -/
theorem not_succeeded_of_internalError {files : Files} {backup : Option BackupResult}
    (h : files.status = .object (operation.workerStatus WORKER_INTERNAL_ERROR backup)) : ¬files.Succeeded operation := by
  rintro ⟨payload, hstatus, hexit, -⟩
  rw [h] at hstatus
  obtain rfl := JsonFile.object.inj hstatus
  rw [workerStatus_exitCode] at hexit
  exact absurd (Value.int.inj (Option.some.inj hexit)) (by decide)

/-- A worker that has lost the lock does not succeed. -/
theorem not_succeeded_of_moves {system next : System} (hmoves : system.Moves operation next) (hunlocked : system.locked = false)
    (hover : system.worker.IsOver) (hnot : ¬system.files.Succeeded operation) :
    next.locked = false ∧ ¬next.files.Succeeded operation := by
  cases hmoves with
  | goesOn hbefore => exact absurd hover hbefore
  | losesLock _ _ hlocked hstatus => exact ⟨hlocked, fun h => hnot ((succeeded_congr hstatus).mp h)⟩
  | persists exitCode backup hbefore _ hlocked hstatus =>
    refine ⟨hlocked.trans hunlocked, ?_⟩
    rcases hstatus with hsame | hwritten
    · exact fun h => hnot ((succeeded_congr hsame).mp h)
    · rcases isOver_iff.mp hover with hfailed | hfinished | hfinished | hfinished
      · obtain ⟨rfl, rfl⟩ := WorkerPoint.persisting.inj (hbefore.symm.trans hfailed)
        exact not_succeeded_of_internalError hwritten
      all_goals
        rw [hbefore] at hfinished
        cases hfinished
  | releases _ _ hlocked hfiles =>
    rw [hfiles]
    exact ⟨hlocked, hnot⟩
  | rests hsame =>
    rw [hsame]
    exact ⟨hunlocked, hnot⟩

theorem Joint.Inv.worker {joint : Joint} {choice : WorkerChoice} (hinv : joint.Inv operation)
    (hclear : ¬joint.Overtaken operation (.worker choice)) : (joint.after operation (.worker choice)).Inv operation := by
  have hmoves := stepWorker_moves operation joint.system choice
  change Joint.Inv operation { joint with system := joint.system.stepWorker operation choice }
  generalize joint.system.stepWorker operation choice = next at hmoves
  constructor
  · intro hunfinished
    dsimp only at hunfinished ⊢
    cases hmoves with
    | goesOn hbefore _ _ hstatus =>
      rw [hstatus]
      refine hinv.unfinished ?_
      by_contra hfinished
      exact hbefore (.inr (by simpa using hfinished))
    | losesLock hbefore _ _ hstatus =>
      rw [hstatus]
      exact hinv.unfinished hbefore
    | persists exitCode backup _ hnext =>
      rw [hnext] at hunfinished
      cases hunfinished
    | releases _ hnext =>
      rw [hnext] at hunfinished
      cases hunfinished
    | rests hsame =>
      rw [hsame] at hunfinished ⊢
      exact hinv.unfinished hunfinished
  · intro hunlocked
    dsimp only at hunlocked ⊢
    cases hmoves with
    | goesOn hbefore _ hlocked => exact absurd (hinv.unlocked (hlocked.symm.trans hunlocked)) hbefore
    | losesLock _ hnext => exact .inl hnext
    | persists exitCode backup _ hnext => exact .inr (by rw [hnext]; rfl)
    | releases _ hnext => exact .inr (by rw [hnext]; rfl)
    | rests hsame =>
      rw [hsame] at hunlocked ⊢
      exact hinv.unlocked hunlocked
  · intro hprobing hunlocked
    dsimp only at hprobing hunlocked ⊢
    cases hlocked : joint.system.locked with
    | false =>
      exact (not_succeeded_of_moves hmoves hlocked (hinv.unlocked hlocked) (hinv.probing hprobing hlocked)).2
    | true =>
      cases hmoves with
      | goesOn _ _ hsame =>
        rw [hsame, hlocked] at hunlocked
        cases hunlocked
      | losesLock hbefore _ _ hstatus => exact not_succeeded_of_absent (hstatus.trans (hinv.unfinished hbefore))
      | persists exitCode backup _ _ hsame =>
        rw [hsame, hlocked] at hunlocked
        cases hunlocked
      | releases hbefore _ _ hfiles =>
        rw [hfiles]
        exact fun hsucceeded => hclear ⟨hprobing, hsucceeded, hbefore⟩
      | rests hsame =>
        rw [hsame, hlocked] at hunlocked
        cases hunlocked
  · intro hprobed
    obtain ⟨hunlocked, hnot⟩ := hinv.probed hprobed
    exact not_succeeded_of_moves hmoves hunlocked (hinv.unlocked hunlocked) hnot
  · exact hinv.truthful

/-! ## The end of the worker -/

theorem kill_cases (system : System) :
    system.kill = system ∨ system.kill.worker = .dead ∧ system.kill.locked = false ∧ system.kill.files = system.files := by
  unfold System.kill
  split
  · exact .inl rfl
  · exact .inr ⟨rfl, rfl, rfl⟩

theorem Joint.Inv.kill {joint : Joint} (hinv : joint.Inv operation) (hclear : ¬joint.Overtaken operation .kill) :
    (joint.after operation .kill).Inv operation := by
  change Joint.Inv operation { joint with system := joint.system.kill }
  rcases kill_cases joint.system with hsame | ⟨hdead, hunlocked, hfiles⟩
  · rw [hsame]
    exact hinv
  · constructor
    · intro hunfinished
      dsimp only at hunfinished
      rw [hdead] at hunfinished
      cases hunfinished
    · exact fun _ => .inr (by rw [hdead]; rfl)
    · intro hprobing _
      dsimp only at hprobing ⊢
      rw [hfiles]
      exact fun hsucceeded => hclear ⟨hprobing, hsucceeded, trivial⟩
    · intro hprobed
      refine ⟨hunlocked, ?_⟩
      dsimp only
      rw [hfiles]
      exact (hinv.probed hprobed).2
    · exact hinv.truthful

/-! ## Steps of the waiter -/

/-- What holds of the point that the waiter comes to. -/
structure Arrives (operation : Operation) (system : System) (point : WaiterPoint) : Prop where
  probing : point = .probing → system.locked = false → ¬system.files.Succeeded operation
  probed : point.hasProbed = true → system.Failed operation
  truthful : ∀ verdict files, point = .returned verdict files →
    (files.Succeeded operation → files.LaunchValid operation →
      verdict ≠ .code WAIT_DEPLOY_FAILED ∧ verdict ≠ .code WAIT_STATE_MISSING) ∧
    (verdict = .code 0 → files.Succeeded operation)

/-- A point at which nothing is known. -/
theorem arrives_elsewhere {system : System} {point : WaiterPoint} (hprobing : point ≠ .probing)
    (hprobed : point.hasProbed = false) (hreturned : ∀ verdict files, point ≠ .returned verdict files) :
    Arrives operation system point where
  probing h := absurd h hprobing
  probed h := by rw [hprobed] at h; cases h
  truthful verdict files h := absurd h (hreturned verdict files)

/-- A verdict that speaks neither of a failure nor of a success. -/
theorem arrives_neutral {system : System} {verdict : Verdict} {files : Files} (hfailed : verdict ≠ .code WAIT_DEPLOY_FAILED)
    (hmissing : verdict ≠ .code WAIT_STATE_MISSING) (hdone : verdict ≠ .code 0) :
    Arrives operation system (.returned verdict files) where
  probing h := by cases h
  probed h := by cases h
  truthful found _ h := by
    obtain ⟨rfl, rfl⟩ := WaiterPoint.returned.inj h
    exact ⟨fun _ _ => ⟨hfailed, hmissing⟩, fun hsuccess => absurd hsuccess hdone⟩

/-- A verdict that speaks of a failure, where there is no success. -/
theorem arrives_failure {system : System} {verdict : Verdict} (hdone : verdict ≠ .code 0)
    (hnot : ¬system.files.Succeeded operation) : Arrives operation system (.returned verdict system.files) where
  probing h := by cases h
  probed h := by cases h
  truthful found files h := by
    obtain ⟨rfl, rfl⟩ := WaiterPoint.returned.inj h
    exact ⟨fun hsucceeded => absurd hsucceeded hnot, fun hsuccess => absurd hsuccess hdone⟩

/-- The waiter goes on after it has found the lock free. -/
theorem arrives_probed {system : System} {point : WaiterPoint} (hpoint : point.hasProbed = true)
    (hfailed : system.Failed operation) : Arrives operation system point where
  probing h := by rw [h] at hpoint; cases hpoint
  probed _ := hfailed
  truthful verdict files h := by rw [h] at hpoint; cases hpoint

/-- The verdict on a status. -/
theorem arrives_status {system : System} (choice : WaiterChoice) :
    Arrives operation system (stepWaiter operation system choice .readingStatus) := by
  unfold stepWaiter
  dsimp only
  split
  · exact arrives_neutral (by decide) (by decide) (by decide)
  · rename_i exitCode hvalid
    obtain ⟨payload, hread, hvalidated⟩ := Option.bind_eq_some_iff.mp hvalid
    have hstatus : system.files.status = .object payload := by
      cases hfile : system.files.status with
      | absent | unreadable =>
        rw [hfile] at hread
        cases hread
      | object found =>
        rw [hfile] at hread
        rw [Option.some.inj hread]
    obtain ⟨hexit, hid, hversion, hdigest⟩ := validateWorkerStatus_exitCode hvalidated
    split
    · rename_i hzero
      subst hzero
      refine ⟨fun h => (by cases h), fun h => (by cases h), ?_⟩
      intro verdict files hreturned
      obtain ⟨rfl, rfl⟩ := WaiterPoint.returned.inj hreturned
      exact ⟨fun _ _ => ⟨by decide, by decide⟩, fun _ => ⟨payload, hstatus, hexit, hid, hversion, hdigest⟩⟩
    · rename_i hnonzero
      have hnot : ¬system.files.Succeeded operation := by
        rintro ⟨other, hother, hzero, -⟩
        obtain rfl := JsonFile.object.inj (hstatus.symm.trans hother)
        exact hnonzero (Value.int.inj (Option.some.inj (hexit.symm.trans hzero)))
      split
      · exact arrives_neutral (by decide) (by decide) (by decide)
      · exact arrives_failure (by decide) hnot

theorem stepWaiter_arrives {joint : Joint} (hinv : joint.Inv operation) (choice : WaiterChoice) :
    Arrives operation joint.system (stepWaiter operation joint.system choice joint.waiter) := by
  have hprobed := hinv.probed
  cases hpoint : joint.waiter with
  | beginning =>
    unfold stepWaiter
    dsimp only
    split
    · exact arrives_elsewhere (fun h => by cases h) rfl fun _ _ h => by cases h
    · exact arrives_neutral (by decide) (by decide) (by decide)
  | checkingStatus =>
    unfold stepWaiter
    dsimp only
    split
    · exact arrives_elsewhere (fun h => by cases h) rfl fun _ _ h => by cases h
    · rename_i hmissing
      refine ⟨fun _ _ => not_succeeded_of_not_there (by simpa using hmissing), fun h => (by cases h), ?_⟩
      exact fun _ _ h => by cases h
  | readingLaunch =>
    unfold stepWaiter
    dsimp only
    split
    · exact arrives_elsewhere (fun h => by cases h) rfl fun _ _ h => by cases h
    · exact arrives_neutral (by decide) (by decide) (by decide)
  | readingStatus => exact arrives_status choice
  | probing =>
    unfold stepWaiter
    dsimp only
    split
    · exact arrives_neutral (by decide) (by decide) (by decide)
    · split
      · exact arrives_elsewhere (fun h => by cases h) rfl fun _ _ h => by cases h
      · rename_i hfree
        rw [Bool.or_eq_true, not_or, Bool.not_eq_true] at hfree
        exact arrives_probed rfl ⟨hfree.1, hinv.probing hpoint hfree.1⟩
  | checkingDeadline =>
    unfold stepWaiter
    dsimp only
    split
    · exact arrives_neutral (by decide) (by decide) (by decide)
    · exact arrives_elsewhere (fun h => by cases h) rfl fun _ _ h => by cases h
  | lookingForStatus | lookingForPid =>
    have hfailed := hprobed (by rw [hpoint]; rfl)
    unfold stepWaiter
    dsimp only
    split <;> exact arrives_probed rfl hfailed
  | lookingForLog => exact arrives_probed rfl (hprobed (by rw [hpoint]; rfl))
  | lookingForLaunch workerStateExists =>
    have hfailed := hprobed (by rw [hpoint]; rfl)
    unfold stepWaiter
    dsimp only
    split <;> exact arrives_probed rfl hfailed
  | lookingForArtifacts workerStateExists =>
    have hfailed := hprobed (by rw [hpoint]; rfl)
    unfold stepWaiter
    dsimp only
    split
    · exact arrives_failure (by decide) hfailed.2
    · split <;> exact arrives_failure (by decide) hfailed.2
  | rereadingLaunch workerStateExists =>
    have hfailed := hprobed (by rw [hpoint]; rfl)
    unfold stepWaiter
    dsimp only
    split
    · exact arrives_failure (by cases workerStateExists <;> decide) hfailed.2
    · split
      · exact arrives_probed rfl hfailed
      · exact arrives_failure (by decide) hfailed.2
  | readingPid =>
    have hfailed := hprobed (by rw [hpoint]; rfl)
    unfold stepWaiter
    dsimp only
    split <;> exact arrives_failure (by decide) hfailed.2
  | returned verdict files =>
    refine ⟨fun h => (by cases h), fun h => (by cases h), ?_⟩
    intro found seen hreturned
    obtain ⟨rfl, rfl⟩ := WaiterPoint.returned.inj hreturned
    exact hinv.truthful verdict files hpoint

theorem Joint.Inv.waiter {joint : Joint} {choice : WaiterChoice} (hinv : joint.Inv operation) :
    (joint.after operation (.waiter choice)).Inv operation := by
  obtain ⟨hprobing, hprobed, htruthful⟩ := stepWaiter_arrives hinv choice
  exact ⟨hinv.unfinished, hinv.unlocked, hprobing, hprobed, htruthful⟩

/-! ## Runs -/

theorem Joint.Inv.step {joint next : Joint} {act : Act} (hinv : joint.Inv operation)
    (hstep : guarded (Step operation) (fun joint act => ¬joint.Overtaken operation act) joint act next) : next.Inv operation := by
  obtain ⟨rfl, hclear⟩ := hstep
  cases act with
  | worker choice => exact hinv.worker hclear
  | kill => exact hinv.kill hclear
  | waiter choice => exact hinv.waiter

/-- **The waiter tells the truth** in every state of a run in which no success overtakes it. -/
theorem truthful_of_not_overtaken (operation : Operation) (launchState : JsonFile) (artifacts : Bool) {acts : List Act}
    {joint : Joint}
    (h : Run (guarded (Step operation) fun joint act => ¬joint.Overtaken operation act) (.start launchState artifacts) acts joint) :
    joint.Truthful operation :=
  (h.invariant (fun _ _ _ hinv hstep => hinv.step hstep) (inv_start launchState artifacts)).truthful

section Examples

/-- The worker goes on alone, while the waiter is not about to look at the lock. -/
theorem run_worker (joint : Joint) (hwaiter : joint.waiter ≠ .probing) (choices : List WorkerChoice) :
    Run (guarded (Step operation) fun joint act => ¬joint.Overtaken operation act) joint (choices.map .worker)
      { joint with system := choices.foldl (System.stepWorker operation) joint.system } := by
  induction choices generalizing joint with
  | nil => exact .nil joint
  | cons choice choices ih =>
    exact .cons ⟨rfl, fun hovertaken => hwaiter hovertaken.1⟩
      (ih { joint with system := joint.system.stepWorker operation choice } hwaiter)

/-- The waiter goes on alone. -/
theorem run_waiter (joint : Joint) (choices : List WaiterChoice) :
    Run (guarded (Step operation) fun joint act => ¬joint.Overtaken operation act) joint (choices.map .waiter)
      { joint with
        waiter := choices.foldl (fun point choice => stepWaiter operation joint.system choice point) joint.waiter } := by
  induction choices generalizing joint with
  | nil => exact .nil joint
  | cons choice choices ih =>
    exact .cons ⟨rfl, fun hovertaken => hovertaken.2.2⟩
      (ih { joint with waiter := stepWaiter operation joint.system choice joint.waiter })

def someOperation : Operation :=
  { operationId := String.ofList (List.replicate 40 'a'), version := "1.0.0",
    controlPlaneSha256 := String.ofList (List.replicate 64 'b') }

/-- A deployment that succeeds. -/
def someDeployment : List WorkerChoice :=
  [{}, {}, {}, {}, {}, {}, {}, { log := some (BACKUP_NOT_REQUIRED_LINE ++ "\n") }, {}, {}, {}]

/-- The deployment is over when the waiter begins. -/
def lateWaiter : Joint :=
  { Joint.start (.object someOperation.launchPayload) true with
    system := someDeployment.foldl (System.stepWorker someOperation)
      (Joint.start (.object someOperation.launchPayload) true).system }

def lateVerdict : WaiterPoint :=
  ([{}, {}, {}, {}] : List WaiterChoice).foldl
    (fun point choice => stepWaiter someOperation lateWaiter.system choice point) lateWaiter.waiter

/-- The late waiter reports the success. -/
theorem truthful_lateWaiter :
    lateVerdict = .returned (.code 0) lateWaiter.system.files ∧
      ({ lateWaiter with waiter := lateVerdict } : Joint).Truthful someOperation :=
  ⟨by decide, truthful_of_not_overtaken someOperation (.object someOperation.launchPayload) true
    ((run_worker _ (by decide) someDeployment).trans (run_waiter lateWaiter [{}, {}, {}, {}]))⟩

/-- The waiter has seen no status; the deployment succeeds; the waiter finds the lock free and reports a failure. -/
theorem finished_worker_reported_failed :
    ¬∀ (operation : Operation) (launchState : JsonFile) (artifacts : Bool) (acts : List Act) (joint : Joint),
      Run (Step operation) (.start launchState artifacts) acts joint → joint.Truthful operation := by
  intro hclaim
  let acts : List Act :=
    [.waiter {}, .waiter {}] ++ someDeployment.map .worker ++
      [.waiter {}, .waiter {}, .waiter {}, .waiter {}, .waiter {}]
  let start := Joint.start (.object someOperation.launchPayload) true
  let joint := acts.foldl (Joint.after someOperation) start
  have hverdict : joint.waiter = .returned (.code WAIT_DEPLOY_FAILED) joint.system.files := by decide
  have hstatus : joint.system.files.status = .object (someOperation.workerStatus 0 (some ⟨none, true⟩)) := by decide
  have hlaunch : joint.system.files.LaunchValid someOperation := by
    change joint.system.files.launchState.read.any someOperation.validateLaunchPayload = true
    decide
  have hsucceeded : joint.system.files.Succeeded someOperation :=
    ⟨_, hstatus, rfl, by decide, by decide, by decide⟩
  have htruthful := hclaim someOperation _ true acts joint (Run.of_foldl _ start acts)
  exact ((htruthful _ _ hverdict).1 hsucceeded hlaunch).1 rfl

end Examples

end P2PTransmission.Deploy.Supervisor
