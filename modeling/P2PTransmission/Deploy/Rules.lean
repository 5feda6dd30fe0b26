import P2PTransmission.Deploy.Runtime

/-!
# Rules for the commands and functions of the control plane

One rule for each command and for each function that several others call: what has to hold for its result to be right. While
the control plane works the container goes on writing, so that every rule is about the sites that differ from the one before
the command in what was written (`Site.To`).
-/

set_option autoImplicit false

namespace P2PTransmission.Deploy

open Script (Holds ask holds_ask holds_bind holds_ite holds_tryCatch)

variable {Bytes Image A : Type}

/-! ## Writes of the container -/

theorem Site.host_written (site : Site Bytes Image) (numbers : List Nat) : (site.written numbers).host = site.host := by
  unfold Site.written
  split <;> rfl

theorem Site.written_nil (site : Site Bytes Image) : site.written [] = site := by
  unfold Site.written
  split
  · simp only [List.map_nil, List.isEmpty_nil, if_true, List.append_nil]
  · rfl

theorem Site.history_written (site : Site Bytes Image) (numbers : List Nat) :
    (site.written numbers).ledger.history = site.ledger.history := by
  unfold Site.written
  split <;> rfl

theorem Site.artifacts_written (site : Site Bytes Image) (numbers : List Nat) :
    (site.written numbers).ledger.artifacts = site.ledger.artifacts := by
  unfold Site.written
  split <;> rfl

theorem Site.written_written (site : Site Bytes Image) (first second : List Nat) :
    (site.written first).written second = site.written (first ++ second) := by
  obtain ⟨⟨env, files, snapshots, pending, images, container⟩, ledger⟩ := site
  cases container with
  | none => rfl
  | some container =>
    obtain ⟨image, running, role⟩ := container
    cases running with
    | false => rfl
    | true =>
      cases first with
      | nil => rw [Site.written_nil, List.nil_append]
      | cons number first =>
        cases second with
        | nil => rw [Site.written_nil, List.append_nil]
        | cons other second =>
          simp only [Site.written, List.map_cons, List.map_append, List.cons_append, List.isEmpty_cons, Bool.false_eq_true,
            if_false, Option.getD_some, List.append_assoc]

/-- What is written depends on the container and on the ledger only. -/
theorem Site.ledger_written (site other : Site Bytes Image) (hcontainer : site.host.container = other.host.container)
    (hledger : site.ledger = other.ledger) (numbers : List Nat) :
    (site.written numbers).ledger = (other.written numbers).ledger := by
  obtain ⟨⟨env, files, snapshots, pending, images, container⟩, ledger⟩ := site
  obtain ⟨⟨env', files', snapshots', pending', images', container'⟩, ledger'⟩ := other
  obtain rfl : container = container' := hcontainer
  obtain rfl : ledger = ledger' := hledger
  rcases container with _ | ⟨image, _ | _, role⟩ <;> rfl

/-- The host has become another one, of the same container, and the container may have written meanwhile. -/
def Site.To (site : Site Bytes Image) (host : Host Bytes Image) (after : Site Bytes Image) : Prop :=
  host.container = site.host.container ∧ ∃ numbers, after = ⟨host, (site.written numbers).ledger⟩

namespace Site.To

variable {site middle after : Site Bytes Image} {host host' : Host Bytes Image}

theorem host_eq (h : site.To host after) : after.host = host := by
  obtain ⟨-, numbers, rfl⟩ := h
  rfl

theorem history_eq (h : site.To host after) : after.ledger.history = site.ledger.history := by
  obtain ⟨-, numbers, rfl⟩ := h
  exact site.history_written numbers

theorem artifacts_eq (h : site.To host after) : after.ledger.artifacts = site.ledger.artifacts := by
  obtain ⟨-, numbers, rfl⟩ := h
  exact site.artifacts_written numbers

theorem refl (site : Site Bytes Image) : site.To site.host site := ⟨rfl, [], by rw [Site.written_nil]⟩

theorem written (site : Site Bytes Image) (numbers : List Nat) : site.To site.host (site.written numbers) := by
  refine ⟨rfl, numbers, ?_⟩
  rw [← site.host_written numbers]

theorem trans (h : site.To host middle) (h' : middle.To host' after) : site.To host' after := by
  obtain ⟨hcontainer, numbers, rfl⟩ := h
  obtain ⟨hcontainer', others, rfl⟩ := h'
  refine ⟨hcontainer'.trans hcontainer, numbers ++ others, ?_⟩
  rw [← site.written_written numbers others]
  have hsame : host.container = (site.written numbers).host.container := by rw [site.host_written, hcontainer]
  exact congrArg (Site.mk host') (Site.ledger_written ⟨host, _⟩ _ hsame rfl others)

/-- The host stays as it has become. -/
theorem stay (h : site.To host middle) (h' : middle.To middle.host after) : site.To host after := by
  rw [h.host_eq] at h'
  exact h.trans h'

end Site.To

variable [Utf8 Bytes] [DecidableEq Image] {release : Image → String} {inv : Site Bytes Image → Prop}
  {raises : Error → Site Bytes Image → Prop} {site : Site Bytes Image} {content : Bytes} {file : Managed}

/-! ## Commands -/

omit [Utf8 Bytes] [DecidableEq Image] in
theorem read_or_none (ok : Bool) (content : Option A) :
    (if ok then content else none) = none ∨ (if ok then content else none) = content := by
  cases ok with
  | true => exact .inr rfl
  | false => exact .inl rfl

/-- A command that changes the host, though not the container, if it succeeds and perhaps even if it fails. -/
theorem holds_change {command : Command Bytes Image} {returns : command.Reply → Site Bytes Image → Prop}
    (reply : Bool → command.Reply) (host : Host Bytes Image)
    (hperform : ∀ choice, perform release command choice site =
      (reply ((site.written choice.writes).change choice host).1, ((site.written choice.writes).change choice host).2))
    (hcontainer : host.container = site.host.container) (hinv : inv site)
    (hdone : ∀ ok after, site.To host after → returns (reply ok) after)
    (hfailed : ∀ after, site.To site.host after → returns (reply false) after) :
    Holds (perform release) inv (ask command) returns raises site := by
  refine holds_ask hinv fun choice => ?_
  rw [hperform]
  have hwritten := Site.To.written site choice.writes
  unfold Site.change
  cases choice.ok with
  | true => exact hdone true _ ⟨hcontainer, choice.writes, rfl⟩
  | false =>
    cases choice.effect with
    | true => exact hdone false _ ⟨hcontainer, choice.writes, rfl⟩
    | false => exact hfailed _ hwritten

theorem holds_check {returns : Bool → Site Bytes Image → Prop} (hinv : inv site)
    (h : ∀ ok after, site.To site.host after → returns ok after) :
    Holds (perform release) inv Control.check returns raises site :=
  holds_ask hinv fun choice => h choice.ok _ (Site.To.written site choice.writes)

theorem holds_readEnvironment {returns : Option Bytes → Site Bytes Image → Prop} (hinv : inv site)
    (h : ∀ env after, site.To site.host after → env = none ∨ env = site.host.env → returns env after) :
    Holds (perform release) inv Control.readEnvironment returns raises site := by
  refine holds_ask hinv fun choice => h _ _ (Site.To.written site choice.writes) ?_
  rw [← site.host_written choice.writes]
  exact read_or_none choice.ok _

theorem holds_writeEnvironment {returns : Bool → Site Bytes Image → Prop} (hinv : inv site)
    (hdone : ∀ ok after, site.To { site.host with env := some content } after → returns ok after)
    (hfailed : ∀ after, site.To site.host after → returns false after) :
    Holds (perform release) inv (Control.writeEnvironment content) returns raises site := by
  refine holds_change id { site.host with env := some content } (fun choice => ?_) rfl hinv hdone hfailed
  rw [← site.host_written choice.writes]
  rfl

theorem holds_readFile {returns : Option Bytes → Site Bytes Image → Prop} (hinv : inv site)
    (h : ∀ content after, site.To site.host after → returns content after) :
    Holds (perform release) inv (Control.readFile file) returns raises site :=
  holds_ask hinv fun choice => h _ _ (Site.To.written site choice.writes)

theorem holds_replaceFile {returns : Bool → Site Bytes Image → Prop} (hinv : inv site)
    (hdone : ∀ ok after, site.To { site.host with files := Function.update site.host.files file (some content) } after →
      returns ok after)
    (hfailed : ∀ after, site.To site.host after → returns false after) :
    Holds (perform release) inv (Control.replaceFile file content) returns raises site := by
  refine holds_change id { site.host with files := Function.update site.host.files file (some content) } (fun choice => ?_) rfl hinv hdone hfailed
  rw [← site.host_written choice.writes]
  rfl

theorem holds_takeSnapshot {returns : Bool → Site Bytes Image → Prop} (hinv : inv site)
    (hdone : ∀ content after, site.host.files file = some content →
      site.To { site.host with snapshots := Function.update site.host.snapshots file (some content) } after →
        returns true after)
    (hfailed : ∀ after, site.To site.host after → returns false after) :
    Holds (perform release) inv (Control.takeSnapshot file) returns raises site := by
  refine holds_ask hinv fun choice => ?_
  simp only [perform, site.host_written]
  split
  · exact hfailed _ (Site.To.written site choice.writes)
  · rename_i content hcontent
    split
    · exact hdone content _ hcontent ⟨rfl, choice.writes, rfl⟩
    · exact hfailed _ (Site.To.written site choice.writes)

theorem holds_readSnapshot {returns : Option Bytes → Site Bytes Image → Prop} (hinv : inv site)
    (h : ∀ content after, site.To site.host after → content = none ∨ content = site.host.snapshots file → returns content after) :
    Holds (perform release) inv (Control.readSnapshot file) returns raises site := by
  refine holds_ask hinv fun choice => h _ _ (Site.To.written site choice.writes) ?_
  rw [← site.host_written choice.writes]
  exact read_or_none choice.ok _

theorem holds_dropSnapshot {returns : Bool → Site Bytes Image → Prop} (hinv : inv site)
    (hdone : ∀ ok after, site.To { site.host with snapshots := Function.update site.host.snapshots file none } after →
      returns ok after)
    (hfailed : ∀ after, site.To site.host after → returns false after) :
    Holds (perform release) inv (Control.dropSnapshot file) returns raises site := by
  refine holds_change id { site.host with snapshots := Function.update site.host.snapshots file none } (fun choice => ?_) rfl hinv hdone hfailed
  rw [← site.host_written choice.writes]
  rfl

theorem holds_pendingExists {returns : Bool → Site Bytes Image → Prop} (hinv : inv site)
    (h : ∀ after, site.To site.host after → returns site.host.pending.isSome after) :
    Holds (perform release) inv Control.pendingExists returns raises site := by
  refine holds_ask hinv fun choice => ?_
  show returns (site.written choice.writes).host.pending.isSome _
  rw [Site.host_written]
  exact h _ (Site.To.written site choice.writes)

theorem holds_readPending {returns : Option (Pending Bytes) → Site Bytes Image → Prop} (hinv : inv site)
    (h : ∀ record after, site.To site.host after → record = none ∨ record = site.host.pending → returns record after) :
    Holds (perform release) inv Control.readPending returns raises site := by
  refine holds_ask hinv fun choice => h _ _ (Site.To.written site choice.writes) ?_
  rw [← site.host_written choice.writes]
  exact read_or_none choice.ok _

theorem holds_writePending {record : Pending Bytes} {returns : Bool → Site Bytes Image → Prop} (hinv : inv site)
    (hdone : ∀ ok after, site.To { site.host with pending := some record } after → returns ok after)
    (hfailed : ∀ after, site.To site.host after → returns false after) :
    Holds (perform release) inv (Control.writePending record) returns raises site := by
  refine holds_change id { site.host with pending := some record } (fun choice => ?_) rfl hinv hdone hfailed
  rw [← site.host_written choice.writes]
  rfl

theorem holds_removePending {returns : Bool → Site Bytes Image → Prop} (hinv : inv site)
    (hdone : ∀ ok after, site.To { site.host with pending := none } after → returns ok after)
    (hfailed : ∀ after, site.To site.host after → returns false after) :
    Holds (perform release) inv Control.removePending returns raises site := by
  refine holds_change id { site.host with pending := none } (fun choice => ?_) rfl hinv hdone hfailed
  rw [← site.host_written choice.writes]
  rfl

theorem holds_imageId {tag : String} {returns : Option Image → Site Bytes Image → Prop} (hinv : inv site)
    (h : ∀ image after, site.To site.host after → image = none ∨ image = site.host.images tag → returns image after) :
    Holds (perform release) inv (Control.imageId tag) returns raises site := by
  refine holds_ask hinv fun choice => h _ _ (Site.To.written site choice.writes) ?_
  rw [← site.host_written choice.writes]
  exact read_or_none choice.ok _

/-- The image is that of a container that runs. -/
theorem holds_runningImageId {returns : Option Image → Site Bytes Image → Prop} (hinv : inv site)
    (h : ∀ image after, site.To site.host after →
      (∀ running ∈ image, ∃ role, site.host.container = some ⟨running, true, role⟩) → returns image after) :
    Holds (perform release) inv Control.runningImageId returns raises site := by
  refine holds_ask hinv fun choice => h _ _ (Site.To.written site choice.writes) ?_
  rw [← site.host_written choice.writes]
  intro running hrunning
  rcases read_or_none choice.ok
      (((site.written choice.writes).host.container.filter fun container => container.running).map (·.image)) with hread | hread
  · cases hread.symm.trans hrunning
  · obtain ⟨⟨image, up, role⟩, hcontainer, rfl⟩ := Option.map_eq_some_iff.mp (hread.symm.trans hrunning)
    obtain ⟨hcontainer, hup⟩ := Option.filter_eq_some_iff.mp hcontainer
    exact ⟨role, by rw [hcontainer]; simp only at hup; rw [hup]⟩

theorem holds_probe {returns : Option String → Site Bytes Image → Prop} (hinv : inv site)
    (h : ∀ reply after, site.To site.host after → returns reply after) :
    Holds (perform release) inv Control.probe returns raises site :=
  holds_ask hinv fun choice => h _ _ (Site.To.written site choice.writes)

theorem holds_tagPrevious {tag : String} {returns : Bool → Site Bytes Image → Prop} (hinv : inv site)
    (hdone : ∀ ok after,
      site.To { site.host with images := Function.update site.host.images "previous" (site.host.images tag) } after →
        returns ok after)
    (hfailed : ∀ after, site.To site.host after → returns false after) :
    Holds (perform release) inv (Control.tagPrevious tag) returns raises site := by
  refine holds_change id { site.host with images := Function.update site.host.images "previous" (site.host.images tag) } (fun choice => ?_) rfl hinv hdone hfailed
  rw [← site.host_written choice.writes]
  rfl

theorem holds_loadImage {tag : String} {image : Image} {returns : Bool → Site Bytes Image → Prop} (hinv : inv site)
    (hdone : ∀ ok after, site.To { site.host with images := Function.update site.host.images tag (some image) } after →
      returns ok after)
    (hfailed : ∀ after, site.To site.host after → returns false after) :
    Holds (perform release) inv (Control.loadImage tag image) returns raises site := by
  refine holds_change id { site.host with images := Function.update site.host.images tag (some image) } (fun choice => ?_) rfl hinv hdone hfailed
  rw [← site.host_written choice.writes]
  rfl

theorem holds_extractArchive {compose nginx : Bytes} {returns : Bool → Site Bytes Image → Prop} (hinv : inv site)
    (h : ∀ ok files after, files .nginx = site.host.files .nginx → site.To { site.host with files } after → returns ok after) :
    Holds (perform release) inv (Control.extractArchive compose nginx) returns raises site := by
  refine holds_ask hinv fun choice => ?_
  simp only [perform, site.host_written]
  split
  · refine h true (Function.update (Function.update site.host.files .compose (some compose)) .nginxSource (some nginx)) _ rfl ?_
    exact ⟨rfl, choice.writes, rfl⟩
  · split
    · exact h false site.host.files _ rfl (Site.To.written site choice.writes)
    · rename_i left _
      exact h false (Function.update site.host.files .compose left) _ rfl ⟨rfl, choice.writes, rfl⟩

/-- The same host with another container. -/
def Site.withContainer (site : Site Bytes Image) (container : Option (Container Image)) : Site Bytes Image :=
  { site with host := { site.host with container } }

/-- Something has happened. -/
def Site.note (site : Site Bytes Image) (happening : Happening) : Site Bytes Image :=
  { site with ledger := site.ledger.note happening }

theorem holds_changeContainer {command : Command Bytes Image} {returns : command.Reply → Site Bytes Image → Prop}
    (reply : Bool → command.Reply) (container : Option (Container Image))
    (hperform : ∀ choice, perform release command choice site =
      (reply ((site.written choice.writes).change choice { site.host with container }).1,
        ((site.written choice.writes).change choice { site.host with container }).2))
    (hinv : inv site) (hdone : ∀ ok middle, site.To site.host middle → returns (reply ok) (middle.withContainer container))
    (hfailed : ∀ after, site.To site.host after → returns (reply false) after) :
    Holds (perform release) inv (ask command) returns raises site := by
  refine holds_ask hinv fun choice => ?_
  rw [hperform, ← site.host_written choice.writes]
  have hwritten := Site.To.written site choice.writes
  unfold Site.change
  cases choice.ok with
  | true => exact hdone true _ hwritten
  | false =>
    cases choice.effect with
    | true => exact hdone false _ hwritten
    | false => exact hfailed _ hwritten

theorem holds_stop {returns : Bool → Site Bytes Image → Prop} (hinv : inv site)
    (hdone : ∀ ok middle, site.To site.host middle →
      returns ok (middle.withContainer (site.host.container.map fun container => { container with running := false })))
    (hfailed : ∀ after, site.To site.host after → returns false after) :
    Holds (perform release) inv Control.stop returns raises site := by
  refine holds_changeContainer id (site.host.container.map fun container : Container Image => { container with running := false })
    (fun choice => ?_) hinv hdone hfailed
  rw [← site.host_written choice.writes]
  rfl

theorem holds_rm {returns : Bool → Site Bytes Image → Prop} (hinv : inv site)
    (hdone : ∀ ok middle, site.To site.host middle → returns ok (middle.withContainer none))
    (hfailed : ∀ after, site.To site.host after → returns false after) :
    Holds (perform release) inv Control.rm returns raises site := by
  refine holds_changeContainer id none (fun choice => ?_) hinv hdone hfailed
  rw [← site.host_written choice.writes]
  rfl

theorem holds_up {role : Role} {returns : Bool → Site Bytes Image → Prop} (hinv : inv site)
    (h : ∀ choice middle, site.To site.host middle → returns (middle.up role choice).1 (middle.up role choice).2) :
    Holds (perform release) inv (Control.up role) returns raises site :=
  holds_ask hinv fun choice => h choice _ (Site.To.written site choice.writes)

/-- `up` changes the container only, and it succeeds only with one that runs the image of the environment's tag. -/
theorem Site.up_host (site : Site Bytes Image) (role : Role) (choice : Choice Bytes) :
    (∃ container, (site.up role choice).2.host = { site.host with container }) ∧
      ((site.up role choice).1 = true → ∃ image role', (imageTag site.host.env).bind site.host.images = some image ∧
        (site.up role choice).2.host.container = some ⟨image, true, role'⟩) := by
  unfold Site.up
  cases himage : (imageTag site.host.env).bind site.host.images with
  | none => exact ⟨⟨_, rfl⟩, fun h => (by cases h)⟩
  | some image =>
    dsimp only
    split
    · split
      · rename_i container _ hcontainer hsame
        exact ⟨⟨_, rfl⟩, fun _ => ⟨image, container.role, rfl, by rw [← hsame]⟩⟩
      · exact ⟨⟨_, rfl⟩, fun _ => ⟨image, role, rfl, rfl⟩⟩
    · exact ⟨⟨_, rfl⟩, fun _ => ⟨image, role, rfl, rfl⟩⟩
    · exact ⟨⟨_, rfl⟩, fun _ => ⟨image, role, rfl, rfl⟩⟩
    all_goals exact ⟨⟨_, rfl⟩, fun h => (by cases h)⟩

theorem holds_backupDatabase {returns : Option (Option (List Write)) → Site Bytes Image → Prop} (hinv : inv site)
    (hdone : ∀ middle, site.To site.host middle → middle.ledger.artifacts = false →
      returns (some middle.ledger.database) (middle.note .backedUp))
    (hfailed : ∀ after, site.To site.host after → returns none after) :
    Holds (perform release) inv Control.backupDatabase returns raises site := by
  refine holds_ask hinv fun choice => ?_
  have hwritten := Site.To.written site choice.writes
  simp only [perform]
  split
  · rename_i hok
    rw [Bool.and_eq_true, Bool.not_eq_true'] at hok
    exact hdone _ hwritten hok.2
  · exact hfailed _ hwritten

theorem holds_restoreDatabase {backup : Option (List Write)} {returns : Bool → Site Bytes Image → Prop} (hinv : inv site)
    (h : ∀ choice middle, site.To site.host middle →
      returns (middle.ledger.restore backup choice).1 { middle with ledger := (middle.ledger.restore backup choice).2 }) :
    Holds (perform release) inv (Control.restoreDatabase backup) returns raises site :=
  holds_ask hinv fun choice => h choice.restore _ (Site.To.written site choice.writes)

theorem holds_noteUnproved {returns : Unit → Site Bytes Image → Prop} (hinv : inv site)
    (h : ∀ middle, site.To site.host middle → returns () (middle.note .unproved)) :
    Holds (perform release) inv Control.noteUnproved returns raises site :=
  holds_ask hinv fun choice => h _ (Site.To.written site choice.writes)

/-! ## Functions -/

theorem holds_require {error : Error} {operation : Control Bytes Image Bool} {returns : Unit → Site Bytes Image → Prop}
    (h : Holds (perform release) inv operation
      (fun ok after => (ok = true → returns () after) ∧ (ok = false → raises error after)) raises site) :
    Holds (perform release) inv (Control.require error operation) returns raises site := by
  refine holds_bind (h.mono (fun ok after hafter => ?_) fun _ _ hraise => hraise)
  cases ok with
  | true => exact hafter.1 rfl
  | false => exact hafter.2 rfl

theorem holds_requireCheck {error : Error} {returns : Unit → Site Bytes Image → Prop} (hinv : inv site)
    (hdone : ∀ after, site.To site.host after → returns () after)
    (hfailed : ∀ after, site.To site.host after → raises error after) :
    Holds (perform release) inv (Control.require error Control.check) returns raises site :=
  holds_require (holds_check hinv fun _ after hafter => ⟨fun _ => hdone after hafter, fun _ => hfailed after hafter⟩)

theorem holds_ensureNoPendingRelease {returns : Unit → Site Bytes Image → Prop} (hinv : inv site)
    (hreturn : ∀ after, site.To site.host after → site.host.pending = none → returns () after)
    (hraise : ∀ error after, site.To site.host after → raises error after) :
    Holds (perform release) inv ensureNoPendingRelease returns raises site := by
  refine holds_bind (holds_pendingExists hinv fun after hafter => ?_)
  cases hpending : site.host.pending with
  | none => exact hreturn after hafter hpending
  | some record => exact hraise _ after hafter

/-! ### Snapshots -/

/-- Some of the snapshots may have gone. -/
def Site.Cleaned (site after : Site Bytes Image) : Prop := ∃ snapshots, site.To { site.host with snapshots } after

omit [Utf8 Bytes] [DecidableEq Image] in
theorem Site.Cleaned.of_to {after : Site Bytes Image} (h : site.To site.host after) : site.Cleaned after :=
  ⟨site.host.snapshots, h⟩

omit [Utf8 Bytes] [DecidableEq Image] in
theorem Site.Cleaned.trans {middle after : Site Bytes Image} (h : site.Cleaned middle) (h' : middle.Cleaned after) :
    site.Cleaned after := by
  obtain ⟨snapshots, hmiddle⟩ := h
  obtain ⟨snapshots', hafter⟩ := h'
  rw [hmiddle.host_eq] at hafter
  exact ⟨snapshots', hmiddle.trans hafter⟩

theorem holds_dropSnapshots {returns : Bool → Site Bytes Image → Prop} (files : List Managed)
    (hinv : ∀ after, site.Cleaned after → inv after) (h : ∀ ok after, site.Cleaned after → returns ok after) :
    Holds (perform release) inv (dropSnapshots files) returns raises site := by
  induction files generalizing site returns with
  | nil => exact h true site (.of_to (.refl site))
  | cons file files ih =>
    have hdropped : ∀ ok after, site.Cleaned after →
        Holds (perform release) inv (do let cleaned ← dropSnapshots files; pure (ok && cleaned)) returns raises after := by
      intro ok after hafter
      refine holds_bind (ih (fun later hlater => hinv later (hafter.trans hlater)) fun cleaned later hlater => ?_)
      exact h _ later (hafter.trans hlater)
    refine holds_bind (holds_dropSnapshot (hinv site (.of_to (.refl site))) ?_ ?_)
    · intro ok after hafter
      exact hdropped ok after ⟨_, hafter⟩
    · intro after hafter
      exact hdropped false after (.of_to hafter)

theorem holds_cleanupSnapshotPaths {returns : Bool → Site Bytes Image → Prop} (files : List Managed)
    (hinv : ∀ after, site.Cleaned after → inv after) (h : ∀ ok after, site.Cleaned after → returns ok after) :
    Holds (perform release) inv (cleanupSnapshotPaths files) returns raises site := by
  refine holds_ite (fun _ => h true site (.of_to (.refl site))) fun _ => ?_
  refine holds_bind (holds_dropSnapshots files hinv fun cleaned after hafter => ?_)
  refine holds_bind (holds_check (hinv after hafter) fun synced later hlater => ?_)
  exact h _ later (hafter.trans (.of_to hlater))

/-- The file is that of its snapshot. -/
def Site.Replaced (site : Site Bytes Image) (file : Managed) (after : Site Bytes Image) : Prop :=
  ∃ content, site.host.snapshots file = some content ∧
    site.To { site.host with files := Function.update site.host.files file (some content) } after

theorem holds_restoreRuntimeFile {returns : Bool → Site Bytes Image → Prop}
    (hinv : ∀ after, site.To site.host after ∨ site.Replaced file after → inv after)
    (hdone : ∀ after, site.Replaced file after → returns true after)
    (hfailed : ∀ after, site.To site.host after ∨ site.Replaced file after → returns false after)
    (hraise : ∀ after, site.To site.host after ∨ site.Replaced file after → raises .os after) :
    Holds (perform release) inv (restoreRuntimeFile file) returns raises site := by
  refine holds_bind (holds_readSnapshot (hinv site (.inl (.refl site))) fun content after hafter hread => ?_)
  cases content with
  | none => exact hfailed after (.inl hafter)
  | some content =>
    have hsnapshot : site.host.snapshots file = some content := by
      rcases hread with hread | hread
      · cases hread
      · exact hread.symm
    have htidy : ∀ replaced middle, (site.To site.host middle ∧ replaced = false) ∨ site.Replaced file middle →
        Holds (perform release) inv (do Control.require .os Control.check; pure replaced) returns raises middle := by
      intro replaced middle hmiddle
      have hlater : ∀ later, middle.To middle.host later →
          (site.To site.host later ∧ replaced = false) ∨ site.Replaced file later := by
        intro later hlater
        rcases hmiddle with ⟨hsame, hreplaced⟩ | ⟨content, hcontent, hmiddle⟩
        · exact .inl ⟨hsame.stay hlater, hreplaced⟩
        · exact .inr ⟨content, hcontent, hmiddle.stay hlater⟩
      refine holds_bind (holds_requireCheck (hinv middle (hmiddle.imp_left And.left)) ?_ ?_)
      · intro later hto
        rcases hlater later hto with ⟨hsame, rfl⟩ | hreplaced
        · exact hfailed later (.inl hsame)
        · cases replaced with
          | true => exact hdone later hreplaced
          | false => exact hfailed later (.inr hreplaced)
      · intro later hto
        exact hraise later ((hlater later hto).imp_left And.left)
    refine holds_bind (holds_replaceFile (hinv after (.inl hafter)) ?_ ?_)
    · intro replaced later hlater
      rw [hafter.host_eq] at hlater
      exact htidy replaced later (.inr ⟨content, hsnapshot, hafter.trans hlater⟩)
    · intro later hlater
      exact htidy false later (.inl ⟨hafter.stay hlater, rfl⟩)

/-- Nginx is only reloaded with a configuration that was put back. -/
theorem holds_restoreNginx {returns : Bool → Site Bytes Image → Prop}
    (hinv : ∀ after, site.To site.host after ∨ site.Replaced .nginx after → inv after)
    (hdone : ∀ after, site.Replaced .nginx after → returns true after)
    (hfailed : ∀ after, site.To site.host after ∨ site.Replaced .nginx after → returns false after)
    (hraise : ∀ after, site.To site.host after ∨ site.Replaced .nginx after → raises .os after) :
    Holds (perform release) inv restoreNginx returns raises site := by
  refine holds_bind (holds_restoreRuntimeFile hinv ?_ hfailed hraise)
  rintro after ⟨content, hcontent, hafter⟩
  refine holds_bind (holds_check (hinv after (.inr ⟨content, hcontent, hafter⟩)) fun valid later hlater => ?_)
  have hreplaced : site.Replaced .nginx later := ⟨content, hcontent, hafter.stay hlater⟩
  cases valid with
  | false => exact hfailed later (.inr hreplaced)
  | true =>
    refine holds_check (hinv later (.inr hreplaced)) fun reloaded last hlast => ?_
    have hlast : site.Replaced .nginx last := ⟨content, hcontent, (hafter.stay hlater).stay hlast⟩
    cases reloaded with
    | true => exact hdone last hlast
    | false => exact hfailed last (.inr hlast)

theorem holds_tryRestoreEnvironment {previous : Bytes} {returns : Bool → Site Bytes Image → Prop} (hinv : inv site)
    (hdone : ∀ ok after, site.To { site.host with env := some previous } after → returns ok after)
    (hfailed : ∀ after, site.To site.host after → returns false after) :
    Holds (perform release) inv (tryRestoreEnvironment previous) returns raises site := by
  refine holds_tryCatch (holds_bind (holds_require (holds_writeEnvironment hinv ?_ ?_)))
  · intro ok after hafter
    exact ⟨fun _ => hdone true after hafter, fun _ => hdone false after hafter⟩
  · intro after hafter
    exact ⟨fun h => (by cases h), fun _ => hfailed after hafter⟩

/-- Some of the environment, the Compose and the Nginx file have been put back. -/
def Site.Restoring (site : Site Bytes Image) (previous : Bytes) (after : Site Bytes Image) : Prop :=
  ∃ env files, (env = site.host.env ∨ env = some previous) ∧
    (∀ file, files file = site.host.files file ∨ files file = site.host.snapshots file) ∧
      site.To { site.host with env, files } after

/-- All of them have. -/
def Site.Restored (site : Site Bytes Image) (previous : Bytes) (after : Site Bytes Image) : Prop :=
  ∃ files, files .compose = site.host.snapshots .compose ∧ files .nginx = site.host.snapshots .nginx ∧
    files .nginxSource = site.host.files .nginxSource ∧ site.To { site.host with env := some previous, files } after

section Restoring

omit [Utf8 Bytes] [DecidableEq Image]

variable {previous : Bytes} {middle after : Site Bytes Image}

theorem Site.Restoring.stay (h : site.Restoring previous middle) (h' : middle.To middle.host after) :
    site.Restoring previous after := by
  obtain ⟨env, files, henv, hfiles, hmiddle⟩ := h
  exact ⟨env, files, henv, hfiles, hmiddle.stay h'⟩

theorem Site.Restoring.replaced (h : site.Restoring previous middle) (h' : middle.Replaced file after) :
    site.Restoring previous after := by
  obtain ⟨env, files, henv, hfiles, hmiddle⟩ := h
  obtain ⟨content, hcontent, hafter⟩ := h'
  rw [hmiddle.host_eq] at hcontent hafter
  refine ⟨env, Function.update files file (some content), henv, fun other => ?_, hmiddle.trans hafter⟩
  by_cases hother : other = file
  · subst hother
    rw [Function.update_self]
    exact .inr hcontent.symm
  · rw [Function.update_of_ne hother]
    exact hfiles other

theorem Site.Restoring.step (h : site.Restoring previous middle)
    (h' : middle.To middle.host after ∨ middle.Replaced file after) : site.Restoring previous after := by
  rcases h' with h' | h'
  · exact h.stay h'
  · exact h.replaced h'

theorem Site.Restored.restoring (h : site.Restored previous after) : site.Restoring previous after := by
  obtain ⟨files, hcompose, hnginx, hsource, hafter⟩ := h
  refine ⟨some previous, files, .inr rfl, fun file => ?_, hafter⟩
  cases file with
  | compose => exact .inr hcompose
  | nginx => exact .inr hnginx
  | nginxSource => exact .inl hsource

theorem Site.Restored.stay (h : site.Restored previous middle) (h' : middle.To middle.host after) :
    site.Restored previous after := by
  obtain ⟨files, hcompose, hnginx, hsource, hmiddle⟩ := h
  exact ⟨files, hcompose, hnginx, hsource, hmiddle.stay h'⟩

end Restoring

/-- The three files are put back, one after the other, and the rest of the function is told whether all of that went well. -/
theorem holds_restoreFiles {previous : Bytes} {returns : A → Site Bytes Image → Prop} {f : Bool → Control Bytes Image A}
    (hinv : ∀ after, site.Restoring previous after → inv after)
    (hdone : ∀ after, site.Restored previous after → Holds (perform release) inv (f true) returns raises after)
    (hfailed : ∀ after, site.Restoring previous after → Holds (perform release) inv (f false) returns raises after)
    (hraise : ∀ after, site.Restoring previous after → raises .os after) :
    Holds (perform release) inv (do
      let environmentRestored ← tryRestoreEnvironment previous
      let composeRestored ← restoreCompose
      let nginxRestored ← restoreNginx
      f (environmentRestored && composeRestored && nginxRestored)) returns raises site := by
  -- the last step: of what was put back before, `first` tells whether that was all
  have hnginx : ∀ first middle, site.Restoring previous middle →
      (first = true → ∃ content, site.host.snapshots .compose = some content ∧ site.To { site.host with
        env := some previous, files := Function.update site.host.files .compose (some content) } middle) →
      Holds (perform release) inv (do let nginxRestored ← restoreNginx; f (first && nginxRestored)) returns raises middle := by
    intro first middle hmiddle hfirst
    refine holds_bind (holds_restoreNginx (fun after hafter => hinv after (hmiddle.step hafter)) ?_ ?_
      fun after hafter => hraise after (hmiddle.step hafter))
    · intro after hafter
      cases first with
      | false => exact hfailed after (hmiddle.replaced hafter)
      | true =>
        obtain ⟨content, hcontent, hto⟩ := hfirst rfl
        obtain ⟨nginx, hsnapshot, hlast⟩ := hafter
        rw [hto.host_eq] at hsnapshot hlast
        refine hdone after ⟨Function.update (Function.update site.host.files .compose (some content)) .nginx (some nginx), ?_, ?_,
          rfl, hto.trans hlast⟩
        · rw [Function.update_of_ne (by decide), Function.update_self, hcontent]
        · rw [Function.update_self]
          exact hsnapshot.symm
    · intro after hafter
      rw [Bool.and_false]
      exact hfailed after (hmiddle.step hafter)
  have hcompose : ∀ first middle, site.Restoring previous middle →
      (first = true → site.To { site.host with env := some previous } middle) →
      Holds (perform release) inv (do
        let composeRestored ← restoreCompose
        let nginxRestored ← restoreNginx
        f (first && composeRestored && nginxRestored)) returns raises middle := by
    intro first middle hmiddle hfirst
    refine holds_bind (holds_restoreRuntimeFile (fun after hafter => hinv after (hmiddle.step hafter)) ?_ ?_
      fun after hafter => hraise after (hmiddle.step hafter))
    · intro after hafter
      refine hnginx _ after (hmiddle.replaced hafter) fun hfirst' => ?_
      have hto := hfirst (by rwa [Bool.and_true] at hfirst')
      obtain ⟨content, hcontent, hlast⟩ := hafter
      rw [hto.host_eq] at hcontent hlast
      exact ⟨content, hcontent, hto.trans hlast⟩
    · intro after hafter
      refine hnginx _ after (hmiddle.step hafter) fun hfirst' => ?_
      rw [Bool.and_false] at hfirst'
      cases hfirst'
  have hstart : site.Restoring previous site := ⟨_, _, .inl rfl, fun _ => .inl rfl, .refl site⟩
  refine holds_bind (holds_tryRestoreEnvironment (hinv site hstart) ?_ ?_)
  · intro ok after hafter
    exact hcompose ok after ⟨_, _, .inr rfl, fun _ => .inl rfl, hafter⟩ fun _ => hafter
  · intro after hafter
    exact hcompose false after ⟨_, _, .inl rfl, fun _ => .inl rfl, hafter⟩ fun h => (by cases h)

/-! ### The marker -/

theorem holds_persistPendingRelease {preflight : ProductionPreflight Bytes} {version : String}
    {returns : Unit → Site Bytes Image → Prop} (hinv : ∀ after, site.To site.host after → inv after)
    (hdone : ∀ after, site.To { site.host with pending := some (preflight.record version) } after → returns () after)
    (hraise : ∀ error after,
      site.To site.host after ∨ site.To { site.host with pending := some (preflight.record version) } after →
        raises error after) :
    Holds (perform release) inv (persistPendingRelease preflight version false) returns raises site := by
  refine holds_bind (holds_requireCheck (hinv site (.refl site)) ?_ fun after hafter => hraise _ after (.inl hafter))
  intro after hafter
  refine holds_require (holds_writePending (hinv after hafter) ?_ ?_)
  · intro ok later hlater
    rw [hafter.host_eq] at hlater
    exact ⟨fun _ => hdone later (hafter.trans hlater), fun _ => hraise _ later (.inr (hafter.trans hlater))⟩
  · intro later hlater
    exact ⟨fun h => (by cases h), fun _ => hraise _ later (.inl (hafter.stay hlater))⟩

/-- A marker is written where none was. -/
theorem holds_writePendingRelease {preflight : ProductionPreflight Bytes} {version : String}
    {returns : Unit → Site Bytes Image → Prop} (hinv : ∀ after, site.To site.host after → inv after)
    (hdone : ∀ after, site.To { site.host with pending := some (preflight.record version) } after → returns () after)
    (hraise : ∀ error after,
      site.To site.host after ∨ site.To { site.host with pending := some (preflight.record version) } after →
        raises error after) :
    Holds (perform release) inv (writePendingRelease preflight version) returns raises site := by
  refine holds_bind (holds_ensureNoPendingRelease (hinv site (.refl site)) ?_ fun error after hafter =>
    hraise error after (.inl hafter))
  intro after hafter _
  refine holds_persistPendingRelease (fun later hlater => hinv later (hafter.stay hlater)) ?_ ?_
  · intro later hlater
    rw [hafter.host_eq] at hlater
    exact hdone later (hafter.trans hlater)
  · rintro error later (hlater | hlater)
    · exact hraise error later (.inl (hafter.stay hlater))
    · rw [hafter.host_eq] at hlater
      exact hraise error later (.inr (hafter.trans hlater))

theorem holds_pendingSnapshotPath {message : String} {returns : Unit → Site Bytes Image → Prop} (hinv : inv site)
    (hreturn : ∀ after, site.To site.host after → returns () after)
    (hraise : ∀ error after, site.To site.host after → raises error after) :
    Holds (perform release) inv (pendingSnapshotPath file message) returns raises site := by
  refine holds_bind (holds_readSnapshot hinv fun content after hafter _ => ?_)
  exact holds_ite (fun _ => hreturn after hafter) fun _ => hraise _ after hafter

theorem holds_loadPendingRelease {version : String} {returns : ProductionPreflight Bytes → Site Bytes Image → Prop}
    (hinv : ∀ after, site.To site.host after → inv after)
    (hreturn : ∀ record after, site.To site.host after → site.host.pending = some record →
      record.validate version = .ok () → returns (record.preflight version) after)
    (hraise : ∀ error after, site.To site.host after → raises error after) :
    Holds (perform release) inv (loadPendingRelease version) returns raises site := by
  have hstart := Site.To.refl site
  refine holds_ite (fun _ => hraise _ site hstart) fun _ => ?_
  refine holds_bind (holds_readPending (hinv site hstart) fun record after hafter hread => ?_)
  cases record with
  | none => exact hraise _ after hafter
  | some record =>
    have hpending : site.host.pending = some record := by
      rcases hread with hread | hread
      · cases hread
      · exact hread.symm
    dsimp only
    generalize hvalid : record.validate version = valid
    cases valid with
    | error error => exact hraise _ after hafter
    | ok _ =>
      refine holds_bind (holds_requireCheck (hinv after hafter) ?_ fun later hlater => hraise _ later (hafter.stay hlater))
      intro backup hbackup
      replace hbackup := hafter.stay hbackup
      refine holds_bind (holds_pendingSnapshotPath (hinv backup hbackup) ?_ fun error later hlater =>
        hraise error later (hbackup.stay hlater))
      intro nginx hnginx
      replace hnginx := hbackup.stay hnginx
      refine holds_bind (holds_pendingSnapshotPath (hinv nginx hnginx) ?_ fun error later hlater =>
        hraise error later (hnginx.stay hlater))
      intro compose hcompose
      exact hreturn record compose (hnginx.stay hcompose) hpending hvalid

omit [DecidableEq Image] in
theorem Pending.validate_ok {record : Pending Bytes} {version : String} (h : record.validate version = .ok ()) :
    record.releaseVersion = version := by
  unfold Pending.validate at h
  by_cases hversion : record.releaseVersion = version
  · exact hversion
  · have hdiffers : (record.releaseVersion != version) = true := by rw [bne_iff_ne]; exact hversion
    simp only [hdiffers] at h
    cases h

theorem holds_markPendingDatabaseMayHaveChanged {version : String} {returns : Unit → Site Bytes Image → Prop}
    (hinv : ∀ after, site.To site.host after → inv after)
    (hdone : ∀ record after, site.host.pending = some record →
      site.To { site.host with pending := some { record with databaseMayHaveChanged := true } } after → returns () after)
    (hraise : ∀ error after, site.To site.host after ∨ (∃ record, site.host.pending = some record ∧
      site.To { site.host with pending := some { record with databaseMayHaveChanged := true } } after) → raises error after) :
    Holds (perform release) inv (markPendingDatabaseMayHaveChanged version) returns raises site := by
  refine holds_bind (holds_loadPendingRelease hinv ?_ fun error after hafter => hraise error after (.inl hafter))
  intro record after hafter hpending hvalid
  have hversion := Pending.validate_ok hvalid
  refine holds_ite (fun hchanged => ?_) fun _ => ?_
  · have hsame : site.host = { site.host with pending := some { record with databaseMayHaveChanged := true } } := by
      have hrecord : record = { record with databaseMayHaveChanged := true } := by rw [← hchanged]; rfl
      rw [← hrecord, ← hpending]
    rw [hsame] at hafter
    exact hdone record after hpending hafter
  · refine holds_persistPendingRelease (fun later hlater => hinv later (hafter.stay hlater)) ?_ ?_
    · intro later hlater
      rw [hafter.host_eq] at hlater
      refine hdone record later hpending (hafter.trans ?_)
      rwa [← hversion] at hlater
    · rintro error later (hlater | hlater)
      · exact hraise error later (.inl (hafter.stay hlater))
      · rw [hafter.host_eq] at hlater
        refine hraise error later (.inr ⟨record, hpending, hafter.trans ?_⟩)
        rwa [← hversion] at hlater

theorem holds_markPendingRollbackDatabaseRestored {version : String} {returns : Unit → Site Bytes Image → Prop}
    (hinv : ∀ after, site.To site.host after → inv after)
    (hdone : ∀ record after, site.host.pending = some record →
      site.To { site.host with pending := some { record with rollbackDatabaseRestored := true } } after → returns () after)
    (hraise : ∀ error after, site.To site.host after ∨ (∃ record, site.host.pending = some record ∧
      site.To { site.host with pending := some { record with rollbackDatabaseRestored := true } } after) → raises error after) :
    Holds (perform release) inv (markPendingRollbackDatabaseRestored version) returns raises site := by
  refine holds_bind (holds_loadPendingRelease hinv ?_ fun error after hafter => hraise error after (.inl hafter))
  intro record after hafter hpending hvalid
  have hversion := Pending.validate_ok hvalid
  refine holds_ite (fun _ => hraise _ after (.inl hafter)) fun _ => holds_ite (fun hrestored => ?_) fun _ => ?_
  · have hsame : site.host = { site.host with pending := some { record with rollbackDatabaseRestored := true } } := by
      have hrecord : record = { record with rollbackDatabaseRestored := true } := by rw [← hrestored]; rfl
      rw [← hrecord, ← hpending]
    rw [hsame] at hafter
    exact hdone record after hpending hafter
  · refine holds_persistPendingRelease (fun later hlater => hinv later (hafter.stay hlater)) ?_ ?_
    · intro later hlater
      rw [hafter.host_eq] at hlater
      refine hdone record later hpending (hafter.trans ?_)
      rwa [← hversion] at hlater
    · rintro error later (hlater | hlater)
      · exact hraise error later (.inl (hafter.stay hlater))
      · rw [hafter.host_eq] at hlater
        refine hraise error later (.inr ⟨record, hpending, hafter.trans ?_⟩)
        rwa [← hversion] at hlater

/-- The marker has gone, and perhaps some of the snapshots with it. -/
def Site.Closed (site after : Site Bytes Image) : Prop :=
  ∃ snapshots, site.To { site.host with pending := none, snapshots } after

omit [Utf8 Bytes] [DecidableEq Image] in
theorem Site.Closed.cleaned {middle after : Site Bytes Image} (h : site.Closed middle) (h' : middle.Cleaned after) :
    site.Closed after := by
  obtain ⟨snapshots, hmiddle⟩ := h
  obtain ⟨snapshots', hafter⟩ := h'
  rw [hmiddle.host_eq] at hafter
  exact ⟨snapshots', hmiddle.trans hafter⟩

theorem holds_closePendingRelease {returns : Unit → Site Bytes Image → Prop} (hinv : inv site)
    (hclosed : ∀ after, site.Closed after → inv after) (hdone : ∀ after, site.Closed after → returns () after)
    (hraise : ∀ error after, site.To site.host after ∨ site.Closed after → raises error after) :
    Holds (perform release) inv closePendingRelease returns raises site := by
  refine holds_bind (holds_require (holds_removePending hinv ?_ ?_))
  · intro ok after hafter
    have hafter : site.Closed after := ⟨site.host.snapshots, hafter⟩
    refine ⟨fun _ => ?_, fun _ => hraise _ after (.inr hafter)⟩
    refine holds_bind (holds_requireCheck (hclosed after hafter) ?_ fun later hlater =>
      hraise _ later (.inr (hafter.cleaned (.of_to hlater))))
    intro later hlater
    replace hlater := hafter.cleaned (.of_to hlater)
    refine holds_bind (holds_cleanupSnapshotPaths snapshotFiles (fun last hlast => hclosed last (hlater.cleaned hlast)) ?_)
    intro cleaned last hlast
    exact holds_ite (fun _ => hdone last (hlater.cleaned hlast)) fun _ => hraise _ last (.inr (hlater.cleaned hlast))
  · intro after hafter
    exact ⟨fun h => (by cases h), fun _ => hraise _ after (.inl hafter)⟩

/-! ### Readiness and identity -/

theorem holds_waitForReadiness {expectedRelease : String} {returns : Bool → Site Bytes Image → Prop} (attempts : Nat)
    (hinv : ∀ after, site.To site.host after → inv after) (h : ∀ ready after, site.To site.host after → returns ready after) :
    Holds (perform release) inv (waitForReadiness expectedRelease attempts) returns raises site := by
  induction attempts generalizing site with
  | zero => exact h false site (.refl site)
  | succ attempts ih =>
    refine holds_bind (holds_probe (hinv site (.refl site)) fun reply after hafter => ?_)
    refine holds_ite (fun _ => h true after hafter) fun _ => ?_
    exact ih (fun later hlater => hinv later (hafter.stay hlater)) fun ready later hlater => h ready later (hafter.stay hlater)

theorem holds_waitForProductionReady {expectedRelease : String} {returns : Unit → Site Bytes Image → Prop}
    (hinv : ∀ after, site.To site.host after → inv after) (hreturn : ∀ after, site.To site.host after → returns () after)
    (hraise : ∀ error after, site.To site.host after → raises error after) :
    Holds (perform release) inv (waitForProductionReady expectedRelease) returns raises site := by
  refine holds_bind (holds_waitForReadiness readinessAttempts hinv fun ready after hafter => ?_)
  refine holds_ite (fun _ => hreturn after hafter) fun _ => ?_
  refine holds_bind (holds_requireCheck (hinv after hafter) ?_ fun later hlater => hraise _ later (hafter.stay hlater))
  intro later hlater
  replace hlater := hafter.stay hlater
  refine holds_bind (holds_requireCheck (hinv later hlater) ?_ fun last hlast => hraise _ last (hlater.stay hlast))
  intro last hlast
  exact hraise _ last (hlater.stay hlast)

/-- The image that the version names is that of the container, which runs. -/
def Host.Runs (host : Host Bytes Image) (version : String) : Prop :=
  ∃ image role, host.images version = some image ∧ host.container = some ⟨image, true, role⟩

theorem holds_runningProductionReleaseMatches {version : String} {returns : Bool → Site Bytes Image → Prop}
    (hinv : ∀ after, site.To site.host after → inv after)
    (hdone : ∀ after, site.To site.host after → site.host.Runs version → returns true after)
    (hfailed : ∀ after, site.To site.host after → returns false after) :
    Holds (perform release) inv (runningProductionReleaseMatches version) returns raises site := by
  refine holds_ite (fun _ => hfailed site (.refl site)) fun _ => ?_
  refine holds_bind (holds_bind (holds_probe (hinv site (.refl site)) fun current after hafter => ?_))
  refine holds_ite (fun _ => ?_) fun _ => hfailed after hafter
  refine holds_bind (holds_imageId (hinv after hafter) fun expected later hlater hread => ?_)
  rw [hafter.host_eq] at hread
  replace hlater := hafter.stay hlater
  cases expected with
  | none => exact hfailed later hlater
  | some expected =>
    refine holds_bind (holds_runningImageId (hinv later hlater) fun running last hlast hruns => ?_)
    rw [hlater.host_eq] at hruns
    replace hlast := hlater.stay hlast
    by_cases hsame : running = some expected
    · have himage : site.host.images version = some expected := by
        rcases hread with hread | hread
        · cases hread
        · exact hread.symm
      obtain ⟨role, hcontainer⟩ := hruns expected hsame
      show returns (decide (running = some expected)) last
      rw [decide_eq_true hsame]
      exact hdone last hlast ⟨expected, role, himage, hcontainer⟩
    · show returns (decide (running = some expected)) last
      rw [decide_eq_false hsame]
      exact hfailed last hlast

theorem holds_productionRuntimeMatches {version : String} {returns : Bool → Site Bytes Image → Prop}
    (hinv : ∀ after, site.To site.host after → inv after)
    (hdone : ∀ after, site.To site.host after → site.host.Runs version → returns true after)
    (hfailed : ∀ after, site.To site.host after → returns false after) :
    Holds (perform release) inv (productionRuntimeMatches version) returns raises site := by
  refine holds_bind (holds_runningProductionReleaseMatches hinv ?_ hfailed)
  intro after hafter hruns
  refine holds_bind (holds_readEnvironment (hinv after hafter) fun env later hlater _ => ?_)
  replace hlater := hafter.stay hlater
  by_cases htag : imageTag env = some version
  · show returns (decide (imageTag env = some version)) later
    rw [decide_eq_true htag]
    exact hdone later hlater hruns
  · show returns (decide (imageTag env = some version)) later
    rw [decide_eq_false htag]
    exact hfailed later hlater

/-- The previous runtime goes on unchanged, under the files that were put back. -/
theorem holds_restorePreRuntimeState {preflight : ProductionPreflight Bytes} {returns : Unit → Site Bytes Image → Prop}
    (hinv : ∀ after, site.Restoring preflight.previousEnv after → inv after)
    (hdone : ∀ after, site.Restored preflight.previousEnv after → site.host.Runs preflight.previousTag → returns () after)
    (hraise : ∀ error after, site.Restoring preflight.previousEnv after → raises error after) :
    Holds (perform release) inv (restorePreRuntimeState preflight) returns raises site := by
  refine holds_restoreFiles (f := fun restored => do
    let runtimeUnchanged ← if restored then productionRuntimeMatches preflight.previousTag else pure false
    if runtimeUnchanged then pure ()
    else
      throw (.exit ("pre-runtime production abort could not prove the previous runtime unchanged; " ++
        "manual intervention is required"))) hinv ?_ ?_ (hraise _)
  · intro after hafter
    have hlater : ∀ later, after.To after.host later → site.Restored preflight.previousEnv later := fun _ => hafter.stay
    refine holds_bind (holds_productionRuntimeMatches (fun later hto => hinv later (hlater later hto).restoring) ?_ ?_)
    · rintro later hto ⟨image, role, himage, hcontainer⟩
      obtain ⟨files, -, -, -, hsame⟩ := hafter
      rw [hsame.host_eq] at himage hcontainer
      exact hdone later (hlater later hto) ⟨image, role, himage, hcontainer⟩
    · intro later hto
      exact hraise _ later (hlater later hto).restoring
  · intro after hafter
    exact hraise _ after hafter

/-! ### Before the release -/

/-- Images may have been tagged and loaded, and snapshots have come or gone. Only a loaded image is under a tag in the place of
the one that was. -/
def Site.Prepared (site : Site Bytes Image) (version : String) (loaded : Image) (after : Site Bytes Image) : Prop :=
  ∃ images snapshots, (∀ tag, imageTag site.host.env = some tag →
      images tag = site.host.images tag ∨ (tag = version ∧ images tag = some loaded)) ∧
    site.To { site.host with images, snapshots } after

section Prepared

omit [DecidableEq Image]

variable {version : String} {loaded : Image} {middle after : Site Bytes Image}

theorem Site.Prepared.of_cleaned (h : site.Cleaned after) : site.Prepared version loaded after := by
  obtain ⟨snapshots, hafter⟩ := h
  exact ⟨site.host.images, snapshots, fun _ _ => .inl rfl, hafter⟩

theorem Site.Prepared.of_to (h : site.To site.host after) : site.Prepared version loaded after := .of_cleaned (.of_to h)

theorem Site.Prepared.trans (h : site.Prepared version loaded middle) (h' : middle.Prepared version loaded after) :
    site.Prepared version loaded after := by
  obtain ⟨images, snapshots, himages, hmiddle⟩ := h
  obtain ⟨images', snapshots', himages', hafter⟩ := h'
  rw [hmiddle.host_eq] at himages' hafter
  refine ⟨images', snapshots', fun tag htag => ?_, hmiddle.trans hafter⟩
  rcases himages' tag htag with hsame | hloaded
  · rcases himages tag htag with hbefore | hloaded
    · exact .inl (hsame.trans hbefore)
    · exact .inr ⟨hloaded.1, hsame.trans hloaded.2⟩
  · exact .inr hloaded

end Prepared

theorem holds_cleaningUp {files : List Managed} {script : Control Bytes Image A} {returns : A → Site Bytes Image → Prop}
    (h : Holds (perform release) inv script returns
      (fun _ after => ∀ later, after.Cleaned later → inv later ∧ ∀ error, raises error later) site) :
    Holds (perform release) inv (cleaningUp files script) returns raises site := by
  refine holds_tryCatch (h.mono (fun _ _ hreturn => hreturn) fun error after hafter => ?_)
  refine holds_bind (holds_cleanupSnapshotPaths files (fun later hlater => (hafter later hlater).1) fun cleaned later hlater => ?_)
  exact holds_ite (fun _ => (hafter later hlater).2 error) fun _ => (hafter later hlater).2 _

theorem holds_requireRollbackImage {previousTag : Option String} {returns : String → Site Bytes Image → Prop} (hinv : inv site)
    (hreturn : ∀ tag after, site.To site.host after → previousTag = some tag → returns tag after)
    (hraise : ∀ error after, site.To site.host after → raises error after) :
    Holds (perform release) inv (requireRollbackImage previousTag) returns raises site := by
  cases previousTag with
  | none => exact hraise _ site (.refl site)
  | some tag =>
    refine holds_ite (fun _ => hraise _ site (.refl site)) fun _ => ?_
    refine holds_bind (holds_imageId hinv fun image after hafter _ => ?_)
    exact holds_ite (fun _ => hreturn tag after hafter rfl) fun _ => hraise _ after hafter

theorem holds_snapshotRuntimeFile {returns : Unit → Site Bytes Image → Prop}
    (hinv : ∀ after, site.To site.host after → inv after)
    (hdone : ∀ content after, site.host.files file = some content →
      site.To { site.host with snapshots := Function.update site.host.snapshots file (some content) } after → returns () after)
    (hraise : ∀ error after, site.To site.host after → raises error after) :
    Holds (perform release) inv (snapshotRuntimeFile file) returns raises site := by
  refine holds_bind (holds_requireCheck (hinv site (.refl site)) ?_ (hraise _))
  intro after hafter
  refine holds_require (holds_takeSnapshot (hinv after hafter) ?_ ?_)
  · intro content later hcontent hlater
    rw [hafter.host_eq] at hcontent hlater
    exact ⟨fun _ => hdone content later hcontent (hafter.trans hlater), fun h => (by cases h)⟩
  · intro later hlater
    exact ⟨fun h => (by cases h), fun _ => hraise _ later (hafter.stay hlater)⟩

theorem holds_loadVerifiedDockerImageArchive {archive : Archive Bytes Image} {version : String}
    {returns : Unit → Site Bytes Image → Prop}
    (hinv : ∀ after, site.Prepared version archive.image after → inv after)
    (hdone : ∀ after, site.Prepared version archive.image after → after.host.snapshots = site.host.snapshots → returns () after)
    (hraise : ∀ error after, site.Prepared version archive.image after → raises error after) :
    Holds (perform release) inv (loadVerifiedDockerImageArchive archive version) returns raises site := by
  refine holds_bind (holds_requireCheck (hinv site (.of_to (.refl site))) ?_ fun after hafter => hraise _ after (.of_to hafter))
  intro after hafter
  refine holds_bind (holds_require (holds_loadImage (hinv after (.of_to hafter)) ?_ ?_))
  · intro ok later hlater
    rw [hafter.host_eq] at hlater
    replace hlater := hafter.trans hlater
    have hprepared : ∀ last, later.To later.host last →
        site.Prepared version archive.image last ∧ last.host.snapshots = site.host.snapshots := by
      intro last hlast
      have hlast := hlater.stay hlast
      refine ⟨⟨Function.update site.host.images version (some archive.image), site.host.snapshots, fun tag _ => ?_, hlast⟩, ?_⟩
      · by_cases htag : tag = version
        · exact .inr ⟨htag, by rw [htag, Function.update_self]⟩
        · exact .inl (Function.update_of_ne htag _ _)
      · rw [hlast.host_eq]
    have hhere := hprepared later (.refl later)
    refine ⟨fun _ => holds_bind (holds_imageId (hinv later hhere.1) fun image last hlast _ => ?_), fun _ => hraise _ later hhere.1⟩
    obtain ⟨hlast, hsnapshots⟩ := hprepared last hlast
    exact holds_ite (fun _ => hdone last hlast hsnapshots) fun _ => hraise _ last hlast
  · intro later hlater
    exact ⟨fun h => (by cases h), fun _ => hraise _ later (.of_to (hafter.stay hlater))⟩

/-- The backup has been made, and the preparations went on. -/
def Site.BackedUp (site : Site Bytes Image) (version : String) (loaded : Image) (backup : Option (List Write))
    (after : Site Bytes Image) : Prop :=
  ∃ middle, site.Prepared version loaded middle ∧ middle.ledger.artifacts = false ∧ backup = middle.ledger.database ∧
    (middle.note .backedUp).Prepared version loaded after

/-- What a preflight leaves, wherever it ends. -/
def Site.Preflighted (site : Site Bytes Image) (version : String) (loaded : Image) (after : Site Bytes Image) : Prop :=
  site.Prepared version loaded after ∨ ∃ backup, site.BackedUp version loaded backup after

omit [DecidableEq Image] in
theorem Site.Preflighted.trans {version : String} {loaded : Image} {middle after : Site Bytes Image}
    (h : site.Preflighted version loaded middle) (h' : middle.Prepared version loaded after) :
    site.Preflighted version loaded after := by
  rcases h with h | ⟨backup, before, hbefore, hsound, hbackup, h⟩
  · exact .inl (h.trans h')
  · exact .inr ⟨backup, before, hbefore, hsound, hbackup, h.trans h'⟩

theorem holds_preflightProduction {archive : Archive Bytes Image} {version : String}
    {returns : ProductionPreflight Bytes → Site Bytes Image → Prop}
    (hinv : ∀ after, site.Preflighted version archive.image after → inv after)
    (hdone : ∀ previousEnv previousTag backup after, site.host.env = some previousEnv →
      imageTag site.host.env = some previousTag → site.BackedUp version archive.image backup after →
      after.host.snapshots .compose = site.host.files .compose → after.host.snapshots .nginx = site.host.files .nginx →
        returns { previousEnv, previousTag, databaseBackup := backup, expectedImage := imageReference version } after)
    (hraise : ∀ error after, site.Preflighted version archive.image after → raises error after) :
    Holds (perform release) inv (preflightProduction archive version) returns raises site := by
  have hto : ∀ after, site.To site.host after → site.Preflighted version archive.image after := fun after h => .inl (.of_to h)
  have hclean : ∀ after, site.Preflighted version archive.image after → ∀ later, after.Cleaned later →
      inv later ∧ ∀ error, raises error later := by
    intro after hafter later hlater
    have hlater := hafter.trans (.of_cleaned hlater)
    exact ⟨hinv later hlater, fun error => hraise error later hlater⟩
  refine holds_bind (holds_readEnvironment (hinv site (hto site (.refl site))) fun env read hread henv => ?_)
  cases env with
  | none => exact hraise _ read (hto read hread)
  | some previousEnv =>
    have henv : site.host.env = some previousEnv := by
      rcases henv with henv | henv
      · cases henv
      · exact henv.symm
    refine holds_bind (holds_requireRollbackImage (hinv read (hto read hread)) ?_ fun error after hafter =>
      hraise error after (hto after (hread.stay hafter)))
    intro previousTag required hrequired htag
    replace hrequired := hread.stay hrequired
    rw [← henv] at htag
    -- the image is tagged, and the first snapshot taken
    refine holds_bind (holds_cleaningUp (holds_bind (holds_requireCheck (hinv required (hto required hrequired)) ?_ fun after hafter =>
      hclean after (hto after (hrequired.stay hafter)))))
    intro checked hchecked
    replace hchecked := hrequired.stay hchecked
    refine holds_bind (holds_require (holds_tagPrevious (hinv checked (hto checked hchecked)) ?_ fun after hafter =>
      ⟨fun h => (by cases h), fun _ => hclean after (hto after (hchecked.stay hafter))⟩))
    intro ok tagged htagged
    rw [hchecked.host_eq] at htagged
    replace htagged := hchecked.trans htagged
    have himages : ∀ tag, imageTag site.host.env = some tag →
        Function.update site.host.images "previous" (site.host.images previousTag) tag = site.host.images tag := by
      intro tag hsame
      obtain rfl : previousTag = tag := Option.some.inj (htag.symm.trans hsame)
      by_cases hprevious : previousTag = "previous"
      · rw [hprevious, Function.update_self]
      · exact Function.update_of_ne hprevious _ _
    have hprepared : ∀ snapshots after, site.To { site.host with
        images := Function.update site.host.images "previous" (site.host.images previousTag), snapshots } after →
        site.Preflighted version archive.image after :=
      fun snapshots after hafter => .inl ⟨_, snapshots, fun tag hsame => .inl (himages tag hsame), hafter⟩
    refine ⟨fun _ => ?_, fun _ => hclean tagged (hprepared _ tagged htagged)⟩
    refine holds_snapshotRuntimeFile (fun after hafter => hinv after (hprepared _ after (htagged.stay hafter))) ?_
      fun error after hafter => hclean after (hprepared _ after (htagged.stay hafter))
    intro nginx snapped hnginx hsnapped
    rw [htagged.host_eq] at hnginx hsnapped
    replace hsnapped := htagged.trans hsnapped
    -- the second one
    refine holds_bind (holds_cleaningUp (holds_snapshotRuntimeFile
      (fun after hafter => hinv after (hprepared _ after (hsnapped.stay hafter))) ?_
      fun error after hafter => hclean after (hprepared _ after (hsnapped.stay hafter))))
    intro compose both hcompose hboth
    rw [hsnapped.host_eq] at hcompose hboth
    replace hboth := hsnapped.trans hboth
    -- the backup, and the new image
    refine holds_bind (holds_cleaningUp (holds_bind (holds_bind (holds_backupDatabase (hinv both (hprepared _ both hboth)) ?_ ?_))))
    · intro middle hmiddle hsound
      replace hmiddle := hboth.stay hmiddle
      have hbefore : site.Prepared version archive.image middle :=
        ⟨_, _, fun tag hsame => .inl (himages tag hsame), hmiddle⟩
      have hloading : ∀ after, (middle.note .backedUp).Prepared version archive.image after →
          site.BackedUp version archive.image middle.ledger.database after :=
        fun after hafter => ⟨middle, hbefore, hsound, rfl, hafter⟩
      refine holds_bind (holds_loadVerifiedDockerImageArchive (fun after hafter => hinv after (.inr ⟨_, hloading after hafter⟩)) ?_
        fun error after hafter => hclean after (.inr ⟨_, hloading after hafter⟩))
      intro after hafter hsnapshots
      have hhost : after.host.snapshots = Function.update (Function.update site.host.snapshots .nginx (some nginx)) .compose
          (some compose) := hsnapshots.trans (congrArg Host.snapshots hmiddle.host_eq)
      refine hdone previousEnv previousTag _ after henv htag (hloading after hafter) ?_ ?_
      · rw [hhost, Function.update_self]
        exact hcompose.symm
      · rw [hhost, Function.update_of_ne (by decide), Function.update_self]
        exact hnginx.symm
    · intro after hafter
      exact hclean after (hprepared _ after (hboth.stay hafter))

/-! ### The runtime -/

/-- What `rollback_runtime` does after the files. -/
def restartRuntime (preflight : ProductionPreflight Bytes) (filesRestored : Bool) : Control Bytes Image Unit := do
  let prerequisitesRestored ← if filesRestored then rollbackContainer preflight else pure false
  let runtimeRestored ←
    if prerequisitesRestored then
      if ← Control.up .restored then waitForReadiness preflight.previousTag readinessAttempts else pure false
    else pure false
  if runtimeRestored then pure ()
  else throw (.exit "automatic production rollback failed; manual intervention is required")

theorem rollbackRuntime_eq (preflight : ProductionPreflight Bytes) :
    (rollbackRuntime preflight : Control Bytes Image Unit) = (do
      let environmentRestored ← tryRestoreEnvironment preflight.previousEnv
      let composeRestored ← restoreCompose
      let nginxRestored ← restoreNginx
      restartRuntime preflight (environmentRestored && composeRestored && nginxRestored)) := rfl

/-! ### The switch -/

theorem holds_prepareProductionEnvironment {version : String} {previous : Bytes} {returns : Unit → Site Bytes Image → Prop}
    (hinv : ∀ after, site.To site.host after → inv after)
    (hdone : ∀ env after, site.To { site.host with env } after → returns () after)
    (hraise : ∀ error env after, site.To { site.host with env } after → raises error after) :
    Holds (perform release) inv (prepareProductionEnvironment version previous) returns raises site := by
  have hstart := Site.To.refl site
  have hfail : ∀ error after, site.To site.host after → raises error after := fun error => hraise error site.host.env
  unfold prepareProductionEnvironment
  generalize Utf8.decode previous = decoded
  cases decoded with
  | none => exact hfail _ site hstart
  | some text =>
    refine holds_ite (fun _ => hfail _ site hstart) fun _ => ?_
    refine holds_bind (holds_requireCheck (hinv site hstart) ?_ (hfail _))
    intro after hafter
    generalize (buildProductionEnv (parseEnvText text) version).bind formatEnv = built
    cases built with
    | error message => exact hfail _ after hafter
    | ok rendered =>
      refine holds_bind (holds_requireCheck (hinv after hafter) ?_ fun later hlater => hfail _ later (hafter.stay hlater))
      intro later hlater
      replace hlater := hafter.stay hlater
      refine holds_require (holds_writeEnvironment (hinv later hlater) ?_ ?_)
      · intro ok last hlast
        rw [hlater.host_eq] at hlast
        exact ⟨fun _ => hdone _ last (hlater.trans hlast), fun _ => hraise _ _ last (hlater.trans hlast)⟩
      · intro last hlast
        exact ⟨fun h => (by cases h), fun _ => hfail _ last (hlater.stay hlast)⟩

theorem holds_installProductionNginx {returns : Unit → Site Bytes Image → Prop}
    (hinv : ∀ files after, site.To { site.host with files } after → inv after)
    (hdone : ∀ files after, site.To { site.host with files } after → returns () after)
    (hraise : ∀ error files after, site.To { site.host with files } after → raises error after) :
    Holds (perform release) inv installProductionNginx returns raises site := by
  refine holds_bind (holds_readFile (hinv _ site (.refl site)) fun source after hafter => ?_)
  cases source with
  | none => exact hraise _ _ after hafter
  | some source =>
    refine holds_bind (holds_require (holds_replaceFile (hinv _ after hafter) ?_ ?_))
    · intro ok later hlater
      rw [hafter.host_eq] at hlater
      replace hlater := hafter.trans hlater
      refine ⟨fun _ => ?_, fun _ => hraise _ _ later hlater⟩
      refine holds_bind (holds_requireCheck (hinv _ later hlater) ?_ fun last hlast => hraise _ _ last (hlater.stay hlast))
      intro last hlast
      replace hlast := hlater.stay hlast
      exact holds_requireCheck (hinv _ last hlast) (fun final hfinal => hdone _ final (hlast.stay hfinal))
        fun final hfinal => hraise _ _ final (hlast.stay hfinal)
    · intro later hlater
      exact ⟨fun h => (by cases h), fun _ => hraise _ _ later (hafter.stay hlater)⟩

/-- Source files may be other ones, though not the Nginx configuration in use. -/
def Site.Sourced (site after : Site Bytes Image) : Prop :=
  ∃ files, files .nginx = site.host.files .nginx ∧ site.To { site.host with files } after

theorem holds_replaceSource {archive : Archive Bytes Image} {returns : Unit → Site Bytes Image → Prop}
    (hinv : ∀ after, site.Sourced after → inv after) (hdone : ∀ after, site.Sourced after → returns () after)
    (hraise : ∀ error after, site.Sourced after → raises error after) :
    Holds (perform release) inv (replaceSource archive) returns raises site := by
  refine holds_bind (holds_require (holds_extractArchive (hinv site ⟨_, rfl, .refl site⟩) ?_))
  intro ok files after hnginx hafter
  have hsourced : ∀ later, after.To after.host later → site.Sourced later :=
    fun later hlater => ⟨files, hnginx, hafter.stay hlater⟩
  refine ⟨fun _ => ?_, fun _ => hraise _ after ⟨files, hnginx, hafter⟩⟩
  refine holds_bind (holds_requireCheck (hinv after ⟨files, hnginx, hafter⟩) ?_ fun later hlater => hraise _ later (hsourced later hlater))
  intro later hlater
  replace hafter := hafter.stay hlater
  exact holds_requireCheck (hinv later (hsourced later hlater)) (fun last hlast => hdone last ⟨files, hnginx, hafter.stay hlast⟩)
    fun last hlast => hraise _ last ⟨files, hnginx, hafter.stay hlast⟩

theorem holds_finallyDo {script : Control Bytes Image A} {cleanup : Control Bytes Image Unit}
    {returns : A → Site Bytes Image → Prop}
    (h : Holds (perform release) inv script (fun value after => Holds (perform release) inv cleanup (fun _ => returns value) raises after)
      (fun error after => Holds (perform release) inv cleanup (fun _ => raises error) raises after) site) :
    Holds (perform release) inv (finallyDo script cleanup) returns raises site := by
  refine holds_bind (holds_tryCatch (h.mono (fun value after hafter => holds_bind hafter) fun error after hafter => ?_))
  exact holds_bind hafter

end P2PTransmission.Deploy
