import Mathlib.Data.List.Dedup
import P2PTransmission.Deploy.SourceTree
import P2PTransmission.Foundation.Fallible

/-!
# Retired source files

After a release whose source step succeeds, every file on the disk that an archive put there is one of the current archive;
and a release takes nothing away but what its predecessor had and it has not.

The files of a release that was interrupted are on the disk, but in no manifest, so that a later release does not remove
them. That is the case in which the first part fails (`releases_clean_iff`). What `tar` does to existing files is the case of
the second part: it removes a file for which the archive has a directory, and it removes a file before it extracts its
successor.
-/

set_option autoImplicit false

namespace P2PTransmission.Deploy.Source

open Script (Holds ask holds_ask holds_bind holds_pure holds_throw holds_tryCatch)

variable {Bytes A : Type}

/-! ## The disk -/

namespace Disk

variable {disk before after : Disk} {path other : String} {entry : Node}

theorem lookup_remove : ∀ {disk : Disk}, (disk.remove path).lookup other = if other = path then none else disk.lookup other
  | [] => by simp [remove]
  | (name, entry) :: disk => by
    have ih : (Disk.remove disk path).lookup other = if other = path then none else disk.lookup other := lookup_remove
    unfold remove at ih ⊢
    rw [List.filter_cons, List.lookup_cons]
    by_cases hname : name = path
    · subst hname
      rw [if_neg (by simp), ih]
      by_cases hother : other = name
      · rw [if_pos hother, if_pos hother]
      · rw [if_neg hother, if_neg hother, beq_false_of_ne hother]
    · rw [if_pos (by simpa using hname), List.lookup_cons, ih]
      by_cases hother : other = name
      · subst hother
        simp [hname]
      · rw [beq_false_of_ne hother]

theorem node_remove : (disk.remove path).node other = if other = path then none else disk.node other := lookup_remove

theorem node_put : (disk.put path entry).node other = if other = path then some entry else disk.node other := by
  unfold put node
  rw [List.lookup_cons]
  by_cases hother : other = path
  · rw [if_pos hother, hother, beq_self_eq_true]
  · rw [if_neg hother, beq_false_of_ne hother, lookup_remove, if_neg hother]

theorem hasFile_congr (h : after.node path = before.node path) : after.hasFile path = before.hasFile path := by
  rw [hasFile, h, hasFile]

/-- What is not there is not taken away. -/
theorem isSome_of_loses (h : loses before after path = true) : (before.node path).isSome = true := by
  unfold loses hasFile at h
  cases hnode : before.node path with
  | some entry => rfl
  | none =>
    rw [hnode] at h
    simp at h

theorem mem_lost : path ∈ lost before after ↔ loses before after path = true := by
  unfold lost
  rw [List.mem_filter]
  refine ⟨And.right, fun h => ⟨?_, h⟩⟩
  obtain ⟨entry, hentry⟩ := Option.isSome_iff_exists.mp (isSome_of_loses h)
  obtain ⟨above, below, rfl, -⟩ := List.lookup_eq_some_iff.mp hentry
  simp

theorem loses_of_none (h : before.node path = none) : loses before after path = false := by
  rw [← Bool.not_eq_true]
  intro hloses
  have hsome := isSome_of_loses hloses
  rw [h] at hsome
  cases hsome

theorem loses_congr {middle : Disk} (h : after.node path = middle.node path) :
    loses before after path = loses before middle path := by
  rw [loses, hasFile_congr h, h, loses]

theorem loses_of_same (h : after.node path = before.node path) : loses before after path = false := by
  unfold loses
  rw [hasFile_congr h, h]
  cases sourcePathIsProtected path <;> cases before.hasFile path <;> simp

/-- An unprotected path is taken away when there was a file and is none any more. -/
theorem loses_unprotected (h : sourcePathIsProtected path = false) :
    loses before after path = true ↔ before.hasFile path = true ∧ after.hasFile path = false := by
  unfold loses
  rw [h]
  simp

/-- Directories are made where nothing was. -/
theorem node_makeParents (disk : Disk) (path other : String) : (disk.makeParents path).node other = disk.node other ∨
    disk.node other = none ∧ (disk.makeParents path).node other = some .directory := by
  unfold makeParents
  induction ancestors path generalizing disk with
  | nil => exact .inl rfl
  | cons above below ih =>
    rw [List.foldl_cons]
    by_cases habove : (disk.node above).isNone = true
    · rw [if_pos habove]
      rcases ih (disk.put above .directory) with hsame | ⟨hnone, hmade⟩
      · rw [hsame, node_put]
        by_cases hother : other = above
        · rw [if_pos hother, hother]
          exact .inr ⟨Option.isNone_iff_eq_none.mp habove, rfl⟩
        · exact .inl (if_neg hother)
      · rw [node_put] at hnone
        by_cases hother : other = above
        · rw [if_pos hother] at hnone
          cases hnone
        · rw [if_neg hother] at hnone
          exact .inr ⟨hnone, hmade⟩
    · rw [if_neg habove]
      exact ih disk

end Disk

/-! ## Reading -/

section Rules

variable {tar : Tar Bytes} {inv : Site → Prop} {raises : Error → Site → Prop} {site : Site}

theorem holds_check {returns : Bool → Site → Prop} (hinv : inv site) (h : ∀ ok, returns ok site) :
    Holds (perform tar) inv (Control.check : Control Bytes Bool) returns raises site :=
  holds_ask hinv fun choice => h choice.ok

theorem holds_require {error : Error} {operation : Control Bytes Bool} {returns : Unit → Site → Prop}
    (h : Holds (perform tar) inv operation (fun ok s => if ok then returns () s else raises error s) raises site) :
    Holds (perform tar) inv (Control.require error operation) returns raises site := by
  refine holds_bind (h.mono (fun ok s hs => ?_) fun _ _ hs => hs)
  cases ok with
  | true => exact holds_pure hs
  | false => exact holds_throw hs

theorem holds_require_check {error : Error} {returns : Unit → Site → Prop} (hinv : inv site) (h : returns () site)
    (hraise : raises error site) :
    Holds (perform tar) inv (Control.require error Control.check : Control Bytes Unit) returns raises site :=
  holds_require (holds_check hinv fun ok => by
    cases ok with
    | true => exact h
    | false => exact hraise)

theorem holds_stat {path : String} {returns : Option Node → Site → Prop} (hinv : inv site)
    (h : returns (site.disk.node path) site) (hraise : ∀ error, raises error site) :
    Holds (perform tar) inv (Control.stat path : Control Bytes _) returns raises site := by
  refine holds_bind (holds_ask hinv fun choice => ?_)
  unfold perform
  cases choice.ok with
  | true => exact holds_pure h
  | false => exact holds_throw (hraise _)

theorem holds_lift {result : Except Error A} {returns : A → Site → Prop} (h : ∀ value, result = .ok value → returns value site)
    (hraise : ∀ error, raises error site) :
    Holds (perform tar) inv (lift result : Control Bytes A) returns raises site := by
  cases result with
  | ok value => exact holds_pure (h value rfl)
  | error error => exact holds_throw (hraise error)

theorem normalizeSourcePath_ok {path normalized : String} (h : normalizeSourcePath path = .ok normalized) :
    normalized = path := by
  unfold normalizeSourcePath at h
  split at h
  · cases h
  · split at h
    · cases h
    · exact (Except.ok.inj h).symm

theorem holds_checkParents {relative : String} {returns : Unit → Site → Prop} (hinv : inv site) (h : returns () site)
    (hraise : ∀ error, raises error site) (above : List String) :
    Holds (perform tar) inv (checkParents relative above : Control Bytes Unit) returns raises site := by
  induction above with
  | nil => exact holds_pure h
  | cons cursor below ih =>
    refine holds_bind (holds_stat hinv ?_ hraise)
    cases site.disk.node cursor with
    | none => exact ih
    | some entry =>
      cases entry with
      | directory => exact ih
      | file extracted => exact holds_throw (hraise _)
      | link => exact holds_throw (hraise _)
      | other => exact holds_throw (hraise _)

theorem holds_safeSourceTarget {relative : String} {returns : Unit → Site → Prop} (hinv : inv site) (h : returns () site)
    (hraise : ∀ error, raises error site) :
    Holds (perform tar) inv (safeSourceTarget relative : Control Bytes Unit) returns raises site :=
  holds_bind (holds_lift (fun _ _ => holds_checkParents hinv h hraise _) hraise)

theorem holds_memberPath {member : Member Bytes} {returns : String → Site → Prop} (hinv : inv site)
    (h : sourcePathIsProtected member.path = false → returns member.path site) (hraise : ∀ error, raises error site) :
    Holds (perform tar) inv (memberPath member) returns raises site := by
  have htail : Holds (perform tar) inv
      (lift (normalizeSourcePath member.path) >>= fun normalized =>
        if sourcePathIsProtected normalized then
          throw (.exit ("source archive contains a protected production path: " ++ normalized))
        else safeSourceTarget normalized >>= fun _ => pure normalized : Control Bytes String) returns raises site := by
    refine holds_bind (holds_lift (fun normalized hnormalized => ?_) hraise)
    obtain rfl := normalizeSourcePath_ok hnormalized
    split
    · exact holds_throw (hraise _)
    · rename_i hprotected
      exact holds_bind (holds_safeSourceTarget hinv (holds_pure (h (by simpa using hprotected))) hraise)
  obtain ⟨name, kind⟩ := member
  cases kind with
  | file payload => exact htail
  | directory => exact htail
  | symlink => exact holds_throw (hraise _)
  | hardlink => exact holds_throw (hraise _)
  | other => exact holds_throw (hraise _)

/-- What the validation finds out: no member is protected. -/
def Valid (archive : List (Member Bytes)) : Prop :=
  ∀ member ∈ archive, sourcePathIsProtected member.path = false

theorem holds_archiveFiles (hinv : inv site) (hraise : ∀ error, raises error site) {archive : List (Member Bytes)} :
    ∀ {returns : List String → Site → Prop}, (Valid archive → returns (filesOf archive) site) →
      Holds (perform tar) inv (archiveFiles archive) returns raises site := by
  induction archive with
  | nil => exact fun h => holds_pure (h fun _ hmem => by cases hmem)
  | cons member archive ih =>
    intro returns h
    refine holds_bind (holds_memberPath hinv (fun hmember => ?_) hraise)
    refine holds_bind (ih fun hvalid => holds_pure ?_)
    have hfiles : (if member.isFile then member.path :: filesOf archive else filesOf archive) =
        filesOf (member :: archive) := by
      unfold filesOf
      rw [List.filter_cons]
      split <;> rfl
    rw [hfiles]
    exact h (List.forall_mem_cons.mpr ⟨hmember, hvalid⟩)

theorem holds_sourceArchiveFiles (hinv : inv site) (hraise : ∀ error, raises error site) {archive : List (Member Bytes)}
    {returns : List String → Site → Prop} (h : Valid archive → returns (filesOf archive) site) :
    Holds (perform tar) inv (sourceArchiveFiles archive) returns raises site :=
  holds_bind (holds_require_check hinv (holds_archiveFiles hinv hraise h) (hraise _))

theorem holds_validateSourceArchive [Payload Bytes] (hinv : inv site) (hraise : ∀ error, raises error site)
    {archive : List (Member Bytes)} {returns : Unit → Site → Prop} (h : returns () site) :
    Holds (perform tar) inv (validateSourceArchive archive) returns raises site := by
  refine holds_bind (holds_require_check hinv (holds_bind (holds_sourceArchiveFiles hinv hraise fun _ => ?_)) (hraise _))
  refine holds_bind (holds_require_check hinv (holds_bind (holds_lift (fun _ _ => ?_) hraise)) (hraise _))
  exact holds_lift (fun _ _ => h) hraise

/-- The paths of the recorded manifest. -/
def Site.recorded (site : Site) : List String := site.manifest.getD []

theorem mapM_normalizeSourcePath {paths normalized : List String} (h : paths.mapM normalizeSourcePath = .ok normalized) :
    normalized = paths := by
  have hmap : normalized.map id = paths.map id := map_of_mapM (fun _ _ hpath => normalizeSourcePath_ok hpath) h
  simpa using hmap

theorem holds_readSourceManifest (hinv : inv site) (hraise : ∀ error, raises error site)
    {returns : List String → Site → Prop} (h : returns site.recorded site) :
    Holds (perform tar) inv (readSourceManifest : Control Bytes (List String)) returns raises site := by
  refine holds_bind (holds_ask hinv fun choice => ?_)
  unfold perform
  cases choice.ok with
  | false => exact holds_throw (hraise _)
  | true =>
    cases hmanifest : site.manifest with
    | none => exact holds_throw (hraise _)
    | some payload =>
      refine holds_lift (fun normalized hnormalized => ?_) hraise
      obtain rfl := mapM_normalizeSourcePath hnormalized
      have hrecorded : site.recorded = normalized := by rw [Site.recorded, hmanifest, Option.getD_some]
      rwa [hrecorded] at h

theorem holds_snapshotCompose (hinv : inv site) (hraise : ∀ error, raises error site) {returns : Bool → Site → Prop}
    (h : ∀ extracted, site.disk.node PRODUCTION_COMPOSE = some (.file extracted) → returns extracted site) :
    Holds (perform tar) inv (snapshotCompose : Control Bytes Bool) returns raises site := by
  refine holds_bind (holds_stat hinv ?_ hraise)
  cases hnode : site.disk.node PRODUCTION_COMPOSE with
  | none => exact holds_throw (hraise _)
  | some entry =>
    cases entry with
    | file extracted => exact holds_bind (holds_require_check hinv (holds_pure (h extracted hnode)) (hraise _))
    | directory => exact holds_throw (hraise _)
    | link => exact holds_throw (hraise _)
    | other => exact holds_throw (hraise _)

/-! ## Removing -/

/-- From one site to a later one only paths of which `allowed` holds were taken away, and it was noted which. -/
structure Prunes (allowed : String → Prop) (site after : Site) : Prop where
  node : ∀ path, after.disk.node path = site.disk.node path ∨
    after.disk.node path = none ∧ (site.disk.hasFile path = true → path ∈ after.removed)
  removed : ∀ path ∈ after.removed, path ∈ site.removed ∨ allowed path
  mono : ∀ path ∈ site.removed, path ∈ after.removed
  halfway : after.halfway = site.halfway
  manifest : after.manifest = site.manifest

namespace Prunes

variable {allowed : String → Prop} {middle after : Site} {path : String}

theorem refl : Prunes allowed site site := ⟨fun _ => .inl rfl, fun _ => .inl, fun _ h => h, rfl, rfl⟩

theorem trans (h : Prunes allowed site middle) (h' : Prunes allowed middle after) : Prunes allowed site after where
  node path := by
    rcases h'.node path with hsame | ⟨hnone, hnoted⟩
    · rcases h.node path with hsame' | ⟨hnone', hnoted'⟩
      · exact .inl (hsame.trans hsame')
      · exact .inr ⟨hsame.trans hnone', fun hfile => h'.mono path (hnoted' hfile)⟩
    · refine .inr ⟨hnone, fun hfile => ?_⟩
      rcases h.node path with hsame' | ⟨-, hnoted'⟩
      · exact hnoted ((Disk.hasFile_congr hsame').trans hfile)
      · exact h'.mono path (hnoted' hfile)
  removed path hpath := by
    rcases h'.removed path hpath with hmem | hallowed
    · exact h.removed path hmem
    · exact .inr hallowed
  mono path hpath := h'.mono path (h.mono path hpath)
  halfway := h'.halfway.trans h.halfway
  manifest := h'.manifest.trans h.manifest

/-- A path that is not protected is removed: it may be, or there is no file. -/
theorem remove (hprotected : sourcePathIsProtected path = false) (h : site.disk.hasFile path = true → allowed path) :
    Prunes allowed site (site.change (site.disk.remove path)) where
  node other := by
    show (site.disk.remove path).node other = _ ∨ (site.disk.remove path).node other = none ∧ _
    rw [Disk.node_remove]
    by_cases hother : other = path
    · subst hother
      refine .inr ⟨if_pos rfl, fun hfile => List.mem_append_right _ ?_⟩
      rw [Disk.mem_lost, Disk.loses_unprotected hprotected]
      exact ⟨hfile, by simp [Disk.hasFile, Disk.node_remove]⟩
    · exact .inl (if_neg hother)
  removed other hother := by
    rcases List.mem_append.mp hother with hmem | hlost
    · exact .inl hmem
    · rw [Disk.mem_lost] at hlost
      by_cases hpath : other = path
      · subst hpath
        rw [Disk.loses_unprotected hprotected] at hlost
        exact .inr (h hlost.1)
      · have hsame : (site.disk.remove path).node other = site.disk.node other := by rw [Disk.node_remove, if_neg hpath]
        rw [Disk.loses_of_same hsame] at hlost
        cases hlost
  mono _ hother := List.mem_append_left _ hother
  halfway := rfl
  manifest := rfl

/-- There is no file where there was none. -/
theorem hasFile (h : Prunes allowed site after) (hnone : site.disk.hasFile path = false) :
    after.disk.hasFile path = false := by
  rcases h.node path with hsame | ⟨hgone, -⟩
  · rwa [Disk.hasFile_congr hsame]
  · rw [Disk.hasFile, hgone]
    rfl

end Prunes

variable {allowed : String → Prop}

theorem holds_unlink {path : String} (hinv : inv site) (hallowed : allowed path)
    (hprotected : sourcePathIsProtected path = false) {returns : Bool → Site → Prop}
    (h : ∀ after, Prunes allowed site after → after.disk.hasFile path = false → returns true after)
    (hfailed : returns false site) :
    Holds (perform tar) inv (Control.unlink path : Control Bytes Bool) returns raises site := by
  refine holds_ask hinv fun choice => ?_
  unfold perform
  dsimp only
  split
  · refine h _ (Prunes.remove hprotected fun _ => hallowed) ?_
    show (site.disk.remove path).hasFile path = false
    rw [Disk.hasFile, Disk.node_remove, if_pos rfl]
    rfl
  · exact hfailed

theorem holds_rmdir {path : String} (hinv : inv site) (hprotected : sourcePathIsProtected path = false)
    {returns : Bool → Site → Prop} (h : ∀ ok after, Prunes allowed site after → returns ok after) :
    Holds (perform tar) inv (Control.rmdir path : Control Bytes Bool) returns raises site := by
  refine holds_ask hinv fun choice => ?_
  unfold perform
  dsimp only
  split
  · rename_i hdirectory
    simp only [Bool.and_eq_true, decide_eq_true_eq] at hdirectory
    refine h true _ (Prunes.remove hprotected fun hfile => ?_)
    rw [Disk.hasFile, hdirectory.1.2] at hfile
    cases hfile
  · exact h false _ Prunes.refl

/-- The loop over the retired files. Whatever happens, only retired paths are taken away; at its end there is no retired file
left. -/
theorem holds_removeFiles : ∀ {paths : List String} {site : Site} {returns : Nat × List String → Site → Prop},
    (∀ path ∈ paths, sourcePathIsProtected path = false → allowed path) →
    (∀ after, Prunes allowed site after → inv after) →
    (∀ error after, Prunes allowed site after → raises error after) →
    (∀ found after, Prunes allowed site after →
      (∀ path ∈ paths, sourcePathIsProtected path = false → after.disk.hasFile path = false) → returns found after) →
    Holds (perform tar) inv (removeFiles paths : Control Bytes (Nat × List String)) returns raises site
  | [], site, returns, _, _, _, h => holds_pure (h _ _ Prunes.refl fun _ hmem => by cases hmem)
  | relative :: rest, site, returns, hallowed, hinv, hraise, h => by
    have hrest : ∀ path ∈ rest, sourcePathIsProtected path = false → allowed path :=
      fun path hpath => hallowed path (List.mem_cons_of_mem _ hpath)
    unfold removeFiles
    split
    · rename_i hprotected
      refine holds_removeFiles hrest hinv hraise fun found after hprunes hnone => h _ _ hprunes fun path hpath hplain => ?_
      rcases List.mem_cons.mp hpath with rfl | hpath
      · rw [hprotected] at hplain
        cases hplain
      · exact hnone path hpath hplain
    · rename_i hprotected
      rw [Bool.not_eq_true] at hprotected
      have hself : allowed relative := hallowed relative List.mem_cons_self hprotected
      -- what is left is done from a site where the file is gone
      have hgoes : ∀ (value : Nat × List String → Nat × List String) middle, Prunes allowed site middle →
          middle.disk.hasFile relative = false →
            Holds (perform tar) inv (removeFiles rest >>= fun found => pure (value found) : Control Bytes _) returns raises
              middle := by
        intro value middle hmiddle hgone
        refine holds_bind (holds_removeFiles hrest (fun after hafter => hinv after (hmiddle.trans hafter))
          (fun error after hafter => hraise error after (hmiddle.trans hafter)) fun found after hafter hnone => ?_)
        refine holds_pure (h _ _ (hmiddle.trans hafter) fun path hpath hplain => ?_)
        rcases List.mem_cons.mp hpath with rfl | hpath
        · exact hafter.hasFile hgone
        · exact hnone path hpath hplain
      have hhere := hinv site Prunes.refl
      have hraised : ∀ error, raises error site := fun error => hraise error site Prunes.refl
      refine holds_bind (holds_safeSourceTarget hhere (holds_bind (holds_stat hhere ?_ hraised)) hraised)
      have hunlink : Holds (perform tar) inv (Control.require .os (Control.unlink relative) >>= fun _ =>
          removeFiles rest >>= fun found => pure (found.1 + 1, ancestors relative ++ found.2) : Control Bytes _) returns raises
            site :=
        holds_bind (holds_require (holds_unlink hhere hself hprotected (fun middle hmiddle hgone =>
          hgoes (fun found => (found.1 + 1, ancestors relative ++ found.2)) middle hmiddle hgone) (hraised _)))
      cases hnode : site.disk.node relative with
      | none => exact hgoes _ site Prunes.refl (by rw [Disk.hasFile, hnode]; rfl)
      | some entry =>
        cases entry with
        | file extracted => exact hunlink
        | link => exact hunlink
        | directory => exact hgoes _ site Prunes.refl (by rw [Disk.hasFile, hnode]; rfl)
        | other => exact holds_throw (hraised _)

theorem holds_removeDirectories : ∀ {paths : List String} {site : Site} {returns : Unit → Site → Prop},
    (∀ after, Prunes allowed site after → inv after) →
    (∀ error after, Prunes allowed site after → raises error after) →
    (∀ after, Prunes allowed site after → returns () after) →
    Holds (perform tar) inv (removeDirectories paths : Control Bytes Unit) returns raises site
  | [], site, returns, _, _, h => holds_pure (h site Prunes.refl)
  | relative :: rest, site, returns, hinv, hraise, h => by
    have hgoes : ∀ middle, Prunes allowed site middle →
        Holds (perform tar) inv (removeDirectories rest : Control Bytes Unit) returns raises middle := fun middle hmiddle =>
      holds_removeDirectories (fun after hafter => hinv after (hmiddle.trans hafter))
        (fun error after hafter => hraise error after (hmiddle.trans hafter)) fun after hafter => h after (hmiddle.trans hafter)
    have hhere := hinv site Prunes.refl
    have hraised : ∀ error, raises error site := fun error => hraise error site Prunes.refl
    refine holds_bind (holds_safeSourceTarget hhere ?_ hraised)
    split
    · exact hgoes site Prunes.refl
    · rename_i hprotected
      rw [Bool.not_eq_true] at hprotected
      refine holds_bind (holds_stat hhere ?_ hraised)
      cases site.disk.node relative with
      | none => exact hgoes site Prunes.refl
      | some entry =>
        cases entry with
        | directory => exact holds_bind (holds_rmdir hhere hprotected fun _ middle hmiddle => hgoes middle hmiddle)
        | file extracted => exact hgoes site Prunes.refl
        | link => exact hgoes site Prunes.refl
        | other => exact hgoes site Prunes.refl

theorem mem_deepestFirst {paths : List String} {path : String} : path ∈ deepestFirst paths ↔ path ∈ paths :=
  List.mem_insertionSort _

theorem holds_removeRetiredSourceFiles {currentFiles : List String} {returns : Nat → Site → Prop}
    (hallowed : ∀ path ∈ site.recorded, path ∉ currentFiles → sourcePathIsProtected path = false → allowed path)
    (hinv : ∀ after, Prunes allowed site after → inv after)
    (hraise : ∀ error after, Prunes allowed site after → raises error after)
    (h : ∀ removed after, Prunes allowed site after →
      (∀ path ∈ site.recorded, path ∉ currentFiles → sourcePathIsProtected path = false →
        after.disk.hasFile path = false) → returns removed after) :
    Holds (perform tar) inv (removeRetiredSourceFiles currentFiles : Control Bytes Nat) returns raises site := by
  have hretired : ∀ path, path ∈ deepestFirst (site.recorded.dedup.filter fun path => path ∉ currentFiles) ↔
      path ∈ site.recorded ∧ path ∉ currentFiles := by
    intro path
    rw [mem_deepestFirst, List.mem_filter, List.mem_dedup, decide_eq_true_eq]
  refine holds_bind (holds_readSourceManifest (hinv site Prunes.refl) (fun error => hraise error site Prunes.refl) ?_)
  refine holds_bind (holds_removeFiles (fun path hpath => ?_) hinv hraise fun found middle hmiddle hnone => ?_)
  · exact hallowed path ((hretired path).mp hpath).1 ((hretired path).mp hpath).2
  refine holds_bind (holds_removeDirectories (fun after hafter => hinv after (hmiddle.trans hafter))
    (fun error after hafter => hraise error after (hmiddle.trans hafter)) fun after hafter => holds_pure ?_)
  refine h _ after (hmiddle.trans hafter) fun path hpath hcurrent hplain => hafter.hasFile ?_
  exact hnone path ((hretired path).mpr ⟨hpath, hcurrent⟩) hplain

/-! ## The source step -/

/-- A path that a release of this archive may take away: it is not protected, the previous release had it, and the archive
does not have it. -/
structure Retired (site : Site) (archive : List (Member Bytes)) (path : String) : Prop where
  unprotected : sourcePathIsProtected path = false
  recorded : path ∈ site.recorded
  notCurrent : path ∉ filesOf archive

/-- There was a file where the archive has something else. -/
structure Displaced (site : Site) (archive : List (Member Bytes)) (path : String) : Prop where
  unprotected : sourcePathIsProtected path = false
  hasFile : site.disk.hasFile path = true
  member : ∃ member ∈ archive, member.isFile = false ∧ member.path = path

/-- From the site before, only retired paths were taken away, and what `tar` took. -/
def Bounded (before : Site) (archive : List (Member Bytes)) (site : Site) : Prop :=
  ∀ path ∈ site.removed, Retired before archive path ∨ path ∈ site.halfway ∨ Displaced before archive path

variable {before : Site} {archive : List (Member Bytes)}

theorem Bounded.prunes {after : Site} (h : Bounded before archive site)
    (hprunes : Prunes (Retired before archive) site after) : Bounded before archive after := by
  intro path hpath
  rcases hprunes.removed path hpath with hmem | hretired
  · rw [hprunes.halfway]
    exact h path hmem
  · exact .inl hretired

/-- What takes nothing away. -/
theorem Bounded.change (h : Bounded before archive site) {disk : Disk}
    (hkept : ∀ path, Disk.loses site.disk disk path = false) : Bounded before archive (site.change disk) := by
  intro path hpath
  rcases List.mem_append.mp hpath with hmem | hlost
  · exact h path hmem
  · rw [Disk.mem_lost, hkept] at hlost
    cases hlost

/-- The Compose file is put where nothing or a file was. -/
theorem Bounded.restoreCompose (h : Bounded before archive site) (extracted ok effect : Bool) :
    Bounded before archive (site.restoreCompose extracted ok effect).2 := by
  have hparents : ∀ path, Disk.loses site.disk (site.disk.makeParents PRODUCTION_COMPOSE) path = false := by
    intro path
    rcases site.disk.node_makeParents PRODUCTION_COMPOSE path with hsame | ⟨hnone, -⟩
    · exact Disk.loses_of_same hsame
    · exact Disk.loses_of_none hnone
  unfold Site.restoreCompose
  dsimp only
  split
  · refine h.change fun path => ?_
    by_cases hpath : path = PRODUCTION_COMPOSE
    · subst hpath
      have hthere : ((site.disk.makeParents PRODUCTION_COMPOSE).put PRODUCTION_COMPOSE (.file extracted)).hasFile
          PRODUCTION_COMPOSE = true := by
        rw [Disk.hasFile, Disk.node_put, if_pos rfl]
        rfl
      rw [← Bool.not_eq_true, Disk.loses_unprotected (by decide), hthere]
      simp
    · rw [← hparents path]
      exact Disk.loses_congr (by rw [Disk.node_put, if_neg hpath])
  · cases effect with
    | true => exact h.change hparents
    | false => exact h

/-- What `tar` leaves of a path for the release, given that the site was fresh and no member is protected. -/
theorem Bounded.extract (hvalid : Valid archive) (hremoved : before.removed = []) (choice : Choice tar.Choice) :
    Bounded before archive (perform tar (.tar archive) choice before).2 := by
  intro path hpath
  have hlost : path ∈ Disk.lost before.disk (tar.extract choice.tar archive before.disk).2 := by
    rcases List.mem_append.mp hpath with hmem | hlost
    · rw [hremoved] at hmem
      cases hmem
    · exact hlost
  rw [Disk.mem_lost] at hlost
  rcases tar.outcome choice.tar archive before.disk path with hsame | ⟨member, hmember, rfl, -⟩ | ⟨hnone, -⟩
  · rw [Disk.loses_of_same hsame] at hlost
    cases hlost
  · rw [Disk.loses_unprotected (hvalid member hmember)] at hlost
    cases hfile : member.isFile with
    | true =>
      refine .inr (.inl (List.mem_append_right _ (List.mem_filter.mpr ⟨?_, ?_⟩)))
      · exact List.mem_map_of_mem (List.mem_filter.mpr ⟨hmember, hfile⟩)
      · rw [hlost.1, hlost.2]
        rfl
    | false => exact .inr (.inr ⟨hvalid member hmember, hlost.1, member, hmember, hfile, rfl⟩)
  · rw [Disk.loses_of_none hnone] at hlost
    cases hlost

/-- The extracted files of a site, as far as they are explained by those of an earlier one. -/
structure Explained (before : Site) (archive : List (Member Bytes)) (site : Site) : Prop where
  origin : ∀ path, site.disk.node path = some (.file true) →
    path ∈ filesOf archive ∨ before.disk.node path = some (.file true)
  persist : ∀ path, before.disk.node path = some (.file true) → sourcePathIsProtected path = false → path ∉ site.removed →
    site.disk.node path = some (.file true)

theorem Explained.extract (choice : Choice tar.Choice) : Explained before archive (perform tar (.tar archive) choice before).2 where
  origin path hpath := by
    change (tar.extract choice.tar archive before.disk).2.node path = some (.file true) at hpath
    rcases tar.outcome choice.tar archive before.disk path with
      hsame | ⟨member, hmember, rfl, hnone | hdirectory | ⟨hfile, -⟩⟩ | ⟨-, hdirectory⟩
    · exact .inr (hsame.symm.trans hpath)
    · rw [hnone] at hpath
      cases hpath
    · rw [hdirectory] at hpath
      cases hpath
    · exact .inl (List.mem_map_of_mem (List.mem_filter.mpr ⟨hmember, hfile⟩))
    · rw [hdirectory] at hpath
      cases hpath
  persist path hpath hplain hkept := by
    show (tar.extract choice.tar archive before.disk).2.node path = some (.file true)
    have hlost : Disk.loses before.disk (tar.extract choice.tar archive before.disk).2 path = false := by
      rw [← Bool.not_eq_true, ← Disk.mem_lost]
      exact fun hlost => hkept (List.mem_append_right _ hlost)
    rw [← Bool.not_eq_true, Disk.loses_unprotected hplain, Disk.hasFile, Disk.hasFile, hpath] at hlost
    rcases tar.outcome choice.tar archive before.disk path with
      hsame | ⟨member, -, -, hnone | hdirectory | ⟨-, hfile⟩⟩ | ⟨hnone, -⟩
    · exact hsame.trans hpath
    · rw [hnone] at hlost
      exact absurd ⟨rfl, rfl⟩ hlost
    · rw [hdirectory] at hlost
      exact absurd ⟨rfl, rfl⟩ hlost
    · exact hfile
    · rw [hpath] at hnone
      cases hnone

theorem Explained.prunes {after : Site} (h : Explained before archive site) (hprunes : Prunes allowed site after) :
    Explained before archive after where
  origin path hpath := by
    rcases hprunes.node path with hsame | ⟨hnone, -⟩
    · exact h.origin path (hsame.symm.trans hpath)
    · rw [hnone] at hpath
      cases hpath
  persist path hpath hplain hkept := by
    have hmiddle := h.persist path hpath hplain fun hmem => hkept (hprunes.mono path hmem)
    rcases hprunes.node path with hsame | ⟨-, hnoted⟩
    · exact hsame.trans hmiddle
    · refine absurd (hnoted ?_) hkept
      rw [Disk.hasFile, hmiddle]
      rfl

/-- What is known when the source step succeeds. -/
structure Stepped (before : Site) (archive : List (Member Bytes)) (site : Site) : Prop extends
    Explained before archive site where
  retired : ∀ path ∈ before.recorded, path ∉ filesOf archive → sourcePathIsProtected path = false →
    site.disk.hasFile path = false

theorem holds_recover {compose : Bool} {error : Error} {returns : Unit → Site → Prop} (h : Bounded before archive site) :
    Holds (perform tar) (Bounded before archive) (recover compose error : Control Bytes Unit) returns
      (fun _ => Bounded before archive) site := by
  refine holds_bind (holds_ask h fun choice => holds_bind (holds_check (h.restoreCompose _ _ _) fun ok => ?_))
  split
  · exact holds_throw (h.restoreCompose _ _ _)
  · exact holds_throw (h.restoreCompose _ _ _)

/-- The source step, from a site of which nothing was noted yet. -/
theorem holds_sourceStep [Payload Bytes] (hremoved : before.removed = []) (archive : List (Member Bytes)) :
    Holds (perform tar) (Bounded before archive) (sourceStep archive)
      (fun _ site => Bounded before archive site ∧ Stepped before archive site) (fun _ => Bounded before archive) before := by
  have hhere : Bounded before archive before := by
    intro path hpath
    rw [hremoved] at hpath
    cases hpath
  have hraised : Error → Bounded before archive before := fun _ => hhere
  refine holds_bind (holds_require_check hhere (holds_bind (holds_validateSourceArchive hhere hraised ?_)) hhere)
  refine holds_bind (holds_require_check hhere (holds_bind (holds_sourceArchiveFiles hhere hraised fun hvalid => ?_)) hhere)
  refine holds_bind (holds_readSourceManifest hhere hraised (holds_bind (holds_require_check hhere ?_ hhere)))
  refine holds_bind (holds_snapshotCompose hhere hraised fun compose _ => holds_tryCatch ?_)
  refine holds_bind (holds_require (holds_ask hhere fun choice => ?_))
  have hmiddle : Bounded before archive (perform tar (.tar archive) choice before).2 := Bounded.extract hvalid hremoved choice
  have hexplained : Explained before archive (perform tar (.tar archive) choice before).2 := Explained.extract choice
  have hrecorded : (perform tar (.tar archive) choice before).2.recorded = before.recorded := rfl
  generalize (perform tar (.tar archive) choice before).2 = middle at hmiddle hexplained hrecorded ⊢
  cases (perform tar (.tar archive) choice before).1 with
  | false => exact holds_recover hmiddle
  | true =>
    rw [if_pos rfl]
    have hallowed : ∀ path ∈ middle.recorded, path ∉ filesOf archive → sourcePathIsProtected path = false →
        Retired before archive path := fun path hpath hcurrent hplain => ⟨hplain, hrecorded ▸ hpath, hcurrent⟩
    refine holds_bind (holds_removeRetiredSourceFiles hallowed (fun after hafter => hmiddle.prunes hafter)
      (fun error after hafter => holds_recover (hmiddle.prunes hafter)) fun _ after hafter hnone => ?_)
    rw [hrecorded] at hnone
    have hbounded := hmiddle.prunes hafter
    have hstepped := hexplained.prunes hafter
    refine holds_require (holds_ask hbounded fun choice => ?_)
    unfold perform
    cases choice.ok with
    | true => exact ⟨hbounded, ⟨hstepped.origin, hstepped.persist⟩, hnone⟩
    | false =>
      refine holds_recover ?_
      cases choice.effect with
      | true => exact hbounded
      | false => exact hbounded

end Rules

/-! ## Releases -/

/-- Nothing is noted at the beginning of a release. -/
def Site.fresh (site : Site) : Site := { site with removed := [], halfway := [] }

/-- A release of an archive, up to the end of its source step. -/
structure Release (Bytes : Type) where
  before : Site
  archive : List (Member Bytes)
  ending : Ending Error Unit
  after : Site

def release [Payload Bytes] (tar : Tar Bytes) (site : Site) (archive : List (Member Bytes))
    (choices : List (Choice tar.Choice)) : Release Bytes :=
  let result := Script.run (perform tar) (sourceStep archive) choices site.fresh
  { before := site.fresh, archive, ending := result.1, after := result.2 }

/-- Releases one after another, each of which may fail or crash anywhere. In between, other programs may change the disk, but
extract nothing. -/
inductive Run [Payload Bytes] (tar : Tar Bytes) (start : Site) : List (Release Bytes) → Site → Prop
  | nil : Run tar start [] start
  | release {releases : List (Release Bytes)} {site : Site} (run : Run tar start releases site)
      (archive : List (Member Bytes)) (choices : List (Choice tar.Choice)) :
      Run tar start (releases ++ [release tar site archive choices]) (release tar site archive choices).after
  | elsewhere {releases : List (Release Bytes)} {site : Site} (run : Run tar start releases site) (disk : Disk)
      (hextracted : ∀ path, disk.node path = some (.file true) → site.disk.node path = some (.file true)) :
      Run tar start releases { site with disk }

namespace Release

/-- After the source step, every file from an archive is one of the current archive; and what was taken away, was retired. -/
structure Clean (release : Release Bytes) : Prop where
  current : release.ending = .returned () → ∀ path, release.after.disk.node path = some (.file true) →
    sourcePathIsProtected path = false → path ∈ filesOf release.archive
  removals : ∀ path ∈ release.after.removed, Retired release.before release.archive path

/-- Every file from an earlier archive is in the recorded manifest or in the archive, if the source step succeeds. -/
def Covered (release : Release Bytes) : Prop :=
  release.ending = .returned () → ∀ path, release.before.disk.node path = some (.file true) →
    sourcePathIsProtected path = false → path ∈ release.before.recorded ∨ path ∈ filesOf release.archive

/-- Where the archive has something else, there is no file but a retired one; and no file is left out that `tar` has removed
to replace it. -/
structure Careful (release : Release Bytes) : Prop where
  displaces : ∀ path, Displaced release.before release.archive path → path ∈ release.before.recorded ∧
    path ∉ filesOf release.archive
  complete : release.after.halfway = []

end Release

section

variable [Payload Bytes] {tar : Tar Bytes}

/-- What a release does, as far as it is explained by its beginning. -/
theorem release_ends (site : Site) (archive : List (Member Bytes)) (choices : List (Choice tar.Choice)) :
    Bounded site.fresh archive (release tar site archive choices).after ∧
      ((release tar site archive choices).ending = .returned () →
        Stepped site.fresh archive (release tar site archive choices).after) := by
  have hholds : Holds (perform tar) (Bounded site.fresh archive) (sourceStep archive) _ _ site.fresh :=
    holds_sourceStep rfl archive
  have hends := hholds.run choices
  unfold release
  dsimp only
  generalize Script.run (perform tar) (sourceStep archive) choices site.fresh = result at hends ⊢
  obtain ⟨ending, after⟩ := result
  cases ending with
  | returned value => exact ⟨hends.1, fun _ => hends.2⟩
  | raised error => exact ⟨hends, fun hreturned => by cases hreturned⟩
  | crashed => exact ⟨hends, fun hreturned => by cases hreturned⟩

/-- A careful release takes away nothing but retired files. -/
theorem release_removals {site : Site} {archive : List (Member Bytes)} {choices : List (Choice tar.Choice)}
    (hcareful : (release tar site archive choices).Careful) :
    ∀ path ∈ (release tar site archive choices).after.removed, Retired site.fresh archive path := by
  intro path hpath
  rcases (release_ends site archive choices).1 path hpath with hretired | hhalfway | hdisplaced
  · exact hretired
  · rw [hcareful.complete] at hhalfway
    cases hhalfway
  · obtain ⟨hrecorded, hcurrent⟩ := hcareful.displaces path hdisplaced
    exact ⟨hdisplaced.unprotected, hrecorded, hcurrent⟩

/-- A careful release is clean exactly if the files of earlier archives are covered. -/
theorem release_clean_iff {site : Site} {archive : List (Member Bytes)} {choices : List (Choice tar.Choice)}
    (hcareful : (release tar site archive choices).Careful) :
    (release tar site archive choices).Clean ↔ (release tar site archive choices).Covered := by
  have hends : (release tar site archive choices).ending = .returned () → Stepped site.fresh archive _ :=
    (release_ends site archive choices).2
  have hremovals := release_removals hcareful
  constructor
  · intro hclean hreturned path hpath hplain
    by_cases hrecorded : path ∈ site.fresh.recorded
    · exact .inl hrecorded
    · refine .inr (hclean.current hreturned path ?_ hplain)
      exact (hends hreturned).persist path hpath hplain fun hmem => hrecorded (hremovals path hmem).recorded
  · intro hcovered
    refine ⟨fun hreturned path hpath hplain => ?_, hremovals⟩
    rcases (hends hreturned).origin path hpath with hcurrent | hbefore
    · exact hcurrent
    · rcases hcovered hreturned path hbefore hplain with hrecorded | hcurrent
      · by_contra hcurrent
        have hnone := (hends hreturned).retired path hrecorded hcurrent hplain
        rw [Disk.hasFile, hpath] at hnone
        cases hnone
      · exact hcurrent

/-- **No stale files.** In a run of careful releases, every release is clean exactly if each that succeeds finds the files of
the earlier archives covered. -/
theorem releases_clean_iff {start site : Site} {releases : List (Release Bytes)} (run : Run tar start releases site)
    (hcareful : ∀ release ∈ releases, release.Careful) :
    (∀ release ∈ releases, release.Clean) ↔ ∀ release ∈ releases, release.Covered := by
  induction run with
  | nil => exact ⟨fun _ _ hmem => (by cases hmem), fun _ _ hmem => (by cases hmem)⟩
  | elsewhere run disk hextracted ih => exact ih hcareful
  | release run archive choices ih =>
    rw [List.forall_mem_append] at hcareful
    have hlast := release_clean_iff (hcareful.2 _ (List.mem_singleton_self _))
    rw [List.forall_mem_append, List.forall_mem_append, ih hcareful.1, List.forall_mem_singleton, List.forall_mem_singleton,
      hlast]

end

/-! ## An interrupted release -/

/-- The tracked files, and another one. -/
inductive Sample
  | compose | nginx | notes
  deriving DecidableEq, Repr

instance : Payload Sample where
  length
    | .compose => 1799
    | .nginx => 2105
    | .notes => 6
  sha256
    | .compose => "39317b5feafc35faba893e41d1570293990ef26770e81a6e561cd14277579696"
    | .nginx => "2f2cbe32cf30c684b8029742d26c914c211a8e4804a0f423de540f25f26cbc39"
    | .notes => "444e0fffbd825e9610ff5b199485707a0c895339ae80c15cc8a8aee41b106fda"

/-- A `tar` that extracts every member. -/
def extractAll (disk : Disk) (archive : List (Member Sample)) : Disk :=
  archive.foldl (fun disk member =>
    (disk.makeParents member.path).put member.path (if member.isFile then .file true else .directory)) disk

theorem node_extractAll {archive : List (Member Sample)} {path : String} : ∀ disk : Disk,
    (extractAll disk archive).node path = disk.node path ∨
      (∃ member ∈ archive, member.path = path ∧ ((extractAll disk archive).node path = none ∨
        (extractAll disk archive).node path = some .directory ∨
        member.isFile = true ∧ (extractAll disk archive).node path = some (.file true))) ∨
      (disk.node path = none ∧ (extractAll disk archive).node path = some .directory) := by
  induction archive with
  | nil => exact fun _ => .inl rfl
  | cons member archive ih =>
    intro disk
    have hstep : extractAll disk (member :: archive) = extractAll ((disk.makeParents member.path).put member.path
        (if member.isFile then .file true else .directory)) archive := rfl
    rw [hstep]
    have hparents := disk.node_makeParents member.path path
    rcases ih ((disk.makeParents member.path).put member.path
        (if member.isFile then .file true else .directory)) with hsame | ⟨found, hfound, hpath, hnode⟩ | ⟨hnone, hmade⟩
    · rw [hsame, Disk.node_put]
      by_cases hpath : path = member.path
      · rw [if_pos hpath]
        refine .inr (.inl ⟨member, List.mem_cons_self, hpath.symm, ?_⟩)
        cases member.isFile with
        | true => exact .inr (.inr ⟨rfl, rfl⟩)
        | false => exact .inr (.inl rfl)
      · rw [if_neg hpath]
        rcases hparents with hsame | hmade
        · exact .inl hsame
        · exact .inr (.inr hmade)
    · exact .inr (.inl ⟨found, List.mem_cons_of_mem _ hfound, hpath, hnode⟩)
    · rw [Disk.node_put] at hnone
      split at hnone
      · cases hnone
      · rcases hparents with hsame | ⟨hbefore, -⟩
        · exact .inr (.inr ⟨hsame.symm.trans hnone, hmade⟩)
        · exact .inr (.inr ⟨hbefore, hmade⟩)

def sampleTar : Tar Sample where
  Choice := Unit
  extract _ archive disk := (true, extractAll disk archive)
  outcome _ _ _ _ := node_extractAll _

def trackedFiles : List (Member Sample) :=
  [⟨"deploy/production/compose.yml", .file .compose⟩, ⟨"deploy/production/nginx/p2p.yxswy.com.conf", .file .nginx⟩]

/-- The site after a release of the tracked files. -/
def sampleSite : Site where
  disk := extractAll [] trackedFiles
  manifest := some (filesOf trackedFiles)
  removed := []
  halfway := []

def calm (count : Nat) : List (Choice sampleTar.Choice) := List.replicate count { tar := () }

/-- A third file besides the tracked ones. -/
def withNotes : List (Member Sample) := ⟨"notes.txt", .file .notes⟩ :: trackedFiles

def completed : Release Sample := release sampleTar sampleSite withNotes (calm 60)

/-- The release after it, without that file. -/
def afterCompleted : Release Sample := release sampleTar completed.after trackedFiles (calm 60)

/-- The first release crashes when its archive has been unpacked. -/
def interrupted : Release Sample := release sampleTar sampleSite withNotes (calm 21)

def afterInterrupted : Release Sample := release sampleTar interrupted.after trackedFiles (calm 60)

theorem Disk.mem_of_node {disk : Disk} {path : String} {entry : Node} (h : disk.node path = some entry) :
    (path, entry) ∈ disk := by
  obtain ⟨above, below, rfl, -⟩ := List.lookup_eq_some_iff.mp h
  exact List.mem_append_right _ List.mem_cons_self

theorem careful_sample {site : Site} {archive : List (Member Sample)} {choices : List (Choice sampleTar.Choice)}
    (hfiles : archive.all Member.isFile = true)
    (hcomplete : (release sampleTar site archive choices).after.halfway = []) :
    (release sampleTar site archive choices).Careful where
  displaces _ hdisplaced := by
    obtain ⟨-, -, member, hmember, hfile, -⟩ := hdisplaced
    rw [List.all_eq_true.mp hfiles member hmember] at hfile
    cases hfile
  complete := hcomplete

theorem covered_sample {release : Release Sample} (h : ∀ entry ∈ release.before.disk, entry.2 = .file true →
    entry.1 ∈ release.before.recorded ∨ entry.1 ∈ filesOf release.archive) : release.Covered :=
  fun _ _ hpath _ => h _ (Disk.mem_of_node hpath) rfl

/-- The third file is gone after the second release. -/
theorem releases_clean_iff_sample : completed.ending = .returned () ∧ afterCompleted.ending = .returned () ∧
    afterCompleted.after.removed = ["notes.txt"] ∧ completed.Clean ∧ afterCompleted.Clean := by
  have hrun : Run sampleTar sampleSite ([completed] ++ [afterCompleted]) afterCompleted.after :=
    Run.release (Run.release Run.nil withNotes (calm 60)) trackedFiles (calm 60)
  have hcareful : ∀ release ∈ [completed] ++ [afterCompleted], release.Careful := by
    rw [List.forall_mem_append, List.forall_mem_singleton, List.forall_mem_singleton]
    exact ⟨careful_sample (by decide) (by decide +kernel), careful_sample (by decide) (by decide +kernel)⟩
  have hclean := (releases_clean_iff hrun hcareful).mpr (by
    rw [List.forall_mem_append, List.forall_mem_singleton, List.forall_mem_singleton]
    exact ⟨covered_sample (by decide +kernel), covered_sample (by decide +kernel)⟩)
  rw [List.forall_mem_append, List.forall_mem_singleton, List.forall_mem_singleton] at hclean
  exact ⟨by decide +kernel, by decide +kernel, by decide +kernel, hclean⟩

/-- The file of the interrupted release is in no manifest, and it is still there after the next one. -/
theorem interrupted_file_stays : ¬∀ (tar : Tar Sample) (start site : Site) (releases : List (Release Sample)),
    Run tar start releases site → ∀ release ∈ releases, release.Clean := by
  intro h
  have hrun : Run sampleTar sampleSite ([interrupted] ++ [afterInterrupted]) afterInterrupted.after :=
    Run.release (Run.release Run.nil withNotes (calm 21)) trackedFiles (calm 60)
  have hclean := h _ _ _ _ hrun afterInterrupted (by simp)
  have hstale := hclean.current (by decide +kernel) "notes.txt" (by decide +kernel) (by decide)
  revert hstale
  decide

end P2PTransmission.Deploy.Source
