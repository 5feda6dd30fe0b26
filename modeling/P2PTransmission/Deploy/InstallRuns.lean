import P2PTransmission.Deploy.Install

/-!
# Crashes during an installation

What the directory holds at every point at which an installation may stop. Each point has an invariant (`Inv`); one lemma for
each operation carries it from one point to the next, and the statement about all points (`install_crash_consistent`) is read
off it.
-/

set_option autoImplicit false

namespace P2PTransmission.Deploy

variable {Content : Type}

namespace Install

/-- The files as they were, and an empty quarantine. -/
structure Untouched (original : RuntimeFile → Option Content) (directory : Directory Content) : Prop where
  runtime : directory.runtime = original
  quarantine : ∀ file, directory.quarantine file = none

/-- What was moved is in the quarantine, and what was not is as it was. -/
structure Moving (original : RuntimeFile → Option Content) (state : Install Content) (rest : List RuntimeFile) : Prop where
  moved : ∀ file ∈ state.moved,
    state.directory.quarantine file = original file ∧ original file ≠ none ∧ state.directory.runtime file = none
  others : ∀ file ∉ state.moved, state.directory.runtime file = original file ∧ state.directory.quarantine file = none
  apart : ∀ file ∈ rest, file ∉ state.moved
  done : ∀ file ∉ rest, file ∉ state.moved → original file = none
  nodup : state.moved.Nodup
  restNodup : rest.Nodup

/-- Everything that there was is in the quarantine. -/
structure Moved (original : RuntimeFile → Option Content) (state : Install Content) : Prop where
  moved : ∀ file ∈ state.moved, state.directory.quarantine file = original file ∧ original file ≠ none
  others : ∀ file ∉ state.moved, original file = none ∧ state.directory.quarantine file = none
  nodup : state.moved.Nodup

/-- The files that are still in the quarantine, and the others as they were. -/
structure Reinstating (original : RuntimeFile → Option Content) (directory : Directory Content) (rest : List RuntimeFile) :
    Prop where
  waiting : ∀ file ∈ rest, directory.quarantine file = original file ∧ original file ≠ none
  others : ∀ file ∉ rest, directory.runtime file = original file ∧ directory.quarantine file = none
  nodup : rest.Nodup

/-- The files are consistent if the quarantine is empty, and the database is there in any case. -/
structure Recoverable (original : RuntimeFile → Option Content) (backup : Content) (directory : Directory Content) : Prop where
  consistent : (∀ file, directory.quarantine file = none) →
    directory.runtime = original ∨ directory.runtime = installedFiles backup
  kept : ∀ content, original .main = some content →
    directory.runtime .main = some content ∨ directory.quarantine .main = some content

/-- What is left to be removed is what the copy brought. -/
structure Removing (original : RuntimeFile → Option Content) (backup : Content) (state : Install Content)
    (rest : List RuntimeFile) : Prop where
  moved : Moved original state
  main : state.directory.runtime .main = some backup ∨ state.directory.runtime .main = none
  sidecars : ∀ file, file ≠ .main → state.directory.runtime file = none
  removed : ∀ file ∉ state.moved, file ∉ rest → state.directory.runtime file = none

/-- The invariant of a point. -/
def Inv (original : RuntimeFile → Option Content) (backup : Content) (state : Install Content) : Prop :=
  match state.point with
  | .inspecting | .copying | .droppingCopy =>
    Untouched original state.directory ∧ state.moved = [] ∧ state.installed = false
  | .verifyingCopy | .syncingCopy | .syncingCopyDirectory =>
    Untouched original state.directory ∧ state.moved = [] ∧ state.installed = false ∧
      state.directory.prepared = some backup
  | .moving rest => Moving original state rest ∧ state.installed = false ∧ state.directory.prepared = some backup
  | .publishing => Moving original state [] ∧ state.installed = false ∧ state.directory.prepared = some backup
  | .syncingPublished | .verifying =>
    Moved original state ∧ state.installed = true ∧ state.directory.runtime = installedFiles backup
  | .syncingDatabase =>
    Moved original state ∧ state.installed = true ∧ state.directory.runtime = installedFiles backup ∧ state.verified = true
  | .removing rest => Removing original backup state rest
  | .reinstating rest => Reinstating original state.directory rest
  | .syncingReversal | .droppingPrepared true => Untouched original state.directory
  | .droppingPrepared false | .raised => Recoverable original backup state.directory
  | .cleaning rest =>
    state.directory.runtime = installedFiles backup ∧ state.verified = true ∧
      ∀ file ∉ rest, state.directory.quarantine file = none
  | .syncingCleanup | .returnedTrue =>
    state.directory.runtime = installedFiles backup ∧ state.verified = true ∧
      ∀ file, state.directory.quarantine file = none
  | .returnedFalse .cleanup => state.directory.runtime = installedFiles backup ∧ state.verified = true
  | .returnedFalse (.install false) => Recoverable original backup state.directory
  | .returnedFalse .artifacts | .returnedFalse .preparation | .returnedFalse (.install true) =>
    Untouched original state.directory

section Points

variable {original : RuntimeFile → Option Content} {backup : Content} {state : Install Content} {rest : List RuntimeFile}
  {file : RuntimeFile}

/-! ## What the points have in common -/

theorem Untouched.recoverable {directory : Directory Content} (h : Untouched original directory) :
    Recoverable original backup directory where
  consistent _ := .inl h.runtime
  kept content hcontent := by
    left
    rw [h.runtime, hcontent]

theorem Moving.recoverable (h : Moving original state rest) : Recoverable original backup state.directory where
  consistent hempty := by
    left
    funext file
    by_cases hmoved : file ∈ state.moved
    · obtain ⟨hquarantine, hsome, -⟩ := h.moved file hmoved
      exact absurd (hquarantine.symm.trans (hempty file)) hsome
    · exact (h.others file hmoved).1
  kept content hcontent := by
    by_cases hmoved : RuntimeFile.main ∈ state.moved
    · right
      rw [(h.moved _ hmoved).1, hcontent]
    · left
      rw [(h.others _ hmoved).1, hcontent]

theorem Moved.kept (h : Moved original state) {content : Content} (hcontent : original .main = some content) :
    state.directory.quarantine .main = some content := by
  by_cases hmoved : RuntimeFile.main ∈ state.moved
  · rw [(h.moved _ hmoved).1, hcontent]
  · rw [(h.others _ hmoved).1] at hcontent
    cases hcontent

theorem Moved.recoverable (h : Moved original state) (hruntime : state.directory.runtime = installedFiles backup) :
    Recoverable original backup state.directory where
  consistent _ := .inr hruntime
  kept _ hcontent := .inr (h.kept hcontent)

/-- If nothing was moved, there was nothing, and the copy is there or not. -/
theorem Removing.recoverable (h : Removing original backup state rest) : Recoverable original backup state.directory where
  consistent hempty := by
    have hnone : ∀ file, original file = none := by
      intro file
      by_cases hmoved : file ∈ state.moved
      · obtain ⟨hquarantine, -⟩ := h.moved.moved file hmoved
        rw [← hquarantine, hempty file]
      · exact (h.moved.others file hmoved).1
    rcases h.main with hmain | hmain
    · right
      funext file
      cases file with
      | main => exact hmain
      | wal => exact h.sidecars _ (by decide)
      | shm => exact h.sidecars _ (by decide)
    · left
      funext file
      rw [hnone file]
      cases file with
      | main => exact hmain
      | wal => exact h.sidecars _ (by decide)
      | shm => exact h.sidecars _ (by decide)
  kept _ hcontent := .inr (h.moved.kept hcontent)

theorem Reinstating.untouched (h : Reinstating original state.directory []) : Untouched original state.directory where
  runtime := by
    funext file
    exact (h.others file List.not_mem_nil).1
  quarantine file := (h.others file List.not_mem_nil).2

theorem Reinstating.recoverable (h : Reinstating original state.directory rest) :
    Recoverable original backup state.directory where
  consistent hempty := by
    left
    funext file
    by_cases hrest : file ∈ rest
    · obtain ⟨hquarantine, hsome⟩ := h.waiting file hrest
      exact absurd (hquarantine.symm.trans (hempty file)) hsome
    · exact (h.others file hrest).1
  kept content hcontent := by
    by_cases hrest : RuntimeFile.main ∈ rest
    · right
      rw [(h.waiting _ hrest).1, hcontent]
    · left
      rw [(h.others _ hrest).1, hcontent]

/-! ## Operations -/

theorem Moving.move (h : Moving original state (file :: rest)) : Moving original (state.move file rest) rest := by
  have hfile : file ∉ state.moved := h.apart file List.mem_cons_self
  obtain ⟨hnotin, hnodup⟩ := List.nodup_cons.mp h.restNodup
  obtain ⟨hruntime, hquarantine⟩ := h.others file hfile
  unfold Install.move
  cases hcontent : state.directory.runtime file with
  | none =>
    refine ⟨h.moved, h.others, fun other hother => h.apart other (List.mem_cons_of_mem _ hother), ?_, h.nodup, hnodup⟩
    intro other hother hnot
    by_cases heq : other = file
    · rw [heq, ← hruntime, hcontent]
    · apply h.done other _ hnot
      intro hmem
      rcases List.mem_cons.mp hmem with hmem | hmem
      · exact heq hmem
      · exact hother hmem
  | some content =>
    have hne : ∀ other ∈ state.moved, other ≠ file := by
      intro other hother heq
      exact hfile (heq ▸ hother)
    constructor
    · intro other hother
      dsimp only at hother ⊢
      rcases List.mem_append.mp hother with hother | hother
      · rw [Function.update_of_ne (hne other hother), Function.update_of_ne (hne other hother)]
        exact h.moved other hother
      · rw [List.mem_singleton.mp hother, Function.update_self, Function.update_self, ← hruntime, hcontent]
        exact ⟨rfl, by simp, rfl⟩
    · intro other hother
      dsimp only at hother ⊢
      rw [List.mem_append, List.mem_singleton, not_or] at hother
      rw [Function.update_of_ne hother.2, Function.update_of_ne hother.2]
      exact h.others other hother.1
    · intro other hother hmem
      dsimp only at hmem
      rcases List.mem_append.mp hmem with hmem | hmem
      · exact h.apart other (List.mem_cons_of_mem _ hother) hmem
      · exact hnotin (List.mem_singleton.mp hmem ▸ hother)
    · intro other hother hnot
      dsimp only at hnot
      rw [List.mem_append, List.mem_singleton, not_or] at hnot
      apply h.done other _ hnot.1
      intro hmem
      rcases List.mem_cons.mp hmem with hmem | hmem
      · exact hnot.2 hmem
      · exact hother hmem
    · dsimp only
      rw [List.nodup_append]
      refine ⟨h.nodup, List.nodup_singleton file, ?_⟩
      intro other hother last hlast
      rw [List.mem_singleton.mp hlast]
      exact hne other hother
    · exact hnodup

theorem Moving.start (h : Untouched original state.directory) (hmoved : state.moved = []) (hrest : rest = runtimeFiles) :
    Moving original state rest where
  moved file hfile := by
    rw [hmoved] at hfile
    cases hfile
  others file _ := by
    rw [h.runtime]
    exact ⟨rfl, h.quarantine file⟩
  apart file _ hfile := by
    rw [hmoved] at hfile
    cases hfile
  done file hfile _ := by
    rw [hrest] at hfile
    cases file
    all_goals exact absurd (by decide) hfile
  nodup := by
    rw [hmoved]
    exact List.nodup_nil
  restNodup := by
    rw [hrest]
    decide

/-- Everything is moved, and the copy is published. -/
theorem Moving.publish (h : Moving original state []) (hprepared : state.directory.prepared = some backup) :
    Moved original state.publish ∧ state.publish.directory.runtime = installedFiles backup := by
  constructor
  · exact
      { moved := fun file hfile => ⟨(h.moved file hfile).1, (h.moved file hfile).2.1⟩
        others := fun file hfile => ⟨h.done file List.not_mem_nil hfile, (h.others file hfile).2⟩
        nodup := h.nodup }
  · have hnone : ∀ file, state.directory.runtime file = none := by
      intro file
      by_cases hmoved : file ∈ state.moved
      · exact (h.moved file hmoved).2.2
      · rw [(h.others file hmoved).1]
        exact h.done file List.not_mem_nil hmoved
    funext file
    unfold Install.publish
    dsimp only
    cases file with
    | main => rw [Function.update_self, hprepared]; rfl
    | wal => rw [Function.update_of_ne (by decide), hnone]; rfl
    | shm => rw [Function.update_of_ne (by decide), hnone]; rfl

theorem Moved.removing (h : Moved original state) (hruntime : state.directory.runtime = installedFiles backup) :
    Removing original backup state (runtimeFiles.filter fun file => file ∉ state.moved) where
  moved := h
  main := by
    left
    rw [hruntime]
    rfl
  sidecars file hfile := by
    rw [hruntime]
    cases file with
    | main => exact absurd rfl hfile
    | wal => rfl
    | shm => rfl
  removed file hfile hrest := by
    refine absurd (List.mem_filter.mpr ⟨?_, by simpa using hfile⟩) hrest
    cases file
    all_goals decide

theorem Removing.remove (h : Removing original backup state (file :: rest)) :
    Removing original backup (state.remove file rest) rest where
  moved := ⟨h.moved.moved, h.moved.others, h.moved.nodup⟩
  main := by
    unfold Install.remove
    dsimp only
    by_cases hmain : RuntimeFile.main = file
    · right
      rw [← hmain, Function.update_self]
    · rw [Function.update_of_ne hmain]
      exact h.main
  sidecars other hother := by
    unfold Install.remove
    dsimp only
    by_cases heq : other = file
    · rw [heq, Function.update_self]
    · rw [Function.update_of_ne heq]
      exact h.sidecars other hother
  removed other hother hrest := by
    unfold Install.remove
    dsimp only
    by_cases heq : other = file
    · rw [heq, Function.update_self]
    · rw [Function.update_of_ne heq]
      apply h.removed other hother
      intro hmem
      rcases List.mem_cons.mp hmem with hmem | hmem
      · exact heq hmem
      · exact hrest hmem

theorem Removing.reinstating (h : Removing original backup state []) :
    Reinstating original state.directory state.moved.reverse where
  waiting file hfile := h.moved.moved file (List.mem_reverse.mp hfile)
  others file hfile := by
    have hnot : file ∉ state.moved := fun hmem => hfile (List.mem_reverse.mpr hmem)
    obtain ⟨hnone, hquarantine⟩ := h.moved.others file hnot
    rw [hnone]
    exact ⟨h.removed file hnot List.not_mem_nil, hquarantine⟩
  nodup := List.nodup_reverse.mpr h.moved.nodup

theorem Moving.reinstating (h : Moving original state rest) :
    Reinstating original state.directory state.moved.reverse where
  waiting file hfile := by
    obtain ⟨hquarantine, hsome, -⟩ := h.moved file (List.mem_reverse.mp hfile)
    exact ⟨hquarantine, hsome⟩
  others file hfile := h.others file fun hmem => hfile (List.mem_reverse.mpr hmem)
  nodup := List.nodup_reverse.mpr h.nodup

theorem Reinstating.reinstate (h : Reinstating original state.directory (file :: rest)) :
    Reinstating original (state.reinstate file rest).directory rest := by
  obtain ⟨hnotin, hnodup⟩ := List.nodup_cons.mp h.nodup
  unfold Install.reinstate
  constructor
  · intro other hother
    have hne : other ≠ file := fun heq => hnotin (heq ▸ hother)
    dsimp only
    rw [Function.update_of_ne hne]
    exact h.waiting other (List.mem_cons_of_mem _ hother)
  · intro other hother
    dsimp only
    by_cases heq : other = file
    · rw [heq, Function.update_self, Function.update_self]
      exact ⟨(h.waiting file List.mem_cons_self).1, rfl⟩
    · rw [Function.update_of_ne heq, Function.update_of_ne heq]
      apply h.others other
      intro hmem
      rcases List.mem_cons.mp hmem with hmem | hmem
      · exact heq hmem
      · exact hother hmem
  · exact hnodup

/-! ## Steps -/

theorem move_inv (h : Moving original state (file :: rest)) (hinstalled : state.installed = false)
    (hprepared : state.directory.prepared = some backup) : Inv original backup (state.move file rest) := by
  have hmoving := h.move
  unfold Install.move at hmoving ⊢
  cases hcontent : state.directory.runtime file with
  | none =>
    rw [hcontent] at hmoving
    exact ⟨hmoving, hinstalled, hprepared⟩
  | some content =>
    rw [hcontent] at hmoving
    exact ⟨hmoving, hinstalled, hprepared⟩

theorem reverse_inv (h : Moving original state rest) (hinstalled : state.installed = false) :
    Inv original backup state.reverse := by
  unfold reverse
  rw [hinstalled]
  exact h.reinstating

theorem reverse_installed_inv (h : Moved original state) (hinstalled : state.installed = true)
    (hruntime : state.directory.runtime = installedFiles backup) : Inv original backup state.reverse := by
  unfold reverse
  rw [if_pos hinstalled]
  exact ⟨⟨h.moved, h.others, h.nodup⟩, (h.removing hruntime).main, (h.removing hruntime).sidecars,
    (h.removing hruntime).removed⟩

theorem step_inv (h : Inv original backup state) (outcome : Outcome) : Inv original backup (state.step backup outcome) := by
  obtain ⟨directory, point, moved, installed, verified⟩ := state
  cases point with
  | inspecting =>
    obtain ⟨huntouched, hmoved, hinstalled⟩ := h
    cases outcome with
    | succeeds =>
      unfold step
      dsimp only
      split
      · exact huntouched
      · exact ⟨huntouched, hmoved, hinstalled⟩
    | fails => exact huntouched.recoverable
  | copying =>
    obtain ⟨huntouched, hmoved, hinstalled⟩ := h
    cases outcome with
    | succeeds => exact ⟨⟨huntouched.runtime, huntouched.quarantine⟩, hmoved, hinstalled, rfl⟩
    | fails => exact ⟨huntouched, hmoved, hinstalled⟩
  | verifyingCopy | syncingCopy =>
    obtain ⟨huntouched, hmoved, hinstalled, hprepared⟩ := h
    cases outcome with
    | succeeds => exact ⟨huntouched, hmoved, hinstalled, hprepared⟩
    | fails => exact ⟨huntouched, hmoved, hinstalled⟩
  | syncingCopyDirectory =>
    obtain ⟨huntouched, hmoved, hinstalled, hprepared⟩ := h
    cases outcome with
    | succeeds => exact ⟨.start huntouched hmoved rfl, hinstalled, hprepared⟩
    | fails => exact ⟨huntouched, hmoved, hinstalled⟩
  | droppingCopy =>
    obtain ⟨huntouched, hmoved, hinstalled⟩ := h
    cases outcome with
    | succeeds => exact ⟨huntouched.runtime, huntouched.quarantine⟩
    | fails => exact huntouched.recoverable
  | moving rest =>
    obtain ⟨hmoving, hinstalled, hprepared⟩ := h
    cases rest with
    | nil => exact ⟨⟨hmoving.moved, hmoving.others, hmoving.apart, hmoving.done, hmoving.nodup, hmoving.restNodup⟩,
        hinstalled, hprepared⟩
    | cons file rest =>
      cases outcome with
      | succeeds => exact move_inv hmoving hinstalled hprepared
      | fails => exact reverse_inv hmoving hinstalled
  | publishing =>
    obtain ⟨hmoving, hinstalled, hprepared⟩ := h
    cases outcome with
    | succeeds =>
      obtain ⟨hmoved, hruntime⟩ := hmoving.publish hprepared
      exact ⟨hmoved, rfl, hruntime⟩
    | fails => exact reverse_inv hmoving hinstalled
  | syncingPublished | verifying =>
    obtain ⟨hmoved, hinstalled, hruntime⟩ := h
    cases outcome with
    | succeeds => first
      | exact ⟨⟨hmoved.moved, hmoved.others, hmoved.nodup⟩, hinstalled, hruntime⟩
      | exact ⟨⟨hmoved.moved, hmoved.others, hmoved.nodup⟩, hinstalled, hruntime, rfl⟩
    | fails => exact reverse_installed_inv hmoved hinstalled hruntime
  | syncingDatabase =>
    obtain ⟨hmoved, hinstalled, hruntime, hverified⟩ := h
    cases outcome with
    | succeeds =>
      refine ⟨hruntime, hverified, fun file hfile => ?_⟩
      cases file
      all_goals exact absurd (by decide) hfile
    | fails => exact reverse_installed_inv hmoved hinstalled hruntime
  | removing rest =>
    have h : Removing original backup ⟨directory, .removing rest, moved, installed, verified⟩ rest := h
    cases rest with
    | nil => exact h.reinstating
    | cons file rest =>
      cases outcome with
      | succeeds => exact h.remove
      | fails => exact h.recoverable
  | reinstating rest =>
    have h : Reinstating original (Install.directory ⟨directory, .reinstating rest, moved, installed, verified⟩) rest := h
    cases rest with
    | nil => exact h.untouched
    | cons file rest =>
      cases outcome with
      | succeeds => exact h.reinstate
      | fails => exact h.recoverable
  | syncingReversal =>
    have h : Untouched original directory := h
    cases outcome with
    | succeeds => exact h
    | fails => exact h.recoverable
  | droppingPrepared restored =>
    cases restored with
    | true =>
      have h : Untouched original directory := h
      cases outcome with
      | succeeds => exact ⟨h.runtime, h.quarantine⟩
      | fails => exact h.recoverable
    | false =>
      have h : Recoverable original backup directory := h
      cases outcome with
      | succeeds => exact ⟨h.consistent, h.kept⟩
      | fails => exact h
  | cleaning rest =>
    obtain ⟨hruntime, hverified, hclean⟩ := h
    cases rest with
    | nil => exact ⟨hruntime, hverified, fun file => hclean file List.not_mem_nil⟩
    | cons file rest =>
      cases outcome with
      | succeeds =>
        refine ⟨hruntime, hverified, fun other hother => ?_⟩
        show Function.update directory.quarantine file none other = none
        by_cases heq : other = file
        · rw [heq, Function.update_self]
        · rw [Function.update_of_ne heq]
          apply hclean other
          intro hmem
          rcases List.mem_cons.mp hmem with hmem | hmem
          · exact heq hmem
          · exact hother hmem
      | fails => exact ⟨hruntime, hverified⟩
  | syncingCleanup =>
    obtain ⟨hruntime, hverified, hclean⟩ := h
    cases outcome with
    | succeeds => exact ⟨hruntime, hverified, hclean⟩
    | fails => exact ⟨hruntime, hverified⟩
  | returnedTrue | returnedFalse failure | raised => exact h

/-- The invariant holds wherever the process stops. -/
theorem inv_after (original : RuntimeFile → Option Content) (earlier : Bool) (backup : Content) (outcomes : List Outcome) :
    Inv original backup (after backup { runtime := original, earlier } outcomes) := by
  unfold after
  have hstart : Inv original backup (Install.start { runtime := original, earlier }) :=
    ⟨⟨rfl, fun _ => rfl⟩, rfl, rfl⟩
  generalize Install.start { runtime := original, earlier } = state at hstart
  induction outcomes generalizing state with
  | nil => exact hstart
  | cons outcome outcomes ih => exact ih _ (step_inv hstart outcome)

/-! ## The directory at every point -/

/-- Before the quarantine is cleaned up, the installation can be recovered; after that the copy is in place. -/
theorem Inv.recoverable (h : Inv original backup state) :
    Recoverable original backup state.directory ∨
      state.directory.runtime = installedFiles backup ∧ state.verified = true := by
  obtain ⟨directory, point, moved, installed, verified⟩ := state
  cases point with
  | inspecting | copying | droppingCopy | verifyingCopy | syncingCopy | syncingCopyDirectory =>
    left
    exact h.1.recoverable
  | moving rest | publishing => exact .inl h.1.recoverable
  | syncingPublished | verifying => exact .inl (h.1.recoverable h.2.2)
  | syncingDatabase => exact .inl (h.1.recoverable h.2.2.1)
  | removing rest =>
    have h : Removing original backup _ rest := h
    exact .inl h.recoverable
  | reinstating rest =>
    have h : Reinstating original (Install.directory ⟨directory, .reinstating rest, moved, installed, verified⟩) rest := h
    exact .inl h.recoverable
  | syncingReversal =>
    have h : Untouched original (Install.directory ⟨directory, .syncingReversal, moved, installed, verified⟩) := h
    exact .inl h.recoverable
  | droppingPrepared restored =>
    cases restored with
    | true =>
      have h : Untouched original (Install.directory ⟨directory, .syncingReversal, moved, installed, verified⟩) := h
      exact .inl h.recoverable
    | false => exact .inl h
  | raised => exact .inl h
  | cleaning rest | syncingCleanup | returnedTrue => exact .inr ⟨h.1, h.2.1⟩
  | returnedFalse failure =>
    have huntouched : Untouched original directory → Recoverable original backup directory := fun h =>
      h.recoverable
    cases failure with
    | artifacts | preparation => exact .inl (huntouched h)
    | cleanup => exact .inr h
    | install restored =>
      cases restored with
      | true => exact .inl (huntouched h)
      | false => exact .inl h

theorem quarantine_of_no_artifacts (h : state.directory.hasArtifacts = false) :
    ∀ file, state.directory.quarantine file = none := by
  unfold Directory.hasArtifacts at h
  simp only [Bool.or_eq_false_iff, List.any_eq_false] at h
  intro file
  have hfile := h.2 file (by cases file <;> decide)
  simpa using hfile

end Points

/-- **An installation is crash consistent.** Wherever the process stops, whatever failed before: if no artifact is on disk, the
files are those that there were or those of the backup; only the latter if the installation reports success; the former if it
gives up before the cleanup and its reversal did not fail; and as long as there are artifacts and the new database was not
verified, the bytes of the old one are on disk. -/
theorem install_crash_consistent (original : RuntimeFile → Option Content) (earlier : Bool) (backup : Content)
    (outcomes : List Outcome) :
    let state := after backup { runtime := original, earlier } outcomes
    (state.directory.hasArtifacts = false →
      state.directory.runtime = original ∨ state.directory.runtime = installedFiles backup) ∧
    (state.point = .returnedTrue → state.directory.runtime = installedFiles backup ∧
      ∀ file, state.directory.quarantine file = none) ∧
    (∀ failure, state.point = .returnedFalse failure → failure ≠ .cleanup → failure ≠ .install false →
      state.directory.runtime = original) ∧
    (state.directory.hasArtifacts = true → state.verified = false → ∀ content, original .main = some content →
      state.directory.runtime .main = some content ∨ state.directory.quarantine .main = some content) := by
  intro state
  have hinv : Inv original backup state := inv_after original earlier backup outcomes
  refine ⟨fun hnone => ?_, fun hpoint => ?_, fun failure hpoint hcleanup hinstall => ?_, fun _ hverified content hcontent => ?_⟩
  · rcases hinv.recoverable with hrecoverable | ⟨hruntime, -⟩
    · exact hrecoverable.consistent (quarantine_of_no_artifacts hnone)
    · exact .inr hruntime
  · unfold Inv at hinv
    rw [hpoint] at hinv
    exact ⟨hinv.1, hinv.2.2⟩
  · unfold Inv at hinv
    rw [hpoint] at hinv
    cases failure with
    | artifacts | preparation => exact hinv.runtime
    | cleanup => exact absurd rfl hcleanup
    | install restored =>
      cases restored with
      | true => exact hinv.runtime
      | false => exact absurd rfl hinstall
  · rcases hinv.recoverable with hrecoverable | ⟨-, hdone⟩
    · exact hrecoverable.kept content hcontent
    · rw [hdone] at hverified
      cases hverified

end Install

end P2PTransmission.Deploy
