import P2PTransmission.Foundation.Fallible
import P2PTransmission.Rtc.Outgoing
import Mathlib.Data.List.Perm.Subperm

/-!
# What the cursors of a receiver stand for

The cursors come in any order, and each says of one file how far it is. The sender compares them with its own checkpoints and
with those that it has if the pending segment counts: it goes on from the one vector or the other, and from no third.
-/

set_option autoImplicit false

namespace P2PTransmission.Rtc

/-! ## What the cursors say -/

/-- The cursors say of the file what the checkpoint says. Without cursors nothing is verified. -/
def Says (resume : List ResumeCursor) (file : Checkpoint) : Prop :=
  if resume = [] then file.committedBytes = 0 ∧ file.lastSegmentBlake3 = none
  else
    (∃ cursor ∈ resume, cursor.fileId = file.fileId) ∧
      ∀ cursor ∈ resume, cursor.fileId = file.fileId →
        cursor.committedBytes = file.committedBytes ∧ cursor.lastSegmentBlake3 = file.lastSegmentBlake3

/-- The cursors assign its checkpoint to every file. -/
def Assigns (resume : List ResumeCursor) (files : List Checkpoint) : Prop := ∀ file ∈ files, Says resume file

/-- There is a cursor for each file, or none at all. -/
def Counted (resume : List ResumeCursor) (files : List Checkpoint) : Prop :=
  resume = [] ∨ resume.length = files.length

/-- The checkpoint with the pending segment. -/
def PendingCheckpoint.applied (pending : PendingCheckpoint) (file : Checkpoint) : Checkpoint :=
  { file with committedBytes := pending.committedBytes, lastSegmentBlake3 := some pending.blake3 }

/-- The vector with the pending segment. -/
def PendingCheckpoint.promoted (pending : PendingCheckpoint) (current : List Checkpoint) : List Checkpoint :=
  current.modify pending.fileIndex pending.applied

/-- The pending segment is ahead of its file, and its vector is one that could have been reached. -/
def PendingCheckpoint.Ahead (segmentBytes : Nat) (current : List Checkpoint) (pending : PendingCheckpoint) : Prop :=
  (∃ file, current[pending.fileIndex]? = some file ∧ file.committedBytes < pending.committedBytes) ∧
    validateCheckpointPrefix segmentBytes (pending.promoted current) = .ok ()

def Checkpoint.value (file : Checkpoint) : ResolvedCheckpoint :=
  { committedBytes := file.committedBytes, lastSegmentBlake3 := file.lastSegmentBlake3 }

/-- The checkpoint with the values that were received. -/
def Checkpoint.withValue (file : Checkpoint) (received : ResolvedCheckpoint) : Checkpoint :=
  { file with committedBytes := received.committedBytes, lastSegmentBlake3 := received.lastSegmentBlake3 }

section Matching

variable {segmentBytes : Nat} {current target : List Checkpoint} {pending : Option PendingCheckpoint}
  {resume : List ResumeCursor} {file : Checkpoint} {resolved : List ResolvedCheckpoint} {received : ResolvedCheckpoint}

/-! ## Files and their checkpoints -/

/-- The same files, at other checkpoints perhaps. -/
abbrev SameFiles (current target : List Checkpoint) : Prop :=
  List.Forall₂ (fun file other => other.fileId = file.fileId ∧ other.sizeBytes = file.sizeBytes) current target

theorem SameFiles.refl (current : List Checkpoint) : SameFiles current current :=
  List.forall₂_same.mpr fun _ _ => ⟨rfl, rfl⟩

theorem sameFiles_promoted (pending : PendingCheckpoint) : SameFiles current (pending.promoted current) := by
  unfold PendingCheckpoint.promoted
  generalize pending.fileIndex = index
  induction current generalizing index with
  | nil =>
    cases index with
    | zero => exact .nil
    | succ index => exact .nil
  | cons file current ih =>
    cases index with
    | zero => exact .cons ⟨rfl, rfl⟩ (SameFiles.refl current)
    | succ index => exact .cons ⟨rfl, rfl⟩ (ih index)

theorem SameFiles.map_fileId (h : SameFiles current target) : target.map (·.fileId) = current.map (·.fileId) := by
  induction h with
  | nil => rfl
  | cons hfile _ ih => rw [List.map_cons, List.map_cons, hfile.1, ih]

theorem SameFiles.withValues (h : SameFiles current target) :
    current.zipWith Checkpoint.withValue (target.map Checkpoint.value) = target := by
  induction h with
  | nil => rfl
  | @cons file other current target hfile _ ih =>
    rw [List.map_cons, List.zipWith_cons_cons, ih]
    congr 1
    obtain ⟨fileId, sizeBytes, committedBytes, lastSegmentBlake3⟩ := other
    obtain ⟨hid, hsize⟩ := hfile
    dsimp only at hid hsize
    unfold Checkpoint.withValue Checkpoint.value
    rw [hid, hsize]

/-- What is received of a file depends on its identifier. -/
theorem SameFiles.mapM_received (h : SameFiles current target) :
    current.mapM (Checkpoint.received resume) = target.mapM (Checkpoint.received resume) := by
  induction h with
  | nil => rfl
  | @cons file other current target hfile _ ih =>
    have hreceived : file.received resume = other.received resume := by
      unfold Checkpoint.received
      rw [hfile.1]
    rw [List.mapM_cons, List.mapM_cons, hreceived, ih]

theorem mapM_received_value : target.mapM (Checkpoint.received resume) = .ok (target.map Checkpoint.value) ↔
    ∀ file ∈ target, file.received resume = .ok file.value := by
  rw [mapM_ok, List.forall₂_map_right_iff, List.forall₂_same]

/-! ## Reading the cursors -/

theorem received_of_says (h : Says resume file) : file.received resume = .ok file.value := by
  unfold Says at h
  unfold Checkpoint.received
  by_cases hempty : resume = []
  · rw [if_pos hempty] at h
    rw [if_pos (by rw [hempty]; rfl)]
    unfold Checkpoint.value
    rw [h.1, h.2]
    rfl
  · rw [if_neg hempty] at h
    obtain ⟨⟨cursor, hcursor, hid⟩, hvalues⟩ := h
    rw [if_neg (by rw [List.isEmpty_iff]; exact hempty)]
    cases hfind : resume.find? (·.fileId == file.fileId) with
    | none =>
      have hnone := List.find?_eq_none.mp hfind cursor hcursor
      rw [hid, beq_self_eq_true] at hnone
      exact absurd rfl hnone
    | some first =>
      obtain ⟨hbytes, hdigest⟩ := hvalues first (List.mem_of_find?_eq_some hfind) (by
        simpa using List.find?_some hfind)
      dsimp only
      unfold ResumeCursor.resolved Checkpoint.value
      rw [hbytes, hdigest]

/-- As many cursors as files, one for each file: each of them is about another file. -/
theorem nodup_cursors (hnodup : (target.map (·.fileId)).Nodup) (hcount : resume.length = target.length)
    (hfound : ∀ file ∈ target, ∃ cursor ∈ resume, cursor.fileId = file.fileId) : (resume.map (·.fileId)).Nodup := by
  have hsubset : target.map (·.fileId) ⊆ resume.map (·.fileId) := by
    intro fileId hmem
    obtain ⟨file, hfile, rfl⟩ := List.mem_map.mp hmem
    obtain ⟨cursor, hcursor, hid⟩ := hfound file hfile
    exact List.mem_map.mpr ⟨cursor, hcursor, hid⟩
  have hperm : (target.map (·.fileId)).Perm (resume.map (·.fileId)) :=
    (hnodup.subperm hsubset).perm_of_length_le (by rw [List.length_map, List.length_map, hcount])
  exact hperm.nodup hnodup

theorem received_values_iff (hnodup : (target.map (·.fileId)).Nodup) (hcount : Counted resume target) :
    (∀ file ∈ target, file.received resume = .ok file.value) ↔ Assigns resume target := by
  constructor
  · intro hreceived
    by_cases hempty : resume = []
    · intro file hfile
      have hvalue := hreceived file hfile
      unfold Checkpoint.received at hvalue
      rw [if_pos (by rw [hempty]; rfl)] at hvalue
      have hzero := Except.ok.inj hvalue
      unfold Says
      rw [if_pos hempty]
      exact ⟨congrArg ResolvedCheckpoint.committedBytes hzero.symm, congrArg ResolvedCheckpoint.lastSegmentBlake3 hzero.symm⟩
    · have hfound : ∀ file ∈ target, ∃ cursor ∈ resume, cursor.fileId = file.fileId ∧ cursor.resolved = file.value := by
        intro file hfile
        have hvalue := hreceived file hfile
        unfold Checkpoint.received at hvalue
        rw [if_neg (by rw [List.isEmpty_iff]; exact hempty)] at hvalue
        cases hfind : resume.find? (·.fileId == file.fileId) with
        | none =>
          rw [hfind] at hvalue
          cases hvalue
        | some cursor =>
          rw [hfind] at hvalue
          exact ⟨cursor, List.mem_of_find?_eq_some hfind, by simpa using List.find?_some hfind, Except.ok.inj hvalue⟩
      have hdistinct := nodup_cursors hnodup (hcount.resolve_left hempty) fun file hfile => by
        obtain ⟨cursor, hcursor, hid, -⟩ := hfound file hfile
        exact ⟨cursor, hcursor, hid⟩
      intro file hfile
      obtain ⟨cursor, hcursor, hid, hvalue⟩ := hfound file hfile
      unfold Says
      rw [if_neg hempty]
      refine ⟨⟨cursor, hcursor, hid⟩, ?_⟩
      intro other hother hsame
      obtain rfl : other = cursor := List.inj_on_of_nodup_map hdistinct hother hcursor (hsame.trans hid.symm)
      exact ⟨congrArg ResolvedCheckpoint.committedBytes hvalue, congrArg ResolvedCheckpoint.lastSegmentBlake3 hvalue⟩
  · intro hassigns file hfile
    exact received_of_says (hassigns file hfile)

/-! ## The comparison -/

theorem verified_of_validatePrefix {incompleteSeen : Bool} (h : validatePrefix segmentBytes incompleteSeen current = .ok ()) :
    ∀ file ∈ current, file.verified = true := by
  induction current generalizing incompleteSeen with
  | nil =>
    intro file hfile
    cases hfile
  | cons first current ih =>
    unfold validatePrefix at h
    by_cases hbad : (!first.aligned segmentBytes || !first.verified || (incompleteSeen && 0 < first.committedBytes)) = true
    · rw [if_pos hbad] at h
      cases h
    · rw [if_neg hbad] at h
      intro file hfile
      rcases List.mem_cons.mp hfile with rfl | hrest
      · simp only [Bool.or_eq_true, Bool.not_eq_true', not_or, Bool.not_eq_false] at hbad
        exact hbad.1.2
      · exact ih h file hrest

theorem verified_of_validate (h : validateCheckpointPrefix segmentBytes current = .ok ()) :
    ∀ file ∈ current, file.verified = true := by
  unfold validateCheckpointPrefix at h
  by_cases hzero : segmentBytes = 0
  · rw [if_pos hzero] at h
    cases h
  · rw [if_neg hzero] at h
    exact verified_of_validatePrefix h

/-- A file without verified bytes has no digest, so that only the values count. -/
theorem currentMatches_iff (hverified : file.verified = true) : file.currentMatches received = true ↔ received = file.value := by
  obtain ⟨committedBytes, lastSegmentBlake3⟩ := received
  unfold Checkpoint.verified at hverified
  unfold Checkpoint.currentMatches Checkpoint.value
  simp only [Bool.or_eq_true, Bool.and_eq_true, beq_iff_eq, decide_eq_true_eq, Option.isNone_iff_eq_none] at hverified
  simp only [Bool.and_eq_true, beq_iff_eq, ResolvedCheckpoint.mk.injEq]
  by_cases hzero : committedBytes = 0
  · rw [if_pos hzero, Option.isNone_iff_eq_none]
    constructor
    · rintro ⟨hbytes, rfl⟩
      rcases hverified with ⟨-, hnone⟩ | ⟨hpositive, -⟩
      · exact ⟨hbytes, hnone.symm⟩
      · omega
    · rintro ⟨hbytes, rfl⟩
      rcases hverified with ⟨-, hnone⟩ | ⟨hpositive, -⟩
      · exact ⟨hbytes, hnone⟩
      · omega
  · rw [if_neg hzero, beq_iff_eq]

theorem matchesReceived_iff {pending : PendingCheckpoint} {fileIndex : Nat} (file : Checkpoint) :
    pending.matchesReceived fileIndex received = true ↔
      pending.fileIndex = fileIndex ∧ received = (pending.applied file).value := by
  obtain ⟨committedBytes, lastSegmentBlake3⟩ := received
  unfold PendingCheckpoint.matchesReceived PendingCheckpoint.applied Checkpoint.value
  simp only [Bool.and_eq_true, beq_iff_eq, ResolvedCheckpoint.mk.injEq, and_assoc]
  constructor
  · rintro ⟨hindex, hbytes, hdigest⟩
    exact ⟨hindex, hbytes.symm, hdigest.symm⟩
  · rintro ⟨hindex, hbytes, hdigest⟩
    exact ⟨hindex, hbytes.symm, hdigest.symm⟩

/-- Behind the file with the pending segment only the current checkpoints are accepted. -/
theorem matchFiles_behind {fileIndex : Nat} {promotion result : Option Nat} (hlength : resolved.length = current.length)
    (hverified : ∀ file ∈ current, file.verified = true)
    (hbehind : ∀ pending' ∈ pending, pending'.fileIndex < fileIndex) :
    matchFiles pending fileIndex promotion (current.zip resolved) = .ok result ↔
      result = promotion ∧ resolved = current.map Checkpoint.value := by
  induction current generalizing fileIndex resolved with
  | nil =>
    obtain rfl : resolved = [] := List.length_eq_zero_iff.mp hlength
    constructor
    · intro h
      exact ⟨(Except.ok.inj h).symm, rfl⟩
    · rintro ⟨rfl, -⟩
      rfl
  | cons file current ih =>
    obtain ⟨received, resolved, rfl⟩ := List.exists_cons_of_length_eq_add_one hlength
    have hnot : pending.any (·.matchesReceived fileIndex received) = false := by
      rw [Option.any_eq_false_iff_get]
      intro hsome
      have hbefore := hbehind (pending.get hsome) (Option.get_mem hsome)
      rw [← Bool.not_eq_true, matchesReceived_iff file]
      omega
    rw [List.zip_cons_cons, List.map_cons, List.cons.injEq]
    unfold matchFiles
    dsimp only
    rw [hnot]
    by_cases hmatches : file.currentMatches received = true
    · rw [if_neg (by simp [hmatches]), if_neg (by simp),
        ih (Nat.succ.inj hlength) (fun other hother => hverified other (List.mem_cons_of_mem _ hother))
          (fun pending' hpending => Nat.lt_succ_of_lt (hbehind pending' hpending)),
        (currentMatches_iff (hverified file List.mem_cons_self)).mp hmatches]
      simp
    · rw [if_pos (by simp [hmatches])]
      constructor
      · intro h
        cases h
      · rintro ⟨-, hvalue, -⟩
        exact absurd ((currentMatches_iff (hverified file List.mem_cons_self)).mpr hvalue) hmatches

/-- Up to that file the current checkpoints are accepted, and the pending one of the file itself. -/
theorem matchFiles_ahead {pending : PendingCheckpoint} {fileIndex index : Nat} {result : Option Nat}
    (hlength : resolved.length = current.length) (hverified : ∀ file ∈ current, file.verified = true)
    (hindex : pending.fileIndex = fileIndex + index) (hfile : current[index]? = some file)
    (hahead : file.committedBytes < pending.committedBytes) :
    matchFiles (some pending) fileIndex none (current.zip resolved) = .ok result ↔
      (result = none ∧ resolved = current.map Checkpoint.value) ∨
        (result = some pending.fileIndex ∧ resolved = (current.modify index pending.applied).map Checkpoint.value) := by
  induction current generalizing fileIndex index resolved with
  | nil => cases hfile
  | cons first current ih =>
    obtain ⟨received, resolved, rfl⟩ := List.exists_cons_of_length_eq_add_one hlength
    have hlater : ∀ file ∈ current, file.verified = true := fun other hother =>
      hverified other (List.mem_cons_of_mem _ hother)
    have hfirst : first.currentMatches received = true ↔ received = first.value :=
      currentMatches_iff (hverified first List.mem_cons_self)
    have hpending : pending.matchesReceived fileIndex received = true ↔
        pending.fileIndex = fileIndex ∧ received = (pending.applied first).value := matchesReceived_iff first
    rw [List.zip_cons_cons, List.map_cons, List.cons.injEq]
    unfold matchFiles
    dsimp only [Option.any_some]
    cases index with
    | zero =>
      obtain rfl : first = file := Option.some.inj hfile
      rw [List.modify_zero_cons, List.map_cons, List.cons.injEq]
      have hbehind : ∀ pending' ∈ some pending, pending'.fileIndex < fileIndex + 1 := by
        rintro _ ⟨⟩
        omega
      by_cases hpromotes : pending.matchesReceived fileIndex received = true
      · -- the pending segment is ahead, and so it is not the current checkpoint that was received
        obtain ⟨-, rfl⟩ := hpending.mp hpromotes
        have hdiffers : (pending.applied first).value ≠ first.value := fun hsame =>
          Nat.ne_of_gt hahead (congrArg ResolvedCheckpoint.committedBytes hsame)
        have hbytes : ((pending.applied first).value.committedBytes != first.committedBytes) = true := by
          rw [bne_iff_ne]
          exact Nat.ne_of_gt hahead
        rw [hpromotes, hbytes, if_neg (by simp), if_pos (by simp), if_neg (by simp),
          matchFiles_behind (Nat.succ.inj hlength) hlater hbehind, hindex, Nat.add_zero]
        simp [hdiffers]
      · have hvalue : received ≠ (pending.applied first).value := fun hsame =>
          hpromotes (hpending.mpr ⟨hindex, hsame⟩)
        rw [Bool.not_eq_true] at hpromotes
        rw [hpromotes]
        by_cases hmatches : first.currentMatches received = true
        · rw [if_neg (by simp [hmatches]), if_neg (by simp), matchFiles_behind (Nat.succ.inj hlength) hlater hbehind]
          obtain rfl := hfirst.mp hmatches
          simp [hvalue]
        · rw [if_pos (by simp [hmatches])]
          have hother : received ≠ first.value := fun hsame => hmatches (hfirst.mpr hsame)
          simp [hvalue, hother]
    | succ index =>
      rw [List.modify_succ_cons, List.map_cons, List.cons.injEq]
      have hpromotes : pending.matchesReceived fileIndex received = false := by
        rw [← Bool.not_eq_true, hpending]
        omega
      rw [hpromotes]
      by_cases hmatches : first.currentMatches received = true
      · rw [if_neg (by simp [hmatches]), if_neg (by simp), ih (Nat.succ.inj hlength) hlater (by omega) hfile]
        simp [hfirst.mp hmatches]
      · rw [if_pos (by simp [hmatches])]
        have hother : received ≠ first.value := fun hsame => hmatches (hfirst.mpr hsame)
        simp [hother]

theorem matchFiles_iff {result : Option Nat} (hlength : resolved.length = current.length)
    (hvalid : validateCheckpointPrefix segmentBytes current = .ok ())
    (hahead : ∀ pending' ∈ pending, pending'.Ahead segmentBytes current) :
    matchFiles pending 0 none (current.zip resolved) = .ok result ↔
      (result = none ∧ resolved = current.map Checkpoint.value) ∨
        ∃ pending' ∈ pending, result = some pending'.fileIndex ∧
          resolved = (pending'.promoted current).map Checkpoint.value := by
  have hverified := verified_of_validate hvalid
  cases pending with
  | none =>
    rw [matchFiles_behind hlength hverified (fun _ hnone => by cases hnone)]
    simp
  | some pending =>
    obtain ⟨⟨file, hfile, hbytes⟩, -⟩ := hahead pending rfl
    rw [matchFiles_ahead hlength hverified (Nat.zero_add _).symm hfile hbytes]
    unfold PendingCheckpoint.promoted
    simp

/-- The received vector is one of those that the sender has, if the files match. -/
theorem received_target (hnodup : (current.map (·.fileId)).Nodup) (hsame : SameFiles current target)
    (hcount : Counted resume current) :
    current.mapM (Checkpoint.received resume) = .ok (target.map Checkpoint.value) ↔ Assigns resume target := by
  have hlength : target.length = current.length := hsame.length_eq.symm
  rw [hsame.mapM_received, mapM_received_value]
  refine received_values_iff ?_ ?_
  · rw [hsame.map_fileId]
    exact hnodup
  · unfold Counted at hcount ⊢
    rw [hlength]
    exact hcount

/-- **The comparison is exact**: it succeeds for the current vector and for the one with the pending segment, and says which
one it is. -/
theorem matchLiveResume_ok {disposition : ResumeDisposition} (hnodup : (current.map (·.fileId)).Nodup)
    (hvalid : validateCheckpointPrefix segmentBytes current = .ok ())
    (hahead : ∀ pending' ∈ pending, pending'.Ahead segmentBytes current) :
    matchLiveResume segmentBytes current pending resume = .ok disposition ↔
      Counted resume current ∧
        ((disposition = .keepCurrent ∧ Assigns resume current) ∨
          ∃ pending' ∈ pending, disposition = .promotePending pending'.fileIndex ∧
            Assigns resume (pending'.promoted current)) := by
  unfold matchLiveResume
  by_cases hcount : Counted resume current
  · have hpasses : ¬(!resume.isEmpty && resume.length != current.length) = true := by
      rcases hcount with rfl | hlength
      · simp
      · simp [hlength]
    rw [if_neg hpasses]
    have hchanged : current.zipWith (fun file resolved =>
        { file with committedBytes := resolved.committedBytes, lastSegmentBlake3 := resolved.lastSegmentBlake3 }) =
        current.zipWith Checkpoint.withValue := rfl
    constructor
    · intro h
      refine ⟨hcount, ?_⟩
      cases hresolved : current.mapM (Checkpoint.received resume) with
      | error error =>
        rw [hresolved] at h
        cases h
      | ok resolved =>
        have hlength : resolved.length = current.length := (mapM_ok.mp hresolved).length_eq.symm
        rw [hresolved] at h
        dsimp only at h
        split at h
        · cases h
        · cases hfiles : matchFiles pending 0 none (current.zip resolved) with
          | error error =>
            rw [hfiles] at h
            cases h
          | ok result =>
            rw [hfiles] at h
            rcases (matchFiles_iff hlength hvalid hahead).mp hfiles with ⟨rfl, rfl⟩ | ⟨pending', hpending, rfl, rfl⟩
            · exact .inl ⟨(Except.ok.inj h).symm, (received_target hnodup (.refl current) hcount).mp hresolved⟩
            · exact .inr ⟨pending', hpending, (Except.ok.inj h).symm,
                (received_target hnodup (sameFiles_promoted pending') hcount).mp hresolved⟩
    · rintro ⟨-, ⟨rfl, hassigns⟩ | ⟨pending', hpending, rfl, hassigns⟩⟩
      · rw [(received_target hnodup (.refl current) hcount).mpr hassigns]
        dsimp only
        rw [hchanged, (SameFiles.refl current).withValues, hvalid,
          (matchFiles_iff (by rw [List.length_map]) hvalid hahead).mpr (.inl ⟨rfl, rfl⟩)]
      · have hsame : SameFiles current (pending'.promoted current) := sameFiles_promoted pending'
        rw [(received_target hnodup hsame hcount).mpr hassigns]
        dsimp only
        rw [hchanged, hsame.withValues, (hahead pending' hpending).2,
          (matchFiles_iff (by rw [List.length_map]; exact hsame.length_eq.symm) hvalid hahead).mpr
            (.inr ⟨pending', hpending, rfl, rfl⟩)]
  · have hfails : (!resume.isEmpty && resume.length != current.length) = true := by
      unfold Counted at hcount
      rw [not_or] at hcount
      simp [hcount]
    rw [if_pos hfails]
    constructor
    · intro h
      cases h
    · rintro ⟨hcounted, -⟩
      exact absurd hcounted hcount

end Matching

/-! ## What the sender adopts -/

section Adopting

variable [Blake3] {peer : Peer} {outgoing : OutgoingState} {segmentBytes : Nat} {request : StreamReadyRequest}
  {resume : List ResumeCursor} {promote : Bool}

/-- How far the files of the sender are. -/
def OutgoingState.checkpoints (outgoing : OutgoingState) : List Checkpoint := outgoing.files.map (·.checkpoint)

omit [Blake3] in
theorem commitPending_checkpoints (pending : PendingSegmentAck) :
    (outgoing.commitPending pending).checkpoints = pending.checkpoint.promoted outgoing.checkpoints := by
  unfold OutgoingState.checkpoints OutgoingState.commitPending PendingCheckpoint.promoted PendingSegmentAck.checkpoint
  dsimp only
  generalize outgoing.files = files
  generalize pending.fileIndex = index
  induction files generalizing index with
  | nil =>
    cases index with
    | zero => rfl
    | succ index => rfl
  | cons file files ih =>
    cases index with
    | zero => rfl
    | succ index =>
      rw [List.modify_succ_cons, List.map_cons, List.map_cons, List.modify_succ_cons, ih index]
      rfl

/-- What the cursors have to be compared with: distinct files at checkpoints that can be reached, and a pending segment that is
ahead. -/
structure OutgoingState.Comparable (outgoing : OutgoingState) (segmentBytes : Nat) : Prop where
  distinct : (outgoing.checkpoints.map (·.fileId)).Nodup
  valid : validateCheckpointPrefix segmentBytes outgoing.checkpoints = .ok ()
  ahead : ∀ pending ∈ outgoing.pendingAck, pending.checkpoint.Ahead segmentBytes outgoing.checkpoints

omit [Blake3] in
/-- **The vector that is adopted is that of the receiver**, and a pending segment that is promoted is there. -/
theorem OutgoingState.Comparable.ready (h : outgoing.Comparable segmentBytes)
    (hcursors : validateResumeCursors outgoing segmentBytes resume = some promote) :
    (promote = true → outgoing.pendingAck.isSome) ∧
      ∀ request, Counted resume (outgoing.ready promote request).checkpoints ∧
        Assigns resume (outgoing.ready promote request).checkpoints ∧
        validateCheckpointPrefix segmentBytes (outgoing.ready promote request).checkpoints = .ok () := by
  unfold validateResumeCursors at hcursors
  have hahead : ∀ pending' ∈ outgoing.pendingAck.map (·.checkpoint), pending'.Ahead segmentBytes outgoing.checkpoints := by
    intro pending' hpending
    obtain ⟨pending, hsome, rfl⟩ := Option.map_eq_some_iff.mp hpending
    exact h.ahead pending hsome
  cases hmatch : matchLiveResume segmentBytes (outgoing.files.map (·.checkpoint))
      (outgoing.pendingAck.map (·.checkpoint)) resume with
  | error error =>
    rw [hmatch] at hcursors
    cases hcursors
  | ok disposition =>
    rw [hmatch] at hcursors
    obtain ⟨hcount, hkeep | ⟨pending', hpending, hdisposition, hassigns⟩⟩ :=
      (matchLiveResume_ok h.distinct h.valid hahead).mp hmatch
    · obtain ⟨rfl, hassigns⟩ := hkeep
      obtain rfl : false = promote := Option.some.inj hcursors
      exact ⟨fun hfalse => absurd hfalse Bool.false_ne_true, fun _ => ⟨hcount, hassigns, h.valid⟩⟩
    · subst hdisposition
      obtain rfl : true = promote := Option.some.inj hcursors
      obtain ⟨pending, hsome, rfl⟩ := Option.map_eq_some_iff.mp hpending
      refine ⟨fun _ => by rw [hsome]; rfl, fun request => ?_⟩
      have hready : (outgoing.ready true request).checkpoints = pending.checkpoint.promoted outgoing.checkpoints := by
        unfold OutgoingState.ready
        rw [hsome]
        exact commitPending_checkpoints pending
      have hsame : SameFiles outgoing.checkpoints (pending.checkpoint.promoted outgoing.checkpoints) := sameFiles_promoted _
      rw [hready]
      refine ⟨?_, hassigns, (h.ahead pending hsome).2⟩
      unfold Counted at hcount ⊢
      rw [← hsame.length_eq]
      exact hcount

omit [Blake3] in
theorem outgoing_startIfAccepted {next : OutgoingState} :
    ∃ later, (peer.startIfAccepted next).outgoing = some later ∧ later.checkpoints = next.checkpoints ∧
      later.streamReady = next.streamReady := by
  unfold Peer.startIfAccepted
  split
  · exact ⟨{ next with sending := true }, rfl, rfl, rfl⟩
  · exact ⟨next, rfl, rfl, rfl⟩

omit [Blake3] in
theorem outgoing_sendTransferError {transferId code message : String} :
    (peer.sendTransferError transferId code message).outgoing = peer.outgoing := by
  unfold Peer.sendTransferError Peer.trySendControl
  cases hsent : peer.sendControl (.error transferId code message) with
  | error error => rfl
  | ok next =>
    obtain ⟨channel, -, -, rfl⟩ := Peer.sendControl_ok hsent
    rfl

omit [Blake3] in
/-- The readiness of a receiver changes the checkpoints to those of its cursors, or nothing. -/
theorem outgoing_receiverReady (houtgoing : peer.outgoing = some outgoing) (hmode : outgoing.mode = .streamed segmentBytes)
    (hid : outgoing.transferId = request.transferId) (hwindow : segmentBytes ≤ request.ackWindowBytes) :
    (validateResumeCursors outgoing segmentBytes request.resume = none →
        (peer.receiverReady request).outgoing = some outgoing) ∧
      ∀ promote, validateResumeCursors outgoing segmentBytes request.resume = some promote →
        ∃ later, (peer.receiverReady request).outgoing = some later ∧
          later.checkpoints = (outgoing.ready promote request).checkpoints := by
  have hmatches : ¬(outgoing.transferId ≠ request.transferId ∨ request.ackWindowBytes < segmentBytes) := by
    rintro (hother | hsmall)
    · exact hother hid
    · exact Nat.not_lt.mpr hwindow hsmall
  unfold Peer.receiverReady
  rw [houtgoing]
  dsimp only
  rw [hmode]
  dsimp only
  rw [if_neg hmatches]
  constructor
  · intro hnone
    rw [hnone]
    exact outgoing_sendTransferError.trans houtgoing
  · intro promote hsome
    rw [hsome]
    obtain ⟨later, hlater, hcheckpoints, -⟩ := outgoing_startIfAccepted
    exact ⟨later, hlater, hcheckpoints⟩

omit [Blake3] in
/-- The readiness of a receiver, without reconciliation. -/
theorem outgoing_handleStreamReady (houtgoing : peer.outgoing = some outgoing) (hmode : outgoing.mode = .streamed segmentBytes)
    (hreconciliation : peer.reconciliation request = .notNeeded) (hid : outgoing.transferId = request.transferId)
    (hwindow : segmentBytes ≤ request.ackWindowBytes) :
    (validateResumeCursors outgoing segmentBytes request.resume = none →
        (peer.handleStreamReady request).outgoing = some { outgoing with restoredFromDisk := false }) ∧
      ∀ promote, validateResumeCursors outgoing segmentBytes request.resume = some promote →
        ∃ later, (peer.handleStreamReady request).outgoing = some later ∧
          later.checkpoints = (outgoing.ready promote request).checkpoints := by
  unfold Peer.handleStreamReady
  rw [hreconciliation]
  dsimp only
  unfold Peer.withOutgoing
  rw [houtgoing, Option.map_some, if_pos ⟨hid, by rw [hmode]; exact decide_eq_true hwindow⟩]
  generalize hlive : ({ outgoing with restoredFromDisk := false } : OutgoingState) = live
  have hlivemode : live.mode = .streamed segmentBytes := by rw [← hlive]; exact hmode
  have hliveid : live.transferId = request.transferId := by rw [← hlive]; exact hid
  have hcursors : validateResumeCursors live segmentBytes request.resume =
      validateResumeCursors outgoing segmentBytes request.resume := by rw [← hlive]; rfl
  have hready : ∀ promote, (live.ready promote request).checkpoints = (outgoing.ready promote request).checkpoints := by
    intro promote
    subst hlive
    unfold OutgoingState.ready
    cases promote with
    | false => rfl
    | true =>
      dsimp only
      cases outgoing.pendingAck with
      | none => rfl
      | some pending => rfl
  obtain ⟨hrejected, hadopted⟩ := outgoing_receiverReady
    (show ({ peer with outgoing := some live } : Peer).outgoing = some live from rfl) hlivemode hliveid hwindow
  rw [hcursors] at hrejected hadopted
  refine ⟨hrejected, fun promote hsome => ?_⟩
  obtain ⟨later, hlater, hcheckpoints⟩ := hadopted promote hsome
  exact ⟨later, hlater, hcheckpoints.trans (hready promote)⟩

omit [Blake3] in
/-- **Matching is exact, and the sender adopts what the receiver has.** -/
theorem live_resume_exact :
    (∀ (segmentBytes : Nat) (current : List Checkpoint) (pending : Option PendingCheckpoint) (resume : List ResumeCursor),
        (current.map (·.fileId)).Nodup → validateCheckpointPrefix segmentBytes current = .ok () →
        (∀ pending' ∈ pending, pending'.Ahead segmentBytes current) →
      (matchLiveResume segmentBytes current pending resume = .ok .keepCurrent ↔
          Counted resume current ∧ Assigns resume current) ∧
        (∀ fileIndex, matchLiveResume segmentBytes current pending resume = .ok (.promotePending fileIndex) ↔
          ∃ pending' ∈ pending, pending'.fileIndex = fileIndex ∧ Counted resume current ∧
            Assigns resume (pending'.promoted current)) ∧
        ((∃ error, matchLiveResume segmentBytes current pending resume = .error error) ↔
          ¬(Counted resume current ∧ Assigns resume current) ∧
            ∀ pending' ∈ pending, ¬(Counted resume current ∧ Assigns resume (pending'.promoted current)))) ∧
    ∀ (peer : Peer) (outgoing : OutgoingState) (segmentBytes : Nat) (request : StreamReadyRequest),
        peer.outgoing = some outgoing → outgoing.mode = .streamed segmentBytes → outgoing.Comparable segmentBytes →
        peer.reconciliation request = .notNeeded → outgoing.transferId = request.transferId →
        segmentBytes ≤ request.ackWindowBytes →
      (validateResumeCursors outgoing segmentBytes request.resume = none →
          (peer.handleStreamReady request).outgoing = some { outgoing with restoredFromDisk := false }) ∧
        ∀ promote, validateResumeCursors outgoing segmentBytes request.resume = some promote →
          (promote = true → outgoing.pendingAck.isSome) ∧
            ∃ later, (peer.handleStreamReady request).outgoing = some later ∧
              Counted request.resume later.checkpoints ∧ Assigns request.resume later.checkpoints ∧
              validateCheckpointPrefix segmentBytes later.checkpoints = .ok () := by
  constructor
  · intro segmentBytes current pending resume hnodup hvalid hahead
    have hok : ∀ disposition, matchLiveResume segmentBytes current pending resume = .ok disposition ↔ _ :=
      fun _ => matchLiveResume_ok hnodup hvalid hahead
    refine ⟨?_, ?_, ?_⟩
    · rw [hok]
      simp
    · intro fileIndex
      rw [hok]
      constructor
      · rintro ⟨hcount, ⟨hkeep, -⟩ | ⟨pending', hpending, hpromote, hassigns⟩⟩
        · cases hkeep
        · exact ⟨pending', hpending, (ResumeDisposition.promotePending.inj hpromote).symm, hcount, hassigns⟩
      · rintro ⟨pending', hpending, rfl, hcount, hassigns⟩
        exact ⟨hcount, .inr ⟨pending', hpending, rfl, hassigns⟩⟩
    · constructor
      · rintro ⟨error, herror⟩
        constructor
        · rintro ⟨hcount, hassigns⟩
          rw [(hok .keepCurrent).mpr ⟨hcount, .inl ⟨rfl, hassigns⟩⟩] at herror
          cases herror
        · rintro pending' hpending ⟨hcount, hassigns⟩
          rw [(hok (.promotePending pending'.fileIndex)).mpr ⟨hcount, .inr ⟨pending', hpending, rfl, hassigns⟩⟩] at herror
          cases herror
      · rintro ⟨hkeep, hpromote⟩
        cases hresult : matchLiveResume segmentBytes current pending resume with
        | error error => exact ⟨error, rfl⟩
        | ok disposition =>
          obtain ⟨hcount, ⟨-, hassigns⟩ | ⟨pending', hpending, -, hassigns⟩⟩ := (hok disposition).mp hresult
          · exact absurd ⟨hcount, hassigns⟩ hkeep
          · exact absurd ⟨hcount, hassigns⟩ (hpromote pending' hpending)
  · intro peer outgoing segmentBytes request houtgoing hmode hcomparable hreconciliation hid hwindow
    obtain ⟨hrejected, hadopted⟩ := outgoing_handleStreamReady houtgoing hmode hreconciliation hid hwindow
    refine ⟨hrejected, fun promote hcursors => ?_⟩
    obtain ⟨hpending, hready⟩ := hcomparable.ready hcursors
    obtain ⟨later, hlater, hcheckpoints⟩ := hadopted promote hcursors
    refine ⟨hpending, later, hlater, ?_⟩
    rw [hcheckpoints]
    exact hready request

omit [Blake3] in
/-- Two cursors that say the same of the only file, and say what is so. -/
theorem repeated_cursor_is_rejected :
    ¬∀ (segmentBytes : Nat) (current : List Checkpoint) (pending : Option PendingCheckpoint) (resume : List ResumeCursor),
      (current.map (·.fileId)).Nodup → validateCheckpointPrefix segmentBytes current = .ok () →
        (∀ pending' ∈ pending, pending'.Ahead segmentBytes current) →
          (matchLiveResume segmentBytes current pending resume = .ok .keepCurrent ↔ Assigns resume current) := by
  intro hclaim
  have hone := (hclaim 8 [⟨"file_a", 8, 0, none⟩] none [⟨"file_a", 0, none⟩, ⟨"file_a", 0, none⟩] (by simp) (by decide)
    (fun _ hnone => by cases hnone)).mpr (by
      unfold Assigns Says
      simp)
  revert hone
  decide

end Adopting

end P2PTransmission.Rtc
