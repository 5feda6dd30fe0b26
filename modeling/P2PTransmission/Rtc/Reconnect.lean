import P2PTransmission.Rtc.Offers

/-!
# Another connection in the middle of a segment

A streamed transfer that is received goes through its files in order: the files before the current one are on the disk, those
after it are untouched, and only the current one may be written (`Progress`). When the connection is lost everything that came
after the last verified segment is forgotten, and the sender is told of the segments only. Both then expect the same chunk.
-/

set_option autoImplicit false

namespace P2PTransmission.Rtc

section Digests

variable [Blake3]

/-! ## The states of a transfer -/

/-- The states of a streamed transfer that is received, each with the segment that was taken out of it to be written. A write
that is left over from an earlier attempt may end as well. -/
inductive ReceiveRun : ReceiveState → Option SegmentWrite → Prop
  | accepted {offer : IncomingOffer} {segmentBytes : Nat} {writers : List StreamingFileWriter} (recoveryPersisted : Bool) :
      offer.mode = .streamed segmentBytes → writers.length = offer.files.length →
        ReceiveRun (Peer.acceptedReceive offer segmentBytes writers recoveryPersisted) none
  | restored {offer : IncomingOffer} {segmentBytes : Nat} {peerId : String} {recovery : StreamRecoveryRecord}
      {files : List ReceiveFileState} : offer.mode = .streamed segmentBytes →
        streamRecoveryMatches offer peerId recovery = true →
        List.Forall₂ (fun file (saved : StreamRecoveryFile) => ∃ recovered : RecoveredStreamingFile,
          file = Peer.restoredFile recovered saved.committedBytes segmentBytes) files recovery.files →
        ReceiveRun (Peer.restoredReceive offer segmentBytes files) none
  | started {receive : ReceiveState} {segment : Option SegmentWrite} :
      ReceiveRun receive segment → ReceiveRun { receive with started := true } segment
  | repeated {receive : ReceiveState} {segment : Option SegmentWrite} :
      ReceiveRun receive segment → ReceiveRun { receive with started := false } segment
  | repeatedWhileWriting {receive : ReceiveState} {segment : Option SegmentWrite} :
      ReceiveRun receive segment → ReceiveRun { receive with started := false, resumeRequested := true } segment
  | chunk {receive next : ReceiveState} {segment : Option SegmentWrite} {chunk : BinaryChunk} :
      ReceiveRun receive segment → receive.accept chunk = some next → ReceiveRun next segment
  | commit {receive next : ReceiveState} {segment : Option SegmentWrite} {taken : SegmentWrite} {commit : SegmentCommit}
      {writer : StreamingFileWriter} : ReceiveRun receive segment →
        receive.prepareWrite commit = .ok (next, taken, writer) → ReceiveRun next (some taken)
  | written {receive next : ReceiveState} {segment : Option SegmentWrite} {ended : SegmentWrite}
      {writer : StreamingFileWriter} : ReceiveRun receive segment → receive.installSegment ended writer = some next →
        ReceiveRun next none
  | reconnect {receive : ReceiveState} {segment : Option SegmentWrite} :
      ReceiveRun receive segment → ReceiveRun (prepareReceiveReconnect receive) segment

/-- The segment is the one that was taken out of the file to be written. -/
structure IsTaken (current : Nat) (file : ReceiveFileState) (offer : IncomingFile) (taken : SegmentWrite) : Prop where
  fileIndex : taken.fileIndex = current
  segmentIndex : taken.segmentIndex = file.segmentIndex
  committedBytes : taken.committedBytes = file.receivedBytes
  bounded : file.receivedBytes ≤ offer.file.sizeBytes

/-- The files before the current one are complete, those after it untouched, and only the current one may be written. -/
structure Progress (offers : List IncomingFile) (files : List ReceiveFileState) (current : Nat)
    (segment : Option SegmentWrite) : Prop where
  length : files.length = offers.length
  before : ∀ index < current, ∀ file offer, files[index]? = some file → offers[index]? = some offer →
    file.writing = false ∧ offer.file.sizeBytes ≤ file.segmentOffset
  after : ∀ index > current, ∀ file, files[index]? = some file → file.writing = false ∧ file.segmentOffset = 0
  underWay : ∀ file offer, files[current]? = some file → offers[current]? = some offer → file.writing = true →
    ∃ taken, segment = some taken ∧ IsTaken current file offer taken

/-- The transfer is streamed, and makes progress. -/
def ReceiveState.Progresses (receive : ReceiveState) (segment : Option SegmentWrite) : Prop :=
  ∃ segmentBytes current files, receive.payload = .streamed segmentBytes current files ∧
    Progress receive.offer.files files current segment

/-! ## The first index -/

section First

variable {A : Type} {p : A → Bool} {items : List A} {index : Nat}

omit [Blake3] in
theorem findIdx?_first (h : items.findIdx? p = some index) :
    (∃ item, items[index]? = some item ∧ p item = true) ∧
      ∀ earlier < index, ∀ item, items[earlier]? = some item → p item = false := by
  obtain ⟨hbound, hfound, hearlier⟩ := List.findIdx?_eq_some_iff_getElem.mp h
  refine ⟨⟨items[index], List.getElem?_eq_getElem hbound, hfound⟩, ?_⟩
  intro earlier hless item hitem
  obtain ⟨_, rfl⟩ := List.getElem?_eq_some_iff.mp hitem
  simpa using hearlier earlier hless

omit [Blake3] in
theorem findIdx?_nowhere (h : items.findIdx? p = none) : ∀ item ∈ items, p item = false :=
  List.findIdx?_eq_none_iff.mp h

end First

/-! ## Every step makes progress -/

section Steps

variable {offers : List IncomingFile} {offer : IncomingFile} {files : List ReceiveFileState} {file changed : ReceiveFileState}
  {current : Nat} {segment : Option SegmentWrite} {receive next : ReceiveState}

omit [Blake3] in
/-- A change of the current file. -/
theorem Progress.change (h : Progress offers files current segment) {taken : Option SegmentWrite}
    (hwriting : ∀ offer, offers[current]? = some offer → changed.writing = true →
      ∃ write, taken = some write ∧ IsTaken current changed offer write) :
    Progress offers (files.set current changed) current taken where
  length := by rw [List.length_set, h.length]
  before index hindex file offer hfile hoffer := by
    rw [List.getElem?_set_ne (Nat.ne_of_gt hindex)] at hfile
    exact h.before index hindex file offer hfile hoffer
  after index hindex file hfile := by
    rw [List.getElem?_set_ne (Nat.ne_of_lt hindex)] at hfile
    exact h.after index hindex file hfile
  underWay file offer hfile hoffer hfilewriting := by
    rw [List.getElem?_set_self'] at hfile
    cases hbefore : files[current]? with
    | none =>
      rw [hbefore] at hfile
      cases hfile
    | some old =>
      rw [hbefore] at hfile
      obtain rfl : changed = file := Option.some.inj hfile
      exact hwriting offer hoffer hfilewriting

omit [Blake3] in
/-- The file that is written is the current one. -/
theorem Progress.writing_current (h : Progress offers files current segment) {index : Nat} (hfile : files[index]? = some file)
    (hwriting : file.writing = true) : index = current := by
  rcases Nat.lt_trichotomy index current with hless | hequal | hgreater
  · have hbound : index < offers.length := by
      rw [← h.length]
      exact (List.getElem?_eq_some_iff.mp hfile).1
    obtain ⟨hidle, -⟩ := h.before index hless file _ hfile (List.getElem?_eq_getElem hbound)
    rw [hidle] at hwriting
    cases hwriting
  · exact hequal
  · obtain ⟨hidle, -⟩ := h.after index hgreater file hfile
    rw [hidle] at hwriting
    cases hwriting

omit [Blake3] in
/-- Where no segment is under way no file is written. -/
theorem Progress.idle (h : Progress offers files current none) (hfile : file ∈ files) : file.writing = false := by
  obtain ⟨index, hget⟩ := List.mem_iff_getElem?.mp hfile
  have hbound : index < offers.length := by
    rw [← h.length]
    exact (List.getElem?_eq_some_iff.mp hget).1
  cases hwriting : file.writing with
  | false => rfl
  | true =>
    obtain rfl := h.writing_current hget hwriting
    obtain ⟨taken, hnone, -⟩ := h.underWay file _ hget (List.getElem?_eq_getElem hbound) hwriting
    cases hnone

omit [Blake3] in
theorem progress_accepted {offer : IncomingOffer} {writers : List StreamingFileWriter}
    (hlength : writers.length = offer.files.length) :
    Progress offer.files (writers.map .new) (Peer.firstFileIndex offer) none := by
  have hnew : ∀ (index : Nat) (file : ReceiveFileState), (writers.map ReceiveFileState.new)[index]? = some file →
      file.writing = false ∧ file.segmentOffset = 0 := by
    intro index file hfile
    obtain ⟨writer, -, rfl⟩ := List.mem_map.mp (List.mem_of_getElem? hfile)
    exact ⟨rfl, rfl⟩
  refine ⟨by rw [List.length_map, hlength], ?_, fun index _ file hfile => hnew index file hfile, ?_⟩
  · intro index hindex file other hfile hoffer
    obtain ⟨hidle, hoffset⟩ := hnew index file hfile
    refine ⟨hidle, ?_⟩
    unfold Peer.firstFileIndex at hindex
    have hempty : decide (0 < other.file.sizeBytes) = false := by
      cases hfirst : offer.files.findIdx? (fun file => 0 < file.file.sizeBytes) with
      | some first =>
        rw [hfirst] at hindex
        exact (findIdx?_first hfirst).2 index hindex other hoffer
      | none => exact findIdx?_nowhere hfirst other (List.mem_of_getElem? hoffer)
    rw [decide_eq_false_iff_not] at hempty
    omega
  · intro file other hfile _ hwriting
    rw [(hnew _ file hfile).1] at hwriting
    cases hwriting

omit [Blake3] in
/-- Behind an incomplete file nothing is verified. -/
theorem validatePrefix_behind {segmentBytes : Nat} {incompleteSeen : Bool} {checkpoints : List Checkpoint}
    (h : validatePrefix segmentBytes incompleteSeen checkpoints = .ok ()) :
    (incompleteSeen = true → ∀ file ∈ checkpoints, file.committedBytes = 0) ∧
      ∀ (index : Nat) (file : Checkpoint), checkpoints[index]? = some file → file.committedBytes < file.sizeBytes →
        ∀ later > index, ∀ other : Checkpoint, checkpoints[later]? = some other → other.committedBytes = 0 := by
  induction checkpoints generalizing incompleteSeen with
  | nil =>
    constructor
    · intro _ file hfile
      cases hfile
    · intro index file hfile
      cases hfile
  | cons first checkpoints ih =>
    unfold validatePrefix at h
    by_cases hbad : (!first.aligned segmentBytes || !first.verified || (incompleteSeen && 0 < first.committedBytes)) = true
    · rw [if_pos hbad] at h
      cases h
    · rw [if_neg hbad] at h
      obtain ⟨hseen, hlater⟩ := ih h
      simp only [Bool.or_eq_true, not_or, Bool.and_eq_true, not_and, decide_eq_true_eq] at hbad
      constructor
      · intro hincomplete file hfile
        rcases List.mem_cons.mp hfile with rfl | hrest
        · have hzero := hbad.2 hincomplete
          omega
        · exact hseen (by rw [hincomplete]; rfl) file hrest
      · intro index file hfile hincomplete later hindex other hother
        obtain ⟨before, rfl⟩ := Nat.exists_eq_succ_of_ne_zero (Nat.ne_of_gt (Nat.lt_of_le_of_lt (Nat.zero_le _) hindex))
        cases index with
        | zero =>
          obtain rfl : first = file := Option.some.inj hfile
          exact hseen (by simp [hincomplete]) other (List.mem_of_getElem? hother)
        | succ index => exact hlater index file hfile hincomplete before (Nat.lt_of_succ_lt_succ hindex) other hother

omit [Blake3] in
theorem progress_restored {offer : IncomingOffer} {segmentBytes : Nat} {peerId : String} {recovery : StreamRecoveryRecord}
    (hmode : offer.mode = .streamed segmentBytes) (hmatches : streamRecoveryMatches offer peerId recovery = true)
    (hfiles : List.Forall₂ (fun file (saved : StreamRecoveryFile) => ∃ recovered : RecoveredStreamingFile,
      file = Peer.restoredFile recovered saved.committedBytes segmentBytes) files recovery.files) :
    Progress offer.files files (Peer.restoredFileIndex offer files) none := by
  unfold streamRecoveryMatches at hmatches
  rw [hmode] at hmatches
  obtain ⟨-, -, -, hlength, hsame, hvalid⟩ := of_decide_eq_true hmatches
  have hcount : files.length = offer.files.length := hfiles.length_eq.trans hlength
  -- a file is as far as its record, and of the size of its record
  have hstate : ∀ (index : Nat) (file : ReceiveFileState), files[index]? = some file →
      ∃ saved, recovery.files[index]? = some saved ∧ file.writing = false ∧ file.segmentOffset = saved.committedBytes ∧
        ∀ other : IncomingFile, offer.files[index]? = some other → saved.sizeBytes = other.file.sizeBytes := by
    intro index file hfile
    obtain ⟨hbound, hget⟩ := List.getElem?_eq_some_iff.mp hfile
    have hsaved : index < recovery.files.length := by rw [← hfiles.length_eq]; exact hbound
    obtain ⟨recovered, hrecovered⟩ := List.forall₂_iff_get.mp hfiles |>.2 index hbound hsaved
    rw [List.get_eq_getElem, List.get_eq_getElem, hget] at hrecovered
    refine ⟨recovery.files[index], List.getElem?_eq_getElem hsaved, ?_, ?_, ?_⟩
    · rw [hrecovered]
      rfl
    · rw [hrecovered]
      rfl
    · intro other hother
      have hpair : (other, recovery.files[index]) ∈ offer.files.zip recovery.files := by
        refine List.mem_of_getElem? (i := index) ?_
        rw [List.getElem?_zip_eq_some]
        exact ⟨hother, List.getElem?_eq_getElem hsaved⟩
      have hpassed := List.all_eq_true.mp hsame _ hpair
      exact (of_decide_eq_true hpassed).2.2.2
  have hstart : ∀ (index : Nat) (file : ReceiveFileState) (other : IncomingFile), files[index]? = some file →
      offer.files[index]? = some other → file.segmentOffset < other.file.sizeBytes →
        ∀ later > index, ∀ behind : ReceiveFileState, files[later]? = some behind → behind.segmentOffset = 0 := by
    intro index file other hfile hother hincomplete later hlater behind hbehind
    obtain ⟨saved, hsaved, -, hoffset, hsize⟩ := hstate index file hfile
    obtain ⟨savedBehind, hsavedBehind, -, hoffsetBehind, -⟩ := hstate later behind hbehind
    unfold validateCheckpointPrefix at hvalid
    split at hvalid
    · cases hvalid
    · cases hstart : validatePrefix segmentBytes false (recovery.files.map fun file =>
          { fileId := file.fileId, sizeBytes := file.sizeBytes, committedBytes := file.committedBytes,
            lastSegmentBlake3 := file.lastSegmentBlake3 }) with
      | error error =>
        rw [hstart] at hvalid
        cases hvalid
      | ok value =>
        rw [hoffsetBehind]
        exact (validatePrefix_behind hstart).2 index _ (by rw [List.getElem?_map, hsaved]; rfl)
          (by
            show saved.committedBytes < saved.sizeBytes
            rw [← hoffset, hsize other hother]
            exact hincomplete) later hlater _
          (by rw [List.getElem?_map, hsavedBehind]; rfl)
  refine ⟨hcount, ?_, ?_, ?_⟩
  · intro index hindex file other hfile hother
    obtain ⟨-, -, hidle, -, -⟩ := hstate index file hfile
    refine ⟨hidle, ?_⟩
    have hpair : (offer.files.zip files)[index]? = some (other, file) := by
      rw [List.getElem?_zip_eq_some]
      exact ⟨hother, hfile⟩
    have hcomplete : decide (file.segmentOffset < other.file.sizeBytes) = false := by
      unfold Peer.restoredFileIndex at hindex
      generalize hfirst : List.findIdx? _ (offer.files.zip files) = found at hindex
      cases found with
      | some first => exact (findIdx?_first hfirst).2 index hindex _ hpair
      | none => exact findIdx?_nowhere hfirst _ (List.mem_of_getElem? hpair)
    rw [decide_eq_false_iff_not] at hcomplete
    omega
  · intro index hindex file hfile
    obtain ⟨-, -, hidle, -, -⟩ := hstate index file hfile
    refine ⟨hidle, ?_⟩
    unfold Peer.restoredFileIndex at hindex
    generalize hfirst : List.findIdx? _ (offer.files.zip files) = found at hindex
    cases found with
    | some first =>
      obtain ⟨⟨other, incomplete⟩, hpair, hless⟩ := (findIdx?_first hfirst).1
      obtain ⟨hother, hincomplete⟩ := List.getElem?_zip_eq_some.mp hpair
      exact hstart first incomplete other hincomplete hother (of_decide_eq_true hless) index hindex file hfile
    | none =>
      have hbound := (List.getElem?_eq_some_iff.mp hfile).1
      dsimp only at hindex
      omega
  · intro file other hfile _ hwriting
    obtain ⟨-, -, hidle, -, -⟩ := hstate _ file hfile
    rw [hidle] at hwriting
    cases hwriting

omit [Blake3] in
theorem progresses_chunk {chunk : BinaryChunk} (h : receive.Progresses segment) (hnext : receive.accept chunk = some next) :
    next.Progresses segment := by
  obtain ⟨segmentBytes, current, files, hpayload, hprogress⟩ := h
  unfold ReceiveState.accept at hnext
  split at hnext
  · cases hnext
  · rw [hpayload] at hnext
    obtain ⟨offer, hoffer, hnext⟩ := Option.bind_eq_some_iff.mp hnext
    obtain ⟨file, hfile, hnext⟩ := Option.bind_eq_some_iff.mp hnext
    obtain ⟨changed, hchanged, rfl⟩ := Option.map_eq_some_iff.mp hnext
    refine ⟨segmentBytes, current, _, rfl, hprogress.change ?_⟩
    intro other _ hwriting
    unfold ReceiveFileState.accept at hchanged
    by_cases hidle : file.writing = true
    · rw [if_pos hidle] at hchanged
      cases hchanged
    · rw [if_neg hidle] at hchanged
      obtain ⟨offset, -, rfl⟩ := Option.map_eq_some_iff.mp hchanged
      exact absurd hwriting hidle

theorem progresses_commit {taken : SegmentWrite} {commit : SegmentCommit} {writer : StreamingFileWriter}
    (h : receive.Progresses segment) (hnext : receive.prepareWrite commit = .ok (next, taken, writer)) :
    next.Progresses (some taken) := by
  obtain ⟨segmentBytes, current, files, hpayload, hprogress⟩ := h
  unfold ReceiveState.prepareWrite at hnext
  split at hnext
  · cases hnext
  · rw [hpayload] at hnext
    dsimp only at hnext
    cases hoffer : receive.offer.files[current]? with
    | none =>
      rw [hoffer] at hnext
      cases hnext
    | some offer =>
      cases hfile : files[current]? with
      | none =>
        rw [hoffer, hfile] at hnext
        cases hnext
      | some file =>
        rw [hoffer, hfile] at hnext
        dsimp only at hnext
        split at hnext
        · cases hnext
        · rename_i hcommits
          simp only [Bool.not_eq_true', Bool.not_eq_false] at hcommits
          unfold ReceiveFileState.commits at hcommits
          obtain ⟨-, -, hindex, -, hreceived, -, -⟩ := of_decide_eq_true hcommits
          cases hwriter : file.writer with
          | none =>
            rw [hwriter] at hnext
            cases hnext
          | some writer' =>
            rw [hwriter] at hnext
            obtain ⟨rfl, rfl, -⟩ : _ ∧ _ ∧ _ := by simpa using hnext
            refine ⟨segmentBytes, current, _, rfl, hprogress.change ?_⟩
            intro other hother _
            obtain rfl : offer = other := Option.some.inj (hoffer.symm.trans hother)
            refine ⟨_, rfl, rfl, hindex.symm, hreceived.symm, ?_⟩
            show file.receivedBytes ≤ _
            rw [hreceived]
            exact Nat.min_le_right _ _

omit [Blake3] in
/-- The files up to the next one that is not empty are empty. -/
theorem nextFileIndex_spec (offer : IncomingOffer) (fileIndex : Nat) :
    fileIndex < nextFileIndex offer fileIndex ∨ offer.files.length ≤ fileIndex ∧
        nextFileIndex offer fileIndex = offer.files.length := by
  unfold nextFileIndex
  cases hfirst : (offer.files.drop (fileIndex + 1)).findIdx? fun file => 0 < file.file.sizeBytes with
  | some index =>
    left
    dsimp only
    omega
  | none =>
    dsimp only
    omega

omit [Blake3] in
theorem nextFileIndex_nonempty (offer : IncomingOffer) (fileIndex : Nat) : nextFileIndex offer fileIndex = offer.files.length ∨
    ∃ file, offer.files[nextFileIndex offer fileIndex]? = some file ∧ 0 < file.file.sizeBytes := by
  unfold nextFileIndex
  cases hfirst : (offer.files.drop (fileIndex + 1)).findIdx? fun file => 0 < file.file.sizeBytes with
  | some index =>
    obtain ⟨⟨file, hfile, hsize⟩, -⟩ := findIdx?_first hfirst
    rw [List.getElem?_drop] at hfile
    exact .inr ⟨file, hfile, of_decide_eq_true hsize⟩
  | none => exact .inl rfl

omit [Blake3] in
theorem empty_before_nextFileIndex {offer : IncomingOffer} {fileIndex index : Nat} {file : IncomingFile}
    (hafter : fileIndex < index) (hbefore : index < nextFileIndex offer fileIndex) (hfile : offer.files[index]? = some file) :
    file.file.sizeBytes = 0 := by
  have hdropped : (offer.files.drop (fileIndex + 1))[index - (fileIndex + 1)]? = some file := by
    rw [List.getElem?_drop, Nat.add_sub_cancel' hafter]
    exact hfile
  have hempty : decide (0 < file.file.sizeBytes) = false := by
    unfold nextFileIndex at hbefore
    cases hfirst : (offer.files.drop (fileIndex + 1)).findIdx? fun file => 0 < file.file.sizeBytes with
    | some first =>
      rw [hfirst] at hbefore
      dsimp only at hbefore
      exact (findIdx?_first hfirst).2 _ (by omega) file hdropped
    | none => exact findIdx?_nowhere hfirst file (List.mem_of_getElem? hdropped)
  rw [decide_eq_false_iff_not] at hempty
  omega

omit [Blake3] in
/-- The current file is complete, and the next one that is not empty becomes the current one. -/
theorem Progress.advance {offer : IncomingOffer} {other : IncomingFile} (h : Progress offer.files files current none)
    (hfile : files[current]? = some file) (hother : offer.files[current]? = some other) (hidle : file.writing = false)
    (hcomplete : other.file.sizeBytes ≤ file.segmentOffset) :
    Progress offer.files files (nextFileIndex offer current) none := by
  have hlater : current < nextFileIndex offer current := by
    rcases nextFileIndex_spec offer current with hlater | ⟨hend, -⟩
    · exact hlater
    · have hbound := (List.getElem?_eq_some_iff.mp hother).1
      omega
  refine ⟨h.length, ?_, fun index hindex => h.after index (Nat.lt_trans hlater hindex), ?_⟩
  · intro index hindex earlier offered hearlier hoffered
    rcases Nat.lt_trichotomy index current with hless | rfl | hgreater
    · exact h.before index hless earlier offered hearlier hoffered
    · obtain rfl : file = earlier := Option.some.inj (hfile.symm.trans hearlier)
      obtain rfl : other = offered := Option.some.inj (hother.symm.trans hoffered)
      exact ⟨hidle, hcomplete⟩
    · refine ⟨(h.after index hgreater earlier hearlier).1, ?_⟩
      rw [empty_before_nextFileIndex hgreater hindex hoffered]
      exact Nat.zero_le _
  · intro later offered hlaterFile _ hwriting
    rw [(h.after _ hlater later hlaterFile).1] at hwriting
    cases hwriting

omit [Blake3] in
/-- What a write that ends does to the transfer. -/
theorem installSegment_some {ended : SegmentWrite} {writer : StreamingFileWriter} {segmentBytes : Nat}
    (hpayload : receive.payload = .streamed segmentBytes current files)
    (hnext : receive.installSegment ended writer = some next) :
    ∃ file, files[ended.fileIndex]? = some file ∧ file.segmentIndex = ended.segmentIndex ∧ file.writing = true ∧
      next = { receive with
        resumeRequested := false
        payload := .streamed segmentBytes
          (if receive.offer.files[ended.fileIndex]?.any (·.file.sizeBytes == ended.committedBytes) then
            nextFileIndex receive.offer ended.fileIndex else current)
          (files.set ended.fileIndex (file.committed writer ended.committedBytes ended.blake3)) } := by
  unfold ReceiveState.installSegment at hnext
  rw [hpayload] at hnext
  obtain ⟨file, hfile, hnext⟩ := Option.bind_eq_some_iff.mp hnext
  split at hnext
  · cases hnext
  · rename_i hready
    rw [not_or, not_not, Bool.not_eq_false] at hready
    exact ⟨file, hfile, hready.1, hready.2, (Option.some.inj hnext).symm⟩

omit [Blake3] in
theorem Progress.written {offer : IncomingOffer} {ended : SegmentWrite} {writer : StreamingFileWriter}
    (h : Progress offer.files files current segment) (hfile : files[ended.fileIndex]? = some file)
    (hwriting : file.writing = true) :
    Progress offer.files (files.set ended.fileIndex (file.committed writer ended.committedBytes ended.blake3))
      (if offer.files[ended.fileIndex]?.any (·.file.sizeBytes == ended.committedBytes) then
        nextFileIndex offer ended.fileIndex else current) none := by
  obtain rfl := h.writing_current hfile hwriting
  have hchanged : Progress offer.files
      (files.set ended.fileIndex (file.committed writer ended.committedBytes ended.blake3)) ended.fileIndex none :=
    h.change fun _ _ hidle => by cases hidle
  split
  · rename_i hcomplete
    have hbound := (List.getElem?_eq_some_iff.mp hfile).1
    cases hother : offer.files[ended.fileIndex]? with
    | none =>
      rw [hother] at hcomplete
      cases hcomplete
    | some other =>
      rw [hother, Option.any_some, beq_iff_eq] at hcomplete
      exact hchanged.advance (by rw [List.getElem?_set_self hbound]) hother rfl (Nat.le_of_eq hcomplete)
  · exact hchanged

omit [Blake3] in
theorem progresses_written {ended : SegmentWrite} {writer : StreamingFileWriter} (h : receive.Progresses segment)
    (hnext : receive.installSegment ended writer = some next) : next.Progresses none := by
  obtain ⟨segmentBytes, current, files, hpayload, hprogress⟩ := h
  obtain ⟨file, hfile, -, hwriting, rfl⟩ := installSegment_some hpayload hnext
  exact ⟨segmentBytes, _, _, rfl, hprogress.written hfile hwriting⟩

/-! ## Another connection -/

/-- A file as the reconnection leaves it. -/
def ReceiveFileState.reconnected (file : ReceiveFileState) : ReceiveFileState :=
  if file.writing then file else file.rolledBack

omit [Blake3] in
@[simp] theorem writing_reconnected : file.reconnected.writing = file.writing := by
  unfold ReceiveFileState.reconnected
  split <;> rfl

omit [Blake3] in
@[simp] theorem segmentOffset_reconnected : file.reconnected.segmentOffset = file.segmentOffset := by
  unfold ReceiveFileState.reconnected
  split <;> rfl

omit [Blake3] in
theorem reconnected_of_idle (hidle : file.writing = false) : file.reconnected = file.rolledBack :=
  if_neg (by rw [hidle]; exact Bool.false_ne_true)

omit [Blake3] in
theorem reconnected_of_writing (hwriting : file.writing = true) : file.reconnected = file := if_pos hwriting

omit [Blake3] in
/-- Once is enough. -/
theorem reconnected_reconnected : file.reconnected.reconnected = file.reconnected := by
  cases hwriting : file.writing with
  | false =>
    rw [reconnected_of_idle (by rw [writing_reconnected, hwriting]), reconnected_of_idle hwriting]
    rfl
  | true => rw [reconnected_of_writing hwriting, reconnected_of_writing hwriting]

omit [Blake3] in
theorem prepareReceiveReconnect_eq {segmentBytes : Nat} (hpayload : receive.payload = .streamed segmentBytes current files) :
    prepareReceiveReconnect receive =
      { receive with
        started := false
        receivedBytes := ((files.map ReceiveFileState.reconnected).map (·.receivedBytes)).sum
        payload := .streamed segmentBytes (reconnectFileIndex receive.offer (files.map ReceiveFileState.reconnected))
          (files.map ReceiveFileState.reconnected) } := by
  unfold prepareReceiveReconnect
  rw [hpayload]
  rfl

omit [Blake3] in
/-- The index that a reconnection finds: of the file that is written, or of the first that is incomplete. -/
theorem reconnectFileIndex_spec {offer : IncomingOffer} (hlength : files.length = offer.files.length) :
    (∃ file, files[reconnectFileIndex offer files]? = some file ∧ file.writing = true) ∨
      (∀ file ∈ files, file.writing = false) ∧
        (∀ index < reconnectFileIndex offer files, ∀ (file : ReceiveFileState) (other : IncomingFile),
          files[index]? = some file → offer.files[index]? = some other → other.file.sizeBytes ≤ file.receivedBytes) ∧
        (reconnectFileIndex offer files = files.length ∨ ∃ file other, files[reconnectFileIndex offer files]? = some file ∧
          offer.files[reconnectFileIndex offer files]? = some other ∧ file.receivedBytes < other.file.sizeBytes) := by
  unfold reconnectFileIndex
  cases hwritten : files.findIdx? (·.writing) with
  | some index => exact .inl (findIdx?_first hwritten).1
  | none =>
    refine .inr ⟨findIdx?_nowhere hwritten, ?_⟩
    have hcomplete : ∀ (file : ReceiveFileState) (other : IncomingFile),
        decide (file.receivedBytes < other.file.sizeBytes) = false → other.file.sizeBytes ≤ file.receivedBytes := by
      intro file other hnot
      rw [decide_eq_false_iff_not] at hnot
      omega
    generalize hfirst : List.findIdx? _ (files.zip offer.files) = found
    cases found with
    | some first =>
      obtain ⟨⟨⟨file, other⟩, hpair, hless⟩, hearlier⟩ := findIdx?_first hfirst
      obtain ⟨hfile, hother⟩ := List.getElem?_zip_eq_some.mp hpair
      refine ⟨?_, .inr ⟨file, other, hfile, hother, of_decide_eq_true hless⟩⟩
      intro index hindex file other hfile hother
      exact hcomplete file other (hearlier index hindex (file, other) (List.getElem?_zip_eq_some.mpr ⟨hfile, hother⟩))
    | none =>
      refine ⟨?_, .inl rfl⟩
      intro index _ file other hfile hother
      exact hcomplete file other (findIdx?_nowhere hfirst (file, other)
        (List.mem_of_getElem? (List.getElem?_zip_eq_some.mpr ⟨hfile, hother⟩)))

omit [Blake3] in
/-- Nothing is left of what came after the last segment. -/
theorem reconnected_aligned (files : List ReceiveFileState) : ∀ file ∈ files.map ReceiveFileState.reconnected,
    file.writing = false → file.receivedBytes = file.segmentOffset := by
  intro file hfile hidle
  obtain ⟨old, -, rfl⟩ := List.mem_map.mp hfile
  rw [writing_reconnected] at hidle
  rw [reconnected_of_idle hidle]
  rfl

omit [Blake3] in
theorem Progress.reconnected {offer : IncomingOffer} (h : Progress offer.files files current segment) :
    Progress offer.files (files.map ReceiveFileState.reconnected)
      (reconnectFileIndex offer (files.map ReceiveFileState.reconnected)) segment := by
  have hsame : Progress offer.files (files.map ReceiveFileState.reconnected) current segment := by
    refine ⟨by rw [List.length_map, h.length], ?_, ?_, ?_⟩
    · intro index hindex file other hfile hother
      rw [List.getElem?_map] at hfile
      obtain ⟨old, hold, rfl⟩ := Option.map_eq_some_iff.mp hfile
      rw [writing_reconnected, segmentOffset_reconnected]
      exact h.before index hindex old other hold hother
    · intro index hindex file hfile
      rw [List.getElem?_map] at hfile
      obtain ⟨old, hold, rfl⟩ := Option.map_eq_some_iff.mp hfile
      rw [writing_reconnected, segmentOffset_reconnected]
      exact h.after index hindex old hold
    · intro file other hfile hother hwriting
      rw [List.getElem?_map] at hfile
      obtain ⟨old, hold, rfl⟩ := Option.map_eq_some_iff.mp hfile
      rw [writing_reconnected] at hwriting
      rw [reconnected_of_writing hwriting]
      exact h.underWay old other hold hother hwriting
  have haligned := reconnected_aligned files
  generalize hfiles : files.map ReceiveFileState.reconnected = after at hsame haligned
  rcases reconnectFileIndex_spec hsame.length with ⟨file, hfile, hwriting⟩ | ⟨hidle, hbefore, hend⟩
  · rw [hsame.writing_current hfile hwriting]
    exact hsame
  · refine ⟨hsame.length, ?_, ?_, ?_⟩
    · intro index hindex file other hfile hother
      have hmem := List.mem_of_getElem? hfile
      refine ⟨hidle file hmem, ?_⟩
      rw [← haligned file hmem (hidle file hmem)]
      exact hbefore index hindex file other hfile hother
    · intro index hindex file hfile
      rcases hend with hend | ⟨incomplete, other, hincomplete, hother, hless⟩
      · have hbound := (List.getElem?_eq_some_iff.mp hfile).1
        omega
      · -- the files before the current one are complete, so that this one is not before it
        have hmem := List.mem_of_getElem? hincomplete
        have hreached : current ≤ reconnectFileIndex offer after := by
          by_contra hnot
          have hcomplete := (hsame.before _ (Nat.not_le.mp hnot) incomplete other hincomplete hother).2
          rw [← haligned incomplete hmem (hidle incomplete hmem)] at hcomplete
          omega
        exact hsame.after index (Nat.lt_of_le_of_lt hreached hindex) file hfile
    · intro file other hfile _ hwriting
      rw [hidle file (List.mem_of_getElem? hfile)] at hwriting
      cases hwriting

omit [Blake3] in
theorem progresses_reconnect (h : receive.Progresses segment) : (prepareReceiveReconnect receive).Progresses segment := by
  obtain ⟨segmentBytes, current, files, hpayload, hprogress⟩ := h
  rw [prepareReceiveReconnect_eq hpayload]
  exact ⟨segmentBytes, _, _, rfl, hprogress.reconnected⟩

/-- **Every transfer makes progress.** -/
theorem ReceiveRun.progresses (h : ReceiveRun receive segment) : receive.Progresses segment := by
  induction h with
  | accepted recoveryPersisted _ hlength => exact ⟨_, _, _, rfl, progress_accepted hlength⟩
  | restored hmode hmatches hfiles => exact ⟨_, _, _, rfl, progress_restored hmode hmatches hfiles⟩
  | started _ ih => exact ih
  | repeated _ ih => exact ih
  | repeatedWhileWriting _ ih => exact ih
  | chunk _ hnext ih => exact progresses_chunk ih hnext
  | commit _ hnext ih => exact progresses_commit ih hnext
  | written _ hnext ih => exact progresses_written ih hnext
  | reconnect _ ih => exact progresses_reconnect ih

/-! ## The chunk that comes next -/

/-- The cursors of the receiver. -/
def ReceiveState.resume (receive : ReceiveState) (files : List ReceiveFileState) : List ResumeCursor :=
  receive.offer.files.zipWith Peer.resumeCursor files

/-- The chunk begins at the cursor of the first file that the cursors leave incomplete, and ends within its segment. -/
def ReceiveState.AtCursor (receive : ReceiveState) (segmentBytes : Nat) (files : List ReceiveFileState)
    (chunk : BinaryChunk) : Prop :=
  ∃ (index : Nat) (offer : IncomingFile) (cursor : ResumeCursor),
    receive.offer.files[index]? = some offer ∧ (receive.resume files)[index]? = some cursor ∧
      cursor.committedBytes < offer.file.sizeBytes ∧
      (∀ earlier < index, ∀ (offer : IncomingFile) (cursor : ResumeCursor), receive.offer.files[earlier]? = some offer →
        (receive.resume files)[earlier]? = some cursor → offer.file.sizeBytes ≤ cursor.committedBytes) ∧
      chunk.header.transferId = receive.offer.transferBytes ∧ chunk.header.fileId = offer.fileBytes ∧
      chunk.header.offset = cursor.committedBytes ∧ chunk.header.payloadLen = chunk.payload.length ∧
      cursor.committedBytes + chunk.payload.length ≤ U64_MAX ∧
      cursor.committedBytes + chunk.payload.length ≤
        min (saturatingAdd cursor.committedBytes segmentBytes) offer.file.sizeBytes

omit [Blake3] in
theorem resume_eq_some {index : Nat} {cursor : ResumeCursor} : (receive.resume files)[index]? = some cursor ↔
    ∃ offer file, receive.offer.files[index]? = some offer ∧ files[index]? = some file ∧
      Peer.resumeCursor offer file = cursor := by
  unfold ReceiveState.resume
  rw [List.getElem?_zipWith_eq_some]

omit [Blake3] in
/-- Where nothing is written and nothing came after the last segment, the chunk at the cursor is accepted and no other. -/
theorem accept_iff_atCursor {segmentBytes : Nat} {chunk : BinaryChunk} (hstarted : receive.started = true)
    (hpayload : receive.payload = .streamed segmentBytes current files)
    (hprogress : Progress receive.offer.files files current segment)
    (hidle : ∀ file ∈ files, file.writing = false ∧ file.receivedBytes = file.segmentOffset)
    (hcurrent : files.length ≤ current ∨ ∃ file other, files[current]? = some file ∧
      receive.offer.files[current]? = some other ∧ file.receivedBytes < other.file.sizeBytes) :
    (receive.accept chunk).isSome ↔ receive.AtCursor segmentBytes files chunk := by
  unfold ReceiveState.accept
  rw [hpayload]
  constructor
  · intro h
    split at h
    · cases h
    · rename_i hids
      rw [not_not] at hids
      obtain ⟨next, hnext⟩ := Option.isSome_iff_exists.mp h
      obtain ⟨offer, hoffer, hnext⟩ := Option.bind_eq_some_iff.mp hnext
      obtain ⟨file, hfile, hnext⟩ := Option.bind_eq_some_iff.mp hnext
      obtain ⟨changed, hchanged, -⟩ := Option.map_eq_some_iff.mp hnext
      obtain ⟨hfileIdle, hreceived⟩ := hidle file (List.mem_of_getElem? hfile)
      unfold ReceiveFileState.accept at hchanged
      rw [if_neg (by rw [hfileIdle]; exact Bool.false_ne_true)] at hchanged
      obtain ⟨offset, hoffset, -⟩ := Option.map_eq_some_iff.mp hchanged
      obtain ⟨-, hfileId, hbegin, hlength, rfl, hfits, hbound⟩ := ChunkBounds.nextOffset_eq_some.mp hoffset
      dsimp only at hfileId hbegin hfits hbound
      rw [hreceived] at hbegin hfits hbound
      refine ⟨current, offer, Peer.resumeCursor offer file, hoffer, resume_eq_some.mpr ⟨offer, file, hoffer, hfile, rfl⟩, ?_,
        ?_, hids.2, hfileId, hbegin, hlength, hfits, hbound⟩
      · rcases hcurrent with hend | ⟨incomplete, other, hincomplete, hother, hless⟩
        · have hinside := (List.getElem?_eq_some_iff.mp hfile).1
          omega
        · obtain rfl : file = incomplete := Option.some.inj (hfile.symm.trans hincomplete)
          obtain rfl : offer = other := Option.some.inj (hoffer.symm.trans hother)
          rw [hreceived] at hless
          exact hless
      · intro earlier hearlier offered cursor hoffered hcursor
        obtain ⟨_, before, hagain, hbefore, rfl⟩ := resume_eq_some.mp hcursor
        obtain rfl := Option.some.inj (hoffered.symm.trans hagain)
        exact (hprogress.before earlier hearlier before _ hbefore hoffered).2
  · rintro ⟨index, offer, cursor, hoffer, hcursor, hless, hearlier, htransfer, hfileId, hbegin, hlength, hfits, hbound⟩
    obtain ⟨_, file, hagain, hfile, rfl⟩ := resume_eq_some.mp hcursor
    obtain rfl := Option.some.inj (hoffer.symm.trans hagain)
    change file.segmentOffset < offer.file.sizeBytes at hless
    obtain ⟨hfileIdle, hreceived⟩ := hidle file (List.mem_of_getElem? hfile)
    have hinside := (List.getElem?_eq_some_iff.mp hfile).1
    obtain rfl : index = current := by
      rcases Nat.lt_trichotomy index current with hbefore | hequal | hafter
      · have hcomplete := (hprogress.before index hbefore file offer hfile hoffer).2
        omega
      · exact hequal
      · rcases hcurrent with hend | ⟨incomplete, other, hincomplete, hother, hmore⟩
        · omega
        · have hcomplete := hearlier current hafter other _ hother (resume_eq_some.mpr ⟨other, incomplete, hother,
            hincomplete, rfl⟩)
          change other.file.sizeBytes ≤ incomplete.segmentOffset at hcomplete
          rw [(hidle incomplete (List.mem_of_getElem? hincomplete)).2] at hmore
          omega
    rw [if_neg (by rw [not_not]; exact ⟨hstarted, htransfer⟩)]
    dsimp only
    rw [hoffer, hfile, Option.bind_some, Option.bind_some, Option.isSome_map]
    unfold ReceiveFileState.accept
    rw [if_neg (by rw [hfileIdle]; exact Bool.false_ne_true), hreceived]
    dsimp only
    rw [ChunkBounds.nextOffset_eq_some.mpr ⟨htransfer, hfileId, hbegin, hlength, rfl, hfits, hbound⟩]
    rfl

omit [Blake3] in
/-- The segment that is under way ends, and the chunk at the new cursor is accepted. -/
theorem installed_atCursor {segmentBytes : Nat} {taken : SegmentWrite} {other : IncomingFile}
    (hpayload : receive.payload = .streamed segmentBytes current files)
    (hprogress : Progress receive.offer.files files current segment)
    (haligned : ∀ file ∈ files, file.writing = false → file.receivedBytes = file.segmentOffset)
    (hfile : files[current]? = some file) (hother : receive.offer.files[current]? = some other)
    (hwriting : file.writing = true) (htaken : IsTaken current file other taken) (writer : StreamingFileWriter) :
    ∃ next index after, receive.installSegment taken writer = some next ∧
      next.payload = .streamed segmentBytes index after ∧
      ∀ chunk, ({ next with started := true }.accept chunk).isSome ↔ next.AtCursor segmentBytes after chunk := by
  have htakenFile : files[taken.fileIndex]? = some file := by rw [htaken.fileIndex]; exact hfile
  have hinstalled : receive.installSegment taken writer = some
      { receive with
        resumeRequested := false
        payload := .streamed segmentBytes
          (if receive.offer.files[taken.fileIndex]?.any (·.file.sizeBytes == taken.committedBytes) then
            nextFileIndex receive.offer taken.fileIndex else current)
          (files.set taken.fileIndex (file.committed writer taken.committedBytes taken.blake3)) } := by
    unfold ReceiveState.installSegment
    rw [hpayload]
    dsimp only
    rw [htakenFile, Option.bind_some, if_neg (by rw [htaken.segmentIndex, hwriting]; simp)]
  have hwritten : Progress receive.offer.files
      (files.set taken.fileIndex (file.committed writer taken.committedBytes taken.blake3))
      (if receive.offer.files[taken.fileIndex]?.any (·.file.sizeBytes == taken.committedBytes) then
        nextFileIndex receive.offer taken.fileIndex else current) none := hprogress.written htakenFile hwriting
  refine ⟨_, _, _, hinstalled, rfl, fun chunk => ?_⟩
  have hreceived : (file.committed writer taken.committedBytes taken.blake3).receivedBytes = taken.committedBytes :=
    htaken.committedBytes.symm
  have hidle : ∀ changed ∈ files.set taken.fileIndex (file.committed writer taken.committedBytes taken.blake3),
      changed.writing = false ∧ changed.receivedBytes = changed.segmentOffset := by
    intro changed hchanged
    have hchangedIdle := hwritten.idle hchanged
    refine ⟨hchangedIdle, ?_⟩
    rcases List.mem_or_eq_of_mem_set hchanged with hold | rfl
    · exact haligned changed hold hchangedIdle
    · exact hreceived
  refine accept_iff_atCursor rfl rfl hwritten hidle ?_
  rw [htaken.fileIndex, hother, Option.any_some]
  by_cases hcomplete : (other.file.sizeBytes == taken.committedBytes) = true
  · rw [if_pos hcomplete]
    rcases nextFileIndex_nonempty receive.offer current with hend | ⟨following, hfollowing, hsize⟩
    · left
      rw [hend, List.length_set, hprogress.length]
    · right
      have hlater : current < nextFileIndex receive.offer current := by
        rcases nextFileIndex_spec receive.offer current with hlater | ⟨hend, -⟩
        · exact hlater
        · have hbound := (List.getElem?_eq_some_iff.mp hother).1
          omega
      have hbound : nextFileIndex receive.offer current < files.length := by
        rw [hprogress.length]
        exact (List.getElem?_eq_some_iff.mp hfollowing).1
      have hget := List.getElem?_eq_getElem hbound
      have huntouched := hprogress.after _ hlater _ hget
      refine ⟨files[nextFileIndex receive.offer current], following, ?_, hfollowing, ?_⟩
      · rw [List.getElem?_set_ne (Nat.ne_of_lt hlater)]
        exact hget
      · rw [haligned _ (List.getElem_mem hbound) huntouched.1, huntouched.2]
        exact hsize
  · rw [if_neg hcomplete]
    right
    rw [beq_iff_eq] at hcomplete
    have hinside := (List.getElem?_eq_some_iff.mp hfile).1
    refine ⟨_, other, List.getElem?_set_self hinside, hother, ?_⟩
    rw [hreceived]
    have hbounded := htaken.bounded
    have hcommitted := htaken.committedBytes
    omega

omit [Blake3] in
theorem accept_while_writing {segmentBytes : Nat} (hpayload : receive.payload = .streamed segmentBytes current files)
    (hfile : files[current]? = some file) (hwriting : file.writing = true) (chunk : BinaryChunk) :
    receive.accept chunk = none := by
  unfold ReceiveState.accept
  rw [hpayload]
  split
  · rfl
  · dsimp only
    rw [hfile]
    cases receive.offer.files[current]? with
    | none => rfl
    | some offer =>
      rw [Option.bind_some, Option.bind_some]
      unfold ReceiveFileState.accept
      rw [if_pos hwriting, Option.map_none]

omit [Blake3] in
theorem rolledBack_files (files : List ReceiveFileState) :
    List.Forall₂ (fun before file => file.writing = before.writing ∧ file.segmentOffset = before.segmentOffset ∧
      file.committedHasher = before.committedHasher ∧ file.lastSegmentBlake3 = before.lastSegmentBlake3 ∧
      (before.writing = true → file = before) ∧
      (before.writing = false → file.receivedBytes = file.segmentOffset ∧ file.hasher = file.committedHasher ∧
        file.chunks = [] ∧ file.segmentHasher = .new)) files (files.map ReceiveFileState.reconnected) := by
  rw [List.forall₂_map_right_iff, List.forall₂_same]
  intro file _
  cases hwriting : file.writing with
  | false =>
    rw [reconnected_of_idle hwriting]
    exact ⟨hwriting, rfl, rfl, rfl, fun htrue => absurd htrue Bool.false_ne_true, fun _ => ⟨rfl, rfl, rfl, rfl⟩⟩
  | true =>
    rw [reconnected_of_writing hwriting]
    exact ⟨hwriting, rfl, rfl, rfl, fun _ => rfl, fun hfalse => absurd hfalse.symm Bool.false_ne_true⟩

omit [Blake3] in
/-- The index of a reconnection is that of the first file that is not complete, and what it says of the file. -/
theorem Progress.first {offer : IncomingOffer} {after : List ReceiveFileState}
    (h : Progress offer.files after (reconnectFileIndex offer after) segment)
    (haligned : ∀ file ∈ after, file.writing = false → file.receivedBytes = file.segmentOffset) :
    (∀ earlier < reconnectFileIndex offer after, ∀ (file : ReceiveFileState) (other : IncomingFile),
        after[earlier]? = some file → offer.files[earlier]? = some other →
          file.writing = false ∧ other.file.sizeBytes ≤ file.receivedBytes) ∧
      (reconnectFileIndex offer after = after.length ∨ ∃ file other, after[reconnectFileIndex offer after]? = some file ∧
        offer.files[reconnectFileIndex offer after]? = some other ∧
          (file.writing = true ∨ file.receivedBytes < other.file.sizeBytes)) := by
  constructor
  · intro earlier hearlier file other hfile hother
    obtain ⟨hidle, hcomplete⟩ := h.before earlier hearlier file other hfile hother
    rw [haligned file (List.mem_of_getElem? hfile) hidle]
    exact ⟨hidle, hcomplete⟩
  · rcases reconnectFileIndex_spec h.length with ⟨file, hfile, hwriting⟩ | ⟨-, -, hend | ⟨file, other, hfile, hother, hless⟩⟩
    · have hbound : reconnectFileIndex offer after < offer.files.length := by
        rw [← h.length]
        exact (List.getElem?_eq_some_iff.mp hfile).1
      exact .inr ⟨file, _, hfile, List.getElem?_eq_getElem hbound, .inl hwriting⟩
    · exact .inl hend
    · exact .inr ⟨file, other, hfile, hother, .inr hless⟩

/-- **A reconnection goes back to the verified segments**: whatever else was received is forgotten, the first file that is not
complete comes next, and the chunk that is accepted is the one that the cursors ask for, at once or after the write that is under
way. -/
theorem reconnect_rolls_back (h : ReceiveRun receive segment) :
    ∃ segmentBytes current files index after,
      receive.payload = .streamed segmentBytes current files ∧
      (prepareReceiveReconnect receive).payload = .streamed segmentBytes index after ∧
      List.Forall₂ (fun before file => file.writing = before.writing ∧ file.segmentOffset = before.segmentOffset ∧
        file.committedHasher = before.committedHasher ∧ file.lastSegmentBlake3 = before.lastSegmentBlake3 ∧
        (before.writing = true → file = before) ∧
        (before.writing = false → file.receivedBytes = file.segmentOffset ∧ file.hasher = file.committedHasher ∧
          file.chunks = [] ∧ file.segmentHasher = .new)) files after ∧
      (prepareReceiveReconnect receive).receivedBytes = (after.map (·.receivedBytes)).sum ∧
      ((∀ earlier < index, ∀ (file : ReceiveFileState) (other : IncomingFile), after[earlier]? = some file →
          receive.offer.files[earlier]? = some other → file.writing = false ∧ other.file.sizeBytes ≤ file.receivedBytes) ∧
        (index = after.length ∨ ∃ file other, after[index]? = some file ∧ receive.offer.files[index]? = some other ∧
          (file.writing = true ∨ file.receivedBytes < other.file.sizeBytes))) ∧
      ((∀ file ∈ after, file.writing = false) → ∀ chunk,
        ({ prepareReceiveReconnect receive with started := true }.accept chunk).isSome ↔
          (prepareReceiveReconnect receive).AtCursor segmentBytes after chunk) ∧
      ((∃ file ∈ after, file.writing = true) →
        (∀ chunk, { prepareReceiveReconnect receive with started := true }.accept chunk = none) ∧
        ∃ taken, segment = some taken ∧ ∀ writer, ∃ next index installed,
          (prepareReceiveReconnect receive).installSegment taken writer = some next ∧
            next.payload = .streamed segmentBytes index installed ∧
            ∀ chunk, ({ next with started := true }.accept chunk).isSome ↔ next.AtCursor segmentBytes installed chunk) ∧
      prepareReceiveReconnect (prepareReceiveReconnect receive) = prepareReceiveReconnect receive := by
  obtain ⟨segmentBytes, current, files, hpayload, hprogress⟩ := h.progresses
  have hprepared := prepareReceiveReconnect_eq hpayload
  have hoffer : (prepareReceiveReconnect receive).offer = receive.offer := by rw [hprepared]
  have hstreamed := congrArg (·.payload) hprepared
  have hafter := hprogress.reconnected
  have haligned := reconnected_aligned files
  have hfirst := hafter.first haligned
  have hagain : (files.map ReceiveFileState.reconnected).map ReceiveFileState.reconnected =
      files.map ReceiveFileState.reconnected := by
    rw [List.map_map]
    exact List.map_congr_left fun file _ => reconnected_reconnected
  refine ⟨segmentBytes, current, files, _, _, hpayload, hstreamed, rolledBack_files files, by rw [hprepared], hfirst, ?_, ?_, ?_⟩
  · intro hidle chunk
    refine accept_iff_atCursor rfl hstreamed (by rw [hoffer]; exact hafter)
      (fun file hfile => ⟨hidle file hfile, haligned file hfile (hidle file hfile)⟩) ?_
    rcases hfirst.2 with hend | ⟨file, other, hfile, hother, hwriting | hless⟩
    · exact .inl (Nat.le_of_eq hend.symm)
    · rw [hidle file (List.mem_of_getElem? hfile)] at hwriting
      cases hwriting
    · exact .inr ⟨file, other, hfile, by rw [hoffer]; exact hother, hless⟩
  · rintro ⟨file, hmem, hwriting⟩
    obtain ⟨index, hget⟩ := List.mem_iff_getElem?.mp hmem
    obtain rfl := hafter.writing_current hget hwriting
    have hbound : reconnectFileIndex receive.offer (files.map ReceiveFileState.reconnected) < receive.offer.files.length := by
      rw [← hafter.length]
      exact (List.getElem?_eq_some_iff.mp hget).1
    have hother := List.getElem?_eq_getElem hbound
    obtain ⟨taken, htaken, hisTaken⟩ := hafter.underWay file _ hget hother hwriting
    have hstarted : ({ prepareReceiveReconnect receive with started := true } : ReceiveState).payload =
        .streamed segmentBytes _ _ := hstreamed
    refine ⟨accept_while_writing hstarted hget hwriting, taken, htaken, fun writer => ?_⟩
    exact installed_atCursor hstreamed (by rw [hoffer]; exact hafter) haligned hget (by rw [hoffer]; exact hother) hwriting
      hisTaken writer
  · rw [prepareReceiveReconnect_eq hstreamed, hagain, hprepared]

end Steps

end Digests

/-! ## A transfer that is interrupted in the middle of a segment -/

section Example

local instance noDigest : Blake3 := ⟨fun _ => ""⟩

def someId : BinaryId := Vector.replicate 16 0

def someOffer : IncomingOffer :=
  { transferId := formatBinaryId "transfer" someId, transferBytes := someId, mode := .streamed 8,
    files := [⟨someId, { name := "a", mime := none, sizeBytes := 16 }⟩] }

def halfSegment : ReceiveState :=
  { Peer.acceptedReceive someOffer 8 [⟨0, [], 0, false⟩] true with
    started := true
    receivedBytes := 3
    payload := .streamed 8 0
      [ReceiveFileState.mk (some ⟨0, [], 0, false⟩) 3 ⟨[1, 2, 3]⟩ 0 0 [[1, 2, 3]] ⟨[1, 2, 3]⟩ .new none false] }

theorem halfSegment_run : ReceiveRun halfSegment none := by
  have haccepted : ReceiveRun (Peer.acceptedReceive someOffer 8 [⟨0, [], 0, false⟩] true) none := .accepted true rfl rfl
  have hchunk : ({ Peer.acceptedReceive someOffer 8 [⟨0, [], 0, false⟩] true with started := true } : ReceiveState).accept
      ⟨⟨CURRENT_PROTOCOL, someId, someId, 0, 3⟩, [1, 2, 3]⟩ = some halfSegment := by decide
  exact .chunk haccepted.started hchunk

/-- The three bytes are forgotten. -/
theorem halfSegment_rolls_back : ∃ index after, (prepareReceiveReconnect halfSegment).payload = .streamed 8 index after ∧
    (prepareReceiveReconnect halfSegment).receivedBytes = (after.map (·.receivedBytes)).sum ∧
    prepareReceiveReconnect (prepareReceiveReconnect halfSegment) = prepareReceiveReconnect halfSegment := by
  obtain ⟨segmentBytes, _, _, index, after, hpayload, hafter, -, htotal, -, -, -, hagain⟩ :=
    reconnect_rolls_back halfSegment_run
  obtain ⟨rfl, -, -⟩ := ReceivePayload.streamed.inj hpayload
  exact ⟨index, after, hafter, htotal, hagain⟩

end Example

end P2PTransmission.Rtc
