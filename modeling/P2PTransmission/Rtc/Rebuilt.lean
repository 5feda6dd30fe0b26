import P2PTransmission.Rtc.Outgoing
import P2PTransmission.Rtc.Offers

/-!
# A file that goes on after a reload

After a reload the committed bytes of a file are read and hashed again, segment by segment. Without a reload the hashes grow
chunk by chunk, and the segments are counted. Both come to the same: the state of a file that was reopened is that of the file
whose segments were committed one after the other, except for the writer, which is another one.

`CommittedFile` is the live path of the receiver and `AcknowledgedFile` that of the sender, in chunks of any size.
-/

set_option autoImplicit false

namespace P2PTransmission.Rtc

variable [Blake3]

/-! ## Slices -/

section Slices

variable {content : Bytes} {start middle stop : Nat}

omit [Blake3] in
theorem slice_append_slice (hstart : start ≤ middle) (hstop : middle ≤ stop) :
    slice content start middle ++ slice content middle stop = slice content start stop := by
  have hdrop : content.drop middle = (content.drop start).drop (middle - start) := by
    rw [List.drop_drop, Nat.add_sub_cancel' hstart]
  have hlength : stop - start = (middle - start) + (stop - middle) := by omega
  unfold slice
  rw [hdrop, hlength, List.take_add]

omit [Blake3] in
theorem slice_zero : slice content 0 stop = content.take stop := rfl

omit [Blake3] in
theorem length_slice_of_le (hstop : stop ≤ content.length) : (slice content start stop).length = stop - start := by
  unfold slice
  rw [List.length_take, List.length_drop]
  omega

omit [Blake3] in
theorem take_append_slice (hstart : start ≤ stop) : content.take start ++ slice content start stop = content.take stop := by
  rw [← slice_zero, ← slice_zero]
  exact slice_append_slice (Nat.zero_le _) hstart

omit [Blake3] in
theorem slice_take : slice (content.take stop) start stop = slice content start stop := by
  unfold slice
  rw [List.drop_take, List.take_take, Nat.min_self]

end Slices

/-! ## The loop over the segments -/

/-- The digest of the last segment of the committed bytes. -/
def lastDigest (content : Bytes) (segmentBytes committedBytes : Nat) : Option String :=
  if committedBytes = 0 then none
  else some (Blake3.hash (slice content ((committedBytes - 1) / segmentBytes * segmentBytes) committedBytes))

variable {content : Bytes} {segmentBytes committedBytes : Nat}

/-- The last segment begins at the last multiple of the segment size. -/
theorem lastDigest_eq {offset : Nat} (hseg : 0 < segmentBytes) (haligned : offset % segmentBytes = 0)
    (hstart : offset < committedBytes) (hstop : committedBytes ≤ offset + segmentBytes) :
    lastDigest content segmentBytes committedBytes = some (Blake3.hash (slice content offset committedBytes)) := by
  have hoffset : (committedBytes - 1) / segmentBytes * segmentBytes = offset := by
    obtain ⟨count, rfl⟩ := Nat.dvd_of_mod_eq_zero haligned
    have hdiv : (committedBytes - 1) / segmentBytes = count := by
      rw [Nat.div_eq_iff hseg, Nat.mul_comm count]
      omega
    rw [hdiv, Nat.mul_comm]
  unfold lastDigest
  rw [if_neg (by omega), hoffset]

theorem lastDigest_take : lastDigest (content.take committedBytes) segmentBytes committedBytes =
    lastDigest content segmentBytes committedBytes := by
  unfold lastDigest
  rw [slice_take]

/-- **The loop ends**, with the hash of the committed bytes and the digest of the last segment. -/
theorem rehash_eq (hseg : 0 < segmentBytes) (hlength : committedBytes ≤ content.length) (hfits : committedBytes ≤ U64_MAX)
    (fuel offset : Nat) (hasher : Hasher) (last : Option String)
    (haligned : offset % segmentBytes = 0 ∨ offset = committedBytes) (hoffset : offset ≤ committedBytes)
    (hfuel : committedBytes - offset < fuel) :
    rehash content committedBytes segmentBytes fuel offset hasher last =
      some (hasher.update (slice content offset committedBytes),
        if offset = committedBytes then last else lastDigest content segmentBytes committedBytes) := by
  induction fuel generalizing offset hasher last with
  | zero => omega
  | succ fuel ih =>
    unfold rehash
    by_cases hend : offset = committedBytes
    · have hempty : slice content offset committedBytes = [] := by
        rw [← List.length_eq_zero_iff, length_slice_of_le hlength]
        omega
      rw [if_neg (by omega), if_pos hend, hempty, Hasher.update_nil]
    · have hzero : offset % segmentBytes = 0 := haligned.resolve_right hend
      rw [if_pos (by omega), if_neg hend, saturatingAdd_min hfits]
      dsimp only
      generalize hstop : min (offset + segmentBytes) committedBytes = stop
      have hlater : offset < stop ∧ stop ≤ committedBytes ∧ stop ≤ offset + segmentBytes := by omega
      rw [if_pos (length_slice_of_le (by omega)), ih stop _ _ ?_ hlater.2.1 (by omega), Hasher.update_update,
        slice_append_slice (by omega) hlater.2.1]
      · by_cases hdone : stop = committedBytes
        · rw [if_pos hdone, hdone, ← lastDigest_eq hseg hzero (by omega) (by omega)]
        · rw [if_neg hdone]
      · by_cases hdone : stop = committedBytes
        · exact .inr hdone
        · refine .inl ?_
          have hfull : stop = offset + segmentBytes := by omega
          rw [hfull, Nat.add_mod_right, hzero]

/-- More fuel changes nothing. -/
theorem rehash_enough (hseg : 0 < segmentBytes) (hlength : committedBytes ≤ content.length)
    (hfits : committedBytes ≤ U64_MAX) {fuel : Nat} (hfuel : committedBytes < fuel) :
    rehash content committedBytes segmentBytes fuel 0 .new none =
      some (⟨content.take committedBytes⟩, lastDigest content segmentBytes committedBytes) := by
  rw [rehash_eq hseg hlength hfits fuel 0 .new none (.inl (Nat.zero_mod _)) (Nat.zero_le _) (by omega)]
  by_cases hzero : 0 = committedBytes
  · subst hzero
    rfl
  · rw [if_neg hzero]
    rfl

/-! ## The receiver -/

/-- The file with a chunk of these bytes. -/
def ReceiveFileState.withChunk (file : ReceiveFileState) (payload : Bytes) : ReceiveFileState :=
  { file with
    hasher := file.hasher.update payload
    segmentHasher := file.segmentHasher.update payload
    receivedBytes := file.receivedBytes + payload.length
    chunks := file.chunks ++ [payload] }

section Receiver

variable (transferBytes : BinaryId) (offer : IncomingFile) (segmentBytes : Nat)

/-- Chunks with these payloads were accepted, one after the other. -/
inductive ReceivedChunks : ReceiveFileState → List Bytes → ReceiveFileState → Prop
  | nil (file : ReceiveFileState) : ReceivedChunks file [] file
  | cons {file next last : ReceiveFileState} {chunk : BinaryChunk} {payloads : List Bytes} :
      file.accept transferBytes offer segmentBytes chunk = some next → ReceivedChunks next payloads last →
        ReceivedChunks file (chunk.payload :: payloads) last

/-- The file after segments with these bytes were received, committed and written. A commit of no bytes is no message. -/
inductive CommittedFile : ReceiveFileState → Bytes → Prop
  | new (writer : StreamingFileWriter) : CommittedFile (.new writer) []
  | segment {file full : ReceiveFileState} {bytes : Bytes} {payloads : List Bytes} {commit : SegmentCommit}
      {writer : StreamingFileWriter} : CommittedFile file bytes →
        ReceivedChunks transferBytes offer segmentBytes file payloads full →
        full.commits offer segmentBytes commit = true → 0 < commit.bytes →
        CommittedFile (full.beginWrite.committed writer
          (min (saturatingAdd full.segmentOffset segmentBytes) offer.file.sizeBytes) commit.blake3)
          (bytes ++ payloads.flatten)

/-- What is known of a file after its segments with these bytes were committed. -/
structure FileHolds (file : ReceiveFileState) (bytes : Bytes) : Prop where
  segmentOffset : file.segmentOffset = bytes.length
  receivedBytes : file.receivedBytes = bytes.length
  hasher : file.hasher = ⟨bytes⟩
  committedHasher : file.committedHasher = ⟨bytes⟩
  chunks : file.chunks = []
  segmentHasher : file.segmentHasher = .new
  writing : file.writing = false
  bounded : bytes.length ≤ offer.file.sizeBytes
  index : file.segmentIndex = if bytes.length = 0 then 0 else (bytes.length + segmentBytes - 1) / segmentBytes
  last : file.lastSegmentBlake3 = lastDigest bytes segmentBytes bytes.length
  aligned : bytes.length % segmentBytes = 0 ∨ bytes.length = offer.file.sizeBytes

variable {transferBytes offer segmentBytes} {file next full : ReceiveFileState} {chunk : BinaryChunk} {payloads : List Bytes}

omit [Blake3] in
/-- What an accepted chunk does to the file. -/
theorem accept_some (h : file.accept transferBytes offer segmentBytes chunk = some next) :
    file.writing = false ∧ next = file.withChunk chunk.payload := by
  unfold ReceiveFileState.accept at h
  by_cases hwriting : file.writing = true
  · rw [if_pos hwriting] at h
    cases h
  · rw [if_neg hwriting] at h
    obtain ⟨offset, hoffset, rfl⟩ := Option.map_eq_some_iff.mp h
    obtain ⟨-, -, -, -, rfl, -, -⟩ := ChunkBounds.nextOffset_eq_some.mp hoffset
    exact ⟨by simpa using hwriting, rfl⟩

omit [Blake3] in
/-- What accepted chunks do to the file. -/
theorem ReceivedChunks.absorbed (h : ReceivedChunks transferBytes offer segmentBytes file payloads full) :
    full =
      { file with
        hasher := file.hasher.update payloads.flatten
        segmentHasher := file.segmentHasher.update payloads.flatten
        receivedBytes := file.receivedBytes + payloads.flatten.length
        chunks := file.chunks ++ payloads } := by
  induction h with
  | nil file => simp
  | @cons file next last chunk payloads haccept _ ih =>
    obtain ⟨-, rfl⟩ := accept_some haccept
    rw [ih]
    simp [ReceiveFileState.withChunk, Hasher.update_update, Nat.add_assoc]

/-- **A file whose segments were committed holds their bytes.** -/
theorem CommittedFile.holds {bytes : Bytes} (hseg : 0 < segmentBytes) (hfits : offer.file.sizeBytes ≤ U64_MAX)
    (h : CommittedFile transferBytes offer segmentBytes file bytes) : FileHolds offer segmentBytes file bytes := by
  induction h with
  | new writer =>
    exact ⟨rfl, rfl, rfl, rfl, rfl, rfl, rfl, Nat.zero_le _, rfl, rfl, .inl (Nat.zero_mod _)⟩
  | @segment file full bytes payloads commit writer _ hchunks hcommits hbytes ih =>
    have hfull := hchunks.absorbed
    unfold ReceiveFileState.commits at hcommits
    obtain ⟨-, -, -, -, hreceived, hlength, hdigest⟩ := of_decide_eq_true hcommits
    subst hfull
    dsimp only at hreceived hlength hdigest
    rw [ih.receivedBytes, ih.segmentOffset] at hlength
    rw [ih.receivedBytes, ih.segmentOffset, saturatingAdd_min hfits] at hreceived
    have hzero : bytes.length % segmentBytes = 0 := ih.aligned.resolve_right (by omega)
    have hsize : bytes.length < offer.file.sizeBytes := by omega
    have hnew : (bytes ++ payloads.flatten).length = min (bytes.length + segmentBytes) offer.file.sizeBytes := by
      rw [List.length_append, hreceived]
    have hpositive : (bytes ++ payloads.flatten).length ≠ 0 := by omega
    refine ⟨?_, ?_, ?_, ?_, rfl, rfl, rfl, by omega, ?_, ?_, ?_⟩
    · show min (saturatingAdd file.segmentOffset segmentBytes) offer.file.sizeBytes = _
      rw [ih.segmentOffset, saturatingAdd_min hfits, hnew]
    · show file.receivedBytes + payloads.flatten.length = _
      rw [ih.receivedBytes, List.length_append]
    · show file.hasher.update payloads.flatten = _
      rw [ih.hasher]
      rfl
    · show file.hasher.update payloads.flatten = _
      rw [ih.hasher]
      rfl
    · -- the segments before were full, and so the quotient grows by one
      show file.segmentIndex + 1 = _
      rw [if_neg hpositive, ih.index]
      obtain ⟨count, hcount⟩ := Nat.dvd_of_mod_eq_zero hzero
      have hbefore : (if bytes.length = 0 then 0 else (bytes.length + segmentBytes - 1) / segmentBytes) = count := by
        by_cases hstart : bytes.length = 0
        · rw [if_pos hstart]
          rw [hstart] at hcount
          rcases Nat.mul_eq_zero.mp hcount.symm with hnone | hnone
          · omega
          · exact hnone.symm
        · rw [if_neg hstart, Nat.div_eq_iff hseg, Nat.mul_comm count]
          omega
      rw [hbefore]
      symm
      rw [Nat.div_eq_iff hseg, Nat.add_mul, Nat.mul_comm count]
      omega
    · show some commit.blake3 = _
      rw [lastDigest_eq hseg hzero (by omega) (by omega), ← hdigest, ih.segmentHasher]
      have hslice : slice (bytes ++ payloads.flatten) bytes.length (bytes ++ payloads.flatten).length =
          payloads.flatten := by
        unfold slice
        rw [List.drop_left]
        exact List.take_of_length_le (by rw [List.length_append]; omega)
      rw [hslice]
      rfl
    · by_cases hend : (bytes ++ payloads.flatten).length = offer.file.sizeBytes
      · exact .inr hend
      · refine .inl ?_
        have hgrown : (bytes ++ payloads.flatten).length = bytes.length + segmentBytes := by omega
        rw [hgrown, Nat.add_mod_right, hzero]

/-- What is found when a file is reopened. -/
def reopenedFile (handle : FileHandle) (stored : Bytes) (segmentBytes position : Nat) : RecoveredStreamingFile :=
  { writer := { handle, writable := if 0 < position then stored else [], nextOffset := position, closed := false }
    hasher := ⟨stored.take position⟩
    lastSegmentBlake3 := lastDigest stored segmentBytes position }

theorem reopenStreamFile_eq {disk : Disk} {handle : FileHandle} {stored : Bytes} {position expectedSizeBytes : Nat}
    (hseg : 0 < segmentBytes) (hfits : expectedSizeBytes ≤ U64_MAX) (hstored : disk[handle]? = some stored)
    (hposition : position ≤ stored.length) (hsize : stored.length ≤ expectedSizeBytes) :
    reopenStreamFile disk handle position expectedSizeBytes segmentBytes (.ok ()) =
      .ok (reopenedFile handle stored segmentBytes position) := by
  unfold reopenStreamFile
  rw [hstored]
  dsimp only [Option.getD_some]
  rw [if_neg (by omega), rehash_enough hseg hposition (by omega) (Nat.lt_succ_self _)]
  rfl

/-- **Reopening a file gives the state that the live path had**, with another writer. -/
theorem FileHolds.restored {stored : Bytes} {handle : FileHandle} {position : Nat}
    (h : FileHolds offer segmentBytes file (stored.take position)) (hposition : position ≤ stored.length) :
    Peer.restoredFile (reopenedFile handle stored segmentBytes position) position segmentBytes =
      { file with writer := some (reopenedFile handle stored segmentBytes position).writer } := by
  have hlength : (stored.take position).length = position := by
    rw [List.length_take]
    exact Nat.min_eq_left hposition
  obtain ⟨writer, receivedBytes, hasher, segmentIndex, segmentOffset, chunks, segmentHasher, committedHasher, last, writing⟩ :=
    file
  obtain ⟨hoffset, hreceived, hhasher, hcommitted, hchunks, hsegment, hwriting, -, hindex, hlast, -⟩ := h
  dsimp only at hoffset hreceived hhasher hcommitted hchunks hsegment hwriting hindex hlast
  rw [hlength] at hoffset hreceived hindex hlast
  rw [lastDigest_take] at hlast
  unfold Peer.restoredFile reopenedFile
  dsimp only
  rw [hoffset, hreceived, hhasher, hcommitted, hchunks, hsegment, hwriting, hindex, hlast]

omit [Blake3] in
/-- Every way of cutting the bytes of a segment into chunks is accepted. -/
theorem receivedChunks_of_fits (hwriting : file.writing = false) (hfits : offer.file.sizeBytes ≤ U64_MAX)
    (hroom : file.receivedBytes + payloads.flatten.length ≤
      min (saturatingAdd file.segmentOffset segmentBytes) offer.file.sizeBytes) :
    ∃ full, ReceivedChunks transferBytes offer segmentBytes file payloads full := by
  induction payloads generalizing file with
  | nil => exact ⟨file, .nil file⟩
  | cons payload payloads ih =>
    rw [List.flatten_cons, List.length_append] at hroom
    have haccept : file.accept transferBytes offer segmentBytes
        ⟨{ version := CURRENT_PROTOCOL, transferId := transferBytes, fileId := offer.fileBytes,
            offset := file.receivedBytes, payloadLen := payload.length }, payload⟩ = some (file.withChunk payload) := by
      unfold ReceiveFileState.accept
      rw [if_neg (by rw [hwriting]; simp)]
      dsimp only
      rw [ChunkBounds.nextOffset_eq_some.mpr ⟨rfl, rfl, rfl, rfl, rfl, by dsimp only; omega, by dsimp only; omega⟩]
      rfl
    have hrest : (file.withChunk payload).receivedBytes + payloads.flatten.length ≤
        min (saturatingAdd (file.withChunk payload).segmentOffset segmentBytes) offer.file.sizeBytes := by
      show file.receivedBytes + payload.length + payloads.flatten.length ≤
        min (saturatingAdd file.segmentOffset segmentBytes) offer.file.sizeBytes
      omega
    obtain ⟨full, hfull⟩ := ih (show (file.withChunk payload).writing = false from hwriting) hrest
    exact ⟨full, .cons haccept hfull⟩

omit [Blake3] in
/-- The writer has no part in what chunks do. -/
theorem ReceivedChunks.withWriter (writer : Option StreamingFileWriter)
    (h : ReceivedChunks transferBytes offer segmentBytes file payloads full) :
    ReceivedChunks transferBytes offer segmentBytes { file with writer } payloads { full with writer } := by
  induction h with
  | nil file => exact .nil _
  | @cons file next last chunk payloads haccept _ ih =>
    refine .cons ?_ ih
    obtain ⟨hwriting, rfl⟩ := accept_some haccept
    unfold ReceiveFileState.accept at haccept ⊢
    rw [if_neg (by simp [hwriting])] at haccept ⊢
    obtain ⟨offset, hoffset, hnext⟩ := Option.map_eq_some_iff.mp haccept
    rw [Option.map_eq_some_iff]
    exact ⟨offset, hoffset, by rw [← hnext]⟩

/-- One more segment of the file, in one-byte chunks. -/
theorem CommittedFile.extended {bytes segment : Bytes} (hseg : 0 < segmentBytes) (hfits : offer.file.sizeBytes ≤ U64_MAX)
    (h : CommittedFile transferBytes offer segmentBytes file bytes) (hnonempty : segment ≠ [])
    (hend : bytes.length + segment.length = min (bytes.length + segmentBytes) offer.file.sizeBytes) :
    ∃ next, CommittedFile transferBytes offer segmentBytes next (bytes ++ segment) := by
  have hfile := h.holds hseg hfits
  have hflatten : (segment.map fun byte => [byte]).flatten = segment := by
    rw [← List.flatMap_def, List.flatMap_singleton']
  have haccepted : ∃ full,
      ReceivedChunks transferBytes offer segmentBytes file (segment.map fun byte => [byte]) full :=
    receivedChunks_of_fits hfile.writing hfits (by
      rw [hflatten, hfile.receivedBytes, hfile.segmentOffset, saturatingAdd_min hfits, hend])
  obtain ⟨full, hchunks⟩ := haccepted
  have hfull := hchunks.absorbed
  have hcommits : full.commits offer segmentBytes
      { transferId := "", fileId := formatBinaryId "file" offer.fileBytes, segmentIndex := full.segmentIndex,
        offset := full.segmentOffset, bytes := full.receivedBytes - full.segmentOffset,
        blake3 := full.segmentHasher.finalize } = true := by
    unfold ReceiveFileState.commits
    refine decide_eq_true ⟨parseBinaryId_formatBinaryId _ _, ?_, rfl, rfl, ?_, rfl, rfl⟩
    · rw [hfull]
      exact hfile.writing
    · rw [hfull, hflatten]
      show file.receivedBytes + segment.length = min (saturatingAdd file.segmentOffset segmentBytes) _
      rw [hfile.receivedBytes, hfile.segmentOffset, saturatingAdd_min hfits, hend]
  have hpositive : 0 < full.receivedBytes - full.segmentOffset := by
    have hsegment := List.length_pos_of_ne_nil hnonempty
    rw [hfull, hflatten]
    show 0 < file.receivedBytes + segment.length - file.segmentOffset
    rw [hfile.receivedBytes, hfile.segmentOffset]
    omega
  have hnext : CommittedFile transferBytes offer segmentBytes (full.beginWrite.committed ⟨default, [], 0, false⟩ _ _)
      (bytes ++ _) := h.segment hchunks hcommits hpositive
  rw [hflatten] at hnext
  exact ⟨_, hnext⟩

/-- Every position that is aligned or the end of the file is reached by commits. -/
theorem exists_committedFile {stored : Bytes} {position : Nat} (hseg : 0 < segmentBytes)
    (hfits : offer.file.sizeBytes ≤ U64_MAX) (hstored : position ≤ stored.length) (hsize : position ≤ offer.file.sizeBytes)
    (haligned : position % segmentBytes = 0 ∨ position = offer.file.sizeBytes) :
    ∃ file, CommittedFile transferBytes offer segmentBytes file (stored.take position) := by
  have hprefix : ∀ count, ∃ file,
      CommittedFile transferBytes offer segmentBytes file (stored.take (min (count * segmentBytes) position)) := by
    intro count
    induction count with
    | zero =>
      rw [Nat.zero_mul, Nat.zero_min, List.take_zero]
      exact ⟨_, .new ⟨default, [], 0, false⟩⟩
    | succ count ih =>
      by_cases hdone : position ≤ count * segmentBytes
      · rw [Nat.add_mul, Nat.min_eq_right (by omega)]
        rwa [Nat.min_eq_right hdone] at ih
      · obtain ⟨file, hfile⟩ := ih
        rw [Nat.min_eq_left (by omega)] at hfile
        generalize hstart : count * segmentBytes = start at hdone hfile
        have hnext : (count + 1) * segmentBytes = start + segmentBytes := by rw [Nat.add_mul, hstart, Nat.one_mul]
        rw [hnext]
        generalize hstop : min (start + segmentBytes) position = stop
        -- an aligned position beyond the start is at least a segment away
        have hend : stop = min (start + segmentBytes) offer.file.sizeBytes := by
          rcases haligned with hzero | hend
          · obtain ⟨total, rfl⟩ := Nat.dvd_of_mod_eq_zero hzero
            have hbelow : count < total := by
              refine Nat.lt_of_mul_lt_mul_left (a := segmentBytes) ?_
              rw [Nat.mul_comm segmentBytes count]
              omega
            have hroom : segmentBytes * (count + 1) ≤ segmentBytes * total := Nat.mul_le_mul_left _ hbelow
            rw [Nat.mul_comm, hnext] at hroom
            omega
          · omega
        have hslice : (slice stored start stop).length = stop - start := length_slice_of_le (by omega)
        have hjoin : stored.take start ++ slice stored start stop = stored.take stop := take_append_slice (by omega)
        rw [← hjoin]
        refine hfile.extended hseg hfits ?_ ?_
        · refine List.ne_nil_of_length_pos ?_
          rw [hslice]
          omega
        · rw [List.length_take, hslice]
          omega
  have hlast := hprefix position
  rwa [Nat.min_eq_right (Nat.le_mul_of_pos_right _ hseg)] at hlast

end Receiver

/-! ## The sender -/

/-- The file after a chunk was read. -/
def SendFile.withChunk (file : SendFile) (bytes : Bytes) : SendFile :=
  { file with fileHasher := file.fileHasher.update bytes }

/-- The segment after a chunk was read. -/
def SendSegment.withChunk (segment : SendSegment) (chunkLength : Nat) (bytes : Bytes) : SendSegment :=
  { segment with
    segmentHasher := segment.segmentHasher.update bytes
    segmentSent := segment.segmentSent + chunkLength }

/-- What is pending after the commit of a segment was sent. -/
def sentSegmentAck (n : TaskId) (fileIndex : Nat) (file : SendFile) (segment : SendSegment) : PendingSegmentAck :=
  { fileIndex
    segmentIndex := segment.segment.index
    committedBytes := segment.segment.offset + segment.segment.length
    blake3 := segment.segmentHasher.finalize
    fileHasher := file.fileHasher
    sender := some n }

/-- The file of which the pending segment counts. -/
def OutgoingFileState.acknowledged (state : OutgoingFileState) (pending : PendingSegmentAck) : OutgoingFileState :=
  { state with
    committedBytes := pending.committedBytes
    committedHasher := pending.fileHasher
    lastSegmentBlake3 := some pending.blake3 }

/-- The file as the loop begins with it. -/
def OutgoingFileState.sendFile (state : OutgoingFileState) : SendFile :=
  { browserFile := state.browserFile, file := state.file, fileBytes := state.fileBytes,
    fileHasher := state.committedHasher }

omit [Blake3] in
theorem commitPending_files (outgoing : OutgoingState) (pending : PendingSegmentAck) :
    (outgoing.commitPending pending).files = outgoing.files.modify pending.fileIndex (·.acknowledged pending) := rfl

section Sender

variable {n : TaskId} {transferId : String} {generation : Nat} {loop : SendLoop}

/-- A commit that is sent makes the segment pending. -/
theorem sendSegmentCommit_eq {peer : Peer} {outgoing : OutgoingState} {file : SendFile} {segment : SendSegment}
    (houtgoing : peer.outgoing = some outgoing) :
    peer.sendSegmentCommit n transferId generation loop file segment =
      let pending : Peer :=
        { peer with outgoing := some { outgoing with pendingAck := some (sentSegmentAck n loop.fileIndex file segment) } }
      match pending.sendControlOn loop.channel (.segmentCommit transferId (formatBinaryId "file" file.fileBytes)
          segment.segment.index segment.segment.offset segment.segment.length segment.segmentHasher.finalize) with
      | .error error => pending.sendEnded n transferId generation (.error error)
      | .ok peer => peer.sendAt n transferId generation (.acknowledging loop file segment none) := by
  unfold Peer.sendSegmentCommit
  rw [houtgoing]
  rfl

omit [Blake3] in
/-- A chunk that is sent is hashed for the file and for the segment. -/
theorem sendChunkRead_eq [Blake3] {peer next : Peer} {file : SendFile} {segment : SendSegment} {chunkLength offset : Nat}
    {bytes : Bytes} {choice : Choice} (hoffset : offset = segment.segment.offset + segment.segmentSent)
    (hbytes : bytes = slice file.browserFile.content offset (offset + chunkLength))
    (hanswer : choice.answer.isOk)
    (hsent : peer.sendOn loop.channel (Peer.chunkFrame loop file offset chunkLength bytes) = .ok next)
    (houtgoing : next.outgoing.isSome) :
    peer.sendChunkRead n transferId generation loop file segment chunkLength choice =
      (next.withOutgoing fun outgoing =>
        { outgoing with sentBytes := loop.precedingBytes + offset + chunkLength }).sendSegment n transferId generation
        loop (file.withChunk bytes) (segment.withChunk chunkLength bytes) choice.congested := by
  subst hoffset hbytes
  unfold Peer.sendChunkRead
  cases hchoice : choice.answer with
  | error error =>
    rw [hchoice] at hanswer
    cases hanswer
  | ok value =>
    dsimp only
    rw [hsent]
    dsimp only
    rw [if_neg (by simpa using Option.isSome_iff_ne_none.mp houtgoing)]
    rfl

/-- The chunks of a segment were read and sent one after the other. -/
inductive SentChunks (maxChunkBytes : Nat) : SendFile → SendSegment → SendFile → SendSegment → Prop
  | done {file : SendFile} {segment : SendSegment} : segment.segment.length ≤ segment.segmentSent →
      SentChunks maxChunkBytes file segment file segment
  | chunk {file lastFile : SendFile} {segment last : SendSegment} {offset chunkLength : Nat} {bytes : Bytes} :
      segment.segmentSent < segment.segment.length →
      chunkLength = min (segment.segment.length - segment.segmentSent) maxChunkBytes →
      offset = segment.segment.offset + segment.segmentSent →
      bytes = slice file.browserFile.content offset (offset + chunkLength) →
      SentChunks maxChunkBytes (file.withChunk bytes) (segment.withChunk chunkLength bytes) lastFile last →
      SentChunks maxChunkBytes file segment lastFile last

/-- The file, its variables in the loop and the next segment, after segments were sent and acknowledged. -/
inductive AcknowledgedFile (segmentBytes : Nat) (browserFile : BrowserFile) (fileBytes : BinaryId) :
    OutgoingFileState → SendFile → Nat → Prop
  | new : AcknowledgedFile segmentBytes browserFile fileBytes (outgoingFile browserFile fileBytes)
      (outgoingFile browserFile fileBytes).sendFile 0
  | segment {state : OutgoingFileState} {file lastFile : SendFile} {index maxChunkBytes : Nat}
      {segment : PartDescriptor} {last : SendSegment} (n : TaskId) (fileIndex : Nat) :
      AcknowledgedFile segmentBytes browserFile fileBytes state file index →
      SegmentPlan.segment ⟨file.file.sizeBytes, segmentBytes⟩ index = some segment →
      SentChunks maxChunkBytes file { segment, segmentHasher := .new, segmentSent := 0 } lastFile last →
      AcknowledgedFile segmentBytes browserFile fileBytes (state.acknowledged (sentSegmentAck n fileIndex lastFile last))
        lastFile (index + 1)

variable {maxChunkBytes : Nat} {file lastFile : SendFile} {segment last : SendSegment}

omit [Blake3] in
/-- The hashes are those of the bytes of the segment, whatever the chunks were. -/
theorem SentChunks.absorbed (h : SentChunks maxChunkBytes file segment lastFile last)
    (hsent : segment.segmentSent ≤ segment.segment.length)
    (hlength : segment.segment.offset + segment.segment.length ≤ file.browserFile.content.length) :
    lastFile = file.withChunk (slice file.browserFile.content (segment.segment.offset + segment.segmentSent)
        (segment.segment.offset + segment.segment.length)) ∧
      last = segment.withChunk (segment.segment.length - segment.segmentSent)
        (slice file.browserFile.content (segment.segment.offset + segment.segmentSent)
          (segment.segment.offset + segment.segment.length)) := by
  induction h with
  | @done file segment hdone =>
    have hend : segment.segmentSent = segment.segment.length := by omega
    have hempty : slice file.browserFile.content (segment.segment.offset + segment.segmentSent)
        (segment.segment.offset + segment.segment.length) = [] := by
      rw [← List.length_eq_zero_iff, length_slice_of_le hlength, hend, Nat.sub_self]
    rw [hempty, hend, Nat.sub_self]
    unfold SendFile.withChunk SendSegment.withChunk
    simp only [Hasher.update_nil, Nat.add_zero, and_self]
  | @chunk file lastFile segment last offset chunkLength bytes hbefore hchunk hoffset hbytes _ ih =>
    obtain ⟨hfile, hsegment⟩ := ih (show segment.segmentSent + chunkLength ≤ segment.segment.length by omega) hlength
    have hjoin : bytes ++ slice file.browserFile.content (segment.segment.offset + (segment.segmentSent + chunkLength))
          (segment.segment.offset + segment.segment.length) =
        slice file.browserFile.content (segment.segment.offset + segment.segmentSent)
          (segment.segment.offset + segment.segment.length) := by
      rw [hbytes, hoffset, ← Nat.add_assoc]
      exact slice_append_slice (by omega) (by omega)
    constructor
    · rw [hfile, ← hjoin]
      unfold SendFile.withChunk SendSegment.withChunk
      rw [Hasher.update_update]
    · rw [hsegment, ← hjoin]
      unfold SendFile.withChunk SendSegment.withChunk
      dsimp only
      rw [Hasher.update_update]
      congr 1
      omega

omit [Blake3] in
/-- The chunks of a segment come to an end. -/
theorem exists_sentChunks (hmax : 0 < maxChunkBytes) :
    ∃ lastFile last, SentChunks maxChunkBytes file segment lastFile last := by
  generalize hleft : segment.segment.length - segment.segmentSent = left
  induction left using Nat.strongRecOn generalizing file segment with
  | ind left ih =>
    by_cases hdone : segment.segment.length ≤ segment.segmentSent
    · exact ⟨file, segment, .done hdone⟩
    · have hless : segment.segment.length -
          (segment.segmentSent + min (segment.segment.length - segment.segmentSent) maxChunkBytes) < left := by omega
      obtain ⟨lastFile, last, hrest⟩ := @ih _ hless (file.withChunk _) (segment.withChunk _ _) rfl
      exact ⟨lastFile, last, .chunk (by omega) rfl rfl rfl hrest⟩

/-- The file with this many bytes committed. -/
def committedOutgoingFile (segmentBytes : Nat) (browserFile : BrowserFile) (fileBytes : BinaryId) (position : Nat) :
    OutgoingFileState :=
  { outgoingFile browserFile fileBytes with
    committedBytes := position
    committedHasher := ⟨browserFile.inner.content.take position⟩
    lastSegmentBlake3 := lastDigest browserFile.inner.content segmentBytes position }

variable {browserFile : BrowserFile} {fileBytes : BinaryId} {state : OutgoingFileState} {index position : Nat}

/-- **A file whose segments were acknowledged is known**: its position, its hashes, and the segment it goes on with. -/
theorem AcknowledgedFile.known (hseg : 0 < segmentBytes) (hfits : browserFile.inner.content.length ≤ U64_MAX)
    (h : AcknowledgedFile segmentBytes browserFile fileBytes state file index) :
    state = committedOutgoingFile segmentBytes browserFile fileBytes
        (min (index * segmentBytes) browserFile.inner.content.length) ∧
      file = state.sendFile ∧ index ≤ partCount browserFile.inner.content.length segmentBytes := by
  induction h with
  | new =>
    rw [Nat.zero_mul, Nat.zero_min]
    exact ⟨rfl, rfl, Nat.zero_le _⟩
  | @segment state file lastFile index maxChunkBytes segment last n fileIndex _ hsegment hchunks ih =>
    obtain ⟨rfl, rfl, -⟩ := ih
    change part browserFile.inner.content.length segmentBytes index = some segment at hsegment
    have hindex : index < partCount browserFile.inner.content.length segmentBytes := by
      by_contra hnot
      rw [part_none (Nat.not_lt.mp hnot)] at hsegment
      cases hsegment
    have hstart := (lt_partCount hseg).mp hindex
    have hplan := part_eq hseg hfits hstart
    generalize hstop : min ((index + 1) * segmentBytes) browserFile.inner.content.length = stop
    rw [Nat.add_mul, Nat.one_mul] at hstop
    have hwhole : index * segmentBytes + min (browserFile.inner.content.length - index * segmentBytes) segmentBytes =
        stop := by omega
    rw [Nat.min_eq_left (Nat.le_of_lt hstart)] at *
    obtain rfl := Option.some.inj (hplan.symm.trans hsegment)
    obtain ⟨rfl, rfl⟩ := hchunks.absorbed (Nat.zero_le _) (by
      show index * segmentBytes + min (browserFile.inner.content.length - index * segmentBytes) segmentBytes ≤
        browserFile.inner.content.length
      omega)
    have hdigest : lastDigest browserFile.inner.content segmentBytes stop =
        some (Blake3.hash (slice browserFile.inner.content (index * segmentBytes) stop)) :=
      lastDigest_eq hseg (Nat.mul_mod_left _ _) (by omega) (by omega)
    have hprefix : browserFile.inner.content.take (index * segmentBytes) ++
        slice browserFile.inner.content (index * segmentBytes) stop = browserFile.inner.content.take stop :=
      take_append_slice (by omega)
    refine ⟨?_, rfl, hindex⟩
    unfold OutgoingFileState.acknowledged sentSegmentAck SendFile.withChunk SendSegment.withChunk
      OutgoingFileState.sendFile committedOutgoingFile
    dsimp only [outgoingFile, Hasher.update, Hasher.finalize, Hasher.new]
    rw [Nat.add_zero, hwhole, hprefix, hdigest, List.nil_append]

/-- The next segment after a reload is the one that the loop counted. -/
theorem startSegment_committed (hseg : 0 < segmentBytes)
    (hindex : index ≤ partCount browserFile.inner.content.length segmentBytes) :
    Peer.startSegment (committedOutgoingFile segmentBytes browserFile fileBytes
      (min (index * segmentBytes) browserFile.inner.content.length)) segmentBytes = index := by
  show (if min (index * segmentBytes) browserFile.inner.content.length = browserFile.inner.content.length then
      partCount browserFile.inner.content.length segmentBytes
    else min (index * segmentBytes) browserFile.inner.content.length / segmentBytes) = index
  by_cases hmore : index < partCount browserFile.inner.content.length segmentBytes
  · have hinside := (lt_partCount hseg).mp hmore
    rw [if_neg (by omega), Nat.min_eq_left (Nat.le_of_lt hinside), Nat.mul_div_cancel _ hseg]
  · have hend : browserFile.inner.content.length ≤ index * segmentBytes := by
      rw [← Nat.not_lt, ← lt_partCount hseg]
      exact hmore
    rw [if_pos (Nat.min_eq_right hend)]
    omega

/-- Every number of segments is reached by acknowledgements. -/
theorem exists_acknowledgedFile (hseg : 0 < segmentBytes) (hfits : browserFile.inner.content.length ≤ U64_MAX)
    (hindex : index ≤ partCount browserFile.inner.content.length segmentBytes) :
    ∃ state file, AcknowledgedFile segmentBytes browserFile fileBytes state file index := by
  induction index with
  | zero => exact ⟨_, _, .new⟩
  | succ index ih =>
    obtain ⟨state, file, hfile⟩ := ih (Nat.le_of_lt hindex)
    obtain ⟨rfl, rfl, -⟩ := hfile.known hseg hfits
    obtain ⟨lastFile, last, hchunks⟩ := exists_sentChunks Nat.one_pos
    exact ⟨_, _, hfile.segment 0 0 (part_eq hseg hfits ((lt_partCount hseg).mp hindex)) hchunks⟩

omit [Blake3] in
/-- A position that is aligned or the end of the file is where some segment ends. -/
theorem exists_index {totalBytes : Nat} (hseg : 0 < segmentBytes) (hposition : position ≤ totalBytes)
    (haligned : position % segmentBytes = 0 ∨ position = totalBytes) :
    ∃ index, index ≤ partCount totalBytes segmentBytes ∧ min (index * segmentBytes) totalBytes = position := by
  rcases haligned with hzero | rfl
  · obtain ⟨index, rfl⟩ := Nat.dvd_of_mod_eq_zero hzero
    refine ⟨index, ?_, by rw [Nat.mul_comm]; exact Nat.min_eq_left hposition⟩
    rcases index.eq_zero_or_pos with rfl | hpositive
    · exact Nat.zero_le _
    · obtain ⟨before, rfl⟩ := Nat.exists_eq_succ_of_ne_zero (Nat.ne_of_gt hpositive)
      refine (lt_partCount hseg).mpr ?_
      rw [Nat.mul_succ, Nat.mul_comm] at hposition
      omega
  · refine ⟨partCount position segmentBytes, Nat.le_refl _, Nat.min_eq_right ?_⟩
    rw [← Nat.not_lt, ← lt_partCount hseg]
    exact Nat.lt_irrefl _

/-- The record of the file. -/
def savedOutgoingFile (segmentBytes : Nat) (browserFile : BrowserFile) (fileBytes : BinaryId) (handle : FileHandle)
    (position : Nat) : OutgoingRecoveryFile :=
  { fileId := formatBinaryId "file" fileBytes, name := browserFile.metadata.name, mime := browserFile.metadata.mime,
    sizeBytes := browserFile.metadata.sizeBytes, lastModifiedMs := browserFile.inner.lastModifiedMs, handle,
    committedBytes := position, lastSegmentBlake3 := lastDigest browserFile.inner.content segmentBytes position }

/-- What is found when the source is read again. -/
def recoveredSource (segmentBytes : Nat) (browserFile : BrowserFile) (position : Nat) : RecoveredSourceFile :=
  { file := browserFile.inner
    hasher := ⟨browserFile.inner.content.take position⟩
    lastSegmentBlake3 := lastDigest browserFile.inner.content segmentBytes position }

theorem recoverSourceFile_eq {handle : FileHandle} (hseg : 0 < segmentBytes)
    (hfits : browserFile.inner.content.length ≤ U64_MAX) (hposition : position ≤ browserFile.inner.content.length) :
    recoverSourceFile browserFile.inner
        (Peer.expectedSource (savedOutgoingFile segmentBytes browserFile fileBytes handle position)) position segmentBytes
        (.ok ()) = .ok (recoveredSource segmentBytes browserFile position) := by
  unfold recoverSourceFile
  dsimp only
  split
  · rename_i hchanged
    rcases hchanged with hname | hmime | hsize | htime | hbehind
    · exact absurd rfl hname
    · exact absurd rfl hmime
    · exact absurd rfl hsize
    · exact absurd rfl htime
    · exact absurd hbehind (Nat.not_lt.mpr hposition)
  · rw [rehash_enough hseg hposition (by omega) (Nat.lt_succ_self _)]
    rfl

end Sender

/-! ## Both -/

/-- **A file that was read again is as it was before the reload**, on both sides: every committed position is reached, the loop
ends, and hashes, digest and segment are those of the live path. -/
theorem rebuilt_file_is_live :
    (∀ (transferBytes : BinaryId) (offer : IncomingFile) (segmentBytes position : Nat) (disk : Disk) (handle : FileHandle)
        (stored : Bytes), 0 < segmentBytes → offer.file.sizeBytes ≤ U64_MAX → disk[handle]? = some stored →
        position ≤ stored.length → stored.length ≤ offer.file.sizeBytes →
        (position % segmentBytes = 0 ∨ position = offer.file.sizeBytes) →
      (∃ file, CommittedFile transferBytes offer segmentBytes file (stored.take position)) ∧
        ∃ recovered, reopenStreamFile disk handle position offer.file.sizeBytes segmentBytes (.ok ()) = .ok recovered ∧
          (∀ fuel, position < fuel → rehash stored position segmentBytes fuel 0 .new none =
            some (recovered.hasher, recovered.lastSegmentBlake3)) ∧
          ∀ file, CommittedFile transferBytes offer segmentBytes file (stored.take position) →
            Peer.restoredFile recovered position segmentBytes = { file with writer := some recovered.writer } ∧
              recovered.hasher = file.hasher ∧ recovered.lastSegmentBlake3 = file.lastSegmentBlake3 ∧
              recovered.writer.nextOffset = file.segmentOffset ∧
              ∀ payloads full, ReceivedChunks transferBytes offer segmentBytes file payloads full →
                ∃ resumed, ReceivedChunks transferBytes offer segmentBytes
                    (Peer.restoredFile recovered position segmentBytes) payloads resumed ∧
                  resumed.hasher.finalize = full.hasher.finalize ∧
                  ∀ commit, resumed.commits offer segmentBytes commit = full.commits offer segmentBytes commit) ∧
    ∀ (browserFile : BrowserFile) (fileBytes : BinaryId) (handle : FileHandle) (segmentBytes position : Nat),
        0 < segmentBytes → browserFile.inner.content.length ≤ U64_MAX → browserFile.sourceHandle = some handle →
        position ≤ browserFile.inner.content.length →
        (position % segmentBytes = 0 ∨ position = browserFile.inner.content.length) →
      (∃ state file index, AcknowledgedFile segmentBytes browserFile fileBytes state file index ∧
        state.committedBytes = position) ∧
        ∀ state file index, AcknowledgedFile segmentBytes browserFile fileBytes state file index →
          state.committedBytes = position →
          ∃ saved recovered, outgoingRecoveryFile state = some saved ∧
            recoverSourceFile browserFile.inner (Peer.expectedSource saved) saved.committedBytes segmentBytes (.ok ()) =
              .ok recovered ∧
            (∀ fuel, position < fuel → rehash browserFile.inner.content position segmentBytes fuel 0 .new none =
              some (recovered.hasher, recovered.lastSegmentBlake3)) ∧
            saved.lastSegmentBlake3 = recovered.lastSegmentBlake3 ∧
            Peer.restoredOutgoingFile saved fileBytes recovered = state ∧
            (Peer.restoredOutgoingFile saved fileBytes recovered).sendFile = file ∧
            Peer.startSegment (Peer.restoredOutgoingFile saved fileBytes recovered) segmentBytes = index := by
  constructor
  · intro transferBytes offer segmentBytes position disk handle stored hseg hfits hstored hposition hsize haligned
    refine ⟨exists_committedFile hseg hfits hposition (Nat.le_trans hposition hsize) haligned, _,
      reopenStreamFile_eq hseg hfits hstored hposition hsize, ?_, ?_⟩
    · intro fuel hfuel
      exact rehash_enough hseg hposition (by omega) hfuel
    · intro file hfile
      have hholds := hfile.holds hseg hfits
      have hstate : Peer.restoredFile (reopenedFile handle stored segmentBytes position) position segmentBytes =
          { file with writer := some (reopenedFile handle stored segmentBytes position).writer } := hholds.restored hposition
      refine ⟨hstate, congrArg (·.hasher) hstate, congrArg (·.lastSegmentBlake3) hstate,
        congrArg (·.segmentOffset) hstate, ?_⟩
      intro payloads full hfull
      rw [hstate]
      exact ⟨_, hfull.withWriter _, rfl, fun _ => rfl⟩
  · intro browserFile fileBytes handle segmentBytes position hseg hfits hhandle hposition haligned
    constructor
    · obtain ⟨index, hindex, rfl⟩ := exists_index hseg hposition haligned
      obtain ⟨state, file, hfile⟩ := exists_acknowledgedFile hseg hfits hindex
      obtain ⟨hstate, -, -⟩ := hfile.known hseg hfits
      exact ⟨state, file, index, hfile, congrArg (·.committedBytes) hstate⟩
    · intro state file index hfile hcommitted
      obtain ⟨rfl, rfl, hindex⟩ := hfile.known hseg hfits
      have hstart : Peer.startSegment (committedOutgoingFile segmentBytes browserFile fileBytes
          (min (index * segmentBytes) browserFile.inner.content.length)) segmentBytes = index :=
        startSegment_committed hseg hindex
      change min (index * segmentBytes) browserFile.inner.content.length = position at hcommitted
      rw [hcommitted] at hstart ⊢
      have hsaved : outgoingRecoveryFile (committedOutgoingFile segmentBytes browserFile fileBytes position) =
          some (savedOutgoingFile segmentBytes browserFile fileBytes handle position) := by
        unfold outgoingRecoveryFile
        rw [show (committedOutgoingFile segmentBytes browserFile fileBytes position).sourceHandle = some handle from hhandle]
        rfl
      have hstate : Peer.restoredOutgoingFile (savedOutgoingFile segmentBytes browserFile fileBytes handle position) fileBytes
          (recoveredSource segmentBytes browserFile position) =
            committedOutgoingFile segmentBytes browserFile fileBytes position := by
        unfold Peer.restoredOutgoingFile committedOutgoingFile outgoingFile
        rw [hhandle]
        rfl
      refine ⟨_, _, hsaved, recoverSourceFile_eq hseg hfits hposition, ?_, rfl, hstate, ?_, ?_⟩
      · intro fuel hfuel
        exact rehash_enough hseg hposition (by omega) hfuel
      · rw [hstate]
      · rw [hstate, hstart]

end P2PTransmission.Rtc
