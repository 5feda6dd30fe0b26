import P2PTransmission.Rtc.Wire

/-!
# The codec of binary frames

The fields of a frame are read at their positions. Reading past the end would stop the program (`readSlice`); the decoder
looks at the length first, and so it never does (`decodeBinaryFrame_eq`).

The frames that it accepts are those that the encoder makes of a header of the current version and its payload: both ways
round, nothing is lost (`binary_frame_codec`).
-/

set_option autoImplicit false

namespace P2PTransmission.Rtc

/-! ## Reading -/

/-- A slice of the frame, if the frame is long enough. -/
def readSlice (frame : Bytes) (start stop : Nat) : Option Bytes :=
  if stop ≤ frame.length then some (slice frame start stop) else none

/-- The decoder, in the order in which it reads: there is no outer value if it reads past the end. -/
def decodeBinaryFrame (frame : Bytes) : Option (Except ProtocolError BinaryChunk) :=
  if frame.length < CHUNK_HEADER_LEN then some (.error .binaryFrameTooShort)
  else
    (readSlice frame 0 4).bind fun magic =>
      if magic ≠ CHUNK_MAGIC then some (.error .invalidMagic)
      else
        (readSlice frame 4 6).bind fun major => (readSlice frame 6 8).bind fun minor =>
          match ProtocolVersion.validate ⟨ofBeBytes major, ofBeBytes minor⟩ with
          | .error error => some (.error error)
          | .ok _ =>
            (readSlice frame 8 9).bind fun kind =>
              if kind ≠ [DATA_FRAME_TYPE] then some (.error (.unsupportedFrameType (kind.headD 0)))
              else
                ((readSlice frame 9 25).bind BinaryId.ofBytes).bind fun transferId =>
                ((readSlice frame 25 41).bind BinaryId.ofBytes).bind fun fileId =>
                (readSlice frame 41 49).bind fun offset => (readSlice frame 49 53).bind fun length =>
                  if MAX_CHUNK_BYTES < ofBeBytes length then some (.error .chunkTooLarge)
                  else if (checkedAdd (ofBeBytes offset) (ofBeBytes length)).isNone then some (.error .offsetOverflow)
                  else if frame.length ≠ CHUNK_HEADER_LEN + ofBeBytes length then some (.error .binaryLengthMismatch)
                  else
                    some (.ok
                      ⟨{ version := ⟨ofBeBytes major, ofBeBytes minor⟩, transferId, fileId, offset := ofBeBytes offset,
                          payloadLen := ofBeBytes length }, frame.drop CHUNK_HEADER_LEN⟩)

variable {frame : Bytes} {chunk : BinaryChunk}

theorem length_slice (frame : Bytes) {start stop : Nat} (hle : start ≤ stop) (h : stop ≤ frame.length) :
    (slice frame start stop).length = stop - start := by
  unfold slice
  rw [List.length_take, List.length_drop]
  omega

theorem readSlice_eq {start stop : Nat} (h : stop ≤ frame.length) :
    readSlice frame start stop = some (slice frame start stop) := if_pos h

/-- The sixteen bytes of an identifier. -/
theorem BinaryId.ofBytes_slice {start stop : Nat} (hwidth : start + 16 = stop) (h : stop ≤ frame.length) :
    ∃ id, BinaryId.ofBytes (slice frame start stop) = some id ∧ id.toList = slice frame start stop := by
  have hlength : (slice frame start stop).length = 16 := by
    rw [length_slice frame (by omega) h]
    omega
  unfold ofBytes
  rw [dif_pos hlength]
  exact ⟨_, rfl, rfl⟩

/-- One byte of the frame. -/
theorem slice_one (frame : Bytes) (h : 9 ≤ frame.length) : ∃ byte, slice frame 8 9 = [byte] :=
  List.length_eq_one_iff.mp (length_slice frame (by omega) h)

/-- **The decoder never reads past the end of the frame.** -/
theorem decodeBinaryFrame_eq (frame : Bytes) : decodeBinaryFrame frame = some (decodeBinaryChunk frame) := by
  unfold decodeBinaryFrame decodeBinaryChunk
  by_cases hshort : frame.length < CHUNK_HEADER_LEN
  · rw [if_pos hshort, if_pos hshort]
  · have hlength : 53 ≤ frame.length := Nat.not_lt.mp hshort
    rw [if_neg hshort, if_neg hshort, readSlice_eq (by omega), Option.bind_some]
    by_cases hmagic : slice frame 0 4 ≠ CHUNK_MAGIC
    · rw [if_pos hmagic, if_pos hmagic]
    · rw [if_neg hmagic, if_neg hmagic, readSlice_eq (by omega), Option.bind_some, readSlice_eq (by omega),
        Option.bind_some]
      obtain ⟨transferId, htransfer, -⟩ : ∃ id, BinaryId.ofBytes (slice frame 9 25) = some id ∧ _ :=
        BinaryId.ofBytes_slice rfl (by omega)
      obtain ⟨fileId, hfile, -⟩ : ∃ id, BinaryId.ofBytes (slice frame 25 41) = some id ∧ _ :=
        BinaryId.ofBytes_slice rfl (by omega)
      obtain ⟨kind, hkind⟩ := slice_one frame (by omega)
      rw [htransfer, hfile, hkind]
      dsimp only
      cases hversion : ProtocolVersion.validate ⟨ofBeBytes (slice frame 4 6), ofBeBytes (slice frame 6 8)⟩ with
      | error error => rfl
      | ok value =>
        dsimp only
        rw [readSlice_eq (by omega), Option.bind_some, hkind]
        by_cases htype : kind ≠ DATA_FRAME_TYPE
        · rw [if_pos htype, if_pos (by simpa using htype)]
          rfl
        · rw [if_neg htype, if_neg (by simpa using htype), readSlice_eq (by omega), Option.bind_some, htransfer,
            Option.bind_some, readSlice_eq (by omega), Option.bind_some, hfile, Option.bind_some,
            readSlice_eq (by omega), Option.bind_some, readSlice_eq (by omega), Option.bind_some]
          by_cases hlarge : MAX_CHUNK_BYTES < ofBeBytes (slice frame 49 53)
          · rw [if_pos hlarge, if_pos hlarge]
          · rw [if_neg hlarge, if_neg hlarge]
            by_cases hover : (checkedAdd (ofBeBytes (slice frame 41 49)) (ofBeBytes (slice frame 49 53))).isNone = true
            · rw [if_pos hover, if_pos hover]
            · rw [if_neg hover, if_neg hover]
              by_cases htotal : frame.length ≠ CHUNK_HEADER_LEN + ofBeBytes (slice frame 49 53)
              · rw [if_pos htotal, if_pos htotal]
              · rw [if_neg htotal, if_neg htotal]

/-! ## Numbers that were read -/

theorem beBytes_ofBeBytes {width : Nat} (bytes : Bytes) (h : bytes.length = width) :
    beBytes width (ofBeBytes bytes) = bytes := by
  induction width generalizing bytes with
  | zero =>
    rw [List.length_eq_zero_iff.mp h]
    rfl
  | succ width ih =>
    obtain ⟨init, last, rfl⟩ : ∃ init last, bytes = init ++ [last] := by
      rcases List.eq_nil_or_concat bytes with rfl | ⟨init, last, hbytes⟩
      · cases h
      · exact ⟨init, last, by rw [hbytes, List.concat_eq_append]⟩
    have hinit : init.length = width := by simpa using h
    have hnumber : ofBeBytes (init ++ [last]) = ofBeBytes init * 256 + last.toNat := by
      unfold ofBeBytes
      rw [List.foldl_append]
      rfl
    have hlast : last.toNat < 256 := last.toNat_lt
    have hdiv : (ofBeBytes init * 256 + last.toNat) / 256 = ofBeBytes init := by omega
    have hbyte : UInt8.ofNat (ofBeBytes init * 256 + last.toNat) = last := by
      rw [← UInt8.toNat_inj, UInt8.toNat_ofNat']
      omega
    rw [beBytes, hnumber, hdiv, ih init hinit, hbyte]

theorem beBytes_slice {start stop width : Nat} (hwidth : start + width = stop) (h : stop ≤ frame.length) :
    beBytes width (ofBeBytes (slice frame start stop)) = slice frame start stop := by
  refine beBytes_ofBeBytes _ ?_
  rw [length_slice frame (by omega) h]
  omega

/-! ## Frames that are accepted -/

/-- The slices of a frame, one after the other. -/
theorem slice_append_drop {start stop : Nat} (hle : start ≤ stop) :
    slice frame start stop ++ frame.drop stop = frame.drop start := by
  unfold slice
  have hstop : frame.drop stop = (frame.drop start).drop (stop - start) := by
    rw [List.drop_drop, Nat.add_sub_cancel' hle]
  rw [hstop, List.take_append_drop]

/-- The header is one of the current version, and the payload is the one that it speaks of. -/
structure BinaryChunk.Valid (chunk : BinaryChunk) : Prop where
  version : chunk.header.version = CURRENT_PROTOCOL
  size : chunk.header.payloadLen ≤ MAX_CHUNK_BYTES
  fits : chunk.header.offset + chunk.header.payloadLen ≤ U64_MAX
  length : chunk.payload.length = chunk.header.payloadLen

def BinaryChunk.encode (chunk : BinaryChunk) : Bytes := chunk.header.encode ++ chunk.payload

theorem decodeBinaryChunk_of_valid (h : chunk.Valid) : decodeBinaryChunk chunk.encode = .ok chunk := by
  obtain ⟨⟨version, transferId, fileId, offset, payloadLen⟩, payload⟩ := chunk
  obtain ⟨hversion, hsize, hfits, hlength⟩ := h
  dsimp only at hversion hsize hfits hlength
  subst hversion hlength
  exact decodeBinaryChunk_encode hsize hfits

/-- What the decoder has found out when it accepts a frame. -/
theorem decodeBinaryChunk_ok (h : decodeBinaryChunk frame = .ok chunk) :
    CHUNK_HEADER_LEN ≤ frame.length ∧ slice frame 0 4 = CHUNK_MAGIC ∧
      chunk.header.version = ⟨ofBeBytes (slice frame 4 6), ofBeBytes (slice frame 6 8)⟩ ∧
      chunk.header.version = CURRENT_PROTOCOL ∧ slice frame 8 9 = [DATA_FRAME_TYPE] ∧
      chunk.header.transferId.toList = slice frame 9 25 ∧ chunk.header.fileId.toList = slice frame 25 41 ∧
      chunk.header.offset = ofBeBytes (slice frame 41 49) ∧ chunk.header.payloadLen = ofBeBytes (slice frame 49 53) ∧
      chunk.header.payloadLen ≤ MAX_CHUNK_BYTES ∧ chunk.header.offset + chunk.header.payloadLen ≤ U64_MAX ∧
      frame.length = CHUNK_HEADER_LEN + chunk.header.payloadLen ∧ chunk.payload = frame.drop CHUNK_HEADER_LEN := by
  unfold decodeBinaryChunk at h
  by_cases hshort : frame.length < CHUNK_HEADER_LEN
  · rw [if_pos hshort] at h
    cases h
  · have hlength : 53 ≤ frame.length := Nat.not_lt.mp hshort
    rw [if_neg hshort] at h
    by_cases hmagic : slice frame 0 4 ≠ CHUNK_MAGIC
    · rw [if_pos hmagic] at h
      cases h
    · rw [if_neg hmagic] at h
      obtain ⟨transferId, htransfer, htransferBytes⟩ : ∃ id, BinaryId.ofBytes (slice frame 9 25) = some id ∧
          id.toList = slice frame 9 25 := BinaryId.ofBytes_slice rfl (by omega)
      obtain ⟨fileId, hfile, hfileBytes⟩ : ∃ id, BinaryId.ofBytes (slice frame 25 41) = some id ∧
          id.toList = slice frame 25 41 := BinaryId.ofBytes_slice rfl (by omega)
      obtain ⟨kind, hkind⟩ := slice_one frame (by omega)
      rw [htransfer, hfile, hkind] at h
      dsimp only at h
      cases hvalid : ProtocolVersion.validate ⟨ofBeBytes (slice frame 4 6), ofBeBytes (slice frame 6 8)⟩ with
      | error error =>
        rw [hvalid] at h
        cases h
      | ok value =>
        rw [hvalid] at h
        dsimp only at h
        have hversion : (⟨ofBeBytes (slice frame 4 6), ofBeBytes (slice frame 6 8)⟩ : ProtocolVersion) =
            CURRENT_PROTOCOL := by
          by_contra hne
          unfold ProtocolVersion.validate at hvalid
          rw [if_pos hne] at hvalid
          cases hvalid
        by_cases htype : kind ≠ DATA_FRAME_TYPE
        · rw [if_pos htype] at h
          cases h
        · rw [if_neg htype] at h
          by_cases hlarge : MAX_CHUNK_BYTES < ofBeBytes (slice frame 49 53)
          · rw [if_pos hlarge] at h
            cases h
          · rw [if_neg hlarge] at h
            by_cases hover : (checkedAdd (ofBeBytes (slice frame 41 49)) (ofBeBytes (slice frame 49 53))).isNone = true
            · rw [if_pos hover] at h
              cases h
            · rw [if_neg hover] at h
              by_cases htotal : frame.length ≠ CHUNK_HEADER_LEN + ofBeBytes (slice frame 49 53)
              · rw [if_pos htotal] at h
                cases h
              · rw [if_neg htotal] at h
                cases h
                have hfits : ofBeBytes (slice frame 41 49) + ofBeBytes (slice frame 49 53) ≤ U64_MAX := by
                  by_contra hnot
                  unfold checkedAdd at hover
                  rw [if_neg hnot] at hover
                  exact hover rfl
                exact ⟨Nat.not_lt.mp hshort, not_not.mp hmagic, rfl, hversion, by rw [hkind, not_not.mp htype],
                  htransferBytes, hfileBytes, rfl, rfl, Nat.not_lt.mp hlarge, hfits, not_not.mp htotal, rfl⟩

/-- **An accepted frame is the encoding of what it is read as.** -/
theorem encode_of_decodeBinaryChunk (h : decodeBinaryChunk frame = .ok chunk) : chunk.Valid ∧ chunk.encode = frame := by
  obtain ⟨hlength, hmagic, hversion, hcurrent, hkind, htransfer, hfile, hoffset, hlen, hsize, hfits, htotal, hpayload⟩ :=
    decodeBinaryChunk_ok h
  refine ⟨⟨hcurrent, hsize, hfits, ?_⟩, ?_⟩
  · rw [hpayload, List.length_drop, htotal, Nat.add_sub_cancel_left]
  · unfold CHUNK_HEADER_LEN at hlength
    unfold BinaryChunk.encode BinaryChunkHeader.encode
    rw [hversion, hoffset, hlen, htransfer, hfile, hpayload, ← hmagic, ← hkind]
    dsimp only
    have hmajor : beBytes 2 (ofBeBytes (slice frame 4 6)) = slice frame 4 6 := beBytes_slice rfl (by omega)
    have hminor : beBytes 2 (ofBeBytes (slice frame 6 8)) = slice frame 6 8 := beBytes_slice rfl (by omega)
    have hat : beBytes 8 (ofBeBytes (slice frame 41 49)) = slice frame 41 49 := beBytes_slice rfl (by omega)
    have hcount : beBytes 4 (ofBeBytes (slice frame 49 53)) = slice frame 49 53 := beBytes_slice rfl (by omega)
    rw [hmajor, hminor, hat, hcount]
    simp only [List.append_assoc]
    unfold CHUNK_HEADER_LEN
    rw [slice_append_drop (by omega), slice_append_drop (by omega), slice_append_drop (by omega),
      slice_append_drop (by omega), slice_append_drop (by omega), slice_append_drop (by omega),
      slice_append_drop (by omega), slice_append_drop (by omega)]
    exact List.drop_zero

/-- **The codec of binary frames.** What is encoded is decoded to itself, what is decoded is encoded to itself, every other
frame is refused, and no read goes past the end of the frame. -/
theorem binary_frame_codec :
    (∀ chunk : BinaryChunk, chunk.Valid → decodeBinaryFrame chunk.encode = some (.ok chunk)) ∧
    (∀ frame chunk, decodeBinaryFrame frame = some (.ok chunk) → chunk.Valid ∧ chunk.encode = frame) ∧
    ∀ frame, (¬∃ chunk : BinaryChunk, chunk.Valid ∧ chunk.encode = frame) →
      ∃ error, decodeBinaryFrame frame = some (.error error) := by
  refine ⟨fun chunk h => ?_, fun frame chunk h => ?_, fun frame hnone => ?_⟩
  · rw [decodeBinaryFrame_eq, decodeBinaryChunk_of_valid h]
  · rw [decodeBinaryFrame_eq] at h
    exact encode_of_decodeBinaryChunk (Option.some.inj h)
  · rw [decodeBinaryFrame_eq]
    cases hdecode : decodeBinaryChunk frame with
    | error error => exact ⟨error, rfl⟩
    | ok chunk => exact absurd ⟨chunk, encode_of_decodeBinaryChunk hdecode⟩ hnone

end P2PTransmission.Rtc
