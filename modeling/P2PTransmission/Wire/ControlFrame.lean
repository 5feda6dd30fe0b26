import P2PTransmission.Foundation.Fallible
import P2PTransmission.Wire.Control

/-!
# What control frames are

A message that passes its check is a sound one: its lists are short, its names and identifiers are of the right form, its
totals are those of its parts (`Sound`). The text of a sound message fits into a frame, whatever its strings are, because
the checks bound what escaping can add; so a message that is written is read back as it was.
-/

set_option autoImplicit false

namespace P2PTransmission.Wire

open Rtc Json

/-! ## Sound messages -/

/-- A text of one line. -/
structure ValidText (maxBytes : Nat) (value : String) : Prop where
  nonempty : value ≠ ""
  short : value.utf8ByteSize ≤ maxBytes
  plain : ∀ c ∈ value.toList, Rtc.isControl c = false

/-- An identifier. -/
structure ValidToken (value : String) : Prop extends ValidText Rtc.MAX_ID_BYTES value where
  token : ∀ c ∈ value.toList, c.isAlphanum = true ∨ c = '_' ∨ c = '-'

/-- A text of several lines. -/
structure ValidMultilineText (maxBytes : Nat) (value : String) : Prop where
  nonempty : value ≠ ""
  short : value.utf8ByteSize ≤ maxBytes
  plain : ∀ c ∈ value.toList, Rtc.isControl c = true → c = '\r' ∨ c = '\n' ∨ c = '\t'

structure ValidBlake3 (value : String) : Prop where
  length : value.utf8ByteSize = 64
  digits : ∀ c ∈ value.toList, isHexDigit c = true

structure ValidFile (file : FileManifest) : Prop where
  fileId : ValidToken file.fileId
  name : ValidText MAX_FILE_NAME_BYTES file.name
  noSeparator : ∀ c ∈ file.name.toList, c ≠ '/' ∧ c ≠ '\\'
  mime : ∀ mime ∈ file.mime, ValidText MAX_MIME_BYTES mime

structure ValidCursor (cursor : ResumeCursor) : Prop where
  fileId : ValidToken cursor.fileId
  committed : cursor.committedBytes ≤ MAX_TRANSFER_BYTES
  begun : cursor.lastSegmentBlake3 = none ↔ cursor.committedBytes = 0
  digest : ∀ blake3 ∈ cursor.lastSegmentBlake3, ValidBlake3 blake3

structure ValidDigest (digest : FileDigest) : Prop where
  fileId : ValidToken digest.fileId
  bounded : digest.sizeBytes ≤ MAX_TRANSFER_BYTES
  blake3 : ValidBlake3 digest.blake3

def ValidMode : TransferMode → Prop
  | .buffered => True
  | .streamed segmentBytes =>
    MIN_STREAM_SEGMENT_BYTES ≤ segmentBytes ∧ segmentBytes ≤ MAX_STREAM_SEGMENT_BYTES ∧ segmentBytes % MAX_CHUNK_BYTES = 0

/-- A list of a few files, no two of which have the same identifier. -/
structure FewFiles {α : Type} (fileId : α → String) (valid : α → Prop) (files : List α) : Prop where
  few : files.length ≤ MAX_FILES_PER_MANIFEST
  valid : ∀ file ∈ files, valid file
  distinct : (files.map fileId).Nodup

def TextMessage.Sound : TextMessage → Prop
  | textOffer _ characterCount byteLength =>
    0 < characterCount ∧ characterCount ≤ MAX_TEXT_TRANSFER_CHARS ∧ 0 < byteLength ∧ byteLength ≤ MAX_TEXT_TRANSFER_BYTES
  | textPayload _ text => ValidMultilineText MAX_TEXT_TRANSFER_BYTES text ∧ text.length ≤ MAX_TEXT_TRANSFER_CHARS
  | textDecision _ _ | textReceipt _ | textCancel _ => True

def TransferSound : Rtc.ControlMessage → Prop
  | .manifest _ mode files =>
    ValidMode mode ∧ files ≠ [] ∧ FewFiles FileManifest.fileId ValidFile files ∧
      (files.map FileManifest.sizeBytes).sum ≤ mode.maxTransferBytes
  | .streamReady _ maxChunkBytes ackWindowBytes resume =>
    0 < maxChunkBytes ∧ maxChunkBytes ≤ MAX_CHUNK_BYTES ∧ maxChunkBytes ≤ ackWindowBytes ∧
      ackWindowBytes ≤ MAX_STREAM_ACK_WINDOW_BYTES ∧ FewFiles ResumeCursor.fileId ValidCursor resume
  | .segmentCommit _ fileId _ offset bytes blake3 =>
    ValidToken fileId ∧ 0 < bytes ∧ bytes ≤ MAX_STREAM_SEGMENT_BYTES ∧ offset + bytes ≤ MAX_TRANSFER_BYTES ∧
      ValidBlake3 blake3
  | .segmentAck _ fileId _ committedBytes blake3 =>
    ValidToken fileId ∧ 0 < committedBytes ∧ committedBytes ≤ MAX_TRANSFER_BYTES ∧ ValidBlake3 blake3
  | .complete _ bytes blake3 => bytes ≤ MAX_BUFFERED_TRANSFER_BYTES ∧ ValidBlake3 blake3
  | .streamComplete _ totalBytes files =>
    files ≠ [] ∧ FewFiles FileDigest.fileId ValidDigest files ∧ (files.map FileDigest.sizeBytes).sum = totalBytes ∧
      totalBytes ≤ MAX_TRANSFER_BYTES
  | .error _ code message => ValidToken code ∧ ValidText MAX_ERROR_MESSAGE_BYTES message
  | .decision _ _ | .start _ | .streamPaused _ _ | .cancel _ _ => True

def ControlBody.Sound : ControlBody → Prop
  | text message => ValidToken message.transferId ∧ message.Sound
  | transfer message => ValidToken message.transferId ∧ TransferSound message

/-- The message says what a message of the current version may say. -/
structure ControlMessage.Sound (message : ControlMessage) : Prop where
  version : message.version = CURRENT_PROTOCOL
  body : message.body.Sound

/-! ## What the checks accept -/

section Checks

variable {value field : String} {maxBytes : Nat}

theorem validateText_ok : validateText value field maxBytes = .ok () ↔ ValidText maxBytes value := by
  unfold validateText
  constructor
  · intro h
    split at h
    · cases h
    · rename_i hempty
      split at h
      · cases h
      · split at h
        · cases h
        · rename_i hcontrol
          refine ⟨?_, by omega, ?_⟩
          · intro heq
            exact hempty (by rw [heq]; rfl)
          · simpa using hcontrol
  · intro h
    have hempty : ¬value.isEmpty = true := by
      rw [String.isEmpty_iff]
      exact h.nonempty
    have hcontrol : value.toList.any Rtc.isControl = false := by simpa using h.plain
    rw [if_neg hempty, if_neg (by exact Nat.not_lt.mpr h.short), hcontrol]
    rfl

theorem validateToken_ok : validateToken value field = .ok () ↔ ValidToken value := by
  unfold validateToken
  cases htext : validateText value field Rtc.MAX_ID_BYTES with
  | error e =>
    constructor
    · intro h; cases h
    · intro h
      rw [validateText_ok.mpr h.toValidText] at htext
      cases htext
  | ok _ =>
    have hvalid : ValidText Rtc.MAX_ID_BYTES value := validateText_ok.mp htext
    constructor
    · intro h
      dsimp only at h
      split at h
      · cases h
      · rename_i htoken
        refine ⟨hvalid, fun c hc => ?_⟩
        have hall : ∀ x ∈ value.toList, x.isAlphanum = false → ¬x = '_' → x = '-' := by simpa using htoken
        by_contra hother
        rw [not_or, not_or] at hother
        exact hother.2.2 (hall c hc (Bool.not_eq_true _ ▸ hother.1) hother.2.1)
    · intro h
      dsimp only
      rw [if_neg]
      simp only [List.any_eq_true, not_exists, not_and]
      intro c hc hbad
      rcases h.token c hc with halphanum | rfl | rfl
      · simp [halphanum] at hbad
      · simp at hbad
      · simp at hbad

theorem validateMultilineText_ok :
    validateMultilineText value field maxBytes = .ok () ↔ ValidMultilineText maxBytes value := by
  unfold validateMultilineText
  constructor
  · intro h
    split at h
    · cases h
    · rename_i hempty
      split at h
      · cases h
      · split at h
        · cases h
        · rename_i hcontrol
          refine ⟨?_, by omega, fun c hc hbad => ?_⟩
          · intro heq
            exact hempty (by rw [heq]; rfl)
          · have hall : ∀ x ∈ value.toList, Rtc.isControl x = true → ¬x = '\r' → ¬x = '\n' → x = '\t' := by
              simpa using hcontrol
            by_contra hother
            rw [not_or, not_or] at hother
            exact hother.2.2 (hall c hc hbad hother.1 hother.2.1)
  · intro h
    have hempty : ¬value.isEmpty = true := by
      rw [String.isEmpty_iff]
      exact h.nonempty
    rw [if_neg hempty, if_neg (by exact Nat.not_lt.mpr h.short), if_neg]
    simp only [List.any_eq_true, not_exists, not_and]
    intro c hc hbad
    simp only [Bool.and_eq_true] at hbad
    rcases h.plain c hc hbad.1 with rfl | rfl | rfl
    all_goals simp at hbad

theorem validateBlake3_ok : validateBlake3 value field = .ok () ↔ ValidBlake3 value := by
  unfold validateBlake3 validBlake3
  constructor
  · intro h
    split at h
    · rename_i hvalid
      simp only [Bool.and_eq_true, beq_iff_eq, List.all_eq_true] at hvalid
      exact ⟨hvalid.1, hvalid.2⟩
    · cases h
  · intro h
    have hvalid : (value.utf8ByteSize == 64 && value.toList.all isHexDigit) = true := by
      simp only [Bool.and_eq_true, beq_iff_eq, List.all_eq_true]
      exact ⟨h.length, h.digits⟩
    rw [if_pos hvalid]

theorem mode_ok {mode : TransferMode} : mode.validate = .ok () ↔ ValidMode mode := by
  cases mode with
  | buffered => simp [TransferMode.validate, ValidMode]
  | streamed segmentBytes =>
    unfold TransferMode.validate ValidMode
    dsimp only
    split
    · rename_i hbad
      constructor
      · intro h; cases h
      · intro h
        omega
    · rename_i hgood
      constructor
      · intro _
        omega
      · intro _
        rfl

theorem file_ok {file : FileManifest} (h : file.validate = .ok ()) : ValidFile file := by
  unfold FileManifest.validate at h
  obtain ⟨_, hid, h⟩ := bind_ok.mp h
  obtain ⟨_, hname, h⟩ := bind_ok.mp h
  obtain ⟨hseparator, h⟩ := throwIf_ok.mp h
  refine ⟨validateToken_ok.mp hid, validateText_ok.mp hname, ?_, ?_⟩
  · simpa using hseparator
  · intro mime hmime
    rw [Option.mem_def] at hmime
    rw [hmime] at h
    exact validateText_ok.mp h

theorem cursor_ok {cursor : ResumeCursor} (h : cursor.validate = .ok ()) : ValidCursor cursor := by
  unfold ResumeCursor.validate at h
  obtain ⟨_, hid, h⟩ := bind_ok.mp h
  obtain ⟨hcommitted, h⟩ := throwIf_ok.mp h
  obtain ⟨fileId, committedBytes, lastSegmentBlake3⟩ := cursor
  have hbound : committedBytes ≤ MAX_TRANSFER_BYTES := Nat.not_lt.mp hcommitted
  cases committedBytes with
  | zero =>
    cases lastSegmentBlake3 with
    | none => exact ⟨validateToken_ok.mp hid, hbound, by simp, by simp⟩
    | some blake3 => cases h
  | succ committedBytes =>
    cases lastSegmentBlake3 with
    | none => cases h
    | some blake3 =>
      refine ⟨validateToken_ok.mp hid, hbound, by simp, ?_⟩
      intro digest hdigest
      cases hdigest
      exact validateBlake3_ok.mp h

theorem digest_ok {digest : FileDigest} (h : digest.validate = .ok ()) : ValidDigest digest := by
  unfold FileDigest.validate at h
  obtain ⟨_, hid, h⟩ := bind_ok.mp h
  obtain ⟨hsize, h⟩ := throwIf_ok.mp h
  exact ⟨validateToken_ok.mp hid, Nat.not_lt.mp hsize, validateBlake3_ok.mp h⟩

end Checks

/-! ### Lists of files -/

theorem checkedAdd_some {a b c : Nat} (h : checkedAdd a b = some c) : c = a + b := by
  unfold checkedAdd at h
  split at h
  · cases h
    rfl
  · cases h

section Files

variable {α : Type} {fileId : α → String} {validate : α → Except ProtocolError Unit} {fileSize : α → Nat}
  {valid : α → Prop}

/-- The files of a list that is accepted are valid, new and distinct, and their total is the result. -/
theorem totalUniqueFiles_ok (hvalid : ∀ file, validate file = .ok () → valid file) {files : List α} :
    ∀ {seen : List String} {total result : Nat},
      totalUniqueFiles fileId validate fileSize seen total files = .ok result →
        (∀ file ∈ files, valid file) ∧ (files.map fileId).Nodup ∧ (∀ file ∈ files, fileId file ∉ seen) ∧
          result = total + (files.map fileSize).sum := by
  induction files with
  | nil =>
    intro seen total result h
    cases h
    simp
  | cons file files ih =>
    intro seen total result h
    unfold totalUniqueFiles at h
    cases hfile : validate file with
    | error e =>
      rw [hfile] at h
      cases h
    | ok _ =>
      rw [hfile] at h
      dsimp only at h
      split at h
      · cases h
      · rename_i hnew
        cases hsum : checkedAdd total (fileSize file) with
        | none =>
          rw [hsum] at h
          cases h
        | some next =>
          rw [hsum] at h
          obtain ⟨hrest, hnodup, hseen, hresult⟩ := ih h
          have hnext := checkedAdd_some hsum
          refine ⟨?_, ?_, ?_, ?_⟩
          · intro other hother
            rcases List.mem_cons.mp hother with rfl | hother
            · exact hvalid other hfile
            · exact hrest other hother
          · rw [List.map_cons, List.nodup_cons]
            refine ⟨?_, hnodup⟩
            intro hmem
            obtain ⟨other, hother, heq⟩ := List.mem_map.mp hmem
            apply hseen other hother
            rw [heq]
            exact List.mem_cons_self
          · intro other hother
            rcases List.mem_cons.mp hother with rfl | hother
            · exact hnew
            · intro hmem
              exact hseen other hother (List.mem_cons_of_mem _ hmem)
          · rw [hresult, hnext, List.map_cons, List.sum_cons]
            omega

theorem validateUniqueFiles_ok (hvalid : ∀ file, validate file = .ok () → valid file) {files : List α} {total : Nat}
    (h : validateUniqueFiles fileId validate fileSize files = .ok total) :
    FewFiles fileId valid files ∧ total = (files.map fileSize).sum := by
  unfold validateUniqueFiles at h
  split at h
  · cases h
  · rename_i hfew
    obtain ⟨hfiles, hnodup, -, htotal⟩ := totalUniqueFiles_ok hvalid h
    refine ⟨⟨Nat.not_lt.mp hfew, hfiles, hnodup⟩, ?_⟩
    rw [htotal, Nat.zero_add]

end Files

/-! ### Messages -/

theorem TextMessage.sound {message : TextMessage} (h : message.validate = .ok ()) :
    ValidToken message.transferId ∧ message.Sound := by
  unfold TextMessage.validate at h
  split at h
  · cases h
  · rename_i hid
    refine ⟨validateToken_ok.mp hid, ?_⟩
    cases message with
    | textOffer transferId characterCount byteLength =>
      unfold validateBody at h
      dsimp only at h
      split at h
      · cases h
      · split at h
        · cases h
        · unfold TextMessage.Sound
          dsimp only
          omega
    | textPayload transferId text =>
      unfold validateBody at h
      dsimp only at h
      split at h
      · cases h
      · rename_i htext
        split at h
        · cases h
        · exact ⟨validateMultilineText_ok.mp htext, by omega⟩
    | textDecision transferId accepted => trivial
    | textReceipt transferId => trivial
    | textCancel transferId => trivial

theorem transferSound {message : Rtc.ControlMessage} (h : message.validate = .ok ()) :
    ValidToken message.transferId ∧ TransferSound message := by
  unfold Rtc.ControlMessage.validate at h
  obtain ⟨_, hid, h⟩ := bind_ok.mp h
  refine ⟨validateToken_ok.mp hid, ?_⟩
  unfold Rtc.ControlMessage.validateBody at h
  cases message with
  | manifest transferId mode files =>
    obtain ⟨_, hmode, h⟩ := bind_ok.mp h
    obtain ⟨hcount, h⟩ := throwIf_ok.mp h
    obtain ⟨total, htotal, h⟩ := bind_ok.mp h
    obtain ⟨hfits, -⟩ := throwIf_ok.mp h
    obtain ⟨hfiles, hnodup, -, hsum⟩ := totalUniqueFiles_ok (fun _ => file_ok) htotal
    rw [not_or] at hcount
    refine ⟨mode_ok.mp hmode, ?_, ⟨Nat.not_lt.mp hcount.2, hfiles, hnodup⟩, by omega⟩
    intro hnil
    exact hcount.1 (by rw [hnil]; rfl)
  | streamReady transferId maxChunkBytes ackWindowBytes resume =>
    obtain ⟨hchunk, h⟩ := throwIf_ok.mp h
    obtain ⟨hwindow, h⟩ := throwIf_ok.mp h
    obtain ⟨total, htotal, -⟩ := bind_ok.mp h
    obtain ⟨hfew, -⟩ := validateUniqueFiles_ok (fun _ => cursor_ok) htotal
    exact ⟨by omega, by omega, by omega, by omega, hfew⟩
  | segmentCommit transferId fileId segmentIndex offset bytes blake3 =>
    obtain ⟨_, hfile, h⟩ := bind_ok.mp h
    obtain ⟨hbytes, h⟩ := throwIf_ok.mp h
    cases hstop : checkedAdd offset bytes with
    | none =>
      rw [hstop] at h
      cases h
    | some stop =>
      rw [hstop] at h
      obtain ⟨hfits, h⟩ := throwIf_ok.mp h
      have hsum := checkedAdd_some hstop
      exact ⟨validateToken_ok.mp hfile, by omega, by omega, by omega, validateBlake3_ok.mp h⟩
  | segmentAck transferId fileId segmentIndex committedBytes blake3 =>
    obtain ⟨_, hfile, h⟩ := bind_ok.mp h
    obtain ⟨hbytes, h⟩ := throwIf_ok.mp h
    exact ⟨validateToken_ok.mp hfile, by omega, by omega, validateBlake3_ok.mp h⟩
  | complete transferId bytes blake3 =>
    obtain ⟨hbytes, h⟩ := throwIf_ok.mp h
    exact ⟨Nat.not_lt.mp hbytes, validateBlake3_ok.mp h⟩
  | streamComplete transferId totalBytes files =>
    obtain ⟨hnonempty, h⟩ := throwIf_ok.mp h
    obtain ⟨total, htotal, h⟩ := bind_ok.mp h
    obtain ⟨hfits, -⟩ := throwIf_ok.mp h
    obtain ⟨hfew, hsum⟩ := validateUniqueFiles_ok (fun _ => digest_ok) htotal
    refine ⟨?_, hfew, by omega, by omega⟩
    intro hnil
    exact hnonempty (by rw [hnil]; rfl)
  | error transferId code message =>
    obtain ⟨_, hcode, h⟩ := bind_ok.mp h
    exact ⟨validateToken_ok.mp hcode, validateText_ok.mp h⟩
  | decision transferId accepted => trivial
  | start transferId => trivial
  | streamPaused transferId reason => trivial
  | cancel transferId reason => trivial

/-- A message that passes its check is sound. -/
theorem ControlMessage.sound {message : ControlMessage} (h : message.validate = .ok ()) : message.Sound := by
  unfold ControlMessage.validate at h
  split at h
  · cases h
  · rename_i hversion
    constructor
    · unfold ProtocolVersion.validate at hversion
      split at hversion
      · cases hversion
      · rename_i hcurrent
        exact not_not.mp hcurrent
    · cases hbody : message.body with
      | text body =>
        rw [hbody] at h
        exact TextMessage.sound h
      | transfer body =>
        rw [hbody] at h
        exact transferSound h

/-! ## The bytes of a sound message -/

section Bytes

variable {value : String} {maxBytes : Nat}

theorem isControl_eq_false {c : Char} (h : Rtc.isControl c = false) : 0x20 ≤ c.toNat := by
  unfold Rtc.isControl at h
  simp only [Bool.or_eq_false_iff, decide_eq_false_iff_not] at h
  omega

/-- What stands in an identifier or a digest is not escaped. -/
theorem escapeCost_of_alphanum {c : Char} (h : c.isAlphanum = true ∨ c = '_' ∨ c = '-') : escapeCost c = 0 := by
  rcases h with halphanum | rfl | rfl
  · have hcode : (48 ≤ c.toNat ∧ c.toNat ≤ 57) ∨ (65 ≤ c.toNat ∧ c.toNat ≤ 90) ∨ (97 ≤ c.toNat ∧ c.toNat ≤ 122) := by
      unfold Char.isAlphanum Char.isAlpha Char.isUpper Char.isLower Char.isDigit at halphanum
      simp only [Bool.or_eq_true, Bool.and_eq_true, decide_eq_true_eq] at halphanum
      rcases halphanum with (h | h) | h
      · exact .inr (.inl h)
      · exact .inr (.inr h)
      · exact .inl h
    exact escapeCost_eq_zero (by omega) (by omega) (by omega)
  · decide
  · decide

theorem escapeCost_of_hexDigit {c : Char} (h : isHexDigit c = true) : escapeCost c = 0 := by
  have hcode : (48 ≤ c.toNat ∧ c.toNat ≤ 57) ∨ (97 ≤ c.toNat ∧ c.toNat ≤ 102) ∨ (65 ≤ c.toNat ∧ c.toNat ≤ 70) := by
    unfold isHexDigit Char.isDigit at h
    simp only [Bool.or_eq_true, Bool.and_eq_true, decide_eq_true_eq] at h
    rcases h with (h | h) | h
    · exact .inl h
    · exact .inr (.inl h)
    · exact .inr (.inr h)
  exact escapeCost_eq_zero (by omega) (by omega) (by omega)

theorem ValidToken.escapes (h : ValidToken value) : escapes value = 0 :=
  escapes_eq_zero fun c hc => escapeCost_of_alphanum (h.token c hc)

theorem ValidToken.size (h : ValidToken value) : byteLength (writeString value) ≤ 66 := by
  have hshort : byteLength value ≤ 64 := h.short
  rw [size_writeString, h.escapes]
  omega

theorem ValidBlake3.size (h : ValidBlake3 value) : byteLength (writeString value) ≤ 66 := by
  have hlength : byteLength value = 64 := h.length
  have hescapes : Json.escapes value = 0 := escapes_eq_zero fun c hc => escapeCost_of_hexDigit (h.digits c hc)
  rw [size_writeString, hescapes]
  omega

theorem ValidText.escapes_le (h : ValidText maxBytes value) : Json.escapes value ≤ byteLength value :=
  Json.escapes_le fun c hc => escapeCost_of_not_control (isControl_eq_false (h.plain c hc))

/-- Escaping at most doubles a text. -/
theorem ValidText.size (h : ValidText maxBytes value) : byteLength (writeString value) ≤ 2 * maxBytes + 2 := by
  have hshort : byteLength value ≤ maxBytes := h.short
  have hescapes := h.escapes_le
  rw [size_writeString]
  omega

theorem ValidMultilineText.escapes_le (h : ValidMultilineText maxBytes value) : Json.escapes value ≤ byteLength value := by
  apply Json.escapes_le
  intro c hc
  cases hcontrol : Rtc.isControl c with
  | false => exact escapeCost_of_not_control (isControl_eq_false hcontrol)
  | true =>
    rcases h.plain c hc hcontrol with rfl | rfl | rfl
    all_goals decide

theorem ValidMultilineText.size (h : ValidMultilineText maxBytes value) : byteLength (writeString value) ≤ 2 * maxBytes + 2 := by
  have hshort : byteLength value ≤ maxBytes := h.short
  have hescapes := h.escapes_le
  rw [size_writeString]
  omega

theorem size_U64 {n : Nat} (h : U64 n) : byteLength (writeNat n) ≤ 20 := size_writeNat_le (by omega) (by unfold U64 at h; omega)

theorem size_U32 {n : Nat} (h : U32 n) : byteLength (writeNat n) ≤ 10 := size_writeNat_le (by omega) (by unfold U32 at h; omega)

/-! ### Parts -/

theorem size_writeVersion : byteLength (writeVersion CURRENT_PROTOCOL) = 21 := by decide

theorem size_writeMode {mode : TransferMode}
    (h : match mode with | .buffered => True | .streamed segmentBytes => U32 segmentBytes) :
    byteLength (writeMode mode) ≤ 50 := by
  cases mode with
  | buffered => decide
  | streamed segmentBytes =>
    have hnumber := size_U32 h
    have hinner : frameSize ["segment_bytes"] = 18 := by decide
    have houter : frameSize ["streamed"] = 13 := by decide
    simp only [writeMode, size_writeObject, List.map_cons, List.map_nil, List.sum_cons, List.sum_nil, hinner, houter]
    omega

theorem ValidFile.size {file : FileManifest} (h : ValidFile file) (hfits : U64 file.sizeBytes) :
    byteLength (writeFileManifest file) ≤ 2436 := by
  have hid := h.fileId.size
  have hname : byteLength (writeString file.name) ≤ 2 * 1024 + 2 := h.name.size
  have hmime : byteLength (writeOption writeString file.mime) ≤ 2 * 128 + 2 := by
    cases hmime : file.mime with
    | none => decide
    | some mime => exact (h.mime mime hmime).size
  have hsize := size_U64 hfits
  have hframe : frameSize ["file_id", "name", "mime", "size_bytes"] = 42 := by decide
  simp only [writeFileManifest, size_writeObject, List.map_cons, List.map_nil, List.sum_cons, List.sum_nil, hframe]
  omega

theorem ValidCursor.size {cursor : ResumeCursor} (h : ValidCursor cursor) (hfits : U64 cursor.committedBytes) :
    byteLength (writeCursor cursor) ≤ 300 := by
  have hid := h.fileId.size
  have hcommitted := size_U64 hfits
  have hblake3 : byteLength (writeOption writeString cursor.lastSegmentBlake3) ≤ 66 := by
    cases hlast : cursor.lastSegmentBlake3 with
    | none => decide
    | some blake3 => exact (h.digest blake3 hlast).size
  have hframe : frameSize ["file_id", "committed_bytes", "last_segment_blake3"] = 54 := by decide
  simp only [writeCursor, size_writeObject, List.map_cons, List.map_nil, List.sum_cons, List.sum_nil, hframe]
  omega

theorem ValidDigest.size {digest : FileDigest} (h : ValidDigest digest) (hfits : U64 digest.sizeBytes) :
    byteLength (writeDigest digest) ≤ 300 := by
  have hid := h.fileId.size
  have hsize := size_U64 hfits
  have hblake3 := h.blake3.size
  have hframe : frameSize ["file_id", "size_bytes", "blake3"] = 36 := by decide
  simp only [writeDigest, size_writeObject, List.map_cons, List.map_nil, List.sum_cons, List.sum_nil, hframe]
  omega

/-- A few files, each of bounded size. -/
theorem FewFiles.size {α : Type} {fileId : α → String} {valid : α → Prop} {files : List α}
    (h : FewFiles fileId valid files) {write : α → String} {bound : Nat}
    (hbound : ∀ file ∈ files, byteLength (write file) ≤ bound) :
    byteLength (writeArray (files.map write)) ≤ 10 * (bound + 1) + 2 := by
  apply size_writeArray_le
  · rw [List.length_map]
    exact h.few
  · intro text htext
    obtain ⟨file, hfile, rfl⟩ := List.mem_map.mp htext
    exact hbound file hfile

/-! ### Messages -/

/-- The bytes that the keys, the tag and the values after the transfer take. -/
def fieldsSize (fields : String × String × List (String × String)) : Nat :=
  frameSize ("type" :: "version" :: "transfer_id" :: fields.2.2.map (·.1)) + byteLength (writeString fields.1) +
    (fields.2.2.map fun field => byteLength field.2).sum

theorem size_toJson (message : ControlMessage) :
    byteLength message.toJson =
      fieldsSize message.body.fields + byteLength (writeVersion message.version) +
        byteLength (writeString message.body.fields.2.1) := by
  unfold ControlMessage.toJson
  generalize message.body.fields = fields
  obtain ⟨tag, transferId, fields⟩ := fields
  simp only [size_writeObject, fieldsSize, List.map_cons, List.sum_cons]
  omega

theorem TextMessage.size {message : TextMessage} (h : message.Sound) (hfits : message.Fits) :
    fieldsSize message.fields ≤ 60000 := by
  cases message with
  | textOffer transferId characters bytes =>
    have hcount := size_U32 hfits.1
    have hlength := size_U32 hfits.2
    have hframe : frameSize ["type", "version", "transfer_id", "character_count", "byte_length"] +
      byteLength (writeString "text_offer") ≤ 1000 := by decide
    simp only [fieldsSize, TextMessage.fields, List.map_cons, List.map_nil, List.sum_cons, List.sum_nil]
    omega
  | textDecision transferId accepted =>
    have hbool := size_writeBool accepted
    have hframe : frameSize ["type", "version", "transfer_id", "accepted"] + byteLength (writeString "text_decision") ≤ 1000 := by
      decide
    simp only [fieldsSize, TextMessage.fields, List.map_cons, List.map_nil, List.sum_cons, List.sum_nil]
    omega
  | textPayload transferId text =>
    have htext : byteLength (writeString text) ≤ 2 * 4096 + 2 := h.1.size
    have hframe : frameSize ["type", "version", "transfer_id", "text"] + byteLength (writeString "text_payload") ≤ 1000 := by
      decide
    simp only [fieldsSize, TextMessage.fields, List.map_cons, List.map_nil, List.sum_cons, List.sum_nil]
    omega
  | textReceipt transferId =>
    show fieldsSize ("text_receipt", "", []) ≤ _
    decide
  | textCancel transferId =>
    show fieldsSize ("text_cancel", "", []) ≤ _
    decide

theorem transferSize {message : Rtc.ControlMessage} (h : TransferSound message) (hfits : TransferFits message) :
    fieldsSize (transferFields message) ≤ 60000 := by
  cases message with
  | manifest transferId mode files =>
    obtain ⟨-, -, hfew, -⟩ := h
    have hmode := size_writeMode hfits.1
    have hfiles := hfew.size fun file hfile => (hfew.valid file hfile).size (hfits.2 file hfile)
    have hframe : frameSize ["type", "version", "transfer_id", "mode", "files"] + byteLength (writeString "manifest") ≤ 1000 := by
      decide
    simp only [fieldsSize, transferFields, List.map_cons, List.map_nil, List.sum_cons, List.sum_nil]
    omega
  | decision transferId accepted =>
    have hbool := size_writeBool accepted
    have hframe : frameSize ["type", "version", "transfer_id", "accepted"] + byteLength (writeString "decision") ≤ 1000 := by
      decide
    simp only [fieldsSize, transferFields, List.map_cons, List.map_nil, List.sum_cons, List.sum_nil]
    omega
  | start transferId =>
    show fieldsSize ("start", "", []) ≤ _
    decide
  | streamReady transferId maxChunkBytes ackWindowBytes resume =>
    obtain ⟨-, -, -, -, hfew⟩ := h
    have hchunk := size_U32 hfits.1
    have hwindow := size_U64 hfits.2.1
    have hresume := hfew.size fun cursor hcursor => (hfew.valid cursor hcursor).size (hfits.2.2 cursor hcursor)
    have hframe : frameSize ["type", "version", "transfer_id", "max_chunk_bytes", "ack_window_bytes", "resume"] +
      byteLength (writeString "stream_ready") ≤ 1000 := by decide
    simp only [fieldsSize, transferFields, List.map_cons, List.map_nil, List.sum_cons, List.sum_nil]
    omega
  | segmentCommit transferId fileId segmentIndex offset bytes blake3 =>
    obtain ⟨hfile, -, -, -, hblake3⟩ := h
    have hid := hfile.size
    have hdigest := hblake3.size
    have hindex := size_U64 hfits.1
    have hoffset := size_U64 hfits.2.1
    have hbytes := size_U32 hfits.2.2
    have hframe : frameSize ["type", "version", "transfer_id", "file_id", "segment_index", "offset", "bytes", "blake3"] +
      byteLength (writeString "segment_commit") ≤ 1000 := by decide
    simp only [fieldsSize, transferFields, List.map_cons, List.map_nil, List.sum_cons, List.sum_nil]
    omega
  | segmentAck transferId fileId segmentIndex committedBytes blake3 =>
    obtain ⟨hfile, -, -, hblake3⟩ := h
    have hid := hfile.size
    have hdigest := hblake3.size
    have hindex := size_U64 hfits.1
    have hcommitted := size_U64 hfits.2
    have hframe : frameSize ["type", "version", "transfer_id", "file_id", "segment_index", "committed_bytes", "blake3"] +
      byteLength (writeString "segment_ack") ≤ 1000 := by decide
    simp only [fieldsSize, transferFields, List.map_cons, List.map_nil, List.sum_cons, List.sum_nil]
    omega
  | streamPaused transferId reason =>
    cases reason with
    | destinationQuotaExceeded =>
      show fieldsSize ("stream_paused", "", [("reason", writePauseReason .destinationQuotaExceeded)]) ≤ _
      decide
    | destinationPermissionDenied =>
      show fieldsSize ("stream_paused", "", [("reason", writePauseReason .destinationPermissionDenied)]) ≤ _
      decide
  | cancel transferId reason =>
    have hreason : ∀ reason, fieldsSize ("cancel", "", [("reason", writeCancelReason reason)]) ≤ 60000 := by
      intro reason
      cases reason
      all_goals decide
    exact hreason reason
  | complete transferId bytes blake3 =>
    have hdigest := h.2.size
    have hbytes := size_U64 hfits
    have hframe : frameSize ["type", "version", "transfer_id", "bytes", "blake3"] + byteLength (writeString "complete") ≤ 1000 := by
      decide
    simp only [fieldsSize, transferFields, List.map_cons, List.map_nil, List.sum_cons, List.sum_nil]
    omega
  | streamComplete transferId totalBytes files =>
    obtain ⟨-, hfew, -, -⟩ := h
    have htotal := size_U64 hfits.1
    have hfiles := hfew.size fun digest hdigest => (hfew.valid digest hdigest).size (hfits.2 digest hdigest)
    have hframe : frameSize ["type", "version", "transfer_id", "total_bytes", "files"] +
      byteLength (writeString "stream_complete") ≤ 1000 := by decide
    simp only [fieldsSize, transferFields, List.map_cons, List.map_nil, List.sum_cons, List.sum_nil]
    omega
  | error transferId code message =>
    have hcode := h.1.size
    have hmessage : byteLength (writeString message) ≤ 2 * 512 + 2 := h.2.size
    have hframe : frameSize ["type", "version", "transfer_id", "code", "message"] + byteLength (writeString "error") ≤ 1000 := by
      decide
    simp only [fieldsSize, transferFields, List.map_cons, List.map_nil, List.sum_cons, List.sum_nil]
    omega

theorem ControlMessage.Sound.size {message : ControlMessage} (h : message.Sound) :
    byteLength message.toJson ≤ MAX_CONTROL_FRAME_BYTES := by
  have hversion := size_writeVersion
  have hlimit : MAX_CONTROL_FRAME_BYTES = 65536 := rfl
  have hbody := h.body
  have hfits := message.fits
  rw [size_toJson, h.version]
  cases hmessage : message.body with
  | text body =>
    rw [hmessage] at hbody hfits
    have hid : byteLength (writeString body.fields.2.1) ≤ 66 := by
      cases body
      all_goals exact hbody.1.size
    have hfields := TextMessage.size hbody.2 hfits
    show fieldsSize body.fields + _ + byteLength (writeString body.fields.2.1) ≤ _
    omega
  | transfer body =>
    rw [hmessage] at hbody hfits
    have hid : byteLength (writeString (transferFields body).2.1) ≤ 66 := by
      cases body
      all_goals exact hbody.1.size
    have hfields := transferSize hbody.2 hfits
    show fieldsSize (transferFields body) + _ + byteLength (writeString (transferFields body).2.1) ≤ _
    omega

end Bytes

/-! ## The round trip -/

section RoundTrip

variable {fromStr : String → Except String ControlMessage} {message : ControlMessage} {input frame : String}

theorem encodeControlFrame_ok (h : encodeControlFrame message = .ok frame) :
    message.validate = .ok () ∧ frame = message.toJson := by
  unfold encodeControlFrame at h
  split at h
  · cases h
  · rename_i hvalid
    cases h
    exact ⟨hvalid, rfl⟩

theorem parseControlMessage_ok (h : parseControlMessage fromStr input = .ok message) : message.validate = .ok () := by
  unfold parseControlMessage at h
  split at h
  · cases h
  · split at h
    · cases h
    · split at h
      · cases h
      · rename_i hvalid
        cases h
        exact hvalid

/-- **A message that is written fits into a frame and is read back as it was, if its text is read faithfully; and whatever
is read passes its check, so it is sound.** -/
theorem control_frames_round_trip (fromStr : String → Except String ControlMessage) (message : ControlMessage)
    (hfaithful : fromStr message.toJson = .ok message) :
    (∀ frame, encodeControlFrame message = .ok frame →
      frame.utf8ByteSize ≤ MAX_CONTROL_FRAME_BYTES ∧ parseControlMessage fromStr frame = .ok message) ∧
    ∀ input received, parseControlMessage fromStr input = .ok received → received.validate = .ok () ∧ received.Sound := by
  refine ⟨fun frame hframe => ?_, fun input received hreceived => ?_⟩
  · obtain ⟨hvalid, rfl⟩ := encodeControlFrame_ok hframe
    have hsize : message.toJson.utf8ByteSize ≤ MAX_CONTROL_FRAME_BYTES := (ControlMessage.sound hvalid).size
    refine ⟨hsize, ?_⟩
    unfold parseControlMessage
    rw [if_neg (Nat.not_lt.mpr hsize), hfaithful]
    dsimp only
    rw [hvalid]
  · have hvalid := parseControlMessage_ok hreceived
    exact ⟨hvalid, ControlMessage.sound hvalid⟩

end RoundTrip

/-- The start of a transfer. -/
def startMessage : ControlMessage where
  version := CURRENT_PROTOCOL
  body := .transfer (.start "transfer_000102030405060708090a0b0c0d0e0f")
  versionFits := current_fits
  fits := trivial

/-- Reads one text. -/
def readsOnly {α : Type} (text : String) (value : α) (input : String) : Except String α :=
  if input = text then .ok value else .error "expected value at line 1 column 1"

theorem readsOnly_text {α : Type} (text : String) (value : α) : readsOnly text value text = .ok value := if_pos rfl

theorem start_round_trips :
    startMessage.toJson.utf8ByteSize ≤ MAX_CONTROL_FRAME_BYTES ∧
      parseControlMessage (readsOnly startMessage.toJson startMessage) startMessage.toJson = .ok startMessage := by
  have hvalid : startMessage.validate = .ok () := by decide
  apply (control_frames_round_trip _ startMessage (readsOnly_text startMessage.toJson startMessage)).1
  unfold encodeControlFrame
  rw [hvalid]

end P2PTransmission.Wire
