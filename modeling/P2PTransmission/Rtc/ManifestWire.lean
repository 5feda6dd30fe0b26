import P2PTransmission.Rtc.Outgoing
import P2PTransmission.Wire.ControlFrame

/-!
# Manifests between the two sides

The sender plans a transfer and draws the identifiers, the protocol checks the manifest, and the receiver makes its offer
of it. What the sender prepares passes the checks and becomes the offer with the same files in the same order
(`Prepared.offerOf`); what the receiver accepts has a total that fits, and identifiers that differ, also as bytes
(`accepted_manifest`).
-/

set_option autoImplicit false

namespace P2PTransmission.Rtc

open Wire

/-! ## Identifiers -/

theorem hex_digit : ∀ n < 16, HEX[n]?.getD '0' ∈ HEX ∧ HEX.idxOf (HEX[n]?.getD '0') = n := by decide

theorem hex_plain : ∀ n < 16, (HEX[n]?.getD '0').isAlphanum = true ∧ (HEX[n]?.getD '0').utf8Size = 1 ∧
    isControl (HEX[n]?.getD '0') = false := by decide

theorem mem_hex {digit : Char} (h : digit ∈ HEX) : ∃ n < 16, HEX[n]?.getD '0' = digit := by
  obtain ⟨n, hn, rfl⟩ := List.mem_iff_getElem.mp h
  exact ⟨n, hn, by rw [List.getElem?_eq_getElem hn, Option.getD_some]⟩

theorem hexValue_some {digit : Char} {value : Nat} (h : hexValue digit = some value) :
    value < 16 ∧ HEX[value]?.getD '0' = digit := by
  unfold hexValue at h
  split at h
  · rename_i hdigit
    cases h
    obtain ⟨n, hn, rfl⟩ := mem_hex hdigit
    rw [(hex_digit n hn).2]
    exact ⟨hn, rfl⟩
  · cases h

theorem hexByte_ofNat {high low : Nat} (hhigh : high < 16) (hlow : low < 16) :
    hexByte (UInt8.ofNat (high * 16 + low)) = [HEX[high]?.getD '0', HEX[low]?.getD '0'] := by
  have hbyte : (UInt8.ofNat (high * 16 + low)).toNat = high * 16 + low := by
    rw [UInt8.toNat_ofNat']
    omega
  unfold hexByte
  rw [hbyte, show (high * 16 + low) / 16 = high by omega, show (high * 16 + low) % 16 = low by omega]

/-- The digits that were parsed are those of the bytes: there is one way to write a byte. -/
theorem parseHex_some : ∀ {hex : List Char} {bytes : Bytes}, parseHex hex = some bytes → bytes.flatMap hexByte = hex
  | [], bytes, h => by
    cases h
    rfl
  | [_], bytes, h => by cases h
  | high :: low :: rest, bytes, h => by
    unfold parseHex at h
    obtain ⟨highValue, hhigh, h⟩ := Option.bind_eq_some_iff.mp h
    obtain ⟨lowValue, hlow, h⟩ := Option.bind_eq_some_iff.mp h
    obtain ⟨later, hrest, rfl⟩ := Option.map_eq_some_iff.mp h
    obtain ⟨hhigh16, hhighDigit⟩ := hexValue_some hhigh
    obtain ⟨hlow16, hlowDigit⟩ := hexValue_some hlow
    rw [List.flatMap_cons, hexByte_ofNat hhigh16 hlow16, hhighDigit, hlowDigit, parseHex_some hrest]
    rfl

theorem stripPrefix_some : ∀ {pre text rest : List Char}, stripPrefix pre text = some rest → text = pre ++ rest
  | [], text, rest, h => by
    cases h
    rfl
  | _ :: _, [], rest, h => by cases h
  | a :: pre, b :: text, rest, h => by
    unfold stripPrefix at h
    split at h
    · rename_i hsame
      rw [hsame, stripPrefix_some h]
      rfl
    · cases h

theorem BinaryId.ofBytes_some {bytes : Bytes} {id : BinaryId} (h : BinaryId.ofBytes bytes = some id) :
    id.toList = bytes := by
  unfold ofBytes at h
  split at h
  · cases h
    rfl
  · cases h

/-- **An identifier that was parsed is formatted as itself.** -/
theorem formatBinaryId_parseBinaryId {value pre : String} {bytes : BinaryId} (h : parseBinaryId value pre = some bytes) :
    formatBinaryId pre bytes = value := by
  obtain ⟨hex, hstrip, h⟩ := Option.bind_eq_some_iff.mp h
  split at h
  · obtain ⟨parsed, hparsed, hbytes⟩ := Option.bind_eq_some_iff.mp h
    apply String.toList_inj.mp
    unfold formatBinaryId
    rw [String.toList_ofList, BinaryId.ofBytes_some hbytes, parseHex_some hparsed, stripPrefix_some hstrip,
      List.append_assoc]
    rfl
  · cases h

theorem mem_hexByte {byte : UInt8} {digit : Char} (h : digit ∈ hexByte byte) : ∃ n < 16, HEX[n]?.getD '0' = digit := by
  have hhigh : byte.toNat / 16 < 16 := by have := byte.toNat_lt; omega
  simp only [hexByte, List.mem_cons, List.not_mem_nil, or_false] at h
  rcases h with rfl | rfl
  · exact ⟨_, hhigh, rfl⟩
  · exact ⟨_, Nat.mod_lt _ (by decide), rfl⟩

/-- The characters of an identifier take one byte each and are no control characters. -/
def PlainChar (c : Char) : Prop := (c.isAlphanum = true ∨ c = '_') ∧ c.utf8Size = 1 ∧ isControl c = false

theorem plainChar_digit {bytes : Bytes} {c : Char} (h : c ∈ bytes.flatMap hexByte) : PlainChar c := by
  obtain ⟨byte, -, hdigit⟩ := List.mem_flatMap.mp h
  obtain ⟨n, hn, rfl⟩ := mem_hexByte hdigit
  obtain ⟨halphanum, hsize, hcontrol⟩ := hex_plain n hn
  exact ⟨.inl halphanum, hsize, hcontrol⟩

/-- An identifier is a token. -/
theorem formatBinaryId_validToken {pre : String} (bytes : BinaryId) (hpre : ∀ c ∈ pre.toList, PlainChar c)
    (hshort : pre.toList.length ≤ 31) : ValidToken (formatBinaryId pre bytes) := by
  have hchars : ∀ c ∈ pre.toList ++ '_' :: bytes.toList.flatMap hexByte, PlainChar c := by
    intro c hc
    rcases List.mem_append.mp hc with hc | hc
    · exact hpre c hc
    · rcases List.mem_cons.mp hc with rfl | hc
      · exact ⟨.inr rfl, by decide, by decide⟩
      · exact plainChar_digit hc
  have hsize : (formatBinaryId pre bytes).utf8ByteSize = pre.toList.length + 33 := by
    have hsum := Json.size_ofList (pre.toList ++ '_' :: bytes.toList.flatMap hexByte)
    have hlength := length_flatMap_hexByte bytes.toList
    rw [List.map_congr_left fun c hc => (hchars c hc).2.1] at hsum
    simp only [List.map_const', List.sum_replicate, List.length_append, List.length_cons, hlength, smul_eq_mul, mul_one,
      Vector.length_toList] at hsum
    show Json.byteLength (String.ofList _) = _
    omega
  have hmem : ∀ c ∈ (formatBinaryId pre bytes).toList, PlainChar c := by
    intro c hc
    rw [formatBinaryId, String.toList_ofList] at hc
    exact hchars c hc
  refine ⟨⟨fun hempty => ?_, ?_, fun c hc => (hmem c hc).2.2⟩, fun c hc => ?_⟩
  · rw [hempty] at hsize
    cases hsize
  · rw [hsize]
    unfold MAX_ID_BYTES
    omega
  · rcases (hmem c hc).1 with halphanum | hunderscore
    · exact .inl halphanum
    · exact .inr (.inl hunderscore)

theorem plainChar_iff {c : Char} :
    PlainChar c ↔ ((c.isAlphanum || c == '_') && c.utf8Size == 1 && !isControl c) = true := by
  simp [PlainChar, and_assoc]

theorem transferId_validToken (bytes : BinaryId) : ValidToken (formatBinaryId "transfer" bytes) := by
  refine formatBinaryId_validToken bytes ?_ (by decide)
  simp only [plainChar_iff, ← List.all_eq_true]
  decide

theorem fileId_validToken (bytes : BinaryId) : ValidToken (formatBinaryId "file" bytes) := by
  refine formatBinaryId_validToken bytes ?_ (by decide)
  simp only [plainChar_iff, ← List.all_eq_true]
  decide

/-! ## The check of a manifest -/

theorem validFile_ok {file : FileManifest} (h : ValidFile file) : file.validate = .ok () := by
  unfold FileManifest.validate
  refine bind_ok.mpr ⟨(), validateToken_ok.mpr h.fileId, bind_ok.mpr ⟨(), validateText_ok.mpr h.name, ?_⟩⟩
  refine throwIf_ok.mpr ⟨?_, ?_⟩
  · simpa using h.noSeparator
  · cases hmime : file.mime with
    | none => rfl
    | some mime => exact validateText_ok.mpr (h.mime mime hmime)

/-- Files that are valid, new and distinct and whose total fits are accepted with that total. -/
theorem totalUniqueFiles_of {files : List FileManifest} : ∀ {seen : List String} {total : Nat},
    (∀ file ∈ files, ValidFile file) → (files.map FileManifest.fileId).Nodup →
      (∀ file ∈ files, file.fileId ∉ seen) → total + (files.map FileManifest.sizeBytes).sum ≤ U64_MAX →
        totalUniqueFiles FileManifest.fileId FileManifest.validate FileManifest.sizeBytes seen total files =
          .ok (total + (files.map FileManifest.sizeBytes).sum) := by
  induction files with
  | nil =>
    intro seen total _ _ _ _
    rfl
  | cons file files ih =>
    intro seen total hvalid hnodup hnew hfits
    rw [List.map_cons, List.nodup_cons] at hnodup
    rw [List.map_cons, List.sum_cons, ← Nat.add_assoc] at hfits ⊢
    unfold totalUniqueFiles
    rw [validFile_ok (hvalid file List.mem_cons_self)]
    dsimp only
    rw [if_neg (hnew file List.mem_cons_self), checkedAdd_eq (by omega)]
    refine ih (fun other hmem => hvalid other (List.mem_cons_of_mem _ hmem)) hnodup.2 (fun other hmem hseen => ?_) hfits
    rcases List.mem_cons.mp hseen with hsame | hseen
    · exact hnodup.1 (List.mem_map.mpr ⟨other, hmem, hsame⟩)
    · exact hnew other (List.mem_cons_of_mem _ hmem) hseen

/-- **The check accepts exactly the sound manifests.** -/
theorem manifest_validate {transferId : String} {mode : TransferMode} {files : List FileManifest} :
    (ControlMessage.manifest transferId mode files).validate = .ok () ↔
      ValidToken transferId ∧ TransferSound (.manifest transferId mode files) := by
  refine ⟨transferSound, fun ⟨hid, hmode, hnonempty, hfew, htotal⟩ => ?_⟩
  have hfits : (files.map FileManifest.sizeBytes).sum ≤ U64_MAX := by
    refine htotal.trans ?_
    cases mode with
    | buffered => decide
    | streamed segmentBytes =>
      show MAX_TRANSFER_BYTES ≤ U64_MAX
      decide
  have hsum : totalUniqueFiles _ _ _ [] 0 files = .ok (0 + _) :=
    totalUniqueFiles_of hfew.valid hfew.distinct (fun _ _ => List.not_mem_nil) (by rwa [Nat.zero_add])
  rw [Nat.zero_add] at hsum
  refine bind_ok.mpr ⟨(), validateToken_ok.mpr hid, bind_ok.mpr ⟨(), mode_ok.mpr hmode, throwIf_ok.mpr ⟨?_, ?_⟩⟩⟩
  · rw [List.isEmpty_iff, not_or]
    exact ⟨hnonempty, Nat.not_lt.mpr hfew.few⟩
  · exact bind_ok.mpr ⟨_, hsum, throwIf_ok.mpr ⟨Nat.not_lt.mpr htotal, rfl⟩⟩

/-! ## The plan -/

/-- A sum of `u64` numbers that is checked at every step overflows exactly when the whole sum does. -/
theorem foldlM_checkedAdd {α : Type} (size : α → Nat) : ∀ (items : List α) {start : Nat}, start ≤ U64_MAX →
    items.foldlM (fun total item => checkedAdd total (size item)) start =
      if start + (items.map size).sum ≤ U64_MAX then some (start + (items.map size).sum) else none
  | [], start, hstart => by
    rw [List.map_nil, List.sum_nil, Nat.add_zero, if_pos hstart]
    rfl
  | item :: items, start, hstart => by
    rw [List.map_cons, List.sum_cons, ← Nat.add_assoc, List.foldlM_cons]
    by_cases hfits : start + size item ≤ U64_MAX
    · rw [checkedAdd_eq hfits]
      exact foldlM_checkedAdd size items hfits
    · rw [checkedAdd, if_neg hfits, if_neg (by omega)]
      rfl

/-- What a plan is: few files, their total, and the mode for that total. -/
structure Planned (files : List TransferFile) (plan : TransferPlan) : Prop where
  nonempty : files ≠ []
  few : files.length ≤ MAX_FILES_PER_MANIFEST
  total : plan.totalBytes = (files.map (·.sizeBytes)).sum
  mode : ValidMode plan.mode
  fits : plan.totalBytes ≤ plan.mode.maxTransferBytes
  single : plan.mode = .buffered → files.length = 1

theorem planTransfer_ok {files : List TransferFile} {plan : TransferPlan} (h : planTransfer files = .ok plan) :
    Planned files plan := by
  unfold planTransfer at h
  rw [foldlM_checkedAdd (·.sizeBytes) files (Nat.zero_le _), Nat.zero_add] at h
  split at h
  · cases h
  · rename_i hcount
    rw [List.isEmpty_iff, not_or] at hcount
    by_cases hfits : (files.map (·.sizeBytes)).sum ≤ U64_MAX
    · rw [if_pos hfits] at h
      dsimp only at h
      split at h
      · cases h
      · rename_i hsmall
        split at h
        · rename_i hbuffered
          cases h
          exact ⟨hcount.1, Nat.not_lt.mp hcount.2, rfl, trivial, hbuffered.2, fun _ => hbuffered.1⟩
        · cases h
          refine ⟨hcount.1, Nat.not_lt.mp hcount.2, rfl, ?_, Nat.not_lt.mp hsmall, fun hmode => by cases hmode⟩
          show _ ∧ _
          decide
    · rw [if_neg hfits] at h
      cases h

/-! ## The offer -/

/-- The entry of a manifest for a file of the sender. -/
def OutgoingFileState.manifest (file : OutgoingFileState) : FileManifest :=
  { fileId := formatBinaryId "file" file.fileBytes, name := file.file.name, mime := file.file.mime,
    sizeBytes := file.file.sizeBytes }

theorem mapM_incomingFile_manifest (files : List OutgoingFileState) :
    (files.map OutgoingFileState.manifest).mapM IncomingOffer.incomingFile =
      some (files.map fun file => { fileBytes := file.fileBytes, file := file.file }) := by
  induction files with
  | nil => rfl
  | cons file files ih =>
    have hfile : IncomingOffer.incomingFile file.manifest = some { fileBytes := file.fileBytes, file := file.file } := by
      unfold IncomingOffer.incomingFile OutgoingFileState.manifest
      rw [parseBinaryId_formatBinaryId]
      rfl
    rw [List.map_cons, List.mapM_cons, hfile, ih]
    rfl

theorem mapM_incomingFile_some : ∀ {files : List FileManifest} {parsed : List IncomingFile},
    files.mapM IncomingOffer.incomingFile = some parsed →
      parsed.map (fun file => formatBinaryId "file" file.fileBytes) = files.map (·.fileId) ∧
        parsed.map (·.file) =
          files.map fun file => { name := file.name, mime := file.mime, sizeBytes := file.sizeBytes }
  | [], parsed, h => by
    cases h
    exact ⟨rfl, rfl⟩
  | file :: files, parsed, h => by
    rw [List.mapM_cons] at h
    obtain ⟨first, hfirst, h⟩ := Option.bind_eq_some_iff.mp h
    obtain ⟨others, hothers, h⟩ := Option.bind_eq_some_iff.mp h
    cases h
    obtain ⟨bytes, hbytes, rfl⟩ := Option.map_eq_some_iff.mp hfirst
    obtain ⟨hids, hfiles⟩ := mapM_incomingFile_some hothers
    rw [List.map_cons, List.map_cons, List.map_cons, List.map_cons, hids, hfiles, formatBinaryId_parseBinaryId hbytes]
    exact ⟨rfl, rfl⟩

theorem fromManifest_ok {transferId : String} {mode : TransferMode} {files : List FileManifest} {offer : IncomingOffer}
    (h : IncomingOffer.fromManifest transferId mode files = .ok offer) :
    files.mapM IncomingOffer.incomingFile = some offer.files ∧ offer.transferId = transferId ∧ offer.mode = mode ∧
      parseBinaryId transferId "transfer" = some offer.transferBytes := by
  unfold IncomingOffer.fromManifest at h
  cases hid : parseBinaryId transferId "transfer" with
  | none =>
    rw [hid] at h
    cases h
  | some transferBytes =>
    cases hfiles : files.mapM IncomingOffer.incomingFile with
    | none =>
      rw [hid, hfiles] at h
      cases h
    | some parsed =>
      rw [hid, hfiles] at h
      dsimp only at h
      split at h
      · cases h
      · cases h
        exact ⟨rfl, rfl, rfl, rfl⟩

/-! ## What the sender prepares -/

theorem zipWith_outgoingFile : ∀ {files : List BrowserFile} {ids : List BinaryId}, ids.length = files.length →
    (files.zipWith outgoingFile ids).map (·.file) = files.map (·.metadata) ∧
      (files.zipWith outgoingFile ids).map (·.fileBytes) = ids
  | [], [], _ => ⟨rfl, rfl⟩
  | file :: files, id :: ids, h => by
    obtain ⟨hfiles, hids⟩ := zipWith_outgoingFile (Nat.succ.inj h)
    constructor
    · rw [List.zipWith_cons_cons, List.map_cons, hfiles]
      rfl
    · rw [List.zipWith_cons_cons, List.map_cons, hids]
      rfl
  | [], _ :: _, h => by cases h
  | _ :: _, [], h => by cases h

variable {files : List BrowserFile} {recoveryPeerId : Option String} {ids : DrawnIds}
  {outgoing : OutgoingState}

/-- What is prepared is planned, is made of the drawn identifiers and passes the check. -/
structure Prepared (files : List BrowserFile) (ids : DrawnIds) (outgoing : OutgoingState) : Prop where
  planned : planTransfer (files.map (·.metadata)) = .ok { totalBytes := outgoing.totalBytes, mode := outgoing.mode }
  transferId : outgoing.transferId = formatBinaryId "transfer" ids.transferBytes
  sameFiles : outgoing.files = files.zipWith outgoingFile ids.fileBytes
  valid : (manifestFromOutgoing outgoing).validate = .ok ()

theorem prepareOutgoing_ok (h : prepareOutgoing files recoveryPeerId ids = .ok outgoing) : Prepared files ids outgoing := by
  unfold prepareOutgoing at h
  cases hplan : planTransfer (files.map (·.metadata)) with
  | error error =>
    rw [hplan] at h
    cases h
  | ok plan =>
    rw [hplan] at h
    dsimp only at h
    split at h
    · cases h
    · rename_i hvalid
      cases h
      exact ⟨hplan, rfl, rfl, hvalid⟩

/-- The offer of the receiver is the transfer of the sender: the same files in the same order, under the drawn
identifiers, and the same total. -/
structure OfferOf (files : List BrowserFile) (ids : DrawnIds) (outgoing : OutgoingState) (offer : IncomingOffer) :
    Prop where
  transferId : offer.transferId = outgoing.transferId
  transferBytes : offer.transferBytes = ids.transferBytes
  mode : offer.mode = outgoing.mode
  sameFiles : offer.transferFiles = files.map (·.metadata)
  fileBytes : offer.files.map (·.fileBytes) = ids.fileBytes
  total : offer.totalBytes = outgoing.totalBytes
  sum : outgoing.totalBytes = (files.map (·.metadata.sizeBytes)).sum

theorem Prepared.offerOf (h : Prepared files ids outgoing) (hids : ids.fileBytes.length = files.length) :
    ∃ offer, IncomingOffer.fromManifest outgoing.transferId outgoing.mode
      (outgoing.files.map OutgoingFileState.manifest) = .ok offer ∧ OfferOf files ids outgoing offer := by
  have hplan := planTransfer_ok h.planned
  obtain ⟨hfiles, hbytes⟩ := zipWith_outgoingFile hids
  rw [← h.sameFiles] at hfiles hbytes
  have hlength : outgoing.files.length = files.length := by
    rw [← List.length_map (·.file), hfiles, List.length_map]
  have hsizes : outgoing.files.map (·.file.sizeBytes) = files.map (·.metadata.sizeBytes) := by
    have hmap := congrArg (List.map TransferFile.sizeBytes) hfiles
    rwa [List.map_map, List.map_map] at hmap
  have htotal : outgoing.totalBytes = (files.map (·.metadata.sizeBytes)).sum := by
    have hsum := hplan.total
    rwa [List.map_map] at hsum
  refine ⟨{ transferId := outgoing.transferId, transferBytes := ids.transferBytes, mode := outgoing.mode,
            files := outgoing.files.map fun file => { fileBytes := file.fileBytes, file := file.file } }, ?_, ?_⟩
  · unfold IncomingOffer.fromManifest
    rw [mapM_incomingFile_manifest, h.transferId, parseBinaryId_formatBinaryId]
    dsimp only
    rw [if_neg]
    rintro ⟨hbuffered, hmany⟩
    have hsingle := hplan.single hbuffered
    rw [List.length_map] at hsingle hmany
    omega
  · refine ⟨rfl, rfl, rfl, ?_, ?_, ?_, htotal⟩
    · rw [← hfiles]
      exact List.map_map
    · rw [← hbytes]
      exact List.map_map
    · rw [htotal, ← hsizes]
      exact congrArg List.sum List.map_map

/-- A name and a type that a manifest may carry. -/
def ValidMetadata (file : TransferFile) : Prop :=
  validateText file.name "file_name" MAX_FILE_NAME_BYTES = .ok () ∧
    (∀ c ∈ file.name.toList, c ≠ '/' ∧ c ≠ '\\') ∧
    ∀ mime ∈ file.mime, validateText mime "mime" MAX_MIME_BYTES = .ok ()

theorem manifest_validFile {file : OutgoingFileState} (h : ValidMetadata file.file) : ValidFile file.manifest :=
  ⟨fileId_validToken file.fileBytes, validateText_ok.mp h.1, h.2.1, fun mime hmime => validateText_ok.mp (h.2.2 mime hmime)⟩

theorem manifest_fileId_nodup {files : List OutgoingFileState} (h : (files.map (·.fileBytes)).Nodup) :
    ((files.map OutgoingFileState.manifest).map FileManifest.fileId).Nodup := by
  have hformat : Function.Injective (formatBinaryId "file") := fun bytes bytes' hsame => by
    have hparse := parseBinaryId_formatBinaryId "file" bytes
    rw [hsame, parseBinaryId_formatBinaryId] at hparse
    exact (Option.some.inj hparse).symm
  have hids := h.map hformat
  rw [List.map_map] at hids ⊢
  exact hids

/-- A plan for files with valid names is not refused, if the identifiers differ. -/
theorem prepareOutgoing_of {plan : TransferPlan} (hplan : planTransfer (files.map (·.metadata)) = .ok plan)
    (hids : ids.fileBytes.length = files.length) (hdistinct : ids.fileBytes.Nodup)
    (hvalid : ∀ file ∈ files, ValidMetadata file.metadata) :
    ∃ outgoing, prepareOutgoing files recoveryPeerId ids = .ok outgoing := by
  obtain ⟨hnonempty, hfew, htotal, hmode, hfits, -⟩ := planTransfer_ok hplan
  obtain ⟨hfiles, hbytes⟩ := zipWith_outgoingFile hids
  have hlength : (files.zipWith outgoingFile ids.fileBytes).length = files.length := by
    rw [List.length_zipWith, hids, Nat.min_self]
  have hsizes : ((files.zipWith outgoingFile ids.fileBytes).map OutgoingFileState.manifest).map FileManifest.sizeBytes =
      (files.map (·.metadata)).map (·.sizeBytes) := by
    rw [← hfiles, List.map_map, List.map_map]
    rfl
  have hsound : TransferSound (.manifest (formatBinaryId "transfer" ids.transferBytes) plan.mode
      ((files.zipWith outgoingFile ids.fileBytes).map OutgoingFileState.manifest)) := by
    refine ⟨hmode, ?_, ⟨?_, ?_, ?_⟩, ?_⟩
    · rw [← List.length_pos_iff] at hnonempty ⊢
      rw [List.length_map] at hnonempty ⊢
      omega
    · rw [List.length_map] at hfew ⊢
      omega
    · intro manifest hmem
      obtain ⟨file, hfile, rfl⟩ := List.mem_map.mp hmem
      apply manifest_validFile
      have hmetadata : file.file ∈ files.map (·.metadata) := by
        rw [← hfiles]
        exact List.mem_map_of_mem hfile
      obtain ⟨source, hsource, hsame⟩ := List.mem_map.mp hmetadata
      rw [← hsame]
      exact hvalid source hsource
    · apply manifest_fileId_nodup
      rwa [hbytes]
    · rw [hsizes, ← htotal]
      exact hfits
  have hok := manifest_validate.mpr ⟨transferId_validToken ids.transferBytes, hsound⟩
  unfold prepareOutgoing
  rw [hplan]
  dsimp only
  split
  · rename_i error hrefused
    exfalso
    cases hok.symm.trans hrefused
  · exact ⟨_, rfl⟩

/-! ## What the receiver accepts -/

/-- The total of an accepted manifest is the exact sum of its sizes, which a `u64` sum reaches without overflow, and the
identifiers of the files differ, as texts and as bytes. -/
structure Accepted (mode : TransferMode) (files : List FileManifest) (offer : IncomingOffer) : Prop where
  total : offer.totalBytes = (files.map FileManifest.sizeBytes).sum
  fits : offer.totalBytes ≤ mode.maxTransferBytes
  noOverflow : offer.files.foldlM (fun total file => checkedAdd total file.file.sizeBytes) 0 = some offer.totalBytes
  distinct : (files.map FileManifest.fileId).Nodup
  distinctBytes : (offer.files.map (·.fileBytes)).Nodup

theorem accepted_manifest {transferId : String} {mode : TransferMode} {files : List FileManifest} {offer : IncomingOffer}
    (hvalid : (ControlMessage.manifest transferId mode files).validate = .ok ())
    (hoffer : IncomingOffer.fromManifest transferId mode files = .ok offer) : Accepted mode files offer := by
  obtain ⟨-, -, -, hfew, hfits⟩ := manifest_validate.mp hvalid
  obtain ⟨hparsed, -⟩ := fromManifest_ok hoffer
  obtain ⟨hids, hfiles⟩ := mapM_incomingFile_some hparsed
  have htotal : offer.totalBytes = (files.map FileManifest.sizeBytes).sum := by
    have hsizes := congrArg (List.map TransferFile.sizeBytes) hfiles
    rw [List.map_map, List.map_map] at hsizes
    exact congrArg List.sum hsizes
  have hbound : offer.totalBytes ≤ U64_MAX := by
    rw [htotal]
    refine hfits.trans ?_
    cases mode with
    | buffered => decide
    | streamed segmentBytes =>
      show MAX_TRANSFER_BYTES ≤ U64_MAX
      decide
  refine ⟨htotal, htotal ▸ hfits, ?_, hfew.distinct, ?_⟩
  · have hsum := foldlM_checkedAdd (fun file : IncomingFile => file.file.sizeBytes) offer.files (Nat.zero_le _)
    rw [Nat.zero_add] at hsum
    rw [hsum]
    exact if_pos hbound
  · have hformat : offer.files.map (fun file => formatBinaryId "file" file.fileBytes) =
        (offer.files.map (·.fileBytes)).map (formatBinaryId "file") := by
      rw [List.map_map]
      rfl
    have hdistinct := hfew.distinct
    rw [← hids, hformat] at hdistinct
    exact hdistinct.of_map _

/-! ## Main result -/

/-- **Identifiers and manifests survive the wire.** -/
theorem manifests_survive :
    (∀ pre bytes, parseBinaryId (formatBinaryId pre bytes) pre = some bytes) ∧
    (∀ value pre bytes, parseBinaryId value pre = some bytes → formatBinaryId pre bytes = value) ∧
    (∀ (files : List BrowserFile) (recoveryPeerId : Option String) (ids : DrawnIds) (outgoing : OutgoingState),
      ids.fileBytes.length = files.length → prepareOutgoing files recoveryPeerId ids = .ok outgoing →
        ∃ transferId mode manifests offer, manifestFromOutgoing outgoing = .manifest transferId mode manifests ∧
          (ControlMessage.manifest transferId mode manifests).validate = .ok () ∧
          IncomingOffer.fromManifest transferId mode manifests = .ok offer ∧ OfferOf files ids outgoing offer) ∧
    (∀ (files : List BrowserFile) (recoveryPeerId : Option String) (ids : DrawnIds) (plan : TransferPlan),
      ids.fileBytes.length = files.length → ids.fileBytes.Nodup → (∀ file ∈ files, ValidMetadata file.metadata) →
        planTransfer (files.map (·.metadata)) = .ok plan →
          ∃ outgoing, prepareOutgoing files recoveryPeerId ids = .ok outgoing) ∧
    ∀ (transferId : String) (mode : TransferMode) (files : List FileManifest) (offer : IncomingOffer),
      (ControlMessage.manifest transferId mode files).validate = .ok () →
        IncomingOffer.fromManifest transferId mode files = .ok offer → Accepted mode files offer := by
  refine ⟨parseBinaryId_formatBinaryId, fun value pre bytes => formatBinaryId_parseBinaryId, ?_, ?_, ?_⟩
  · intro files recoveryPeerId ids outgoing hids h
    have hprepared := prepareOutgoing_ok h
    obtain ⟨offer, hoffer, hreceived⟩ := hprepared.offerOf hids
    exact ⟨_, _, _, offer, rfl, hprepared.valid, hoffer, hreceived⟩
  · intro files recoveryPeerId ids plan hids hdistinct hvalid hplan
    exact prepareOutgoing_of hplan hids hdistinct hvalid
  · intro transferId mode files offer hvalid hoffer
    exact accepted_manifest hvalid hoffer

end P2PTransmission.Rtc
