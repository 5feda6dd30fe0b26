import P2PTransmission.Rtc.Plan
import P2PTransmission.Rtc.Hash
import Mathlib.Data.Vector.Basic

/-!
# Binary frames

A binary frame is a header of 53 bytes and the payload. The header names the transfer and the file by their 16 bytes;
control messages name them by a text, a prefix and the bytes in hexadecimal digits.

`ChunkBounds` is the only place where a chunk is expected: the offset at which it has to begin and the bound it must not
pass.
-/

set_option autoImplicit false

namespace P2PTransmission.Rtc

/-! ## Identifiers -/

abbrev BinaryId : Type := Vector UInt8 16

def HEX : List Char := "0123456789abcdef".toList

/-- The two digits of a byte. -/
def hexByte (byte : UInt8) : List Char := [HEX[byte.toNat / 16]?.getD '0', HEX[byte.toNat % 16]?.getD '0']

def hexValue (digit : Char) : Option Nat := if digit ∈ HEX then some (HEX.idxOf digit) else none

/-- The bytes that pairs of digits stand for. -/
def parseHex : List Char → Option Bytes
  | high :: low :: rest =>
    (hexValue high).bind fun high => (hexValue low).bind fun low =>
      (parseHex rest).map fun bytes => UInt8.ofNat (high * 16 + low) :: bytes
  | [] => some []
  | [_] => none

def formatBinaryId (pre : String) (bytes : BinaryId) : String :=
  String.ofList (pre.toList ++ '_' :: bytes.toList.flatMap hexByte)

def stripPrefix : List Char → List Char → Option (List Char)
  | [], text => some text
  | _ :: _, [] => none
  | a :: pre, b :: text => if a = b then stripPrefix pre text else none

/-- Sixteen bytes. -/
def BinaryId.ofBytes (bytes : Bytes) : Option BinaryId :=
  if h : bytes.length = 16 then some ⟨bytes.toArray, by simpa using h⟩ else none

def parseBinaryId (value pre : String) : Option BinaryId :=
  (stripPrefix (pre.toList ++ ['_']) value.toList).bind fun hex =>
    if hex.length = 32 then (parseHex hex).bind BinaryId.ofBytes else none

theorem stripPrefix_append (pre text : List Char) : stripPrefix pre (pre ++ text) = some text := by
  induction pre with
  | nil => rfl
  | cons a pre ih => rw [List.cons_append, stripPrefix, if_pos rfl, ih]

theorem hexValue_digit : ∀ n < 16, hexValue (HEX[n]?.getD '0') = some n := by decide

theorem parseHex_hexByte (byte : UInt8) (rest : List Char) :
    parseHex (hexByte byte ++ rest) = (parseHex rest).map (byte :: ·) := by
  have hhigh : byte.toNat / 16 < 16 := by have := byte.toNat_lt; omega
  have hbyte : byte.toNat / 16 * 16 + byte.toNat % 16 = byte.toNat := by omega
  show parseHex (_ :: _ :: rest) = _
  rw [parseHex, hexValue_digit _ hhigh, hexValue_digit _ (Nat.mod_lt _ (by decide))]
  show (parseHex rest).map (fun bytes => UInt8.ofNat (_ * 16 + _) :: bytes) = _
  rw [hbyte, UInt8.ofNat_toNat]

theorem parseHex_flatMap (bytes : Bytes) : parseHex (bytes.flatMap hexByte) = some bytes := by
  induction bytes with
  | nil => rfl
  | cons byte bytes ih => rw [List.flatMap_cons, parseHex_hexByte, ih, Option.map_some]

theorem length_flatMap_hexByte (bytes : Bytes) : (bytes.flatMap hexByte).length = 2 * bytes.length := by
  induction bytes with
  | nil => rfl
  | cons byte bytes ih =>
    rw [List.flatMap_cons, List.length_append, ih, List.length_cons]
    show 2 + _ = _
    omega

theorem BinaryId.ofBytes_toList (id : BinaryId) : BinaryId.ofBytes id.toList = some id := by
  unfold ofBytes
  rw [dif_pos (by simp)]
  rfl

/-- **An identifier that was formatted is parsed as itself.** -/
theorem parseBinaryId_formatBinaryId (pre : String) (bytes : BinaryId) :
    parseBinaryId (formatBinaryId pre bytes) pre = some bytes := by
  unfold parseBinaryId formatBinaryId
  have htext : pre.toList ++ '_' :: bytes.toList.flatMap hexByte = (pre.toList ++ ['_']) ++ bytes.toList.flatMap hexByte := by
    rw [List.append_assoc]
    rfl
  rw [String.toList_ofList, htext, stripPrefix_append, Option.bind_some, length_flatMap_hexByte]
  rw [if_pos (by simp), parseHex_flatMap, Option.bind_some, BinaryId.ofBytes_toList]

/-! ## Errors of the protocol -/

structure ProtocolVersion where
  major : Nat
  minor : Nat
  deriving DecidableEq, Repr

def CURRENT_PROTOCOL : ProtocolVersion := ⟨5, 1⟩

inductive ProtocolError
  | frameTooLarge (actual max : Nat)
  | unsupportedVersion (major minor : Nat)
  | emptyField (field : String)
  | fieldTooLong (field : String) (actual max : Nat)
  | invalidField (field : String)
  | invalidJson (message : String)
  | invalidFileCount
  | duplicateFileId
  | transferTooLarge
  | binaryFrameTooShort
  | invalidMagic
  | unsupportedFrameType (frameType : UInt8)
  | chunkTooLarge
  | binaryLengthMismatch
  | offsetOverflow
  deriving DecidableEq, Repr

def ProtocolError.text : ProtocolError → String
  | frameTooLarge actual max => s!"frame contains {actual} bytes, maximum is {max}"
  | unsupportedVersion major minor => s!"protocol version {major}.{minor} is unsupported"
  | emptyField field => s!"field {field} must not be empty"
  | fieldTooLong field actual max => s!"field {field} contains {actual} bytes, maximum is {max}"
  | invalidField field => s!"field {field} has an invalid value"
  | invalidJson message => s!"JSON frame is invalid: {message}"
  | invalidFileCount => "manifest file count is outside the supported range"
  | duplicateFileId => "manifest contains duplicate file ids"
  | transferTooLarge => "manifest total exceeds the transfer byte limit"
  | binaryFrameTooShort => "binary frame is shorter than the fixed header"
  | invalidMagic => "binary frame magic is invalid"
  | unsupportedFrameType frameType => s!"binary frame type {frameType} is unsupported"
  | chunkTooLarge => "chunk payload exceeds the message limit"
  | binaryLengthMismatch => "binary frame length does not match its header"
  | offsetOverflow => "chunk offset plus payload length overflows"

def ProtocolVersion.validate (version : ProtocolVersion) : Except ProtocolError Unit :=
  if version ≠ CURRENT_PROTOCOL then .error (.unsupportedVersion version.major version.minor) else .ok ()

/-! ## Numbers in network order -/

/-- A number in the given count of bytes, the highest first. -/
def beBytes : Nat → Nat → Bytes
  | 0, _ => []
  | width + 1, n => beBytes width (n / 256) ++ [UInt8.ofNat n]

def ofBeBytes (bytes : Bytes) : Nat := bytes.foldl (fun n byte => n * 256 + byte.toNat) 0

@[simp] theorem length_beBytes (width n : Nat) : (beBytes width n).length = width := by
  induction width generalizing n with
  | zero => rfl
  | succ width ih => rw [beBytes, List.length_append, ih, List.length_singleton]

theorem ofBeBytes_beBytes {width n : Nat} (h : n < 256 ^ width) : ofBeBytes (beBytes width n) = n := by
  induction width generalizing n with
  | zero =>
    have hzero : n = 0 := by simpa using h
    rw [hzero]
    rfl
  | succ width ih =>
    have hdiv : n / 256 < 256 ^ width := by
      rw [Nat.div_lt_iff_lt_mul (by decide)]
      rwa [Nat.pow_succ] at h
    rw [beBytes, ofBeBytes, List.foldl_append, ← ofBeBytes, ih hdiv]
    show n / 256 * 256 + (UInt8.ofNat n).toNat = n
    rw [UInt8.toNat_ofNat']
    omega

/-! ## The frame -/

def CHUNK_MAGIC : Bytes := [0x50, 0x32, 0x50, 0x32]

def CHUNK_HEADER_LEN : Nat := 53

def DATA_FRAME_TYPE : UInt8 := 1

def MAX_CHUNK_BYTES : Nat := 64 * 1024

structure BinaryChunkHeader where
  version : ProtocolVersion
  transferId : BinaryId
  fileId : BinaryId
  offset : Nat
  payloadLen : Nat
  deriving DecidableEq, Repr

def BinaryChunkHeader.encode (header : BinaryChunkHeader) : Bytes :=
  CHUNK_MAGIC ++ beBytes 2 header.version.major ++ beBytes 2 header.version.minor ++ [DATA_FRAME_TYPE] ++
    header.transferId.toList ++ header.fileId.toList ++ beBytes 8 header.offset ++ beBytes 4 header.payloadLen

structure BinaryChunk where
  header : BinaryChunkHeader
  payload : Bytes
  deriving DecidableEq, Repr

def slice (bytes : Bytes) (start stop : Nat) : Bytes := (bytes.drop start).take (stop - start)

def decodeBinaryChunk (frame : Bytes) : Except ProtocolError BinaryChunk :=
  if frame.length < CHUNK_HEADER_LEN then .error .binaryFrameTooShort
  else if slice frame 0 4 ≠ CHUNK_MAGIC then .error .invalidMagic
  else
    let version : ProtocolVersion := ⟨ofBeBytes (slice frame 4 6), ofBeBytes (slice frame 6 8)⟩
    match version.validate, slice frame 8 9, BinaryId.ofBytes (slice frame 9 25), BinaryId.ofBytes (slice frame 25 41) with
    | .error error, _, _, _ => .error error
    | .ok _, [frameType], some transferId, some fileId =>
      let offset := ofBeBytes (slice frame 41 49)
      let payloadLen := ofBeBytes (slice frame 49 53)
      if frameType ≠ DATA_FRAME_TYPE then .error (.unsupportedFrameType frameType)
      else if MAX_CHUNK_BYTES < payloadLen then .error .chunkTooLarge
      else if (checkedAdd offset payloadLen).isNone then .error .offsetOverflow
      else if frame.length ≠ CHUNK_HEADER_LEN + payloadLen then .error .binaryLengthMismatch
      else .ok ⟨{ version, transferId, fileId, offset, payloadLen }, frame.drop CHUNK_HEADER_LEN⟩
    | .ok _, _, _, _ => .error .binaryFrameTooShort

def encodeBinaryChunk (transferId fileId : BinaryId) (offset payloadLen : Nat) (payload : Bytes) : Bytes :=
  BinaryChunkHeader.encode { version := CURRENT_PROTOCOL, transferId, fileId, offset, payloadLen } ++ payload

/-- Where the next chunk has to begin, and what it must not pass. -/
structure ChunkBounds where
  transferId : BinaryId
  fileId : BinaryId
  offset : Nat
  upperBound : Nat
  deriving DecidableEq, Repr

def ChunkBounds.nextOffset (bounds : ChunkBounds) (header : BinaryChunkHeader) (payloadLen : Nat) : Option Nat :=
  if header.transferId ≠ bounds.transferId ∨ header.fileId ≠ bounds.fileId ∨ header.offset ≠ bounds.offset ∨
      header.payloadLen ≠ payloadLen then none
  else (checkedAdd bounds.offset payloadLen).filter (· ≤ bounds.upperBound)

/-! ## What is sent is what is read -/

theorem slice_append {a b c : Bytes} {start stop : Nat} (hstart : a.length = start) (hstop : start + b.length = stop) :
    slice (a ++ (b ++ c)) start stop = b := by
  unfold slice
  rw [List.drop_append_of_le_length (by omega), List.drop_of_length_le (by omega), List.nil_append,
    List.take_append_of_le_length (by omega), List.take_of_length_le (by omega)]

/-- **A frame is read as the header and the payload that it was made of.** -/
theorem decodeBinaryChunk_encode {transferId fileId : BinaryId} {offset : Nat} {payload : Bytes}
    (hlength : payload.length ≤ MAX_CHUNK_BYTES) (hfits : offset + payload.length ≤ U64_MAX) :
    decodeBinaryChunk (encodeBinaryChunk transferId fileId offset payload.length payload) =
      .ok ⟨{ version := CURRENT_PROTOCOL, transferId, fileId, offset, payloadLen := payload.length }, payload⟩ := by
  have hchunk : payload.length < 256 ^ 4 := by
    unfold MAX_CHUNK_BYTES at hlength
    omega
  have hoffset : offset < 256 ^ 8 := by
    unfold U64_MAX at hfits
    omega
  generalize hframe : encodeBinaryChunk transferId fileId offset payload.length payload = frame
  -- the fields of the frame, one after the other
  have hparts : frame = CHUNK_MAGIC ++ (beBytes 2 5 ++ (beBytes 2 1 ++ ([DATA_FRAME_TYPE] ++ (transferId.toList ++
      (fileId.toList ++ (beBytes 8 offset ++ (beBytes 4 payload.length ++ payload))))))) := by
    rw [← hframe]
    simp only [encodeBinaryChunk, BinaryChunkHeader.encode, CURRENT_PROTOCOL, List.append_assoc]
  have hmagic : slice frame 0 4 = CHUNK_MAGIC := by
    rw [hparts, ← List.nil_append (CHUNK_MAGIC ++ _)]
    exact slice_append rfl rfl
  have hmajor : slice frame 4 6 = beBytes 2 5 := by
    rw [hparts]
    exact slice_append rfl rfl
  have hminor : slice frame 6 8 = beBytes 2 1 := by
    rw [hparts, ← List.append_assoc]
    exact slice_append rfl rfl
  have htype : slice frame 8 9 = [DATA_FRAME_TYPE] := by
    rw [hparts, ← List.append_assoc, ← List.append_assoc]
    exact slice_append rfl rfl
  have htransfer : slice frame 9 25 = transferId.toList := by
    rw [hparts, ← List.append_assoc, ← List.append_assoc, ← List.append_assoc]
    exact slice_append rfl (by simp)
  have hfile : slice frame 25 41 = fileId.toList := by
    rw [hparts, ← List.append_assoc, ← List.append_assoc, ← List.append_assoc, ← List.append_assoc]
    exact slice_append (by simp [CHUNK_MAGIC]) (by simp)
  have hat : slice frame 41 49 = beBytes 8 offset := by
    rw [hparts, ← List.append_assoc, ← List.append_assoc, ← List.append_assoc, ← List.append_assoc, ← List.append_assoc]
    exact slice_append (by simp [CHUNK_MAGIC]) (by simp)
  have hlen : slice frame 49 53 = beBytes 4 payload.length := by
    rw [hparts, ← List.append_assoc, ← List.append_assoc, ← List.append_assoc, ← List.append_assoc, ← List.append_assoc,
      ← List.append_assoc]
    exact slice_append (by simp [CHUNK_MAGIC]) (by simp)
  have htotal : frame.length = CHUNK_HEADER_LEN + payload.length := by
    rw [hparts]
    simp [CHUNK_MAGIC, CHUNK_HEADER_LEN]
    omega
  have hpayload : frame.drop CHUNK_HEADER_LEN = payload := by
    rw [hparts]
    simp only [← List.append_assoc]
    rw [List.drop_append_of_le_length (by simp [CHUNK_MAGIC, CHUNK_HEADER_LEN])]
    rw [List.drop_of_length_le (by simp [CHUNK_MAGIC, CHUNK_HEADER_LEN]), List.nil_append]
  unfold decodeBinaryChunk
  rw [if_neg (by omega), hmagic, if_neg (by simp), hmajor, hminor, htype, htransfer, hfile, hat, hlen, hpayload,
    ofBeBytes_beBytes hchunk, ofBeBytes_beBytes hoffset, BinaryId.ofBytes_toList, BinaryId.ofBytes_toList]
  have hversion : (⟨ofBeBytes (beBytes 2 5), ofBeBytes (beBytes 2 1)⟩ : ProtocolVersion) = CURRENT_PROTOCOL := by decide
  have hvalid : ProtocolVersion.validate CURRENT_PROTOCOL = .ok () := rfl
  dsimp only
  rw [hversion, hvalid]
  dsimp only
  rw [if_neg (by simp), if_neg (by omega), checkedAdd_eq hfits, if_neg (by simp), if_neg (by omega)]

/-- What an accepted chunk is: it begins at the expected offset, and ends at the new one. -/
theorem ChunkBounds.nextOffset_eq_some {bounds : ChunkBounds} {header : BinaryChunkHeader} {payloadLen next : Nat} :
    bounds.nextOffset header payloadLen = some next ↔ header.transferId = bounds.transferId ∧
      header.fileId = bounds.fileId ∧ header.offset = bounds.offset ∧ header.payloadLen = payloadLen ∧
      next = bounds.offset + payloadLen ∧ next ≤ U64_MAX ∧ next ≤ bounds.upperBound := by
  unfold nextOffset checkedAdd
  constructor
  · intro h
    split at h
    · cases h
    · rename_i hfields
      obtain ⟨hnext, hbound⟩ := Option.filter_eq_some_iff.mp h
      split at hnext
      · rename_i hfits
        cases hnext
        refine ⟨?_, ?_, ?_, ?_, rfl, hfits, by simpa using hbound⟩ <;> by_contra hne <;> exact hfields (by simp [hne])
      · cases hnext
  · rintro ⟨h₁, h₂, h₃, h₄, rfl, hfits, hbound⟩
    rw [if_neg (by simp [h₁, h₂, h₃, h₄]), if_pos hfits]
    exact Option.filter_eq_some_iff.mpr ⟨rfl, by simpa using hbound⟩

end P2PTransmission.Rtc
