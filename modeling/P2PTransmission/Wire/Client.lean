import P2PTransmission.Wire.ControlFrame

/-!
# The messages of the client to the server

What a client says over its realtime connection. The client writes a message without checking it; the server reads a text
that is not too long and checks what it read.

The fields of a message are bounded as they are, the text as it is written. All messages but the signals are short. A signal
has a description of up to half a frame, and what escaping adds to it may be as much again: the text is accepted exactly if
there is room for it (`LeavesRoom`).
-/

set_option autoImplicit false

namespace P2PTransmission.Wire

open Rtc Json

def MAX_JSON_FRAME_BYTES : Nat := 64 * 1024

def MAX_SIGNAL_BYTES : Nat := 32 * 1024

/-! ## Messages -/

inductive Signal
  | offer (sdp : String)
  | answer (sdp : String)
  | iceCandidate (candidate : String) (sdpMid : Option String) (sdpMLineIndex : Option Nat)
  deriving DecidableEq, Repr

inductive ClientBody
  | attachRoom (roomCode peerId : String) (lastRevision : Option Nat)
  | watchJoinRequest (roomCode requestId : String) (lastRevision : Option Nat)
  | detachRoom (roomCode : String)
  | signal (roomCode toPeerId negotiationId : String) (signal : Signal)
  | heartbeat (nonce : String)
  | ackEvent (eventId : String)
  deriving DecidableEq, Repr

def ClientBody.Fits : ClientBody → Prop
  | attachRoom _ _ lastRevision | watchJoinRequest _ _ lastRevision => ∀ revision ∈ lastRevision, U64 revision
  | signal _ _ _ (.iceCandidate _ _ sdpMLineIndex) => ∀ index ∈ sdpMLineIndex, U16 index
  | signal _ _ _ _ | detachRoom _ | heartbeat _ | ackEvent _ => True

structure ClientRealtimeMessage where
  version : ProtocolVersion
  body : ClientBody
  versionFits : U16 version.major ∧ U16 version.minor
  fits : body.Fits

/-! ## Validation -/

def validateRoomCode (value : String) : Except ProtocolError Unit :=
  if value.utf8ByteSize ≠ 6 ∨ ¬value.toList.all Char.isAlphanum then .error (.invalidField "room_code") else .ok ()

def Signal.validate : Signal → Except ProtocolError Unit
  | offer sdp | answer sdp => validateMultilineText sdp "sdp" MAX_SIGNAL_BYTES
  | iceCandidate candidate sdpMid _ => do
    validateText candidate "candidate" MAX_SIGNAL_BYTES
    match sdpMid with
    | some sdpMid => validateText sdpMid "sdp_mid" 256
    | none => pure ()

def ClientBody.validate : ClientBody → Except ProtocolError Unit
  | attachRoom roomCode peerId _ => do
    validateRoomCode roomCode
    validateToken peerId "peer_id"
  | watchJoinRequest roomCode requestId _ => do
    validateRoomCode roomCode
    validateToken requestId "request_id"
  | detachRoom roomCode => validateRoomCode roomCode
  | signal roomCode toPeerId negotiationId content => do
    validateRoomCode roomCode
    validateToken toPeerId "to_peer_id"
    validateToken negotiationId "negotiation_id"
    content.validate
  | heartbeat nonce => validateToken nonce "nonce"
  | ackEvent eventId => validateToken eventId "event_id"

def ClientRealtimeMessage.validate (message : ClientRealtimeMessage) : Except ProtocolError Unit := do
  message.version.validate
  message.body.validate

/-! ## The text of a message -/

def writeSignal : Signal → String
  | .offer sdp => writeObject [("kind", writeString "offer"), ("sdp", writeString sdp)]
  | .answer sdp => writeObject [("kind", writeString "answer"), ("sdp", writeString sdp)]
  | .iceCandidate candidate sdpMid sdpMLineIndex =>
    writeObject
      [("kind", writeString "ice_candidate"), ("candidate", writeString candidate),
        ("sdp_mid", writeOption writeString sdpMid), ("sdp_m_line_index", writeOption writeNat sdpMLineIndex)]

/-- The tag of the message, and the members after the version. -/
def ClientBody.fields : ClientBody → String × List (String × String)
  | attachRoom roomCode peerId lastRevision =>
    ("attach_room",
      [("room_code", writeString roomCode), ("peer_id", writeString peerId),
        ("last_revision", writeOption writeNat lastRevision)])
  | watchJoinRequest roomCode requestId lastRevision =>
    ("watch_join_request",
      [("room_code", writeString roomCode), ("request_id", writeString requestId),
        ("last_revision", writeOption writeNat lastRevision)])
  | detachRoom roomCode => ("detach_room", [("room_code", writeString roomCode)])
  | signal roomCode toPeerId negotiationId content =>
    ("signal",
      [("room_code", writeString roomCode), ("to_peer_id", writeString toPeerId),
        ("negotiation_id", writeString negotiationId), ("signal", writeSignal content)])
  | heartbeat nonce => ("heartbeat", [("nonce", writeString nonce)])
  | ackEvent eventId => ("ack_event", [("event_id", writeString eventId)])

/-- What the client sends. -/
def ClientRealtimeMessage.toJson (message : ClientRealtimeMessage) : String :=
  writeObject
    (("type", writeString message.body.fields.1) :: ("version", writeVersion message.version) :: message.body.fields.2)

/-- What the server reads. -/
def parseClientMessage (fromStr : String → Except String ClientRealtimeMessage) (input : String) :
    Except ProtocolError ClientRealtimeMessage :=
  if MAX_JSON_FRAME_BYTES < input.utf8ByteSize then .error (.frameTooLarge input.utf8ByteSize MAX_JSON_FRAME_BYTES)
  else
    match fromStr input with
    | .error error => .error (.invalidJson error)
    | .ok message =>
      match message.validate with
      | .error error => .error error
      | .ok _ => .ok message

/-! ## Room in a frame -/

/-- A character that is written with a reverse solidus in front. -/
def isEscaped (c : Char) : Bool :=
  c == quotationMark || c == reverseSolidus || c == '\r' || c == '\n' || c == '\t'

/-- The bytes of a text and one more for every character that is escaped. -/
def escapedBytes (text : String) : Nat := text.utf8ByteSize + text.toList.countP isEscaped

/-- The bytes of a text that may be missing, with its quotation marks. -/
def optionalTextBytes : Option String → Nat
  | some text => escapedBytes text + 2
  | none => "null".utf8ByteSize

def optionalNumberBytes : Option Nat → Nat
  | some number => number.repr.length
  | none => "null".utf8ByteSize

/-- The bytes of a signal, without the names of its fields. -/
def Signal.bytes : Signal → Nat
  | offer sdp => "offer".utf8ByteSize + escapedBytes sdp
  | answer sdp => "answer".utf8ByteSize + escapedBytes sdp
  | iceCandidate candidate sdpMid sdpMLineIndex =>
    escapedBytes candidate + optionalTextBytes sdpMid + optionalNumberBytes sdpMLineIndex

/-- The bytes of the rest of the message, without the identifiers of the peer and the negotiation. -/
def Signal.envelope : Signal → Nat
  | offer _ | answer _ => 136
  | iceCandidate _ _ _ => 186

/-- There is room in a frame for the message as it is escaped. -/
def ClientBody.LeavesRoom : ClientBody → Prop
  | signal _ toPeerId negotiationId content =>
    toPeerId.utf8ByteSize + negotiationId.utf8ByteSize + content.bytes + content.envelope ≤ MAX_JSON_FRAME_BYTES
  | attachRoom _ _ _ | watchJoinRequest _ _ _ | detachRoom _ | heartbeat _ | ackEvent _ => True

theorem leavesRoom_offer {roomCode toPeerId negotiationId sdp : String} :
    (ClientBody.signal roomCode toPeerId negotiationId (.offer sdp)).LeavesRoom ↔
      toPeerId.utf8ByteSize + negotiationId.utf8ByteSize + ("offer".utf8ByteSize + escapedBytes sdp) + 136 ≤
        MAX_JSON_FRAME_BYTES := Iff.rfl

/-! ## What the checks accept -/

theorem validateRoomCode_ok {value : String} :
    validateRoomCode value = .ok () ↔ value.utf8ByteSize = 6 ∧ ∀ c ∈ value.toList, c.isAlphanum = true := by
  unfold validateRoomCode
  split
  · rename_i hbad
    constructor
    · intro h; cases h
    · rintro ⟨hlength, hall⟩
      rcases hbad with hbad | hbad
      · exact absurd hlength hbad
      · exact absurd (List.all_eq_true.mpr hall) hbad
  · rename_i hgood
    rw [not_or, not_not, not_not, List.all_eq_true] at hgood
    exact ⟨fun _ => hgood, fun _ => rfl⟩

theorem size_roomCode {value : String} (h : validateRoomCode value = .ok ()) : byteLength (writeString value) = 8 := by
  obtain ⟨hlength, hall⟩ := validateRoomCode_ok.mp h
  have hescapes : escapes value = 0 := escapes_eq_zero fun c hc => escapeCost_of_alphanum (.inl (hall c hc))
  have hbytes : byteLength value = 6 := hlength
  rw [size_writeString, hescapes, hbytes]

theorem ValidToken.size_eq {value : String} (h : ValidToken value) :
    byteLength (writeString value) = value.utf8ByteSize + 2 := by
  rw [size_writeString, h.escapes]
  rfl

/-! ## The bytes of a signal -/

section Escaped

variable {value : String} {maxBytes : Nat}

theorem escapeCost_of_isEscaped {c : Char} (h : isEscaped c = true) : escapeCost c = 1 := by
  unfold isEscaped at h
  simp only [Bool.or_eq_true, beq_iff_eq] at h
  rcases h with (((rfl | rfl) | rfl) | rfl) | rfl
  all_goals decide

theorem escapeCost_of_not_isEscaped {c : Char} (h : isEscaped c = false) (hplain : 0x20 ≤ c.toNat) : escapeCost c = 0 := by
  unfold isEscaped at h
  simp only [Bool.or_eq_false_iff, beq_eq_false_iff_ne] at h
  refine escapeCost_eq_zero hplain (fun hquote => ?_) (fun hsolidus => ?_)
  · exact h.1.1.1.1 (by rw [← Char.ofNat_toNat c, hquote]; rfl)
  · exact h.1.1.1.2 (by rw [← Char.ofNat_toNat c, hsolidus]; rfl)

/-- Every character that is escaped costs a byte, if the control characters among them are those of a text of lines. -/
theorem escapes_eq_countP {cs : List Char} (h : ∀ c ∈ cs, isEscaped c = true ∨ 0x20 ≤ c.toNat) :
    (cs.map escapeCost).sum = cs.countP isEscaped := by
  induction cs with
  | nil => rfl
  | cons c cs ih =>
    have hrest := ih fun other hother => h other (List.mem_cons_of_mem _ hother)
    rw [List.map_cons, List.sum_cons, hrest]
    cases hescaped : isEscaped c with
    | true =>
      rw [escapeCost_of_isEscaped hescaped, List.countP_cons_of_pos hescaped]
      omega
    | false =>
      have hplain : 0x20 ≤ c.toNat := by
        rcases h c List.mem_cons_self with hbad | hplain
        · rw [hescaped] at hbad
          cases hbad
        · exact hplain
      have hneg : ¬isEscaped c = true := by simp [hescaped]
      rw [escapeCost_of_not_isEscaped hescaped hplain, List.countP_cons_of_neg hneg, Nat.zero_add]

theorem size_of_escaped (h : ∀ c ∈ value.toList, isEscaped c = true ∨ 0x20 ≤ c.toNat) :
    byteLength (writeString value) = escapedBytes value + 2 := by
  rw [size_writeString, escapes, escapes_eq_countP h]
  rfl

theorem ValidText.size_eq (h : ValidText maxBytes value) : byteLength (writeString value) = escapedBytes value + 2 :=
  size_of_escaped fun c hc => .inr (isControl_eq_false (h.plain c hc))

theorem ValidMultilineText.size_eq (h : ValidMultilineText maxBytes value) :
    byteLength (writeString value) = escapedBytes value + 2 := by
  apply size_of_escaped
  intro c hc
  cases hcontrol : Rtc.isControl c with
  | false => exact .inr (isControl_eq_false hcontrol)
  | true =>
    left
    rcases h.plain c hc hcontrol with rfl | rfl | rfl
    all_goals decide

end Escaped

/-- The text of a valid signal. -/
theorem Signal.size {content : Signal} (h : content.validate = .ok ()) :
    byteLength (writeSignal content) + 116 = content.bytes + content.envelope := by
  have hframe : frameSize ["kind", "sdp"] = 16 := by decide
  unfold Signal.validate at h
  cases content with
  | offer sdp =>
    dsimp only at h
    have hsdp := (validateMultilineText_ok.mp h).size_eq
    have hkind : byteLength (writeString "offer") = "offer".utf8ByteSize + 2 := by decide
    simp only [writeSignal, size_writeObject, List.map_cons, List.map_nil, List.sum_cons, List.sum_nil, hframe, bytes, envelope]
    omega
  | answer sdp =>
    dsimp only at h
    have hsdp := (validateMultilineText_ok.mp h).size_eq
    have hkind : byteLength (writeString "answer") = "answer".utf8ByteSize + 2 := by decide
    simp only [writeSignal, size_writeObject, List.map_cons, List.map_nil, List.sum_cons, List.sum_nil, hframe, bytes, envelope]
    omega
  | iceCandidate candidate sdpMid sdpMLineIndex =>
    dsimp only at h
    obtain ⟨_, hcandidate, hmid⟩ := bind_ok.mp h
    have hcandidate := (validateText_ok.mp hcandidate).size_eq
    have hmembers : frameSize ["kind", "candidate", "sdp_mid", "sdp_m_line_index"] + byteLength (writeString "ice_candidate") =
      68 := by decide
    have hindex : byteLength (writeOption writeNat sdpMLineIndex) = optionalNumberBytes sdpMLineIndex := by
      cases sdpMLineIndex with
      | none => rfl
      | some index => exact size_writeNat index
    have hsdpMid : byteLength (writeOption writeString sdpMid) = optionalTextBytes sdpMid := by
      cases sdpMid with
      | none => rfl
      | some sdpMid => exact (validateText_ok.mp hmid).size_eq
    simp only [writeSignal, size_writeObject, List.map_cons, List.map_nil, List.sum_cons, List.sum_nil, bytes, envelope, hindex,
      hsdpMid]
    omega

/-! ## The bytes of a message -/

theorem size_revision {lastRevision : Option Nat} (h : ∀ revision ∈ lastRevision, U64 revision) :
    byteLength (writeOption writeNat lastRevision) ≤ 20 := by
  cases lastRevision with
  | none => decide
  | some revision => exact size_U64 (h revision rfl)

theorem ClientRealtimeMessage.validate_ok {message : ClientRealtimeMessage} (h : message.validate = .ok ()) :
    message.version = CURRENT_PROTOCOL ∧ message.body.validate = .ok () := by
  obtain ⟨_, hversion, hbody⟩ := bind_ok.mp h
  refine ⟨?_, hbody⟩
  unfold ProtocolVersion.validate at hversion
  split at hversion
  · cases hversion
  · rename_i hcurrent
    exact not_not.mp hcurrent

theorem size_clientJson {message : ClientRealtimeMessage} (hversion : message.version = CURRENT_PROTOCOL) :
    byteLength message.toJson =
      frameSize ("type" :: "version" :: message.body.fields.2.map (·.1)) + byteLength (writeString message.body.fields.1) +
        (message.body.fields.2.map fun field => byteLength field.2).sum + 21 := by
  unfold ClientRealtimeMessage.toJson
  rw [hversion, size_writeObject]
  simp only [List.map_cons, List.sum_cons, size_writeVersion]
  omega

/-- The text of a valid message fits into a frame exactly if there is room for what is escaped. -/
theorem ClientRealtimeMessage.size_iff {message : ClientRealtimeMessage} (h : message.validate = .ok ()) :
    byteLength message.toJson ≤ MAX_JSON_FRAME_BYTES ↔ message.body.LeavesRoom := by
  obtain ⟨hversion, hbody⟩ := validate_ok h
  have hlimit : MAX_JSON_FRAME_BYTES = 65536 := rfl
  have hfits := message.fits
  rw [size_clientJson hversion]
  cases hmessage : message.body with
  | attachRoom roomCode peerId lastRevision =>
    rw [hmessage] at hbody hfits
    obtain ⟨_, hroom, hpeer⟩ := bind_ok.mp hbody
    have hroom := size_roomCode hroom
    have hpeer := (validateToken_ok.mp hpeer).size
    have hrevision := size_revision hfits
    have hframe : frameSize ["type", "version", "room_code", "peer_id", "last_revision"] +
      byteLength (writeString "attach_room") ≤ 1000 := by decide
    simp only [ClientBody.fields, List.map_cons, List.map_nil, List.sum_cons, List.sum_nil, ClientBody.LeavesRoom, iff_true]
    omega
  | watchJoinRequest roomCode requestId lastRevision =>
    rw [hmessage] at hbody hfits
    obtain ⟨_, hroom, hrequest⟩ := bind_ok.mp hbody
    have hroom := size_roomCode hroom
    have hrequest := (validateToken_ok.mp hrequest).size
    have hrevision := size_revision hfits
    have hframe : frameSize ["type", "version", "room_code", "request_id", "last_revision"] +
      byteLength (writeString "watch_join_request") ≤ 1000 := by decide
    simp only [ClientBody.fields, List.map_cons, List.map_nil, List.sum_cons, List.sum_nil, ClientBody.LeavesRoom, iff_true]
    omega
  | detachRoom roomCode =>
    rw [hmessage] at hbody
    have hroom := size_roomCode hbody
    have hframe : frameSize ["type", "version", "room_code"] + byteLength (writeString "detach_room") ≤ 1000 := by
      decide
    simp only [ClientBody.fields, List.map_cons, List.map_nil, List.sum_cons, List.sum_nil, ClientBody.LeavesRoom, iff_true]
    omega
  | heartbeat nonce =>
    rw [hmessage] at hbody
    have hnonce := (validateToken_ok.mp hbody).size
    have hframe : frameSize ["type", "version", "nonce"] + byteLength (writeString "heartbeat") ≤ 1000 := by decide
    simp only [ClientBody.fields, List.map_cons, List.map_nil, List.sum_cons, List.sum_nil, ClientBody.LeavesRoom, iff_true]
    omega
  | ackEvent eventId =>
    rw [hmessage] at hbody
    have hevent := (validateToken_ok.mp hbody).size
    have hframe : frameSize ["type", "version", "event_id"] + byteLength (writeString "ack_event") ≤ 1000 := by
      decide
    simp only [ClientBody.fields, List.map_cons, List.map_nil, List.sum_cons, List.sum_nil, ClientBody.LeavesRoom, iff_true]
    omega
  | signal roomCode toPeerId negotiationId content =>
    rw [hmessage] at hbody
    obtain ⟨_, hroom, hbody⟩ := bind_ok.mp hbody
    obtain ⟨_, hpeer, hbody⟩ := bind_ok.mp hbody
    obtain ⟨_, hnegotiation, hcontent⟩ := bind_ok.mp hbody
    have hroom := size_roomCode hroom
    have hpeer := (validateToken_ok.mp hpeer).size_eq
    have hnegotiation := (validateToken_ok.mp hnegotiation).size_eq
    have hcontent := Signal.size hcontent
    have hframe : frameSize ["type", "version", "room_code", "to_peer_id", "negotiation_id", "signal"] +
      byteLength (writeString "signal") = 83 := by decide
    simp only [ClientBody.fields, List.map_cons, List.map_nil, List.sum_cons, List.sum_nil, ClientBody.LeavesRoom]
    omega

/-! ## What the server accepts -/

section Parsing

variable {fromStr : String → Except String ClientRealtimeMessage} {message : ClientRealtimeMessage}

/-- What is accepted was not too long. -/
theorem parseClientMessage_fits {input : String} (h : parseClientMessage fromStr input = .ok message) :
    byteLength input ≤ MAX_JSON_FRAME_BYTES := by
  unfold parseClientMessage at h
  split at h
  · cases h
  · rename_i hfits
    exact Nat.not_lt.mp hfits

/-- **A valid message gets through exactly if there is room in the frame for what is escaped.** -/
theorem client_message_accepted_iff (fromStr : String → Except String ClientRealtimeMessage)
    (message : ClientRealtimeMessage) (hvalid : message.validate = .ok ())
    (hfaithful : fromStr message.toJson = .ok message) :
    parseClientMessage fromStr message.toJson = .ok message ↔ message.body.LeavesRoom := by
  rw [← ClientRealtimeMessage.size_iff hvalid]
  constructor
  · exact parseClientMessage_fits
  · intro hfits
    unfold parseClientMessage
    have hfits : message.toJson.utf8ByteSize ≤ MAX_JSON_FRAME_BYTES := hfits
    rw [if_neg (Nat.not_lt.mpr hfits), hfaithful]
    dsimp only
    rw [hvalid]

end Parsing

def heartbeat : ClientRealtimeMessage where
  version := CURRENT_PROTOCOL
  body := .heartbeat "n_1"
  versionFits := current_fits
  fits := trivial

theorem heartbeat_accepted :
    parseClientMessage (readsOnly heartbeat.toJson heartbeat) heartbeat.toJson = .ok heartbeat :=
  (client_message_accepted_iff _ heartbeat (by decide) (readsOnly_text heartbeat.toJson heartbeat)).mpr trivial

/-! ## A description that is all line feeds -/

def lineFeeds : String := String.ofList (List.replicate MAX_SIGNAL_BYTES '\n')

/-- An offer as long as an offer may be. -/
def longOffer : ClientRealtimeMessage where
  version := CURRENT_PROTOCOL
  body := .signal "AB12CD" "peer_1" "neg_1" (.offer lineFeeds)
  versionFits := current_fits
  fits := trivial

theorem lineFeeds_size : lineFeeds.utf8ByteSize = MAX_SIGNAL_BYTES := by
  have hsize : byteLength lineFeeds = MAX_SIGNAL_BYTES := by
    have hone : '\n'.utf8Size = 1 := by decide
    rw [lineFeeds, size_ofList, List.map_replicate, List.sum_replicate, hone]
    rfl
  exact hsize

theorem lineFeeds_escapedBytes : escapedBytes lineFeeds = 2 * MAX_SIGNAL_BYTES := by
  have hcount : lineFeeds.toList.countP isEscaped = MAX_SIGNAL_BYTES := by
    have hescaped : isEscaped '\n' = true := by decide
    rw [lineFeeds, String.toList_ofList, List.countP_replicate, if_pos hescaped]
  rw [escapedBytes, lineFeeds_size, hcount]
  omega

theorem longOffer_valid : longOffer.validate = .ok () := by
  have hcode : validateRoomCode "AB12CD" = .ok () := by decide
  have hpeer : validateToken "peer_1" "to_peer_id" = .ok () := by decide
  have hnegotiation : validateToken "neg_1" "negotiation_id" = .ok () := by decide
  have hsdp : validateMultilineText lineFeeds "sdp" MAX_SIGNAL_BYTES = .ok () := by
    apply validateMultilineText_ok.mpr
    constructor
    · intro hempty
      have hsize := lineFeeds_size
      rw [hempty] at hsize
      cases hsize
    · exact Nat.le_of_eq lineFeeds_size
    · intro c hc _
      rw [lineFeeds, String.toList_ofList] at hc
      exact .inr (.inl (List.eq_of_mem_replicate hc))
  apply bind_ok.mpr
  refine ⟨(), rfl, bind_ok.mpr ⟨(), hcode, bind_ok.mpr ⟨(), hpeer, bind_ok.mpr ⟨(), hnegotiation, ?_⟩⟩⟩⟩
  unfold Signal.validate
  exact hsdp

theorem long_offer_is_dropped :
    ¬∀ (fromStr : String → Except String ClientRealtimeMessage) (message : ClientRealtimeMessage),
      message.validate = .ok () → fromStr message.toJson = .ok message →
        parseClientMessage fromStr message.toJson = .ok message := by
  intro hclaim
  have haccepted := hclaim _ longOffer longOffer_valid (readsOnly_text longOffer.toJson longOffer)
  have hroom : longOffer.body.LeavesRoom :=
    (ClientRealtimeMessage.size_iff longOffer_valid).mp (parseClientMessage_fits haccepted)
  have hsum := leavesRoom_offer.mp hroom
  rw [lineFeeds_escapedBytes] at hsum
  have hlimit : MAX_JSON_FRAME_BYTES = 2 * MAX_SIGNAL_BYTES := by decide
  omega

end P2PTransmission.Wire
