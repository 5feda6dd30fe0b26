import P2PTransmission.Foundation.Run
import P2PTransmission.Rtc.Control

/-!
# Repeated manifests

The sender repeats its manifest on every channel until the transfer is accepted. A receiver that receives the transfer, or
has paused it, answers as it should. One that shows the offer, or looks up its record, takes the repeated manifest for
that of another transfer.
-/

set_option autoImplicit false

namespace P2PTransmission.Rtc

def Frame.isErrorOf (transferId : String) : Frame → Prop
  | .control (.error id _ _) => id = transferId
  | _ => False

def RtcEvent.isOfferOf (transferId : String) : RtcEvent → Prop
  | .incomingOffered id _ _ _ => id = transferId
  | _ => False

namespace Peer

/-! ## The places of a transfer -/

/-- The transfer is received, offered or looked up. -/
def HasPlace (peer : Peer) (offer : IncomingOffer) : Prop :=
  peer.receive.any (·.offer.matchesOffer offer) ∨ peer.incoming.any (·.matchesOffer offer) ∨
    peer.isRestoring offer.transferId

/-- The transfer has a place, or only the record of its pause is left. -/
def Holds (peer : Peer) (offer : IncomingOffer) : Prop := peer.HasPlace offer ∨ peer.hasRecovery offer.transferId

/-- The input is a manifest that is delivered and read, and it repeats the one of a transfer that the receiver has. -/
structure Repeats (peer : Peer) (input : Input) (offer : IncomingOffer) : Prop where
  isManifest : ∃ files download,
    input = .receive (.frame (.control (.manifest offer.transferId offer.mode files))) download ∧
      (ControlMessage.manifest offer.transferId offer.mode files).validate = .ok () ∧
      IncomingOffer.fromManifest offer.transferId offer.mode files = .ok offer
  delivered : peer.dataChannel.isSome
  streamed : offer.mode ≠ .buffered
  holds : peer.Holds offer

/-- No error goes out, and a transfer that has a place is not offered, looked up or received a second time. -/
structure TakesAsRepeated (peer next : Peer) (offer : IncomingOffer) : Prop where
  noError : ∃ frames, next.sent = peer.sent ++ frames ∧ ∀ frame ∈ frames, ¬frame.2.isErrorOf offer.transferId
  noOffer : ∃ events, next.events = peer.events ++ events ∧ ∀ event ∈ events, ¬event.isOfferOf offer.transferId
  onePlace : peer.HasPlace offer → next.tasks = peer.tasks ∧ next.incoming = peer.incoming ∧
    next.restoringTransfer = peer.restoringTransfer ∧
    next.receive.map (fun receive => (receive.offer, receive.payload)) =
      peer.receive.map fun receive => (receive.offer, receive.payload)

/-- Nothing can be answered, or the transfer is received, or it is paused, or no transfer has a place. -/
def KnowsRepeated (peer : Peer) (offer : IncomingOffer) : Prop :=
  (∀ channel, peer.dataChannel ≠ some ⟨channel, true⟩) ∨
    match peer.receive with
    | some receive => receive.offer.matchesOffer offer
    | none =>
      (peer.incoming.any (·.matchesOffer offer) ∧ peer.pendingRecovery.isSome ∧ peer.pausedReceiveReason.isSome) ∨
        (peer.incoming = none ∧ peer.outgoing = none ∧ peer.restoringTransfer = none)

/-! ## The reactions -/

section Reactions

variable {peer next : Peer} {input : Input} {offer : IncomingOffer} {channel : ChannelId}

theorem Repeats.validToken (h : peer.Repeats input offer) : validateToken offer.transferId "transfer_id" = .ok () := by
  obtain ⟨files, download, -, hvalid, -⟩ := h.isManifest
  unfold ControlMessage.validate at hvalid
  cases htoken : validateToken offer.transferId "transfer_id" with
  | error error => simp [ControlMessage.transferId, htoken, bind, Except.bind] at hvalid
  | ok => rfl

/-- A transfer error that names its transfer can be sent on an open channel. -/
theorem sendTransferError_of_open {transferId code message : String}
    (htoken : validateToken transferId "transfer_id" = .ok ())
    (hcode : validateToken code "error_code" = .ok ())
    (htext : validateText message "error_message" MAX_ERROR_MESSAGE_BYTES = .ok ())
    (hopen : peer.dataChannel = some ⟨channel, true⟩) :
    peer.sendTransferError transferId code message =
      peer.withSent channel (.control (.error transferId code message)) := by
  apply trySendControl_of_open _ hopen
  simp [ControlMessage.validate, ControlMessage.transferId, ControlMessage.validateBody, htoken, hcode, htext, bind,
    Except.bind]

/-- The answer of a receiver that does not know the transfer. -/
theorem handleOffer_refuses (htoken : validateToken offer.transferId "transfer_id" = .ok ())
    (hopen : peer.dataChannel = some ⟨channel, true⟩)
    (h : peer.manifestReaction offer = .busy ∨ peer.manifestReaction offer = .invalidResume) :
    ∃ code message, peer.handleOffer offer =
      peer.withSent channel (.control (.error offer.transferId code message)) := by
  unfold handleOffer
  rcases h with h | h
  · rw [h]
    exact ⟨_, _, sendTransferError_of_open htoken (by decide) (by decide) hopen⟩
  · rw [h]
    exact ⟨_, _, sendTransferError_of_open htoken (by decide) (by decide) hopen⟩

theorem not_takesAsRepeated_of_error {code message : String}
    (h : next = peer.withSent channel (.control (.error offer.transferId code message))) :
    ¬peer.TakesAsRepeated next offer := by
  rintro ⟨⟨frames, hsent, hno⟩, -, -⟩
  rw [h, withSent] at hsent
  have hframes := List.append_cancel_left hsent
  have hmem : (channel, Frame.control (.error offer.transferId code message)) ∈ frames := by
    rw [← hframes]
    exact List.mem_singleton_self _
  exact hno _ hmem rfl

/-- A receiver that does not know the transfer refuses it. -/
theorem manifestReaction_of_not_knows (h : ¬peer.KnowsRepeated offer) :
    peer.manifestReaction offer = .busy ∨ peer.manifestReaction offer = .invalidResume := by
  unfold KnowsRepeated at h
  unfold manifestReaction
  obtain ⟨-, h⟩ := not_or.mp h
  cases hreceive : peer.receive with
  | some receive =>
    rw [hreceive] at h
    right
    simp [h]
  | none =>
    rw [hreceive] at h
    cases hincoming : peer.incoming with
    | none =>
      left
      have hbusy : peer.outgoing.isSome ∨ peer.restoringTransfer.isSome := by
        by_contra hfree
        obtain ⟨hout, hrestoring⟩ := not_or.mp hfree
        exact h (.inr ⟨hincoming, Option.not_isSome_iff_eq_none.mp hout, Option.not_isSome_iff_eq_none.mp hrestoring⟩)
      rcases hbusy with hbusy | hbusy <;> simp [hbusy]
    | some existing =>
      cases hrecovery : peer.pendingRecovery with
      | none => left; simp
      | some recovery =>
        cases hreason : peer.pausedReceiveReason with
        | none => left; simp
        | some reason =>
          right
          have hother : existing.matchesOffer offer = false := by
            by_contra hsame
            exact h (.inl ⟨by simpa [hincoming] using hsame, by simp [hrecovery], by simp [hreason]⟩)
          simp [hother]

/-! ## The answers that fit -/

theorem TakesAsRepeated.unchanged (peer : Peer) (offer : IncomingOffer) : peer.TakesAsRepeated peer offer where
  noError := ⟨[], (List.append_nil _).symm, by simp⟩
  noOffer := ⟨[], (List.append_nil _).symm, by simp⟩
  onePlace _ := ⟨rfl, rfl, rfl, rfl⟩

theorem TakesAsRepeated.trySendControl {message : ControlMessage}
    (hno : ¬(Frame.control message).isErrorOf offer.transferId) :
    peer.TakesAsRepeated (peer.trySendControl message) offer := by
  rcases trySendControl_cases peer message with h | ⟨channel, -, h⟩
  · rw [h]
    exact .unchanged peer offer
  · rw [h]
    exact
      { noError := ⟨[(channel, .control message)], rfl, by simpa using hno⟩
        noOffer := ⟨[], (List.append_nil _).symm, by simp⟩
        onePlace := fun _ => ⟨rfl, rfl, rfl, rfl⟩ }

/-- Without an open channel no error goes out. -/
theorem sendTransferError_of_closed (hclosed : ∀ channel, peer.dataChannel ≠ some ⟨channel, true⟩)
    (transferId code message : String) : peer.sendTransferError transferId code message = peer := by
  rcases trySendControl_cases peer (.error transferId code message) with h | ⟨channel, hopen, -⟩
  · exact h
  · exact absurd hopen (hclosed channel)

/-- The transfer that is received waits for another start, and its cursors go out if they can. -/
theorem TakesAsRepeated.resumeNow (h : peer.manifestReaction offer = .resumeNow) :
    peer.TakesAsRepeated (peer.handleOffer offer) offer := by
  unfold handleOffer
  rw [h]
  generalize hwaiting : peer.withReceive (fun receive => { receive with started := false }) = waiting
  have hplaces : waiting.receive.map (fun receive => (receive.offer, receive.payload)) =
      peer.receive.map fun receive => (receive.offer, receive.payload) := by
    rw [← hwaiting]
    unfold withReceive
    cases peer.receive <;> rfl
  have hrest : waiting.sent = peer.sent ∧ waiting.events = peer.events ∧ waiting.tasks = peer.tasks ∧
      waiting.incoming = peer.incoming ∧ waiting.restoringTransfer = peer.restoringTransfer := by
    rw [← hwaiting]
    exact ⟨rfl, rfl, rfl, rfl, rfl⟩
  obtain ⟨hsent, hevents, htasks, hincoming, hrestoring⟩ := hrest
  simp only
  cases hresume : waiting.sendStreamResume offer.transferId with
  | error error =>
    exact
      { noError := ⟨[], by simp [fail, emit, hsent], by simp⟩
        noOffer := ⟨[_], by rw [← hevents]; rfl, by simp [RtcEvent.isOfferOf]⟩
        onePlace := fun _ => ⟨htasks, hincoming, hrestoring, hplaces⟩ }
  | ok resumed =>
    obtain ⟨receive, segmentBytes, index, files, channel, -, -, -, -, rfl⟩ := sendStreamResume_ok hresume
    exact
      { noError := ⟨[_, _], by simp only [withSent, hsent, List.append_assoc]; rfl, by simp [Frame.isErrorOf]⟩
        noOffer := ⟨[], by simp [withSent, hevents], by simp⟩
        onePlace := fun _ => ⟨htasks, hincoming, hrestoring, hplaces⟩ }

theorem TakesAsRepeated.resumeAfterWrite (h : peer.manifestReaction offer = .resumeAfterWrite) :
    peer.TakesAsRepeated (peer.handleOffer offer) offer := by
  unfold handleOffer
  rw [h]
  exact
    { noError := ⟨[], (List.append_nil _).symm, by simp⟩
      noOffer := ⟨[], (List.append_nil _).symm, by simp⟩
      onePlace := fun _ => ⟨rfl, rfl, rfl, by simp only [withReceive]; cases peer.receive <;> rfl⟩ }

/-- A lookup begins only when no transfer has a place. -/
theorem places_of_restoreNew (h : peer.manifestReaction offer = .restoreNew) :
    peer.receive = none ∧ peer.incoming = none ∧ peer.restoringTransfer = none := by
  unfold manifestReaction at h
  cases hreceive : peer.receive with
  | some receive =>
    rw [hreceive] at h
    simp only at h
    split at h
    · cases h
    · split at h
      · split at h <;> cases h
      · cases h
  | none =>
    rw [hreceive] at h
    cases hincoming : peer.incoming with
    | some existing =>
      rw [hincoming] at h
      cases hrecovery : peer.pendingRecovery <;> cases hreason : peer.pausedReceiveReason <;>
        simp [hrecovery, hreason] at h
      split at h <;> cases h
    | none =>
      cases hrestoring : peer.restoringTransfer with
      | none => exact ⟨rfl, rfl, rfl⟩
      | some id => simp [hincoming, hrestoring] at h

theorem TakesAsRepeated.restoreNew (h : peer.manifestReaction offer = .restoreNew) :
    peer.TakesAsRepeated (peer.handleOffer offer) offer := by
  obtain ⟨hreceive, hincoming, hrestoring⟩ := places_of_restoreNew h
  unfold handleOffer
  rw [h]
  refine
    { noError := ⟨[], (List.append_nil _).symm, by simp⟩
      noOffer := ⟨[], (List.append_nil _).symm, by simp⟩
      onePlace := fun hplace => ?_ }
  exact absurd hplace (by simp [HasPlace, isRestoring, hreceive, hincoming, hrestoring])

/-- A receiver that knows the transfer, and can answer, does not refuse it. -/
theorem manifestReaction_of_knows (hstreamed : offer.mode ≠ .buffered)
    (hopen : peer.dataChannel = some ⟨channel, true⟩) (h : peer.KnowsRepeated offer) :
    peer.manifestReaction offer ≠ .busy ∧ peer.manifestReaction offer ≠ .invalidResume := by
  rcases h with h | h
  · exact absurd hopen (h channel)
  unfold manifestReaction
  cases hreceive : peer.receive with
  | some receive =>
    rw [hreceive] at h
    have hsame : receive.offer = offer := by simpa [IncomingOffer.matchesOffer] using h
    simp only [hsame, IncomingOffer.matchesOffer, beq_self_eq_true, hstreamed, ne_eq, not_false_eq_true, and_self,
      not_true_eq_false, if_false]
    cases receive.payload with
    | buffered chunks => simp
    | streamed segmentBytes index files => cases hwriting : files.any (·.writing) <;> simp [hwriting]
  | none =>
    rw [hreceive] at h
    rcases h with ⟨hmatches, hrecovery, hreason⟩ | ⟨hincoming, houtgoing, hrestoring⟩
    · obtain ⟨recovery, hrecovery⟩ := Option.isSome_iff_exists.mp hrecovery
      obtain ⟨reason, hreason⟩ := Option.isSome_iff_exists.mp hreason
      cases hincoming : peer.incoming with
      | none => simp [hincoming] at hmatches
      | some existing => simp_all
    · simp [hincoming, houtgoing, hrestoring]

/-- What a receiver does with the manifest of a transfer that it knows. -/
theorem takesAsRepeated_of_knows (hstreamed : offer.mode ≠ .buffered) (h : peer.KnowsRepeated offer) :
    peer.TakesAsRepeated (peer.handleOffer offer) offer := by
  cases hreaction : peer.manifestReaction offer with
  | resumeNow => exact .resumeNow hreaction
  | resumeAfterWrite => exact .resumeAfterWrite hreaction
  | restoreNew => exact .restoreNew hreaction
  | paused reason =>
    unfold handleOffer
    rw [hreaction]
    exact .trySendControl (by simp [Frame.isErrorOf])
  | ignored =>
    unfold handleOffer
    rw [hreaction]
    exact .unchanged peer offer
  | busy | invalidResume =>
    unfold handleOffer
    rw [hreaction]
    have hclosed : ∀ channel, peer.dataChannel ≠ some ⟨channel, true⟩ := by
      intro channel hopen
      have hknown := manifestReaction_of_knows hstreamed hopen h
      rw [hreaction] at hknown
      simp at hknown
    simp only [sendTransferError_of_closed hclosed]
    exact .unchanged peer offer

variable [Blake3]

theorem Repeats.step (h : peer.Repeats input offer) : peer.step input = peer.handleOffer offer := by
  obtain ⟨files, download, rfl, hvalid, hoffer⟩ := h.isManifest
  unfold Peer.step
  simp only [h.delivered, if_true]
  unfold handleReceived
  simp only [hvalid]
  unfold handleControl handleManifest
  simp only [hoffer]

/-- A repeated manifest is taken for what it is exactly where the receiver knows the transfer. -/
theorem Repeats.takes_iff (h : peer.Repeats input offer) :
    peer.TakesAsRepeated (peer.step input) offer ↔ peer.KnowsRepeated offer := by
  rw [h.step]
  constructor
  · intro htakes
    by_contra hknows
    have hopen : ∃ channel, peer.dataChannel = some ⟨channel, true⟩ := by
      by_contra hclosed
      exact hknows (.inl (not_exists.mp hclosed))
    obtain ⟨channel, hopen⟩ := hopen
    obtain ⟨code, message, hrefuses⟩ :=
      handleOffer_refuses h.validToken hopen (manifestReaction_of_not_knows hknows)
    exact not_takesAsRepeated_of_error hrefuses htakes
  · exact takesAsRepeated_of_knows h.streamed

end Reactions

/-! ## Along a run -/

section Along

variable [Blake3]

def Next (peer : Peer) (input : Input) (next : Peer) : Prop := peer.step input = next

/-- **Wherever a run repeats the manifest of a transfer that the receiver has, it is taken for what it is exactly if the
receiver knows the transfer.** -/
theorem repeated_manifest_taken_iff {start peer next : Peer} {inputs : List Input} {input : Input} {offer : IncomingOffer}
    (htaken : Taken Next start inputs peer input next) (hrepeats : peer.Repeats input offer) :
    peer.TakesAsRepeated next offer ↔ peer.KnowsRepeated offer := by
  have hnext : peer.step input = next := htaken.holds
  rw [← hnext]
  exact hrepeats.takes_iff

end Along

end Peer

/-! ## A connection that is lost during the lookup -/

namespace LostLookup

def ids : BinaryId := .replicate 16 0

def file : FileManifest :=
  { fileId := formatBinaryId "file" ids, name := "notes", mime := none, sizeBytes := 200 * 1024 * 1024 }

def mode : TransferMode := .streamed DEFAULT_STREAM_SEGMENT_BYTES

def offer : IncomingOffer :=
  { transferId := formatBinaryId "transfer" ids, transferBytes := ids, mode
    files := [{ fileBytes := ids, file := { name := file.name, mime := file.mime, sizeBytes := file.sizeBytes } }] }

def manifest : Input := .receive (.frame (.control (.manifest offer.transferId mode [file]))) .created

def connected (channel : ChannelId) : List Input := [.connect "sender", .installChannel channel, .channelOpened]

/-- The lookup of the record has begun when the connection is given up, and another one is made. -/
def lookedUp : List Input := connected 0 ++ [manifest, .wake 0 {}, .prepareReconnect] ++ connected 1

/-- The transfer was accepted before the connection was given up. -/
def accepted : List Input :=
  connected 0 ++
    [manifest, .wake 0 {}, .wake 0 {}, .acceptStream offer.transferId [.fresh 0], .wake 1 {}, .prepareReconnect] ++
    connected 1

/-- No digest is computed here. -/
local instance noDigests : Blake3 := ⟨fun _ => ""⟩

def after (inputs : List Input) : Peer := inputs.foldl Peer.step {}

theorem repeats {inputs : List Input} (hdelivered : (after inputs).dataChannel.isSome) (hholds : (after inputs).Holds offer) :
    (after inputs).Repeats manifest offer where
  isManifest := ⟨[file], .created, rfl, by decide +kernel, by decide +kernel⟩
  delivered := hdelivered
  streamed := by decide
  holds := hholds

theorem taken (inputs : List Input) :
    Taken Peer.Next {} (inputs ++ [manifest]) (after inputs) manifest ((after inputs).step manifest) :=
  ⟨inputs, [], rfl, Run.of_foldl Peer.step {} inputs, rfl⟩

theorem repeated_after_acceptance_is_taken :
    (after accepted).TakesAsRepeated ((after accepted).step manifest) offer := by
  have hreceives : (after accepted).receive.any (·.offer.matchesOffer offer) := by decide +kernel
  have hrepeats : (after accepted).Repeats manifest offer :=
    repeats (by decide +kernel) (.inl (.inl hreceives))
  apply (Peer.repeated_manifest_taken_iff (taken accepted) hrepeats).mpr
  right
  cases hreceive : (after accepted).receive with
  | none => simp [hreceive] at hreceives
  | some receive => simpa [hreceive] using hreceives

theorem repeated_during_lookup_is_refused :
    ¬∀ (_ : Blake3) (inputs : List Input) (peer next : Peer) (input : Input) (offer : IncomingOffer),
      Taken Peer.Next {} inputs peer input next → peer.Repeats input offer → peer.TakesAsRepeated next offer := by
  intro hclaim
  have hrestoring : (after lookedUp).restoringTransfer = some offer.transferId := by decide +kernel
  have hrepeats : (after lookedUp).Repeats manifest offer :=
    repeats (by decide +kernel) (.inl (.inr (.inr (by simp [Peer.isRestoring, hrestoring]))))
  have htakes := hclaim noDigests _ _ _ _ _ (taken lookedUp) hrepeats
  have hopen : (after lookedUp).dataChannel = some ⟨1, true⟩ := by decide +kernel
  have hreceive : (after lookedUp).receive = none := by decide +kernel
  have hincoming : (after lookedUp).incoming = none := by decide +kernel
  rcases hrepeats.takes_iff.mp htakes with hclosed | hknown
  · exact hclosed 1 hopen
  · rw [hreceive] at hknown
    simp [hincoming, hrestoring] at hknown

end LostLookup

end P2PTransmission.Rtc
