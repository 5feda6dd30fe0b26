import P2PTransmission.Rtc.Calls
import P2PTransmission.Rtc.Outgoing

/-!
# Offers that are refused

The record from which the sender goes on after a reload is kept under the name of the receiver. A new offer to the same receiver
replaces the record before it is known whether the offer can be made, and deletes it if not; a restoration that finds another
transfer deletes it too.

Both calls go from their beginning to their end with nothing else in between, with the answers of the browser that are given. Of
the texts that are sent over the same connection it counts only whether there is one.
-/

set_option autoImplicit false

namespace P2PTransmission.Rtc

variable [Blake3]

/-- A source file that could not be read. -/
inductive ReadFailure
  | cancelled
  | storage (kind : BrowserStorageErrorKind) (message : String)
  deriving DecidableEq, Repr

def ReadFailure.error : ReadFailure → BrowserPlatformError
  | cancelled => .userCancelled
  | storage kind message => .storage .readSource kind message

/-- Another transfer is under way. -/
def alreadyActive : BrowserPlatformError := .browser "another transfer is already active"

namespace Peer

/-! ## `offer_persistent_files` -/

section Offer

variable (refuses : Refusals) (textActive : Bool)

/-- `install_and_offer_outgoing`. -/
def installThrough (peer : Peer) (outgoing : OutgoingState) : Except BrowserPlatformError String × Peer :=
  match peer.currentDataChannel with
  | .error error => (.error error, peer)
  | .ok channel =>
    if peer.transferActive || textActive then (.error alreadyActive, peer)
    else
      match ({ peer with outgoing := some outgoing } : Peer).sendControlThrough refuses channel
          (manifestFromOutgoing outgoing) with
      | .error error => (.error error, { peer with outgoing := none })
      | .ok peer => (.ok outgoing.transferId, peer.emit (.outgoingOffered outgoing.transferId outgoing.transferFiles))

end Offer

/-! ## `restore_outgoing_transfer` -/

/-- The records, and everything that is under way, are as they were. -/
structure Undisturbed (before after : Peer) : Prop where
  records : ∀ peerId : String, after.outgoingRecovery[peerId]? = before.outgoingRecovery[peerId]?
  outgoing : after.outgoing = before.outgoing
  incoming : after.incoming = before.incoming
  receive : after.receive = before.receive
  restoringTransfer : after.restoringTransfer = before.restoringTransfer
  restoringOutgoing : after.restoringOutgoing = before.restoringOutgoing
  pendingOutgoingRecovery : after.pendingOutgoingRecovery = before.pendingOutgoingRecovery

section Refusals

variable {refuses : Refusals} {textActive : Bool} {peer : Peer} {outgoing : OutgoingState} {peerId : String}

omit [Blake3] in
theorem Undisturbed.refl (peer : Peer) : Undisturbed peer peer := ⟨fun _ => rfl, rfl, rfl, rfl, rfl, rfl, rfl⟩

omit [Blake3] in
theorem outgoing_of_not_active (h : ¬peer.transferActive = true) : peer.outgoing = none := by
  cases houtgoing : peer.outgoing with
  | none => rfl
  | some outgoing => exact absurd (by rw [transferActive, houtgoing]; rfl) h

omit [Blake3] in
/-- Where nothing is refused and no text is sent, the offer is the one of the tasks. -/
theorem installThrough_unrefused : peer.installThrough (fun _ => none) false outgoing = peer.installAndOfferOutgoing outgoing := by
  unfold installThrough installAndOfferOutgoing
  rw [Bool.or_false]
  cases peer.currentDataChannel with
  | error error => rfl
  | ok channel =>
    by_cases hactive : peer.transferActive = true
    · simp only [if_pos hactive]
      rfl
    · simp only [if_neg hactive, sendControlThrough_unrefused]
      have hback : ({ peer with outgoing := none } : Peer) = peer := by rw [← outgoing_of_not_active hactive]
      generalize ({ peer with outgoing := some outgoing } : Peer).sendControlOn channel (manifestFromOutgoing outgoing) = sent
      cases sent with
      | error error => exact congrArg (Prod.mk (Except.error error)) hback
      | ok next => rfl

end Refusals

end Peer

end P2PTransmission.Rtc
