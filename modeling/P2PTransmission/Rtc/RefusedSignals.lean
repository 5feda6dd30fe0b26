import P2PTransmission.Rtc.Signaling

/-!
# Offers of connections that are refused

An offer of the other side replaces the connection. The connection that is there is given up first, and with it what was
transferred over it; only then the configuration is looked at, and the browser is asked for another connection. Where that
fails, the peer is left without any.
-/

set_option autoImplicit false

namespace P2PTransmission.Rtc

open Wire (Signal)

namespace RtcPeer

variable {peer next : RtcPeer} {fromPeer negotiationId sdp target : String} {nowMs : Nat} {built : Except String ConnectionId}

/-- The connection, and what is transferred over it. -/
structure Undisturbed (before after : RtcPeer) : Prop where
  peerConnection : after.peerConnection = before.peerConnection
  dataChannel : after.dataChannel = before.dataChannel
  connectionEpoch : after.connectionEpoch = before.connectionEpoch
  targetPeer : after.targetPeer = before.targetPeer
  negotiationId : after.negotiationId = before.negotiationId
  outgoing : after.outgoing = before.outgoing
  pendingOutgoingRecovery : after.pendingOutgoingRecovery = before.pendingOutgoingRecovery
  restoringOutgoing : after.restoringOutgoing = before.restoringOutgoing
  incoming : after.incoming = before.incoming
  pendingRecovery : after.pendingRecovery = before.pendingRecovery
  pausedReceiveReason : after.pausedReceiveReason = before.pausedReceiveReason
  restoringTransfer : after.restoringTransfer = before.restoringTransfer
  receive : after.receive = before.receive
  outgoingText : after.outgoingText = before.outgoingText
  incomingText : after.incomingText = before.incomingText
  receivingText : after.receivingText = before.receivingText

theorem Undisturbed.refl (peer : RtcPeer) : Undisturbed peer peer :=
  ⟨rfl, rfl, rfl, rfl, rfl, rfl, rfl, rfl, rfl, rfl, rfl, rfl, rfl, rfl, rfl, rfl⟩

/-! ## Giving the connection up -/

theorem notifyTextCancelled_peerConnection (peer : RtcPeer) (cancelled : Option String) :
    (peer.notifyTextCancelled cancelled).peerConnection = peer.peerConnection := by
  cases cancelled with
  | none => rfl
  | some transferId => rfl

theorem notifyTextCancelled_connectionEpoch (peer : RtcPeer) (cancelled : Option String) :
    (peer.notifyTextCancelled cancelled).connectionEpoch = peer.connectionEpoch := by
  cases cancelled with
  | none => rfl
  | some transferId => rfl

@[simp] theorem prepareReconnect_peerConnection (peer : RtcPeer) : peer.prepareReconnect.peerConnection = none :=
  notifyTextCancelled_peerConnection _ _

theorem Peer.prepareReconnect_connectionEpoch (peer : Peer) :
    peer.prepareReconnect.connectionEpoch = peer.connectionEpoch + 1 := by
  unfold Peer.prepareReconnect
  cases peer.cancelledByReconnect with
  | none => rfl
  | some transferId => rfl

theorem prepareReconnect_connectionEpoch (peer : RtcPeer) :
    peer.prepareReconnect.connectionEpoch = peer.connectionEpoch + 1 :=
  (notifyTextCancelled_connectionEpoch _ _).trans (Peer.prepareReconnect_connectionEpoch peer.toPeer)

theorem takeText_validUntilMs (peer : RtcPeer) : peer.takeText.validUntilMs = peer.validUntilMs := by
  unfold takeText
  split
  · rfl
  · rfl
  · rfl

/-- The configuration stays. -/
theorem prepareReconnect_rtcConfigValid (peer : RtcPeer) (nowMs : Nat) :
    peer.prepareReconnect.rtcConfigValid nowMs = peer.rtcConfigValid nowMs := by
  have hlease : peer.prepareReconnect.validUntilMs = peer.validUntilMs := by
    unfold prepareReconnect
    cases peer.activeTextId with
    | none => exact takeText_validUntilMs peer
    | some transferId => exact takeText_validUntilMs peer
  unfold rtcConfigValid
  rw [hlease]

/-! ## Another connection -/

/-- A connection cannot be made. -/
def CannotConnect (peer : RtcPeer) (nowMs : Nat) (built : Except String ConnectionId) : Prop :=
  peer.rtcConfigValid nowMs = false ∨ ∃ message, built = .error message

/-- Where there is no connection, one is made, or nothing has changed. -/
theorem ensurePeerConnection_cases (hnone : peer.peerConnection = none) (target negotiationId : String) (nowMs : Nat)
    (built : Except String ConnectionId) :
    (peer.CannotConnect nowMs built ∧
        ∃ error, peer.ensurePeerConnection target negotiationId nowMs built = (.error error, peer)) ∨
      (¬peer.CannotConnect nowMs built ∧
        ∃ connection next, peer.ensurePeerConnection target negotiationId nowMs built = (.ok connection, next)) := by
  have hnot : peer.negotiates target negotiationId = none := by
    unfold negotiates
    rw [hnone]
  have hfree : peer.hasOtherConnection target negotiationId = false := by
    unfold hasOtherConnection
    rw [hnone]
    rfl
  unfold ensurePeerConnection CannotConnect
  rw [hnot, hfree]
  dsimp only
  cases hvalid : peer.rtcConfigValid nowMs with
  | false => exact .inl ⟨.inl rfl, _, rfl⟩
  | true =>
    cases built with
    | error message => exact .inl ⟨.inr ⟨message, rfl⟩, _, rfl⟩
    | ok connection =>
      refine .inr ⟨?_, _, _, rfl⟩
      rintro (hinvalid | ⟨message, hfailed⟩)
      · cases hinvalid
      · cases hfailed

/-! ## Offers -/

/-- A connection is there, the offer is of another one, and that one cannot be made. -/
def LosesByOffer (peer : RtcPeer) (fromPeer negotiationId : String) (nowMs : Nat) (built : Except String ConnectionId) : Prop :=
  peer.peerConnection ≠ none ∧ peer.sameNegotiation fromPeer negotiationId = false ∧ peer.CannotConnect nowMs built

theorem acceptSignal_error {signal : Signal} {error : SignalingError} :
    (peer.acceptSignal fromPeer negotiationId signal nowMs built).1 = .error error ↔
      (peer.prepareSignalTask fromPeer negotiationId signal nowMs built).1 = .error error := by
  unfold acceptSignal
  split
  · rename_i hprepared
    rw [hprepared]
    exact ⟨fun h => by rw [Except.error.inj h], fun h => by rw [Except.error.inj h]⟩
  all_goals
    rename_i hprepared
    rw [hprepared]
    exact iff_of_false (fun h => by cases h) fun h => by cases h

/-- What is left of the peer does not depend on what is answered. -/
theorem acceptSignal_peer {signal : Signal} :
    (peer.acceptSignal fromPeer negotiationId signal nowMs built).2 =
      (peer.prepareSignalTask fromPeer negotiationId signal nowMs built).2 := by
  unfold acceptSignal
  split
  all_goals
    rename_i hprepared
    rw [hprepared]

/-- **When an offer that is refused leaves the connection alone.** -/
theorem refused_offer_undisturbed_iff (peer : RtcPeer) (fromPeer negotiationId sdp : String) (nowMs : Nat)
    (built : Except String ConnectionId) :
    (∀ error, (peer.acceptSignal fromPeer negotiationId (.offer sdp) nowMs built).1 = .error error →
        Undisturbed peer (peer.acceptSignal fromPeer negotiationId (.offer sdp) nowMs built).2) ↔
      ¬peer.LosesByOffer fromPeer negotiationId nowMs built := by
  simp only [acceptSignal_error, acceptSignal_peer]
  change (∀ error, (peer.prepareOffer fromPeer negotiationId sdp nowMs built).1 = .error error →
      Undisturbed peer (peer.prepareOffer fromPeer negotiationId sdp nowMs built).2) ↔ _
  unfold prepareOffer LosesByOffer
  cases hsame : peer.sameNegotiation fromPeer negotiationId with
  | true =>
    refine iff_of_true (fun _ hfailed => by cases hfailed) ?_
    rintro ⟨-, hother, -⟩
    cases hother
  | false =>
    rw [if_neg Bool.false_ne_true]
    cases hconnection : peer.peerConnection with
    | none =>
      have hsamePeer : peer.withoutConnection = peer := by
        unfold withoutConnection
        rw [hconnection]
        rfl
      refine iff_of_true ?_ fun hloses => hloses.1 rfl
      intro error
      rw [hsamePeer]
      rcases ensurePeerConnection_cases hconnection fromPeer negotiationId nowMs built with
        ⟨-, failure, hfailed⟩ | ⟨-, connection, next, hmade⟩
      · rw [hfailed]
        exact fun _ => .refl peer
      · rw [hmade]
        intro hfailed
        cases hfailed
    | some existing =>
      have hgiven : peer.withoutConnection = peer.prepareReconnect := by
        unfold withoutConnection
        rw [hconnection]
        rfl
      rw [hgiven]
      rcases ensurePeerConnection_cases peer.prepareReconnect_peerConnection fromPeer negotiationId nowMs built with
        ⟨hcannot, failure, hfailed⟩ | ⟨hcan, connection, next, hmade⟩
      · rw [hfailed]
        unfold CannotConnect at hcannot
        rw [prepareReconnect_rtcConfigValid] at hcannot
        refine iff_of_false ?_ fun hnot => hnot ⟨by simp, rfl, hcannot⟩
        intro hkept
        have hepoch := (hkept failure rfl).connectionEpoch
        rw [prepareReconnect_connectionEpoch] at hepoch
        omega
      · rw [hmade]
        unfold CannotConnect at hcan
        rw [prepareReconnect_rtcConfigValid] at hcan
        exact iff_of_true (fun _ hfailed => by cases hfailed) fun hloses => hcan hloses.2.2

/-- The configuration has expired while a file is being transferred. -/
theorem refused_offer_drops_connection :
    ¬∀ (peer : RtcPeer) (fromPeer negotiationId sdp : String) (nowMs : Nat) (built : Except String ConnectionId) error,
      (peer.acceptSignal fromPeer negotiationId (.offer sdp) nowMs built).1 = .error error →
        Undisturbed peer (peer.acceptSignal fromPeer negotiationId (.offer sdp) nowMs built).2 := by
  intro hclaim
  let peer : RtcPeer :=
    { validUntilMs := 1000, peerConnection := some 0, targetPeer := some "peer_b", negotiationId := some "n_1",
      connectionEpoch := 1, dataChannel := some ⟨0, true⟩ }
  have hkept := hclaim peer "peer_b" "n_2" "v=0" 2000 (.ok 1)
  exact (refused_offer_undisturbed_iff peer "peer_b" "n_2" "v=0" 2000 (.ok 1)).mp hkept
    ⟨Option.some_ne_none 0, by decide, .inl (by decide)⟩

end RtcPeer

end P2PTransmission.Rtc
