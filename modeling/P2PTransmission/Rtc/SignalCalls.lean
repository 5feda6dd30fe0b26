import P2PTransmission.Rtc.SignalTasks
import P2PTransmission.Rtc.RefusedSignals

/-!
# What the calls of signalling do

A call gives the connection of the peer up (`Gone`), opens another one (`Opens`), or leaves the negotiation as it is but for a
flag or a candidate that waits (`Offered`, `Accepted`). None of the calls sends a signal: the tasks do.
-/

set_option autoImplicit false

namespace P2PTransmission.Rtc

open Wire (Signal)

namespace RtcPeer

variable {peer next : RtcPeer} {fromPeer negotiationId target : String} {signal : Signal} {nowMs : Nat}
  {built : Except String ConnectionId}

/-- No signal was sent. -/
def Silent (before after : RtcPeer) : Prop :=
  ∃ extra, after.notices = before.notices ++ extra ∧ ∀ notice ∈ extra, ∀ epoch, Signalling.saidBy epoch notice = none

/-- The negotiation is as it was. -/
structure SameNegotiation (before after : RtcPeer) : Prop where
  peerConnection : after.peerConnection = before.peerConnection
  connectionEpoch : after.connectionEpoch = before.connectionEpoch
  targetPeer : after.targetPeer = before.targetPeer
  negotiationId : after.negotiationId = before.negotiationId
  localDescriptionAnnounced : after.localDescriptionAnnounced = before.localDescriptionAnnounced
  remoteDescriptionPending : after.remoteDescriptionPending = before.remoteDescriptionPending
  remoteDescriptionSet : after.remoteDescriptionSet = before.remoteDescriptionSet
  pendingLocalCandidates : after.pendingLocalCandidates = before.pendingLocalCandidates
  pendingRemoteCandidates : after.pendingRemoteCandidates = before.pendingRemoteCandidates
  silent : Silent before after

/-- The peer has no connection any more. -/
structure Gone (before after : RtcPeer) : Prop where
  peerConnection : after.peerConnection = none
  connectionEpoch : before.connectionEpoch ≤ after.connectionEpoch
  pendingRemoteCandidates : after.pendingRemoteCandidates ⊆ before.pendingRemoteCandidates
  silent : Silent before after

/-- The peer has another connection. -/
structure Opens (before after : RtcPeer) (target negotiationId : String) (connection : ConnectionId) : Prop where
  peerConnection : after.peerConnection = some connection
  connectionEpoch : before.connectionEpoch < after.connectionEpoch
  targetPeer : after.targetPeer = some target
  negotiationId : after.negotiationId = some negotiationId
  localDescriptionAnnounced : after.localDescriptionAnnounced = false
  remoteDescriptionPending : after.remoteDescriptionPending = false
  remoteDescriptionSet : after.remoteDescriptionSet = false
  pendingLocalCandidates : after.pendingLocalCandidates = []
  pendingRemoteCandidates : after.pendingRemoteCandidates ⊆ before.pendingRemoteCandidates
  silent : Silent before after

theorem said_of_notices {before after : RtcPeer} (extra : List PeerNotice) (h : after.notices = before.notices ++ extra) :
    Signalling.said before after = extra.filterMap (Signalling.saidBy after.connectionEpoch) := by
  unfold Signalling.said
  rw [h, List.drop_left]

theorem Silent.said {before after : RtcPeer} (h : Silent before after) : Signalling.said before after = [] := by
  obtain ⟨extra, hnotices, hextra⟩ := h
  rw [said_of_notices extra hnotices]
  exact List.filterMap_eq_nil_iff.mpr fun notice hin => hextra notice hin _

theorem silent_of_same {before after : RtcPeer} (h : after.notices = before.notices) : Silent before after :=
  ⟨[], by rw [h, List.append_nil], by simp⟩

theorem silent_refl (peer : RtcPeer) : Silent peer peer := silent_of_same rfl

theorem Silent.trans {before middle after : RtcPeer} (h : Silent before middle) (h' : Silent middle after) :
    Silent before after := by
  obtain ⟨extra, hnotices, hextra⟩ := h
  obtain ⟨extra', hnotices', hextra'⟩ := h'
  refine ⟨extra ++ extra', by rw [hnotices', hnotices, List.append_assoc], fun notice hin => ?_⟩
  rcases List.mem_append.mp hin with hin | hin
  · exact hextra notice hin
  · exact hextra' notice hin

theorem silent_notifyTextCancelled (peer : RtcPeer) (cancelled : Option String) :
    Silent peer (peer.notifyTextCancelled cancelled) := by
  cases cancelled with
  | none => exact silent_of_same rfl
  | some transferId => exact ⟨_, rfl, by simp [Signalling.saidBy]⟩

theorem SameNegotiation.refl (peer : RtcPeer) : SameNegotiation peer peer :=
  ⟨rfl, rfl, rfl, rfl, rfl, rfl, rfl, rfl, rfl, silent_refl peer⟩

/-! ## Giving the connection up -/

theorem notifyTextCancelled_pendingRemoteCandidates (peer : RtcPeer) (cancelled : Option String) :
    (peer.notifyTextCancelled cancelled).pendingRemoteCandidates = peer.pendingRemoteCandidates := by
  cases cancelled with
  | none => rfl
  | some transferId => rfl

/-- A connection that is given up is gone, whatever is said about texts. -/
theorem gone_of_clear {peer cleared : RtcPeer} (hconnection : cleared.peerConnection = none)
    (hepoch : cleared.connectionEpoch = peer.connectionEpoch + 1) (hqueue : cleared.pendingRemoteCandidates = [])
    (hnotices : cleared.notices = peer.notices) (cancelled : Option String) :
    Gone peer (cleared.notifyTextCancelled cancelled) := by
  refine ⟨?_, ?_, ?_, (silent_of_same hnotices).trans (silent_notifyTextCancelled cleared cancelled)⟩
  · rw [notifyTextCancelled_peerConnection, hconnection]
  · rw [notifyTextCancelled_connectionEpoch, hepoch]
    exact Nat.le_succ _
  · rw [notifyTextCancelled_pendingRemoteCandidates, hqueue]
    exact List.nil_subset _

theorem takeText_notices (peer : RtcPeer) : peer.takeText.notices = peer.notices := by
  unfold takeText
  split <;> rfl

theorem prepareReconnect_gone (peer : RtcPeer) : Gone peer peer.prepareReconnect := by
  unfold prepareReconnect
  apply gone_of_clear
  · rfl
  · exact Peer.prepareReconnect_connectionEpoch peer.toPeer
  · rfl
  · exact takeText_notices peer

theorem Peer.spawnDeleteOutgoing_connectionEpoch (peer : Peer) (peerId : Option String) :
    (peer.spawnDeleteOutgoing peerId).connectionEpoch = peer.connectionEpoch := by
  cases peerId with
  | none => rfl
  | some peerId => rfl

theorem Peer.reset_connectionEpoch (peer : Peer) : peer.reset.connectionEpoch = peer.connectionEpoch + 1 := by
  unfold Peer.reset
  rw [Peer.spawnDeleteOutgoing_connectionEpoch]
  cases peer.activeTransferId with
  | none => rfl
  | some transferId => rfl

theorem reset_gone (peer : RtcPeer) : Gone peer peer.reset := by
  unfold reset
  apply gone_of_clear
  · rfl
  · exact Peer.reset_connectionEpoch peer.toPeer
  · rfl
  · rfl

/-! ## Another connection -/

theorem Gone.opens {before middle after : RtcPeer} {connection : ConnectionId} (hgone : Gone before middle)
    (hopens : Opens middle after target negotiationId connection) : Opens before after target negotiationId connection :=
  { hopens with
    connectionEpoch := Nat.lt_of_le_of_lt hgone.connectionEpoch hopens.connectionEpoch
    pendingRemoteCandidates := fun _ hin => hgone.pendingRemoteCandidates (hopens.pendingRemoteCandidates hin)
    silent := hgone.silent.trans hopens.silent }

theorem installConnection_opens (peer : RtcPeer) (target negotiationId : String) (connection : ConnectionId) :
    Opens peer (peer.installConnection target negotiationId connection) target negotiationId connection :=
  ⟨rfl, Nat.lt_succ_self _, rfl, rfl, rfl, rfl, rfl, rfl, List.filter_subset_self _, silent_of_same rfl⟩

/-- What `ensure_peer_connection` does where the connection is not there. -/
theorem ensurePeerConnection_opens (hnot : peer.negotiates target negotiationId = none) {answer} {next : RtcPeer}
    (h : peer.ensurePeerConnection target negotiationId nowMs built = (answer, next)) :
    (∃ error, answer = .error error ∧ (next = peer ∨ Gone peer next)) ∨
      ∃ connection, built = .ok connection ∧ answer = .ok (connection, next.connectionEpoch) ∧
        Opens peer next target negotiationId connection := by
  unfold ensurePeerConnection at h
  rw [hnot] at h
  dsimp only at h
  cases hvalid : peer.rtcConfigValid nowMs with
  | false =>
    rw [hvalid, if_neg Bool.false_ne_true] at h
    cases h
    exact .inl ⟨_, rfl, .inl rfl⟩
  | true =>
    rw [hvalid, if_pos rfl] at h
    cases hother : peer.hasOtherConnection target negotiationId with
    | true =>
      rw [hother, if_pos rfl] at h
      cases built with
      | error message =>
        cases h
        exact .inl ⟨_, rfl, .inr peer.reset_gone⟩
      | ok connection =>
        cases h
        exact .inr ⟨connection, rfl, rfl, peer.reset_gone.opens (installConnection_opens _ _ _ _)⟩
    | false =>
      rw [hother, if_neg Bool.false_ne_true] at h
      cases built with
      | error message =>
        cases h
        exact .inl ⟨_, rfl, .inl rfl⟩
      | ok connection =>
        cases h
        exact .inr ⟨connection, rfl, rfl, installConnection_opens _ _ _ _⟩

/-- What `start_offer` does. -/
inductive Offered (peer : RtcPeer) (target : String) (built : Except String ConnectionId) :
    Option OfferTask → RtcPeer → Prop
  | unchanged : Offered peer target built none peer
  | gone {next : RtcPeer} : Gone peer next → Offered peer target built none next
  | opened {next : RtcPeer} {connection : ConnectionId} {negotiationId : String} :
      built = .ok connection → Opens peer next target negotiationId connection →
      Offered peer target built (some ⟨connection, next.connectionEpoch, negotiationId, target⟩) next

theorem startOffer_offered {drawn : Except String String} {channel : ChannelId} {answer}
    (h : peer.startOffer target drawn nowMs built channel = (answer, next)) :
    Offered peer target built (Signalling.startedTask answer) next := by
  unfold startOffer at h
  split at h
  · cases h
    exact .unchanged
  rename_i hidle
  cases drawn with
  | error message =>
    cases h
    exact .unchanged
  | ok negotiationId =>
    dsimp only at h
    have hnot : peer.negotiates target negotiationId = none := by
      unfold negotiates
      split
      · rename_i hconnection htarget hname
        refine if_neg fun hsame => hidle (.inr ⟨?_, ?_⟩)
        · rw [htarget, hsame.1]
        · rw [hconnection]
          rfl
      · rfl
    generalize hensured : peer.ensurePeerConnection target negotiationId nowMs built = ensured at h
    obtain ⟨reply, middle⟩ := ensured
    rcases ensurePeerConnection_opens hnot hensured with ⟨error, rfl, hmiddle⟩ | ⟨connection, hbuilt, rfl, hopens⟩
    · cases h
      rcases hmiddle with rfl | hgone
      · exact .unchanged
      · exact .gone hgone
    · cases h
      have hstarted : Opens peer { middle with negotiating := true, toPeer := middle.toPeer.installDataChannel channel }
          target negotiationId connection :=
        ⟨hopens.peerConnection, hopens.connectionEpoch, hopens.targetPeer, hopens.negotiationId,
          hopens.localDescriptionAnnounced, hopens.remoteDescriptionPending, hopens.remoteDescriptionSet,
          hopens.pendingLocalCandidates, hopens.pendingRemoteCandidates, hopens.silent⟩
      exact .opened hbuilt hstarted

/-- What `accept_signal` does. -/
inductive Accepted (peer : RtcPeer) (fromPeer negotiationId : String) (built : Except String ConnectionId) :
    Signal → Option PendingSignalTask → RtcPeer → Prop
  | unchanged {signal : Signal} : Accepted peer fromPeer negotiationId built signal none peer
  | gone {signal : Signal} {next : RtcPeer} : Gone peer next → Accepted peer fromPeer negotiationId built signal none next
  | opened {sdp : String} {next : RtcPeer} {connection : ConnectionId} :
      built = .ok connection → Opens peer next fromPeer negotiationId connection →
      Accepted peer fromPeer negotiationId built (.offer sdp)
        (some (.offer connection next.connectionEpoch negotiationId fromPeer sdp)) next
  | answered {sdp : String} {connection : ConnectionId} :
      peer.targetPeer = some fromPeer → peer.negotiationId = some negotiationId → peer.peerConnection = some connection →
      peer.localDescriptionAnnounced = true → peer.remoteDescriptionPending = false → peer.remoteDescriptionSet = false →
      Accepted peer fromPeer negotiationId built (.answer sdp)
        (some (.answer connection peer.connectionEpoch negotiationId sdp)) { peer with remoteDescriptionPending := true }
  | queued {signal : Signal} :
      Accepted peer fromPeer negotiationId built signal none
        { peer with pendingRemoteCandidates := peer.pendingRemoteCandidates ++ [(fromPeer, negotiationId, signal)] }
  | added {signal : Signal} {connection : ConnectionId} :
      peer.foreign fromPeer negotiationId = false → peer.peerConnection = some connection → peer.remoteDescriptionSet = true →
      Accepted peer fromPeer negotiationId built signal
        (some (.iceCandidate connection peer.connectionEpoch negotiationId signal)) peer

theorem prepareOffer_cases (peer : RtcPeer) (fromPeer negotiationId sdp : String) (nowMs : Nat)
    (built : Except String ConnectionId) :
    (∃ next, (peer.prepareOffer fromPeer negotiationId sdp nowMs built).2 = next ∧ (next = peer ∨ Gone peer next) ∧
        ∀ task, (peer.prepareOffer fromPeer negotiationId sdp nowMs built).1 ≠ .ok (.task task)) ∨
      ∃ connection next, built = .ok connection ∧ Opens peer next fromPeer negotiationId connection ∧
        peer.prepareOffer fromPeer negotiationId sdp nowMs built =
          (.ok (.task (.offer connection next.connectionEpoch negotiationId fromPeer sdp)), next) := by
  unfold prepareOffer
  split
  · exact .inl ⟨peer, rfl, .inl rfl, fun task h => by cases h⟩
  -- whatever connection there was is given up
  have hfree : peer.withoutConnection.peerConnection = none := by
    unfold withoutConnection
    split
    · exact peer.prepareReconnect_gone.peerConnection
    · rename_i hnone
      exact Option.not_isSome_iff_eq_none.mp hnone
  have hgone : peer.withoutConnection = peer ∨ Gone peer peer.withoutConnection := by
    unfold withoutConnection
    split
    · exact .inr peer.prepareReconnect_gone
    · exact .inl rfl
  have hnot : peer.withoutConnection.negotiates fromPeer negotiationId = none := by
    unfold negotiates
    rw [hfree]
  generalize hensured : peer.withoutConnection.ensurePeerConnection fromPeer negotiationId nowMs built = ensured
  obtain ⟨answer, next⟩ := ensured
  rcases ensurePeerConnection_opens hnot hensured with ⟨error, rfl, hnext⟩ | ⟨connection, hbuilt, rfl, hopens⟩
  · refine .inl ⟨next, rfl, ?_, fun task h => by cases h⟩
    rcases hnext with rfl | hnext
    · exact hgone
    · rcases hgone with hsame | hgone
      · rw [hsame] at hnext
        exact .inr hnext
      · exact .inr ⟨hnext.peerConnection, hgone.connectionEpoch.trans hnext.connectionEpoch,
          fun _ hin => hgone.pendingRemoteCandidates (hnext.pendingRemoteCandidates hin), hgone.silent.trans hnext.silent⟩
  · refine .inr ⟨connection, next, hbuilt, ?_, rfl⟩
    rcases hgone with hsame | hgone
    · rwa [hsame] at hopens
    · exact hgone.opens hopens

theorem acceptSignal_accepted {answer} (h : peer.acceptSignal fromPeer negotiationId signal nowMs built = (answer, next)) :
    Accepted peer fromPeer negotiationId built signal (Signalling.startedTask answer) next := by
  unfold acceptSignal at h
  generalize hprepared : peer.prepareSignalTask fromPeer negotiationId signal nowMs built = prepared at h
  obtain ⟨reply, middle⟩ := prepared
  cases signal with
  | offer sdp =>
    change peer.prepareOffer fromPeer negotiationId sdp nowMs built = (reply, middle) at hprepared
    rcases peer.prepareOffer_cases fromPeer negotiationId sdp nowMs built with
      ⟨after, hafter, hgone, hno⟩ | ⟨connection, after, hbuilt, hopens, hmade⟩
    · rw [hprepared] at hafter hno
      dsimp only at hafter hno
      subst hafter
      have hnone : Signalling.startedTask answer = none ∧ next = middle := by
        cases reply with
        | error error =>
          cases h
          exact ⟨rfl, rfl⟩
        | ok prepared =>
          cases prepared with
          | task task => exact absurd rfl (hno task)
          | deferred =>
            cases h
            exact ⟨rfl, rfl⟩
          | ignored =>
            cases h
            exact ⟨rfl, rfl⟩
      rw [hnone.1, hnone.2]
      rcases hgone with rfl | hgone
      · exact .unchanged
      · exact .gone hgone
    · rw [hprepared] at hmade
      cases hmade
      cases h
      exact .opened hbuilt hopens
  | answer sdp =>
    change peer.prepareAnswer fromPeer negotiationId sdp = (reply, middle) at hprepared
    unfold prepareAnswer at hprepared
    split at hprepared
    · cases hprepared
      cases h
      exact .unchanged
    rename_i hsame
    rw [not_or, not_not, not_not] at hsame
    split at hprepared
    · cases hprepared
      cases h
      exact .unchanged
    · rename_i connection hconnection
      split at hprepared
      · cases hprepared
        cases h
        exact .unchanged
      · rename_i hflags
        simp only [Bool.or_eq_true, not_or, Bool.not_eq_true, Bool.not_eq_false'] at hflags
        cases hprepared
        cases h
        exact .answered hsame.1 hsame.2 hconnection hflags.1.1 hflags.1.2 hflags.2
  | iceCandidate candidate sdpMid sdpMLineIndex =>
    change peer.prepareCandidate fromPeer negotiationId (.iceCandidate candidate sdpMid sdpMLineIndex) = (reply, middle)
      at hprepared
    unfold prepareCandidate at hprepared
    split at hprepared
    · cases hprepared
      cases h
      exact .unchanged
    rename_i hforeign
    rw [Bool.not_eq_true] at hforeign
    split at hprepared
    · rename_i connection hset hconnection
      cases hprepared
      cases h
      exact .added hforeign hconnection hset
    · unfold queueCandidate at hprepared
      split at hprepared
      · cases hprepared
        cases h
        exact .unchanged
      · cases hprepared
        cases h
        exact .queued

end RtcPeer

end P2PTransmission.Rtc
