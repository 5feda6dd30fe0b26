import P2PTransmission.Rtc.SignalRuns

/-!
# The candidates that wait

Candidates of the other side wait until it has described the connection, own ones until the connection has been described to
it. Neither queue ever holds more than `NEGOTIATION_SIGNAL_LIMIT` candidates, and what waits while there is a connection came from
the peer and for the negotiation that the connection was opened for (`candidates_confined`).
-/

set_option autoImplicit false

namespace P2PTransmission.Rtc

open Wire (Signal)

namespace RtcPeer

/-- Both queues are within the limit, and what waits for a connection is meant for it. -/
structure Queued (peer : RtcPeer) : Prop where
  remote : peer.pendingRemoteCandidates.length ≤ NEGOTIATION_SIGNAL_LIMIT
  own : peer.pendingLocalCandidates.length ≤ NEGOTIATION_SIGNAL_LIMIT
  addressed : ∀ connection, peer.peerConnection = some connection → ∃ target negotiationId,
    peer.targetPeer = some target ∧ peer.negotiationId = some negotiationId ∧
      ∀ entry ∈ peer.pendingRemoteCandidates, entry.1 = target ∧ entry.2.1 = negotiationId

variable {peer next : RtcPeer} {fromPeer negotiationId target : String} {nowMs : Nat} {built : Except String ConnectionId}

theorem Queued.same (h : Queued peer) (hconnection : next.peerConnection = peer.peerConnection)
    (htarget : next.targetPeer = peer.targetPeer) (hname : next.negotiationId = peer.negotiationId)
    (hown : next.pendingLocalCandidates = peer.pendingLocalCandidates)
    (hremote : next.pendingRemoteCandidates = peer.pendingRemoteCandidates) : Queued next := by
  refine ⟨?_, ?_, ?_⟩
  · rw [hremote]
    exact h.remote
  · rw [hown]
    exact h.own
  · rw [hconnection, htarget, hname, hremote]
    exact h.addressed

theorem Queued.notify (h : Queued peer) (notice : PeerNotice) : Queued (peer.notify notice) := h.same rfl rfl rfl rfl rfl

/-! ## Calls -/

theorem queued_of_cleared (hconnection : next.peerConnection = none) (hown : next.pendingLocalCandidates = [])
    (hremote : next.pendingRemoteCandidates = []) : Queued next := by
  refine ⟨by rw [hremote]; exact Nat.zero_le _, by rw [hown]; exact Nat.zero_le _, fun connection h => ?_⟩
  rw [hconnection] at h
  cases h

theorem Queued.notifyTextCancelled (h : Queued peer) (cancelled : Option String) :
    Queued (peer.notifyTextCancelled cancelled) := by
  cases cancelled with
  | none => exact h
  | some transferId => exact h.notify _

theorem prepareReconnect_queued (peer : RtcPeer) : Queued peer.prepareReconnect := by
  unfold prepareReconnect
  apply Queued.notifyTextCancelled
  apply queued_of_cleared <;> rfl

theorem reset_queued (peer : RtcPeer) : Queued peer.reset := by
  unfold reset
  apply Queued.notifyTextCancelled
  apply queued_of_cleared <;> rfl

theorem Queued.installConnection (h : Queued peer) (target negotiationId : String) (connection : ConnectionId) :
    Queued (peer.installConnection target negotiationId connection) := by
  refine ⟨(List.length_filter_le _ _).trans h.remote, Nat.zero_le _, fun _ _ => ⟨target, negotiationId, rfl, rfl, ?_⟩⟩
  intro entry hin
  obtain ⟨-, hmeant⟩ := List.mem_filter.mp hin
  simpa using hmeant

theorem Queued.ensurePeerConnection (h : Queued peer) (target negotiationId : String) (nowMs : Nat)
    (built : Except String ConnectionId) : Queued (peer.ensurePeerConnection target negotiationId nowMs built).2 := by
  unfold RtcPeer.ensurePeerConnection
  split
  · exact h
  split
  · have hfree : Queued (if peer.hasOtherConnection target negotiationId then peer.reset else peer) := by
      split
      · exact peer.reset_queued
      · exact h
    cases built with
    | error message => exact hfree
    | ok connection => exact hfree.installConnection _ _ _
  · exact h

theorem Queued.startOffer (h : Queued peer) (target : String) (drawn : Except String String) (nowMs : Nat)
    (built : Except String ConnectionId) (channel : ChannelId) :
    Queued (peer.startOffer target drawn nowMs built channel).2 := by
  unfold RtcPeer.startOffer
  split
  · exact h
  cases drawn with
  | error message => exact h
  | ok negotiationId =>
    dsimp only
    have hensured := h.ensurePeerConnection target negotiationId nowMs built
    generalize peer.ensurePeerConnection target negotiationId nowMs built = ensured at hensured ⊢
    obtain ⟨answer, next⟩ := ensured
    cases answer with
    | error error => exact hensured
    | ok opened => exact hensured.same rfl rfl rfl rfl rfl

theorem Queued.prepareOffer (h : Queued peer) (fromPeer negotiationId sdp : String) (nowMs : Nat)
    (built : Except String ConnectionId) : Queued (peer.prepareOffer fromPeer negotiationId sdp nowMs built).2 := by
  unfold RtcPeer.prepareOffer
  split
  · exact h
  have hfree : Queued peer.withoutConnection := by
    unfold withoutConnection
    split
    · exact peer.prepareReconnect_queued
    · exact h
  have hensured := hfree.ensurePeerConnection fromPeer negotiationId nowMs built
  generalize peer.withoutConnection.ensurePeerConnection fromPeer negotiationId nowMs built = ensured at hensured ⊢
  obtain ⟨answer, next⟩ := ensured
  cases answer with
  | error error => exact hensured
  | ok opened => exact hensured

theorem Queued.prepareAnswer (h : Queued peer) (fromPeer negotiationId sdp : String) :
    Queued (peer.prepareAnswer fromPeer negotiationId sdp).2 := by
  unfold RtcPeer.prepareAnswer
  split
  · exact h
  split
  · exact h
  split
  · exact h
  · exact h.same rfl rfl rfl rfl rfl

/-- A candidate that may wait came from the peer that the connection is to. -/
theorem foreign_eq_false (h : peer.foreign fromPeer negotiationId = false) {name : String}
    (htarget : peer.targetPeer = some target) (hname : peer.negotiationId = some name) :
    fromPeer = target ∧ negotiationId = name := by
  unfold foreign at h
  rw [htarget, hname] at h
  simp only [Option.any_some, Bool.or_eq_false_iff, bne_eq_false_iff_eq] at h
  exact ⟨h.1.symm, h.2.symm⟩

theorem Queued.prepareCandidate (h : Queued peer) (fromPeer negotiationId : String) (candidate : Signal) :
    Queued (peer.prepareCandidate fromPeer negotiationId candidate).2 := by
  unfold RtcPeer.prepareCandidate
  split
  · exact h
  rename_i hforeign
  rw [Bool.not_eq_true] at hforeign
  split
  · exact h
  unfold queueCandidate
  split
  · exact h
  rename_i hroom
  refine ⟨?_, h.own, fun connection hconnection => ?_⟩
  · rw [List.length_append, List.length_singleton]
    omega
  · obtain ⟨target, name, htarget, hname, hmeant⟩ := h.addressed connection hconnection
    refine ⟨target, name, htarget, hname, fun entry hin => ?_⟩
    rcases List.mem_append.mp hin with hin | hin
    · exact hmeant entry hin
    · rw [List.mem_singleton.mp hin]
      exact foreign_eq_false hforeign htarget hname

theorem Queued.acceptSignal (h : Queued peer) (fromPeer negotiationId : String) (signal : Signal) (nowMs : Nat)
    (built : Except String ConnectionId) : Queued (peer.acceptSignal fromPeer negotiationId signal nowMs built).2 := by
  have hprepared : Queued (peer.prepareSignalTask fromPeer negotiationId signal nowMs built).2 := by
    cases signal with
    | offer sdp => exact h.prepareOffer fromPeer negotiationId sdp nowMs built
    | answer sdp => exact h.prepareAnswer fromPeer negotiationId sdp
    | iceCandidate candidate sdpMid sdpMLineIndex => exact h.prepareCandidate fromPeer negotiationId _
  unfold RtcPeer.acceptSignal
  generalize peer.prepareSignalTask fromPeer negotiationId signal nowMs built = prepared at hprepared ⊢
  obtain ⟨reply, next⟩ := prepared
  cases reply with
  | error error => exact hprepared
  | ok prepared =>
    cases prepared with
    | task task => exact hprepared
    | deferred => exact hprepared
    | ignored => exact hprepared

/-! ## Tasks -/

theorem Queued.queueOrEmitLocalCandidate (h : Queued peer) (epoch : Nat) (negotiationId : String) (signal : Signal) :
    Queued (peer.queueOrEmitLocalCandidate epoch negotiationId signal) := by
  unfold RtcPeer.queueOrEmitLocalCandidate
  split
  · split
    · exact h
    · split
      · exact h.notify _
      · split
        · rename_i hroom
          refine ⟨h.remote, ?_, h.addressed⟩
          rw [List.length_append, List.length_singleton]
          omega
        · exact h.notify _
  · exact h

theorem Queued.onIceCandidate (h : Queued peer) (epoch : Nat) (negotiationId : String) (candidate : Option LocalCandidate) :
    Queued (peer.onIceCandidate epoch negotiationId candidate) := by
  unfold RtcPeer.onIceCandidate
  split
  · cases candidate with
    | none => exact h
    | some candidate => exact h.queueOrEmitLocalCandidate epoch negotiationId candidate.signal
  · exact h

theorem Queued.emitCandidates (h : Queued peer) (epoch : Nat) (negotiationId toPeerId : String) (candidates : List Signal) :
    Queued (emitCandidates epoch negotiationId toPeerId peer candidates) := by
  induction candidates generalizing peer with
  | nil => exact h
  | cons signal candidates ih =>
    unfold RtcPeer.emitCandidates
    split
    · exact ih (h.notify _)
    · exact h

theorem Queued.announceLocalDescription (h : Queued peer) (epoch : Nat) (negotiationId toPeerId : String) (signal : Signal) :
    Queued (peer.announceLocalDescription epoch negotiationId toPeerId signal) := by
  unfold RtcPeer.announceLocalDescription
  split
  · have hemptied : Queued { peer with localDescriptionAnnounced := true, pendingLocalCandidates := [] } :=
      ⟨h.remote, Nat.zero_le _, h.addressed⟩
    exact (hemptied.notify _).emitCandidates epoch negotiationId toPeerId _
  · exact h

theorem Queued.finishNegotiating (h : Queued peer) (epoch : Nat) : Queued (peer.finishNegotiating epoch) := by
  unfold RtcPeer.finishNegotiating
  split
  · exact h.same rfl rfl rfl rfl rfl
  · exact h

theorem Queued.clearRemoteDescriptionPending (h : Queued peer) (epoch : Nat) (negotiationId : String) :
    Queued (peer.clearRemoteDescriptionPending epoch negotiationId) := by
  unfold RtcPeer.clearRemoteDescriptionPending
  split
  · exact h.same rfl rfl rfl rfl rfl
  · exact h

theorem Queued.remoteDescribed (h : Queued peer) (negotiation : Negotiation)
    (readable : Signal → Except BrowserPlatformError Unit) (answering : Option String) :
    Queued (peer.remoteDescribed negotiation readable answering).2 := by
  unfold RtcPeer.remoteDescribed markRemoteDescriptionSet
  by_cases hcurrent : peer.connectionEpochIsCurrent negotiation.epoch = true
  · rw [if_pos hcurrent]
    dsimp only
    have hset : Queued { peer with remoteDescriptionPending := false, remoteDescriptionSet := true } :=
      h.same rfl rfl rfl rfl rfl
    unfold takePendingCandidates
    split
    · refine ⟨Nat.zero_le _, hset.own, fun connection hconnection => ?_⟩
      obtain ⟨target, name, htarget, hname, -⟩ := hset.addressed connection hconnection
      exact ⟨target, name, htarget, hname, by simp⟩
    · exact hset
  · rw [if_neg hcurrent]
    exact h

theorem Queued.fulfilled (h : Queued peer) (negotiation : Negotiation) (readable : Signal → Except BrowserPlatformError Unit)
    (localSdp : Except BrowserPlatformError String) (stage : SignalStage) :
    Queued (peer.fulfilled negotiation readable localSdp stage).2 := by
  cases stage with
  | creatingOffer toPeer => exact h
  | creatingAnswer toPeer => exact h
  | addingCandidate candidate => exact h
  | settingOffer toPeer =>
    cases localSdp with
    | error error => exact h
    | ok sdp => exact (h.finishNegotiating _).announceLocalDescription _ _ _ _
  | settingAnswer toPeer =>
    cases localSdp with
    | error error => exact h
    | ok sdp => exact h.announceLocalDescription _ _ _ _
  | settingRemoteOffer toPeer sdp => exact h.remoteDescribed negotiation readable _
  | settingRemoteAnswer sdp => exact h.remoteDescribed negotiation readable _
  | addingPending candidate rest answering =>
    have hsame : (peer.fulfilled negotiation readable localSdp (.addingPending candidate rest answering)).2 = peer := by
      simp only [RtcPeer.fulfilled]
      split <;> rfl
    rw [hsame]
    exact h

theorem Queued.continueTask (h : Queued peer) (negotiation : Negotiation)
    (readable : Signal → Except BrowserPlatformError Unit) (localSdp : Except BrowserPlatformError String)
    (result : Except BrowserPlatformError Unit) (stage : SignalStage) :
    Queued (peer.continueTask negotiation readable localSdp result stage).2 := by
  unfold RtcPeer.continueTask
  split
  · exact h
  · exact h
  · exact h.fulfilled negotiation readable localSdp stage

theorem Queued.taskFailed (h : Queued peer) (negotiation : Negotiation) (stage : SignalStage) (error : BrowserPlatformError) :
    Queued (peer.taskFailed negotiation stage error) := by
  unfold RtcPeer.taskFailed
  split
  · apply Queued.notify
    split
    · exact h.finishNegotiating _
    · exact h.clearRemoteDescriptionPending _ _
  · exact h

end RtcPeer

namespace Signalling

open RtcPeer (Queued)

variable {s : Signalling}

theorem queued_progressed {n : Nat} {task : SignalTask} {peer : RtcPeer} (h : Queued peer) (progress : Progressed) :
    Queued (s.progressed n task peer progress).peer := by
  cases progress with
  | waits stage => exact h
  | done => exact h
  | failed error => exact h.taskFailed _ _ _

theorem queued_startOffer (h : Queued s.peer) (targetPeer : String) (drawn : Except String String) (nowMs : Nat)
    (built : Except String Unit) (channel : ChannelId) :
    Queued (s.startOffer targetPeer drawn nowMs built channel).peer := by
  have hnext := h.startOffer targetPeer drawn nowMs (s.nextConnection built) channel
  unfold Signalling.startOffer
  generalize s.peer.startOffer targetPeer drawn nowMs (s.nextConnection built) channel = called at hnext ⊢
  obtain ⟨answer, next⟩ := called
  dsimp only
  split <;> exact hnext

theorem queued_acceptSignal (h : Queued s.peer) (fromPeer negotiationId : String) (signal : Signal) (nowMs : Nat)
    (built : Except String Unit) : Queued (s.acceptSignal fromPeer negotiationId signal nowMs built).peer := by
  have hnext := h.acceptSignal fromPeer negotiationId signal nowMs (s.nextConnection built)
  unfold Signalling.acceptSignal
  generalize s.peer.acceptSignal fromPeer negotiationId signal nowMs (s.nextConnection built) = called at hnext ⊢
  obtain ⟨answer, next⟩ := called
  dsimp only
  split <;> exact hnext

theorem queued_step {input : SignalInput} {s' : Signalling} (h : Queued s.peer) (hstep : s.Next input s') :
    Queued s'.peer := by
  unfold Next at hstep
  cases input with
  | startOffer targetPeer drawn nowMs built channel =>
    cases hstep
    exact queued_startOffer h targetPeer drawn nowMs built channel
  | acceptSignal fromPeer negotiationId signal nowMs built =>
    cases hstep
    exact queued_acceptSignal h fromPeer negotiationId signal nowMs built
  | prepareReconnect =>
    cases hstep
    exact s.peer.prepareReconnect_queued
  | reset =>
    cases hstep
    exact s.peer.reset_queued
  | replaceConfig validUntilMs =>
    cases hstep
    exact h.same rfl rfl rfl rfl rfl
  | iceCandidate epoch negotiationId candidate =>
    cases hstep
    exact h.onIceCandidate epoch negotiationId candidate
  | poll n readable localSdp =>
    change s.poll n readable localSdp = some s' at hstep
    unfold Signalling.poll at hstep
    split at hstep
    · cases hstep
    split at hstep
    · cases hstep
      exact queued_progressed h _
    · cases hstep
    · rename_i task _ _ result _
      cases hstep
      exact queued_progressed (h.continueTask task.negotiation readable localSdp result task.stage) _
  | settle n result =>
    change s.settle n result = some s' at hstep
    unfold Signalling.settle at hstep
    split at hstep
    · cases hstep
    split at hstep
    · cases hstep
      exact h
    · cases hstep
    · cases hstep
  | elsewhere peer =>
    change (if peer.connectionEpoch = s.peer.connectionEpoch ∧ peer.targetPeer = s.peer.targetPeer then
      some (s.moved { s.peer with toPeer := peer }) else none) = some s' at hstep
    split at hstep
    · rename_i hsame
      cases hstep
      exact h.same rfl hsame.2 rfl rfl rfl
    · cases hstep

/-- **Whatever the application, the other side and the browser do, both queues of candidates stay within their limit, and what
waits for a connection is meant for it.** -/
theorem candidates_confined {start s : Signalling} {inputs : List SignalInput} (hstart : start.Fresh)
    (hown : start.peer.pendingLocalCandidates = []) (hrun : Run Next start inputs s) : Queued s.peer := by
  have hfresh : Queued start.peer :=
    RtcPeer.queued_of_cleared hstart.peerConnection hown hstart.pendingRemoteCandidates
  exact hrun.invariant (I := fun s => Queued s.peer) (fun _ _ _ h hstep => queued_step h hstep) hfresh

/-- More candidates are gathered than may wait. -/
theorem candidates_confined_overflow :
    ∃ s, Run Next overflowStart overflowInputs s ∧ Queued s.peer := by
  obtain ⟨s, hend, -⟩ := Option.map_eq_some_iff.mp overflow_counts
  have hrun : Run Next overflowStart overflowInputs s := Run.of_follow hend
  exact ⟨s, hrun, candidates_confined overflowStart_fresh rfl hrun⟩

end Signalling

end P2PTransmission.Rtc
