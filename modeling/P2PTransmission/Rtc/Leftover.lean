import P2PTransmission.Rtc.Senders

/-!
# Tasks of an earlier generation

A task that is left over from an earlier generation sends at most the chunk that it was reading, and the commit of the
segment if the chunk was its last, on the channel that it was started on. The committed checkpoint stays as it is, and if
the channel is not the open one any more nothing changes at all.
-/

set_option autoImplicit false

namespace P2PTransmission.Rtc

/-- What every generation of a transfer starts from. -/
def OutgoingState.checkpoint (outgoing : OutgoingState) :
    Nat × List (BinaryId × TransferFile × Nat × Hasher × Option String) :=
  (outgoing.generation, outgoing.files.map (·.committed))

namespace Peer

/-- The outgoing transfer is not of the generation. -/
def Left (peer : Peer) (generation : Nat) : Prop :=
  ∀ outgoing, peer.outgoing = some outgoing → outgoing.generation ≠ generation

/-- What a task does that was started on the channel: it sends on that channel only and leaves the checkpoint alone; if the
channel is not open it leaves everything alone. -/
structure Lags (channel : Option ChannelId) (peer next : Peer) : Prop where
  sent : ∃ frames, next.sent = peer.sent ++ frames ∧ ∀ frame ∈ frames, channel = some frame.1
  checkpoint : next.outgoing.map (·.checkpoint) = peer.outgoing.map (·.checkpoint)
  closed : (∀ c, channel = some c → peer.dataChannel ≠ some ⟨c, true⟩) → next.sent = peer.sent ∧
    next.outgoing.map (fun outgoing => (outgoing.pendingAck, outgoing.sentBytes)) =
      peer.outgoing.map fun outgoing => (outgoing.pendingAck, outgoing.sentBytes)

section Lags

variable {channel : Option ChannelId} {c : ChannelId} {peer next last : Peer}

theorem Lags.of_eq (hsent : next.sent = peer.sent) (houtgoing : next.outgoing = peer.outgoing) :
    peer.Lags channel next where
  sent := ⟨[], by rw [hsent, List.append_nil], by simp⟩
  checkpoint := by rw [houtgoing]
  closed _ := by rw [houtgoing]; exact ⟨hsent, rfl⟩

/-- The digest that is expected of a file is no part of the checkpoint. -/
theorem Lags.withExpectedHash (peer : Peer) (fileIndex : Nat) (digest : String) :
    peer.Lags channel (peer.withOutgoing (Peer.withExpectedHash · fileIndex digest)) where
  sent := ⟨[], (List.append_nil _).symm, by simp⟩
  checkpoint := by
    show (peer.outgoing.map _).map _ = _
    rw [Option.map_map]
    congr 1
    funext outgoing
    have hfollows := Passes.follows_withExpectedHash outgoing fileIndex digest
    exact Prod.ext rfl hfollows.committed
  closed _ := by
    refine ⟨rfl, ?_⟩
    show (peer.outgoing.map _).map _ = _
    rw [Option.map_map]
    rfl

theorem Lags.trans (h : peer.Lags channel next) (h' : next.Lags channel last)
    (hchannel : next.dataChannel = peer.dataChannel) : peer.Lags channel last where
  sent := by
    obtain ⟨frames, hframes, hall⟩ := h.sent
    obtain ⟨frames', hframes', hall'⟩ := h'.sent
    refine ⟨frames ++ frames', by rw [hframes', hframes, List.append_assoc], fun frame hmem => ?_⟩
    rcases List.mem_append.mp hmem with hmem | hmem
    · exact hall frame hmem
    · exact hall' frame hmem
  checkpoint := h'.checkpoint.trans h.checkpoint
  closed hclosed := by
    obtain ⟨hsent, hrest⟩ := h.closed hclosed
    obtain ⟨hsent', hrest'⟩ := h'.closed (by rw [hchannel]; exact hclosed)
    exact ⟨hsent'.trans hsent, hrest'.trans hrest⟩

end Lags

/-! ## A task that is left over -/

section Streamed

variable {transferId : String} {generation : Nat} {peer : Peer} {n : TaskId}

theorem Left.not_matches (h : peer.Left generation) (transferId : String) :
    peer.outgoingGenerationMatches transferId generation = false := by
  unfold outgoingGenerationMatches
  cases hout : peer.outgoing with
  | none => rfl
  | some outgoing => simp [h outgoing hout]

theorem Left.sendEnded (h : peer.Left generation) (answer : Answer) :
    peer.sendEnded n transferId generation answer = peer.sendAt n transferId generation .finished := by
  have hleft : (peer.sendAt n transferId generation .finished).Left generation := h
  unfold Peer.sendEnded
  dsimp only
  cases answer with
  | ok => rfl
  | error error =>
    dsimp only
    rw [hleft.not_matches transferId]
    rfl

theorem Left.sendFailed (h : peer.Left generation) (message : String) :
    peer.sendFailed n transferId generation message = peer.sendAt n transferId generation .finished := h.sendEnded _

theorem Left.withOutgoing (h : peer.Left generation) {change : OutgoingState → OutgoingState}
    (hchange : ∀ outgoing, (change outgoing).generation = outgoing.generation) :
    (peer.withOutgoing change).Left generation := by
  intro now hnow
  obtain ⟨outgoing, hout, rfl⟩ := Option.map_eq_some_iff.mp hnow
  rw [hchange]
  exact h outgoing hout

variable [Blake3] {loop : SendLoop}

omit [Blake3] in
theorem Left.sendChunk (h : peer.Left generation) (file : SendFile) (segment : SendSegment) (congested : Bool) :
    peer.sendChunk n transferId generation loop file segment congested =
      peer.sendAt n transferId generation .finished := by
  unfold Peer.sendChunk
  rw [h.not_matches transferId, if_pos (by simp)]
  exact h.sendEnded _

theorem Left.sendFiles (h : peer.Left generation) (congested : Bool) (rest : Nat) (loop : SendLoop) :
    Peer.sendFiles n transferId generation congested rest peer loop =
      peer.sendAt n transferId generation .finished := by
  cases rest with
  | zero =>
    show peer.sendStreamComplete n transferId generation loop = _
    unfold Peer.sendStreamComplete
    rw [h.not_matches transferId, if_pos (by simp)]
    exact h.sendEnded _
  | succ rest =>
    unfold Peer.sendFiles
    cases hout : peer.outgoing with
    | none => exact h.sendFailed _
    | some outgoing =>
      dsimp only
      rw [if_pos (h outgoing hout)]
      exact h.sendEnded _

end Streamed

section Buffered

variable {transferId : String} {generation : Nat} {peer : Peer} {n : TaskId} [Blake3]

end Buffered

/-- Only a streamed transfer has generations to leave behind. -/
theorem Left.streamed {transferId : String} {generation : Nat} {peer : Peer} {n : TaskId} (h : peer.Left generation)
    (hsolo : peer.Solo transferId) (hrun : peer.Runs n transferId generation) (outgoing : OutgoingState)
    (hout : peer.outgoing = some outgoing) : outgoing.isStreamed = true := by
  cases hmode : outgoing.isStreamed with
  | true => rfl
  | false => exact absurd ((hsolo.generation n generation outgoing hrun hout).2 hmode).symm (h outgoing hout)

theorem Left.startSending [Blake3] {transferId : String} {generation : Nat} {peer : Peer} {n : TaskId}
    (h : peer.Left generation) (hstreamed : ∀ outgoing, peer.outgoing = some outgoing → outgoing.isStreamed = true) :
    peer.startSending n transferId generation = peer.sendAt n transferId generation .finished := by
  unfold Peer.startSending
  cases hout : peer.outgoing with
  | none => exact h.sendFailed _
  | some outgoing =>
    have hmode := hstreamed outgoing hout
    unfold OutgoingState.isStreamed at hmode
    dsimp only
    split
    · rename_i hbuffered
      rw [hbuffered] at hmode
      cases hmode
    · unfold Peer.startStreamed
      rw [if_pos (h outgoing hout), h.sendEnded]

end Peer

end P2PTransmission.Rtc
