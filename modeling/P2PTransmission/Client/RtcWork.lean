import P2PTransmission.Client.RtcTransitions

/-!
# Pending work of the connections

Over any run of transitions a token is claimed at most once, and only if nothing has happened to the pending work of its peer
since it was issued; no peer has more than one piece of work that can be claimed; and the phase that is shown is that of all
peers. The generations come round after 2^64 changes, and then an old token can be claimed again (`stale_token_claimed`).

The transitions are a refinement of the board of `WorkTokens`: each of them does what its events do there (`step_refines`).
-/

set_option autoImplicit false

namespace P2PTransmission

open Rtc (RtcConnectionPhase)
open WorkTokens (Token Slot Board Event Step Steps creations bumps)

/-! ## Transitions -/

inductive RtcTransition where
  | ensureRtcPeer (peerId : String) (refused : Option String)
  | removeRtcPeer (peerId : String)
  | resetAllRtcPeers
  | beginOutgoingRecovery (peerId : String)
  | finishOutgoingRecovery (peerId : String) (instanceGeneration : Nat)
  | beginOwnerOffer (peerId : String) (instanceGeneration attempt : Nat)
  | advanceOwnerTimeout (peerId : String) (token : Token) (attempt : Nat) (retryDelayMs : Option Nat)
  | claimOwnerRetry (peerId : String) (token : Token) (nextAttempt : Nat)
  | markPeerStartFailed (peerId : String) (instanceGeneration : Nat)
  | beginPassiveDeadline (peerId : String)
  | claimDisconnectedDeadline (peerId : String) (token : Token)
  | claimPassiveDeadline (peerId : String) (token : Token)
  | markDataChannelReady (peerId : String)
  | resetPeerWaiting (peerId : String)
  | reduceConnectionState (peerId : String) (role : RoomRole) (connectionPhase : RtcConnectionPhase)
  | setPeerTransferLinkState (peerId : String) (linkState : TransferLinkState)
  | setPeerRtcError (peerId message : String)
  | clearPeerRtcError (peerId : String)

abbrev WorkEvent := Event String PendingRtcWork

namespace RtcModel

variable (model : RtcModel)

/-- The model after a transition, and what has happened to the pending work, the oldest event first. -/
def step : RtcTransition → RtcModel × List WorkEvent
  | .ensureRtcPeer peerId refused =>
    (model.ensureRtcPeer peerId refused,
      match refused with
      | none => [.created peerId]
      | some _ => [.created peerId, .invalidated peerId])
  | .removeRtcPeer peerId => (model.removeRtcPeer peerId, [.removed peerId])
  | .resetAllRtcPeers => (model.resetAllRtcPeers, model.rtcPeerStates.toList.map fun entry => .removed entry.1)
  | .beginOutgoingRecovery peerId => ((model.beginOutgoingRecovery peerId).2, [])
  | .finishOutgoingRecovery peerId instanceGeneration => ((model.finishOutgoingRecovery peerId instanceGeneration).2, [])
  | .beginOwnerOffer peerId instanceGeneration attempt =>
    ((model.beginOwnerOffer peerId instanceGeneration attempt).2,
      match (model.beginOwnerOffer peerId instanceGeneration attempt).1 with
      | none => []
      | some token => [.issued peerId token (.ownerOfferTimeout attempt)])
  | .advanceOwnerTimeout peerId token attempt retryDelayMs =>
    ((model.advanceOwnerTimeout peerId token attempt retryDelayMs).2,
      match (model.advanceOwnerTimeout peerId token attempt retryDelayMs).1 with
      | .ignore => []
      | .retry next nextAttempt _ =>
        [.claimed peerId token (.ownerOfferTimeout attempt), .issued peerId next (.ownerRetryDelay nextAttempt)]
      | .failed _ => [.claimed peerId token (.ownerOfferTimeout attempt), .invalidated peerId])
  | .claimOwnerRetry peerId token nextAttempt =>
    ((model.claimOwnerRetry peerId token nextAttempt).2,
      match (model.claimOwnerRetry peerId token nextAttempt).1 with
      | false => []
      | true => [.claimed peerId token (.ownerRetryDelay nextAttempt)])
  | .markPeerStartFailed peerId instanceGeneration =>
    ((model.markPeerStartFailed peerId instanceGeneration).2,
      match (model.markPeerStartFailed peerId instanceGeneration).1 with
      | none => []
      | some _ => [.invalidated peerId])
  | .beginPassiveDeadline peerId =>
    ((model.beginPassiveDeadline peerId).2,
      match (model.beginPassiveDeadline peerId).1 with
      | none => []
      | some token => [.issued peerId token .passiveDeadline])
  | .claimDisconnectedDeadline peerId token =>
    ((model.claimDisconnectedDeadline peerId token).2,
      match (model.claimDisconnectedDeadline peerId token).1 with
      | false => []
      | true => [.claimed peerId token .disconnectedDeadline, .invalidated peerId])
  | .claimPassiveDeadline peerId token =>
    ((model.claimPassiveDeadline peerId token).2,
      match (model.claimPassiveDeadline peerId token).1 with
      | .ignore => []
      | .failed _ => [.claimed peerId token .passiveDeadline, .invalidated peerId])
  | .markDataChannelReady peerId =>
    ((model.markDataChannelReady peerId).2,
      match model.rtcPeerStates[peerId]? with
      | none => []
      | some _ => [.invalidated peerId])
  | .resetPeerWaiting peerId =>
    ((model.resetPeerWaiting peerId).2,
      match (model.resetPeerWaiting peerId).1 with
      | false => []
      | true => [.invalidated peerId])
  | .reduceConnectionState peerId role connectionPhase =>
    ((model.reduceConnectionState peerId role connectionPhase).2,
      match (model.reduceConnectionState peerId role connectionPhase).1 with
      | .none => []
      | .restartOffer | .armPassiveDeadline => [.invalidated peerId]
      | .waitForReconnect token => [.issued peerId token .disconnectedDeadline])
  | .setPeerTransferLinkState peerId linkState => ((model.setPeerTransferLinkState peerId linkState).2, [])
  | .setPeerRtcError peerId message => (model.setPeerRtcError peerId message, [])
  | .clearPeerRtcError peerId => (model.clearPeerRtcError peerId, [])

/-! ## Frames -/

variable (peerId : String)

/-- Nothing but errors, transfers and the phase that is shown is changed. -/
structure Frames (after : RtcModel) : Prop where
  states : after.rtcPeerStates = model.rtcPeerStates
  generation : after.rtcPeerGeneration = model.rtcPeerGeneration
  screen : after.screen = model.screen

variable {model} {middle after : RtcModel}

theorem Frames.trans (h : model.Frames middle) (h' : middle.Frames after) : model.Frames after :=
  ⟨h'.states.trans h.states, h'.generation.trans h.generation, h'.screen.trans h.screen⟩

variable (model)

theorem frames_refreshAggregateRtc : model.Frames model.refreshAggregateRtc := ⟨rfl, rfl, rfl⟩

theorem frames_setPeerRtcError (message : String) : model.Frames (model.setPeerRtcError peerId message) := ⟨rfl, rfl, rfl⟩

theorem frames_clearPeerRtcError : model.Frames (model.clearPeerRtcError peerId) := by
  unfold clearPeerRtcError
  split
  · exact ⟨rfl, rfl, rfl⟩
  · exact ⟨rfl, rfl, rfl⟩

theorem frames_setPeerTransferLinkState (linkState : TransferLinkState) :
    model.Frames (model.setPeerTransferLinkState peerId linkState).2 := by
  unfold setPeerTransferLinkState
  cases model.transfersByPeer[peerId]? with
  | none => exact ⟨rfl, rfl, rfl⟩
  | some transfer =>
    cases transfer with
    | active transfer =>
      dsimp only
      split
      · exact ⟨rfl, rfl, rfl⟩
      · exact ⟨rfl, rfl, rfl⟩
    | idle | offering | outgoingRecovery | incoming | rejected | completed | cancelled | failed => exact ⟨rfl, rfl, rfl⟩

/-! ## The phase that is shown -/

/-- The phase that is shown is that of all peers. -/
def Shows : Prop := model.rtcAggregatePhase = aggregatePhase model.screen model.rtcPeerStates

theorem hasPhase_iff {peers : BTreeMap String PeerRtcState} {phase : RtcPhase} :
    hasPhase peers phase = true ↔
      ∃ (peerId : String) (peerState : PeerRtcState), peers[peerId]? = some peerState ∧ peerState.phase = phase := by
  have hany : hasPhase peers phase = true ↔ _ :=
    BTreeMap.any_toList (p := fun (_ : String) (peerState : PeerRtcState) => decide (peerState.phase = phase))
  simpa using hany

theorem isEmpty_iff_phases {peers : BTreeMap String PeerRtcState} :
    peers.isEmpty = true ↔ ∀ peerId : String, peers[peerId]?.map PeerRtcState.phase = none := by
  rw [Std.ExtTreeMap.isEmpty_iff]
  constructor
  · rintro rfl peerId
    simp
  · intro h
    refine Std.ExtTreeMap.ext_getElem? fun peerId => ?_
    rw [Option.map_eq_none_iff.mp (h peerId)]
    simp

/-- Peers of the same phases. -/
theorem aggregatePhase_congr {screen : Screen} {peers peers' : BTreeMap String PeerRtcState}
    (h : ∀ peerId : String, peers'[peerId]?.map PeerRtcState.phase = peers[peerId]?.map PeerRtcState.phase) :
    aggregatePhase screen peers' = aggregatePhase screen peers := by
  have hphase : ∀ phase, hasPhase peers' phase = hasPhase peers phase := by
    intro phase
    rw [Bool.eq_iff_iff, hasPhase_iff, hasPhase_iff]
    have hmem : ∀ {map : BTreeMap String PeerRtcState} {peerId : String},
        (∃ peerState, map[peerId]? = some peerState ∧ peerState.phase = phase) ↔
          map[peerId]?.map PeerRtcState.phase = some phase := fun {map peerId} => Option.map_eq_some_iff.symm
    simp only [hmem, h]
  have hempty : peers'.isEmpty = peers.isEmpty := by
    rw [Bool.eq_iff_iff, isEmpty_iff_phases, isEmpty_iff_phases]
    exact forall_congr' fun peerId => by rw [h]
  unfold aggregatePhase
  simp only [hphase, hempty]

variable {model peerId} {peerState : PeerRtcState}

theorem Shows.frames (h : model.Shows) (hframes : model.Frames after)
    (hphase : after.rtcAggregatePhase = model.rtcAggregatePhase) : after.Shows := by
  rw [Shows, hphase, h, hframes.screen, hframes.states]

/-- The phase of the peer stays. -/
theorem Shows.setState (h : model.Shows) {next : PeerRtcState} (hpeer : model.rtcPeerStates[peerId]? = some peerState)
    (hphase : next.phase = peerState.phase) : (model.setState peerId next).Shows := by
  refine Eq.trans h (aggregatePhase_congr fun other => ?_).symm
  show (model.rtcPeerStates.insert peerId next)[other]?.map _ = _
  rw [BTreeMap.getElem?_insert]
  split
  · rename_i hother
    rw [← hother, hpeer, Option.map_some, Option.map_some, hphase]
  · rfl

/-! ## The board -/

end RtcModel

def PeerRtcState.slot (peerState : PeerRtcState) : Slot PendingRtcWork :=
  ⟨peerState.instanceGeneration, peerState.workGeneration, peerState.pendingWork⟩

namespace RtcModel

variable (model : RtcModel) {after : RtcModel} {peerId : String} {peerState : PeerRtcState}

/-- The pending work of the peers. -/
def board : Board String PendingRtcWork where
  generation := model.rtcPeerGeneration
  slots peerId := model.rtcPeerStates[peerId]?.map PeerRtcState.slot

variable {model}

theorem Frames.board (h : model.Frames after) : after.board = model.board := by
  unfold RtcModel.board
  rw [h.states, h.generation]

theorem board_setState (next : PeerRtcState) : (model.setState peerId next).board =
    { model.board with slots := Function.update model.board.slots peerId (some next.slot) } := by
  have hslots : (model.setState peerId next).board.slots = Function.update model.board.slots peerId (some next.slot) := by
    funext other
    show (model.rtcPeerStates.insert peerId next)[other]?.map _ = _
    rw [BTreeMap.getElem?_insert]
    by_cases hother : peerId = other
    · rw [if_pos hother, ← hother, Function.update_self]
      rfl
    · rw [if_neg hother, Function.update_of_ne (Ne.symm hother)]
      rfl
  rw [← hslots]
  rfl

theorem slots_of (h : model.rtcPeerStates[peerId]? = some peerState) : model.board.slots peerId = some peerState.slot := by
  show model.rtcPeerStates[peerId]?.map _ = _
  rw [h]
  rfl

/-- What the events do to the board is done to the model, and the phase that is shown stays right. -/
structure Refines (model : RtcModel) (events : List WorkEvent) (after : RtcModel) : Prop where
  steps : Steps GENERATIONS model.board events after.board
  shows : model.Shows → after.Shows

theorem Refines.of_frames (h : model.Frames after) (hshows : model.Shows → after.Shows) : Refines model [] after :=
  ⟨h.board ▸ Steps.nil _, hshows⟩

theorem Refines.refl : Refines model [] model := ⟨Steps.nil _, fun h => h⟩

section Changes

variable (hpeer : model.rtcPeerStates[peerId]? = some peerState)
include hpeer

/-- The entry of the peer is changed, and its work is not. -/
theorem Refines.phase {next : PeerRtcState} (hslot : next.slot = peerState.slot)
    (hframes : (model.setState peerId next).Frames after) (hshows : model.Shows → after.Shows) :
    Refines model [] after := by
  refine ⟨?_, hshows⟩
  rw [hframes.board, board_setState, hslot, ← slots_of hpeer, Function.update_eq_self]
  exact Steps.nil _

theorem Refines.issued {next : PeerRtcState} {work : PendingRtcWork} (hslot : next.slot = (peerState.armWork work).slot)
    (hframes : (model.setState peerId next).Frames after) (hshows : model.Shows → after.Shows) :
    Refines model [.issued peerId peerState.armedToken work] after := by
  refine ⟨?_, hshows⟩
  rw [hframes.board, board_setState, hslot]
  exact .cons (.issued work (slots_of hpeer)) (.nil _)

theorem Refines.invalidated {next : PeerRtcState} (hslot : next.slot = peerState.invalidateWork.slot)
    (hframes : (model.setState peerId next).Frames after) (hshows : model.Shows → after.Shows) :
    Refines model [.invalidated peerId] after := by
  refine ⟨?_, hshows⟩
  rw [hframes.board, board_setState, hslot]
  exact .cons (.invalidated (slots_of hpeer)) (.nil _)

variable {token : Token} {work : PendingRtcWork} (hcurrent : peerState.workIsCurrent token work = true)
include hcurrent

theorem step_claimed : Step GENERATIONS model.board (.claimed peerId token work)
    (model.setState peerId { peerState with pendingWork := none }).board := by
  unfold PeerRtcState.workIsCurrent at hcurrent
  simp only [Bool.and_eq_true, beq_iff_eq] at hcurrent
  obtain ⟨⟨hinstance, hwork⟩, hpending⟩ := hcurrent
  have htoken : token = peerState.slot.token := by
    rw [Slot.token, PeerRtcState.slot, hinstance, hwork]
  rw [board_setState, htoken]
  exact .claimed (slots_of hpeer) hpending

/-- A claim, and then another change of the same entry. -/
theorem Refines.claimed {next : PeerRtcState} {event : WorkEvent}
    (h : ∀ middle : RtcModel, middle.rtcPeerStates[peerId]? = some { peerState with pendingWork := none } →
      Step GENERATIONS middle.board event (middle.setState peerId next).board)
    (hframes : (model.setState peerId next).Frames after) (hshows : model.Shows → after.Shows) :
    Refines model [.claimed peerId token work, event] after := by
  refine ⟨.cons (step_claimed hpeer hcurrent) (.cons ?_ (.nil _)), hshows⟩
  have hstep := h (model.setState peerId { peerState with pendingWork := none })
    (by rw [setState, BTreeMap.getElem?_insert, if_pos rfl])
  have hsame : ((model.setState peerId { peerState with pendingWork := none }).setState peerId next).board =
      (model.setState peerId next).board := by
    simp only [board_setState, Function.update_idem]
  rwa [hsame, ← hframes.board] at hstep

end Changes

/-! ## The transitions -/

variable (model : RtcModel) {after : RtcModel} (peerId : String)

/-- The phase is computed again. -/
theorem shows_refreshAggregateRtc : model.refreshAggregateRtc.Shows := rfl

theorem refines_markPeerStartFailed (instanceGeneration : Nat) :
    Refines model (model.step (.markPeerStartFailed peerId instanceGeneration)).2
      (model.markPeerStartFailed peerId instanceGeneration).2 := by
  unfold step markPeerStartFailed
  dsimp only
  cases hpeer : model.rtcPeerStates[peerId]? with
  | none => exact Refines.refl
  | some peerState =>
    dsimp only
    by_cases hother : peerState.instanceGeneration ≠ instanceGeneration
    · rw [if_pos hother]
      exact Refines.refl
    · rw [if_neg hother]
      refine Refines.invalidated hpeer ?_
        ((frames_setPeerTransferLinkState _ _ _).trans (frames_refreshAggregateRtc _)) fun _ => rfl
      rfl

theorem refines_beginOwnerOffer (instanceGeneration attempt : Nat) :
    Refines model (model.step (.beginOwnerOffer peerId instanceGeneration attempt)).2
      (model.beginOwnerOffer peerId instanceGeneration attempt).2 := by
  unfold step beginOwnerOffer
  dsimp only
  cases hpeer : model.rtcPeerStates[peerId]? with
  | none => exact Refines.refl
  | some peerState =>
    dsimp only
    by_cases hother : peerState.instanceGeneration ≠ instanceGeneration
    · rw [if_pos hother]
      exact Refines.refl
    · rw [if_neg hother]
      refine Refines.issued hpeer ?_ ((frames_clearPeerRtcError _ _).trans
        ((frames_setPeerTransferLinkState _ _ _).trans (frames_refreshAggregateRtc _))) fun _ => rfl
      rfl

theorem refines_advanceOwnerTimeout (token : Token) (attempt : Nat) (retryDelayMs : Option Nat) :
    Refines model (model.step (.advanceOwnerTimeout peerId token attempt retryDelayMs)).2
      (model.advanceOwnerTimeout peerId token attempt retryDelayMs).2 := by
  unfold step advanceOwnerTimeout
  dsimp only
  cases hpeer : model.rtcPeerStates[peerId]? with
  | none => exact Refines.refl
  | some peerState =>
    dsimp only
    by_cases hcurrent : peerState.workIsCurrent token (.ownerOfferTimeout attempt) = true
    case neg =>
      rw [if_pos (by simpa using hcurrent)]
      exact Refines.refl
    case pos =>
      rw [if_neg (by simpa using hcurrent)]
      cases retryDelayMs with
      | none =>
        refine Refines.claimed hpeer hcurrent (fun middle hmiddle => ?_)
          ((frames_setPeerTransferLinkState _ _ _).trans (frames_refreshAggregateRtc _)) fun _ => rfl
        rw [board_setState]
        exact .invalidated (slots_of hmiddle)
      | some delayMs =>
        refine Refines.claimed hpeer hcurrent (fun middle hmiddle => ?_) ⟨rfl, rfl, rfl⟩ fun h => h.setState hpeer rfl
        rw [board_setState]
        exact .issued _ (slots_of hmiddle)

theorem refines_claimOwnerRetry (token : Token) (nextAttempt : Nat) :
    Refines model (model.step (.claimOwnerRetry peerId token nextAttempt)).2
      (model.claimOwnerRetry peerId token nextAttempt).2 := by
  unfold step claimOwnerRetry
  dsimp only
  cases hpeer : model.rtcPeerStates[peerId]? with
  | none => exact Refines.refl
  | some peerState =>
    dsimp only
    by_cases hcurrent : peerState.workIsCurrent token (.ownerRetryDelay nextAttempt) = true
    case neg =>
      rw [if_pos (by simpa using hcurrent)]
      exact Refines.refl
    case pos =>
      rw [if_neg (by simpa using hcurrent)]
      exact ⟨.cons (step_claimed hpeer hcurrent) (.nil _), fun h => h.setState hpeer rfl⟩

theorem refines_beginPassiveDeadline :
    Refines model (model.step (.beginPassiveDeadline peerId)).2 (model.beginPassiveDeadline peerId).2 := by
  unfold step beginPassiveDeadline
  dsimp only
  cases hpeer : model.rtcPeerStates[peerId]? with
  | none => exact Refines.refl
  | some peerState =>
    refine Refines.issued hpeer ?_ ((frames_clearPeerRtcError _ _).trans (frames_refreshAggregateRtc _)) fun _ => rfl
    rfl

theorem refines_claimDisconnectedDeadline (token : Token) :
    Refines model (model.step (.claimDisconnectedDeadline peerId token)).2
      (model.claimDisconnectedDeadline peerId token).2 := by
  unfold step claimDisconnectedDeadline
  dsimp only
  cases hpeer : model.rtcPeerStates[peerId]? with
  | none => exact Refines.refl
  | some peerState =>
    dsimp only
    by_cases hcurrent : peerState.workIsCurrent token .disconnectedDeadline = true
    case neg =>
      rw [if_pos (by simpa using hcurrent)]
      exact Refines.refl
    case pos =>
      rw [if_neg (by simpa using hcurrent)]
      refine Refines.claimed hpeer hcurrent (fun middle hmiddle => ?_) ⟨rfl, rfl, rfl⟩ fun h => h.setState hpeer rfl
      rw [board_setState]
      exact .invalidated (slots_of hmiddle)

theorem refines_claimPassiveDeadline (token : Token) :
    Refines model (model.step (.claimPassiveDeadline peerId token)).2 (model.claimPassiveDeadline peerId token).2 := by
  unfold step claimPassiveDeadline
  dsimp only
  cases hpeer : model.rtcPeerStates[peerId]? with
  | none => exact Refines.refl
  | some peerState =>
    dsimp only
    by_cases hcurrent : peerState.workIsCurrent token .passiveDeadline = true
    case neg =>
      rw [if_pos (by simpa using hcurrent)]
      exact Refines.refl
    case pos =>
      rw [if_neg (by simpa using hcurrent)]
      refine Refines.claimed hpeer hcurrent (fun middle hmiddle => ?_)
        ((frames_setPeerTransferLinkState _ _ _).trans (frames_refreshAggregateRtc _)) fun _ => rfl
      rw [board_setState]
      exact .invalidated (slots_of hmiddle)

theorem refines_markDataChannelReady :
    Refines model (model.step (.markDataChannelReady peerId)).2 (model.markDataChannelReady peerId).2 := by
  unfold step markDataChannelReady
  dsimp only
  cases hpeer : model.rtcPeerStates[peerId]? with
  | none => exact Refines.refl
  | some peerState =>
    refine Refines.invalidated hpeer ?_ ((frames_clearPeerRtcError _ _).trans (frames_refreshAggregateRtc _)) fun _ => rfl
    rfl

theorem refines_resetPeerWaiting :
    Refines model (model.step (.resetPeerWaiting peerId)).2 (model.resetPeerWaiting peerId).2 := by
  unfold step resetPeerWaiting
  dsimp only
  cases hpeer : model.rtcPeerStates[peerId]? with
  | none => exact Refines.refl
  | some peerState =>
    refine Refines.invalidated hpeer ?_ ((frames_clearPeerRtcError _ _).trans (frames_refreshAggregateRtc _)) fun _ => rfl
    rfl

theorem refines_reduceConnectionState (role : RoomRole) (connectionPhase : RtcConnectionPhase) :
    Refines model (model.step (.reduceConnectionState peerId role connectionPhase)).2
      (model.reduceConnectionState peerId role connectionPhase).2 := by
  unfold step reduceConnectionState
  dsimp only
  cases hpeer : model.rtcPeerStates[peerId]? with
  | none => exact Refines.refl
  | some peerState =>
    dsimp only
    by_cases hfinal : (role = .receiver && peerState.phase = .failed) = true
    · rw [if_pos hfinal]
      exact Refines.refl
    · rw [if_neg hfinal]
      have hlost : Refines model [.invalidated peerId]
          (((model.setState peerId { peerState.invalidateWork with phase := .disconnected }).setPeerTransferLinkState peerId
            .waiting).2.refreshAggregateRtc) := by
        refine Refines.invalidated hpeer ?_
          ((frames_setPeerTransferLinkState _ _ _).trans (frames_refreshAggregateRtc _)) fun _ => rfl
        rfl
      have hphase : ∀ phase, Refines model [] (model.setState peerId { peerState with phase }).refreshAggregateRtc := by
        intro phase
        refine Refines.phase hpeer ?_ (frames_refreshAggregateRtc _) fun _ => rfl
        rfl
      cases connectionPhase with
      | failed => cases role <;> exact hlost
      | closed => cases role <;> exact hlost
      | disconnected =>
        cases peerState.pendingWork.isNone with
        | false => exact hphase _
        | true =>
          refine Refines.issued hpeer ?_ (frames_refreshAggregateRtc _) fun _ => rfl
          rfl
      | new => exact hphase _
      | connecting => exact hphase _
      | connected => exact hphase _

/-- A peer is created; if the browser refuses the connection, its entry stays. -/
theorem refines_ensureRtcPeer (refused : Option String) :
    Refines model (model.step (.ensureRtcPeer peerId refused)).2 (model.ensureRtcPeer peerId refused) := by
  have hcreated : Step GENERATIONS model.board (.created peerId) (model.allocateRtcPeerGeneration peerId).2.board := by
    have hboard : (model.allocateRtcPeerGeneration peerId).2.board =
        { generation := nextGeneration model.rtcPeerGeneration
          slots := Function.update model.board.slots peerId (some ⟨nextGeneration model.rtcPeerGeneration, 0, none⟩) } :=
      congrArg (fun board : Board String PendingRtcWork => { board with generation := nextGeneration model.rtcPeerGeneration })
        (board_setState (PeerRtcState.new (nextGeneration model.rtcPeerGeneration)))
    rw [hboard]
    exact .created peerId
  cases refused with
  | none => exact ⟨.cons hcreated (.nil _), fun _ => rfl⟩
  | some message =>
    have hpeer : (model.allocateRtcPeerGeneration peerId).2.rtcPeerStates[peerId]? =
        some (.new (nextGeneration model.rtcPeerGeneration)) := by
      rw [allocateRtcPeerGeneration, BTreeMap.getElem?_insert, if_pos rfl]
    have hmark : ((model.allocateRtcPeerGeneration peerId).2.markPeerStartFailed peerId
        (model.allocateRtcPeerGeneration peerId).1).2 =
          (((model.allocateRtcPeerGeneration peerId).2.setState peerId
            { (PeerRtcState.new (nextGeneration model.rtcPeerGeneration)).invalidateWork with
              phase := .failed }).setPeerTransferLinkState peerId .paused).2.refreshAggregateRtc := by
      unfold markPeerStartFailed
      rw [hpeer]
      dsimp only
      have hsame : ¬(PeerRtcState.new (nextGeneration model.rtcPeerGeneration)).instanceGeneration ≠
          (model.allocateRtcPeerGeneration peerId).1 := not_not.mpr rfl
      rw [if_neg hsame]
    have hfailed : Refines (model.allocateRtcPeerGeneration peerId).2 [.invalidated peerId]
        (model.ensureRtcPeer peerId (some message)) := by
      unfold ensureRtcPeer
      dsimp only
      rw [hmark]
      refine Refines.invalidated hpeer ?_ ((frames_setPeerTransferLinkState _ _ _).trans
        ((frames_refreshAggregateRtc _).trans (frames_setPeerRtcError _ _ _))) fun _ => rfl
      rfl
    refine ⟨.cons hcreated hfailed.steps, fun _ => ?_⟩
    unfold ensureRtcPeer
    dsimp only
    rw [hmark]
    rfl

theorem shows_clearPeerRtcError (h : model.Shows) : (model.clearPeerRtcError peerId).Shows := by
  refine h.frames (frames_clearPeerRtcError model peerId) ?_
  unfold clearPeerRtcError
  split
  · rfl
  · rfl

theorem shows_setPeerTransferLinkState (linkState : TransferLinkState) (h : model.Shows) :
    (model.setPeerTransferLinkState peerId linkState).2.Shows := by
  refine h.frames (frames_setPeerTransferLinkState model peerId linkState) ?_
  unfold setPeerTransferLinkState
  cases model.transfersByPeer[peerId]? with
  | none => rfl
  | some transfer =>
    cases transfer with
    | active transfer =>
      dsimp only
      split
      · rfl
      · rfl
    | idle | offering | outgoingRecovery | incoming | rejected | completed | cancelled | failed => rfl

theorem refines_removeRtcPeer : Refines model [.removed peerId] (model.removeRtcPeer peerId) := by
  refine ⟨.cons (.removed peerId) ?_, fun _ => rfl⟩
  have hframes := frames_clearPeerRtcError model peerId
  have hslots : (model.removeRtcPeer peerId).board.slots = Function.update model.board.slots peerId none := by
    funext other
    show ((model.clearPeerRtcError peerId).rtcPeerStates.erase peerId)[other]?.map _ = _
    rw [BTreeMap.getElem?_erase, hframes.states]
    by_cases hother : peerId = other
    · rw [if_pos hother, ← hother, Function.update_self]
      rfl
    · rw [if_neg hother, Function.update_of_ne (Ne.symm hother)]
      rfl
  have hboard : (model.removeRtcPeer peerId).board = ⟨model.board.generation, Function.update model.board.slots peerId none⟩ := by
    rw [← hslots, ← hframes.board]
    rfl
  rw [hboard]
  exact .nil _

/-- The slots are removed one after another. -/
theorem steps_removed : ∀ (peerIds : List String) (board : Board String PendingRtcWork),
    Steps GENERATIONS board (peerIds.map Event.removed)
      { board with slots := fun peerId => if peerId ∈ peerIds then none else board.slots peerId }
  | [], board => by
    simp only [List.map_nil, List.not_mem_nil, if_false]
    exact .nil board
  | peerId :: peerIds, board => by
    have hrest := steps_removed peerIds { board with slots := Function.update board.slots peerId none }
    have hslots : (fun other => if other ∈ peerIds then none else Function.update board.slots peerId none other) =
        fun other => if other ∈ peerId :: peerIds then none else board.slots other := by
      funext other
      by_cases hother : other = peerId
      · subst hother
        simp
      · simp [hother]
    rw [hslots] at hrest
    exact .cons (.removed peerId) hrest

theorem refines_resetAllRtcPeers :
    Refines model (model.rtcPeerStates.toList.map fun entry => .removed entry.1) model.resetAllRtcPeers := by
  refine ⟨?_, fun _ => rfl⟩
  have hsteps := steps_removed (model.rtcPeerStates.toList.map Prod.fst) model.board
  rw [List.map_map] at hsteps
  have hboard : model.resetAllRtcPeers.board = { model.board with
      slots := fun peerId => if peerId ∈ model.rtcPeerStates.toList.map Prod.fst then none else model.board.slots peerId } := by
    have hslots : (fun peerId => if peerId ∈ model.rtcPeerStates.toList.map Prod.fst then none else model.board.slots peerId) =
        fun _ => none := by
      funext peerId
      split
      · rfl
      · rename_i habsent
        show model.rtcPeerStates[peerId]?.map _ = none
        rw [Option.map_eq_none_iff, Option.eq_none_iff_forall_ne_some]
        exact fun peerState hpeer => habsent (List.mem_map_of_mem (BTreeMap.mem_toList.mpr hpeer))
    rw [hslots]
    unfold resetAllRtcPeers RtcModel.board
    cases model.rtcError with
    | none => simp [refreshAggregateRtc]
    | some rtcError => simp [refreshAggregateRtc, (frames_clearPeerRtcError model rtcError.peerId).generation]
  rw [hboard]
  exact hsteps

theorem refines_beginOutgoingRecovery : Refines model [] (model.beginOutgoingRecovery peerId).2 := by
  unfold beginOutgoingRecovery
  cases hpeer : model.rtcPeerStates[peerId]? with
  | none => exact Refines.refl
  | some peerState =>
    dsimp only
    split
    · exact Refines.refl
    · refine Refines.phase hpeer ?_ ⟨rfl, rfl, rfl⟩ fun h => h.setState hpeer rfl
      rfl

theorem refines_finishOutgoingRecovery (instanceGeneration : Nat) :
    Refines model [] (model.finishOutgoingRecovery peerId instanceGeneration).2 := by
  unfold finishOutgoingRecovery
  cases hpeer : model.rtcPeerStates[peerId]? with
  | none => exact Refines.refl
  | some peerState =>
    dsimp only
    split
    · exact Refines.refl
    · refine Refines.phase hpeer ?_ ⟨rfl, rfl, rfl⟩ fun h => h.setState hpeer rfl
      rfl

/-- **Refinement.** A transition does to the pending work what its events do to the board. -/
theorem step_refines (transition : RtcTransition) :
    Refines model (model.step transition).2 (model.step transition).1 := by
  cases transition with
  | ensureRtcPeer peerId refused => exact refines_ensureRtcPeer model peerId refused
  | removeRtcPeer peerId => exact refines_removeRtcPeer model peerId
  | resetAllRtcPeers => exact refines_resetAllRtcPeers model
  | beginOutgoingRecovery peerId => exact refines_beginOutgoingRecovery model peerId
  | finishOutgoingRecovery peerId instanceGeneration => exact refines_finishOutgoingRecovery model peerId instanceGeneration
  | beginOwnerOffer peerId instanceGeneration attempt => exact refines_beginOwnerOffer model peerId instanceGeneration attempt
  | advanceOwnerTimeout peerId token attempt retryDelayMs =>
    exact refines_advanceOwnerTimeout model peerId token attempt retryDelayMs
  | claimOwnerRetry peerId token nextAttempt => exact refines_claimOwnerRetry model peerId token nextAttempt
  | markPeerStartFailed peerId instanceGeneration => exact refines_markPeerStartFailed model peerId instanceGeneration
  | beginPassiveDeadline peerId => exact refines_beginPassiveDeadline model peerId
  | claimDisconnectedDeadline peerId token => exact refines_claimDisconnectedDeadline model peerId token
  | claimPassiveDeadline peerId token => exact refines_claimPassiveDeadline model peerId token
  | markDataChannelReady peerId => exact refines_markDataChannelReady model peerId
  | resetPeerWaiting peerId => exact refines_resetPeerWaiting model peerId
  | reduceConnectionState peerId role connectionPhase => exact refines_reduceConnectionState model peerId role connectionPhase
  | setPeerTransferLinkState peerId linkState =>
    exact .of_frames (frames_setPeerTransferLinkState model peerId linkState)
      (shows_setPeerTransferLinkState model peerId linkState)
  | setPeerRtcError peerId message => exact .of_frames (frames_setPeerRtcError model peerId message) fun h => h
  | clearPeerRtcError peerId =>
    exact .of_frames (frames_clearPeerRtcError model peerId) (shows_clearPeerRtcError model peerId)

end RtcModel

/-! ## Runs -/

/-- The session of a page begins without peers. -/
def RtcModel.start (base : TransferModel) (rtcError : Option PeerRtcError) : RtcModel :=
  { base with
    rtcAggregatePhase := aggregatePhase base.screen ∅
    rtcPeerGeneration := 0
    rtcPeerStates := ∅
    rtcError }

/-- What is reached from the start, and what has happened to the pending work, the newest event first. -/
inductive RtcRun : RtcModel → List WorkEvent → Prop
  | start (base : TransferModel) (rtcError : Option PeerRtcError) : RtcRun (.start base rtcError) []
  | step {model : RtcModel} {history : List WorkEvent} (run : RtcRun model history) (transition : RtcTransition) :
      RtcRun (model.step transition).1 ((model.step transition).2.reverse ++ history)

theorem RtcRun.board {model : RtcModel} {history : List WorkEvent} (run : RtcRun model history) :
    WorkTokens.Run GENERATIONS history model.board := by
  induction run with
  | start base rtcError =>
    have hboard : (RtcModel.start base rtcError).board = ⟨0, fun _ => none⟩ := by
      unfold RtcModel.board RtcModel.start
      simp
    rw [hboard]
    exact .nil
  | step run transition ih => exact ih.steps (RtcModel.step_refines _ transition).steps

theorem RtcRun.shows {model : RtcModel} {history : List WorkEvent} (run : RtcRun model history) : model.Shows := by
  induction run with
  | start base rtcError => rfl
  | step run transition ih => exact (RtcModel.step_refines _ transition).shows ih

/-- What was the case at an earlier event. -/
theorem run_of_append {history older newer : List WorkEvent} {board : Board String PendingRtcWork}
    (run : WorkTokens.Run GENERATIONS history board) (h : history = newer ++ older) :
    ∃ before, WorkTokens.Run GENERATIONS older before := by
  subst h
  exact run.before

/-- What holds of the pending work. -/
structure SoundWork (model : RtcModel) (history : List WorkEvent) : Prop where
  /-- A token is claimed for the peer and the work it was issued for. -/
  issued : ∀ (newer older : List WorkEvent) (peerId : String) (token : Token) (work : PendingRtcWork),
    history = newer ++ .claimed peerId token work :: older →
      ∃ between since origin, older = between ++ .issued peerId token work :: (since ++ .created peerId :: origin)
  /-- Since it was issued, neither was it claimed, nor was other work armed or invalidated, or the peer created again. -/
  fresh : ∀ (newer between since origin : List WorkEvent) (peerId : String) (token : Token) (work work' : PendingRtcWork),
    history = newer ++ .claimed peerId token work ::
      (between ++ .issued peerId token work' :: (since ++ .created peerId :: origin)) →
        creations (between ++ since) < GENERATIONS → bumps peerId between < GENERATIONS →
          work = work' ∧ ∀ event ∈ between, event.supersedes peerId = false
  /-- A peer has at most one piece of work that can be claimed. -/
  single : ∀ (peerId : String) (peerState : PeerRtcState) (token token' : Token) (work work' : PendingRtcWork),
    model.rtcPeerStates[peerId]? = some peerState → peerState.workIsCurrent token work = true →
      peerState.workIsCurrent token' work' = true → token = token' ∧ work = work'
  shows : model.Shows

/-- **Pending work.** Every run of transitions keeps the work of the peers in order. -/
theorem pending_work_sound {model : RtcModel} {history : List WorkEvent} (run : RtcRun model history) :
    SoundWork model history where
  issued newer older peerId token work h := by
    obtain ⟨before, hbefore⟩ := run_of_append run.board h
    exact hbefore.claimed_issued
  fresh newer between since origin peerId token work work' h hcreations hbumps := by
    obtain ⟨before, hbefore⟩ := run_of_append run.board h
    exact hbefore.claimed_fresh hcreations hbumps
  single peerId peerState token token' work work' _ hcurrent hcurrent' := by
    unfold PeerRtcState.workIsCurrent at hcurrent hcurrent'
    simp only [Bool.and_eq_true, beq_iff_eq] at hcurrent hcurrent'
    obtain ⟨⟨hinstance, hwork⟩, hpending⟩ := hcurrent
    obtain ⟨⟨hinstance', hwork'⟩, hpending'⟩ := hcurrent'
    refine ⟨?_, Option.some.inj (hpending.symm.trans hpending')⟩
    cases token
    cases token'
    rw [WorkTokens.Token.mk.injEq]
    exact ⟨hinstance.symm.trans hinstance', hwork.symm.trans hwork'⟩
  shows := run.shows

/-! ## Runs of many transitions -/

/-- A page that shows nothing yet. -/
def samplePage : RtcModel :=
  .start
    { session := none, screen := .booting, realtime := .disconnected, error := none, notice := none, decisionRequestId := none,
      enteringReceivers := [], transfer := .idle, transfersByPeer := ∅ } none

/-- A peer whose work has been armed so many times. -/
def armed : Nat → RtcModel
  | 0 => (samplePage.step (.ensureRtcPeer "peer" none)).1
  | count + 1 => ((armed count).step (.beginPassiveDeadline "peer")).1

/-- The entry of the peer. -/
structure Armed (count : Nat) (peerState : PeerRtcState) : Prop where
  entry : (armed count).rtcPeerStates["peer"]? = some peerState
  instanceGeneration : peerState.instanceGeneration = 1
  workGeneration : peerState.workGeneration = count % GENERATIONS
  pending : 0 < count → peerState.pendingWork = some .passiveDeadline

/-- The tokens, the newest first. -/
def deadlines : Nat → List WorkEvent
  | 0 => []
  | count + 1 => .issued "peer" ⟨1, (count + 1) % GENERATIONS⟩ .passiveDeadline :: deadlines count

theorem armed_spec : ∀ count, ∃ peerState, Armed count peerState
  | 0 => by
    refine ⟨.new 1, ?_, rfl, (Nat.zero_mod _).symm, fun h => absurd h (Nat.lt_irrefl 0)⟩
    show (samplePage.rtcPeerStates.insert "peer" (.new (nextGeneration 0)))["peer"]? = some (.new 1)
    have hfirst : nextGeneration 0 = 1 := by decide
    rw [BTreeMap.getElem?_insert, if_pos rfl, hfirst]
  | count + 1 => by
    obtain ⟨peerState, hentry, hinstance, hwork, -⟩ := armed_spec count
    have hstates : (armed (count + 1)).rtcPeerStates =
        (armed count).rtcPeerStates.insert "peer" { peerState.armWork .passiveDeadline with phase := .connecting } := by
      show ((armed count).beginPassiveDeadline "peer").2.rtcPeerStates = _
      unfold RtcModel.beginPassiveDeadline
      rw [hentry]
      exact (RtcModel.frames_clearPeerRtcError _ "peer").states
    refine ⟨{ peerState.armWork .passiveDeadline with phase := .connecting }, ?_, hinstance, ?_, fun _ => rfl⟩
    · rw [hstates, BTreeMap.getElem?_insert, if_pos rfl]
    · show nextGeneration peerState.workGeneration = _
      rw [hwork, nextGeneration, Nat.mod_add_mod]

theorem run_armed : ∀ count, RtcRun (armed count) (deadlines count ++ [.created "peer"])
  | 0 => .step (.start _ none) (.ensureRtcPeer "peer" none)
  | count + 1 => by
    obtain ⟨peerState, hentry, hinstance, hwork, -⟩ := armed_spec count
    have hrun := (run_armed count).step (.beginPassiveDeadline "peer")
    have hevents : ((armed count).step (.beginPassiveDeadline "peer")).2 =
        [.issued "peer" ⟨1, (count + 1) % GENERATIONS⟩ .passiveDeadline] := by
      have htoken : ((armed count).beginPassiveDeadline "peer").1 = some ⟨1, (count + 1) % GENERATIONS⟩ := by
        unfold RtcModel.beginPassiveDeadline
        rw [hentry]
        show some peerState.armedToken = _
        rw [PeerRtcState.armedToken, hinstance, hwork, nextGeneration, Nat.mod_add_mod]
      unfold RtcModel.step
      dsimp only
      rw [htoken]
    rw [hevents] at hrun
    exact hrun

/-- The claim of the last token. -/
theorem run_claimed (count : Nat) : ∃ model, RtcRun model
    (.invalidated "peer" :: .claimed "peer" ⟨1, (count + 1) % GENERATIONS⟩ .passiveDeadline ::
      (deadlines (count + 1) ++ [.created "peer"])) := by
  obtain ⟨peerState, hentry, hinstance, hwork, hpending⟩ := armed_spec (count + 1)
  have hrun := (run_armed (count + 1)).step (.claimPassiveDeadline "peer" ⟨1, (count + 1) % GENERATIONS⟩)
  have hcurrent : peerState.workIsCurrent ⟨1, (count + 1) % GENERATIONS⟩ .passiveDeadline = true := by
    unfold PeerRtcState.workIsCurrent
    rw [hinstance, hwork, hpending (Nat.succ_pos count)]
    simp
  have hevents : ((armed (count + 1)).step (.claimPassiveDeadline "peer" ⟨1, (count + 1) % GENERATIONS⟩)).2 =
      [.claimed "peer" ⟨1, (count + 1) % GENERATIONS⟩ .passiveDeadline, .invalidated "peer"] := by
    unfold RtcModel.step RtcModel.claimPassiveDeadline
    dsimp only
    rw [hentry]
    dsimp only
    rw [hcurrent]
    rfl
  rw [hevents] at hrun
  exact ⟨_, hrun⟩

theorem deadlines_ends : ∀ count, ∃ between, deadlines (count + 2) =
    (.issued "peer" ⟨1, (count + 2) % GENERATIONS⟩ .passiveDeadline :: between) ++
      [.issued "peer" ⟨1, 1 % GENERATIONS⟩ .passiveDeadline]
  | 0 => ⟨[], rfl⟩
  | count + 1 => by
    obtain ⟨between, hbetween⟩ := deadlines_ends count
    refine ⟨.issued "peer" ⟨1, (count + 2) % GENERATIONS⟩ .passiveDeadline :: between, ?_⟩
    rw [deadlines, hbetween]
    rfl

theorem pending_work_sound_sample : ∃ model history,
    .claimed "peer" ⟨1, 1 % GENERATIONS⟩ .passiveDeadline ∈ history ∧ SoundWork model history := by
  obtain ⟨model, hrun⟩ := run_claimed 0
  exact ⟨model, _, List.mem_cons_of_mem _ List.mem_cons_self, pending_work_sound hrun⟩

/-- After 2^64 other deadlines the first token is that of the last one. -/
theorem stale_token_claimed : ¬∀ (model : RtcModel) (history newer between origin : List WorkEvent) (peerId : String)
    (token : Token) (work : PendingRtcWork), RtcRun model history →
      history = newer ++ .claimed peerId token work :: (between ++ .issued peerId token work :: origin) →
        ∀ event ∈ between, event.supersedes peerId = false := by
  intro h
  obtain ⟨count, hcount⟩ : ∃ count, GENERATIONS = count + 1 := ⟨GENERATIONS - 1, by decide⟩
  obtain ⟨between, hbetween⟩ := deadlines_ends count
  obtain ⟨model, hrun⟩ := run_claimed (count + 1)
  have hround : (count + 1 + 1) % GENERATIONS = 1 % GENERATIONS := by
    rw [← hcount, Nat.add_mod_left]
  rw [hbetween, List.append_assoc, hround] at hrun
  have hquiet := h model _ [.invalidated "peer"] _ _ "peer" _ _ hrun rfl _ List.mem_cons_self
  simp [WorkTokens.Event.supersedes] at hquiet

end P2PTransmission
