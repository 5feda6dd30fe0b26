import P2PTransmission.Rtc.Text

/-!
# What is received matches what was offered

Whatever a peer is sent and whatever is done at its end, a text that it reports as received has as many characters and bytes as
an offer of that id announced (`TextPeer.matches_run`). The other end need not follow the protocol.
-/

set_option autoImplicit false

namespace P2PTransmission.Rtc

open Wire (TextMessage)

namespace TextPeer

/-- The offer was accepted, or it is about to be decided. -/
def Awaits (peer : TextPeer) (offer : IncomingTextOffer) : Prop :=
  peer.incomingText = some offer ∨ peer.receivingText = some offer

/-- What the peer awaits was announced, and what it received is as it was announced. -/
structure Matched (peer : TextPeer) : Prop where
  awaited : ∀ offer, peer.Awaits offer →
    .incomingOffered offer.transferId offer.characterCount offer.byteLength ∈ peer.events
  received : ∀ x text, .received x text ∈ peer.events → .incomingOffered x text.length text.utf8ByteSize ∈ peer.events

/-- No new text is awaited and none was received. -/
structure Calm (peer peer' : TextPeer) : Prop where
  awaited : ∀ offer, peer'.Awaits offer → peer.Awaits offer
  events : peer.events ⊆ peer'.events
  received : ∀ x text, .received x text ∈ peer'.events → .received x text ∈ peer.events

variable {peer peer' peer'' : TextPeer}

theorem Calm.matched (h : Calm peer peer') (hmatched : peer.Matched) : peer'.Matched where
  awaited offer hoffer := h.events (hmatched.awaited offer (h.awaited offer hoffer))
  received x text hin := h.events (hmatched.received x text (h.received x text hin))

theorem Calm.refl (peer : TextPeer) : Calm peer peer := ⟨fun _ h => h, fun _ h => h, fun _ _ h => h⟩

theorem Calm.trans (h : Calm peer peer') (h' : Calm peer' peer'') : Calm peer peer'' where
  awaited offer hoffer := h.awaited offer (h'.awaited offer hoffer)
  events _ hin := h'.events (h.events hin)
  received x text hin := h.received x text (h'.received x text hin)

/-- Neither the awaited texts nor the events changed. -/
theorem Calm.of_eq (hincoming : peer'.incomingText = peer.incomingText) (hreceiving : peer'.receivingText = peer.receivingText)
    (hevents : peer'.events = peer.events) : Calm peer peer' := by
  refine ⟨fun offer hoffer => ?_, ?_, fun x text hin => ?_⟩
  · unfold Awaits at hoffer ⊢
    rwa [hincoming, hreceiving] at hoffer
  · rw [hevents]
    exact List.Subset.refl _
  · rwa [hevents] at hin

theorem calm_emit (peer : TextPeer) {event : TextEvent} (hevent : ∀ x text, event ≠ .received x text) :
    Calm peer (peer.emit event) := by
  refine ⟨fun _ h => h, List.subset_append_left _ _, fun x text hin => ?_⟩
  rcases List.mem_append.mp hin with hold | hnew
  · exact hold
  · exact absurd (List.mem_singleton.mp hnew).symm (hevent x text)

theorem calm_textFail (peer : TextPeer) (x message : String) : Calm peer (peer.textFail x message) :=
  peer.calm_emit fun _ _ h => (by cases h)

theorem calm_sendControlOn {message : TextMessage} (h : peer.sendControlOn message = .ok peer') : Calm peer peer' := by
  unfold sendControlOn at h
  cases hvalid : message.validate with
  | error error =>
    rw [hvalid] at h
    cases h
  | ok _ =>
    rw [hvalid] at h
    obtain rfl := Except.ok.inj h
    exact .of_eq rfl rfl rfl

theorem calm_trySend (peer : TextPeer) (message : TextMessage) : Calm peer (peer.trySend message) := by
  unfold trySend
  cases peer.currentDataChannel with
  | error error => exact .refl peer
  | ok _ =>
    dsimp only
    cases hsent : peer.sendControlOn message with
    | error error => exact .refl peer
    | ok sent => exact calm_sendControlOn hsent

theorem calm_cleared (peer : TextPeer) (x : String) : Calm peer (peer.cleared x) := by
  refine ⟨fun offer hoffer => ?_, List.Subset.refl _, fun _ _ h => h⟩
  rcases hoffer with hoffer | hoffer
  · exact .inl (Option.filter_eq_some_iff.mp hoffer).1
  · exact .inr (Option.filter_eq_some_iff.mp hoffer).1

/-- A slot is given up. -/
theorem calm_received (peer : TextPeer) : Calm peer { peer with receivingText := none } := by
  refine ⟨fun offer hoffer => ?_, List.Subset.refl _, fun _ _ h => h⟩
  rcases hoffer with hoffer | hoffer
  · exact .inl hoffer
  · cases hoffer

/-! ## Calls -/

theorem calm_offerText (peer : TextPeer) (x text : String) : Calm peer (peer.offerText x text).2 := by
  unfold offerText
  split
  · exact .refl peer
  · split
    · exact .refl peer
    · cases (TextMessage.textPayload x text).validate with
      | error error => exact .refl peer
      | ok _ =>
        dsimp only
        cases (TextMessage.textOffer x text.length text.utf8ByteSize).validate with
        | error error => exact .refl peer
        | ok _ =>
          dsimp only
          cases peer.currentDataChannel with
          | error error => exact .refl peer
          | ok _ =>
            cases peer.fileOrTextTransferActive with
            | true => exact .refl peer
            | false =>
              dsimp only
              cases hsent : { peer with outgoingText := some ⟨x, text, false⟩ }.sendControlOn
                  (.textOffer x text.length text.utf8ByteSize) with
              | error error => exact .of_eq rfl rfl rfl
              | ok sent =>
                have hslot : Calm peer { peer with outgoingText := some ⟨x, text, false⟩ } := .of_eq rfl rfl rfl
                have hemit : Calm sent (sent.emit (.outgoingOffered x text.length text.utf8ByteSize)) :=
                  calm_emit sent fun _ _ h => (by cases h)
                exact (hslot.trans (calm_sendControlOn hsent)).trans (hemit.trans (.of_eq rfl rfl rfl))

theorem calm_decideText (peer : TextPeer) (x : String) (accepted : Bool) : Calm peer (peer.decideText x accepted).2 := by
  unfold decideText
  cases peer.currentDataChannel with
  | error error => exact .refl peer
  | ok _ =>
    dsimp only
    cases hslot : peer.incomingText with
    | none => exact .refl peer
    | some offer =>
      dsimp only
      split
      · exact .refl peer
      · cases hsent : peer.sendControlOn (.textDecision x accepted) with
        | error error => exact .refl peer
        | ok sent =>
          have hcalm := calm_sendControlOn hsent
          cases accepted with
          | true =>
            -- the offer moves from the one slot to the other
            have hmoved : Calm peer { sent with incomingText := none, receivingText := some offer } := by
              refine ⟨fun other hother => ?_, hcalm.events, hcalm.received⟩
              rcases hother with hother | hother
              · cases hother
              · exact .inl (hslot.trans hother)
            have hemit : Calm { sent with incomingText := none, receivingText := some offer }
                ({ sent with incomingText := none, receivingText := some offer }.emit (.accepted x .receive)) :=
              calm_emit _ fun _ _ h => (by cases h)
            exact hmoved.trans (hemit.trans (.of_eq rfl rfl rfl))
          | false =>
            have hgone : Calm sent { sent with incomingText := none } := by
              refine ⟨fun other hother => ?_, List.Subset.refl _, fun _ _ h => h⟩
              rcases hother with hother | hother
              · cases hother
              · exact .inr hother
            exact (hcalm.trans hgone).trans (calm_emit _ fun _ _ h => (by cases h))

theorem calm_cancelText (peer : TextPeer) : Calm peer peer.cancelText.2 := by
  unfold cancelText
  cases peer.activeTextTransferId with
  | none => exact .refl peer
  | some x =>
    cases peer.currentDataChannel with
    | error error => exact (peer.calm_cleared x).trans (calm_emit _ fun _ _ h => (by cases h))
    | ok _ =>
      dsimp only
      cases hsent : peer.sendControlOn (.textCancel x) with
      | error error => exact .refl peer
      | ok sent => exact (calm_sendControlOn hsent).trans ((sent.calm_cleared x).trans (calm_emit _ fun _ _ h => (by cases h)))

theorem calm_elapse (peer : TextPeer) (timeout : TextTimeout) : Calm peer (peer.elapse timeout) := by
  have hdropped : Calm peer { peer with timeouts := peer.timeouts.erase timeout } := .of_eq rfl rfl rfl
  unfold elapse timeoutTextTransfer
  split
  · split
    · split
      · exact hdropped.trans ((calm_trySend _ _).trans ((calm_cleared _ _).trans (calm_textFail _ _ _)))
      · exact hdropped.trans ((calm_trySend _ _).trans (calm_cleared _ _))
    · exact hdropped
  · exact .refl peer

/-! ## Messages -/

theorem calm_handleTextDecision (peer : TextPeer) (x : String) (accepted : Bool) :
    Calm peer (peer.handleTextDecision x accepted) := by
  unfold handleTextDecision
  cases peer.outgoingText with
  | none => exact peer.calm_textFail _ _
  | some outgoing =>
    dsimp only
    split
    · exact peer.calm_textFail _ _
    · obtain ⟨transferId, text, waits⟩ := outgoing
      have hslot : ∀ slot, Calm peer { peer with outgoingText := slot } := fun _ => .of_eq rfl rfl rfl
      cases waits with
      | true => exact peer.calm_textFail _ _
      | false =>
        cases accepted with
        | false => exact (hslot none).trans (calm_emit _ fun _ _ h => (by cases h))
        | true =>
          dsimp only
          cases peer.currentDataChannel with
          | error error => exact (hslot _).trans ((calm_cleared _ _).trans (calm_textFail _ _ _))
          | ok _ =>
            dsimp only
            cases hsent : { peer with outgoingText := some ⟨transferId, text, true⟩ }.sendControlOn (.textPayload x text) with
            | error error => exact (hslot _).trans ((calm_cleared _ _).trans (calm_textFail _ _ _))
            | ok sent =>
              have hemit : Calm sent (sent.emit (.accepted x .send)) := calm_emit sent fun _ _ h => (by cases h)
              exact ((hslot _).trans (calm_sendControlOn hsent)).trans (hemit.trans (.of_eq rfl rfl rfl))

theorem calm_handleTextReceipt (peer : TextPeer) (x : String) : Calm peer (peer.handleTextReceipt x) := by
  unfold handleTextReceipt
  split
  · have hslot : Calm peer { peer with outgoingText := none } := .of_eq rfl rfl rfl
    exact hslot.trans (calm_emit _ fun _ _ h => (by cases h))
  · exact peer.calm_textFail _ _

theorem calm_handleTextCancel (peer : TextPeer) (x : String) : Calm peer (peer.handleTextCancel x) := by
  unfold handleTextCancel
  split
  · exact (peer.calm_cleared x).trans (calm_emit _ fun _ _ h => (by cases h))
  · exact peer.calm_cleared x

/-- An offer is reported before it is awaited. -/
theorem Matched.handleTextOffer (h : peer.Matched) (x : String) (characterCount byteLength : Nat) :
    (peer.handleTextOffer x characterCount byteLength).Matched := by
  unfold TextPeer.handleTextOffer
  cases peer.fileOrTextTransferActive with
  | true => exact (peer.calm_trySend _).matched h
  | false =>
    have hoffered : ({ peer with incomingText := some ⟨x, characterCount, byteLength⟩ }.emit
        (.incomingOffered x characterCount byteLength)).Matched := by
      constructor
      · intro offer hoffer
        rcases hoffer with hoffer | hoffer
        · obtain rfl := Option.some.inj hoffer
          exact List.mem_append_right _ (List.mem_singleton_self _)
        · exact List.mem_append_left _ (h.awaited offer (.inr hoffer))
      · intro y text hin
        rcases List.mem_append.mp hin with hold | hnew
        · exact List.mem_append_left _ (h.received y text hold)
        · cases List.mem_singleton.mp hnew
    dsimp only
    generalize TextPeer.emit _ _ = offered at hoffered
    have hdecided := (offered.calm_decideText x true).matched hoffered
    generalize offered.decideText x true = decided at hdecided
    obtain ⟨outcome, decided⟩ := decided
    cases outcome with
    | ok _ => exact hdecided
    | error error => exact ((decided.calm_cleared x).trans (calm_textFail _ _ _)).matched hdecided

/-- A text is reported as received only if it is as long as it was announced. -/
theorem Matched.handleTextPayload (h : peer.Matched) (x text : String) : (peer.handleTextPayload x text).Matched := by
  unfold TextPeer.handleTextPayload
  cases hslot : peer.receivingText with
  | none => exact (peer.calm_textFail _ _).matched h
  | some offer =>
    dsimp only
    split
    · exact (peer.calm_textFail _ _).matched h
    · rename_i hid
      split
      · exact (peer.calm_received.trans ((calm_textFail _ _ _).trans (calm_trySend _ _))).matched h
      · rename_i hlengths
        split
        · exact (peer.calm_received.trans (calm_textFail _ _ _)).matched h
        · have hcalm := peer.calm_received.trans (calm_trySend { peer with receivingText := none } (.textReceipt x))
          have hmatched := hcalm.matched h
          have hannounced := hcalm.events (h.awaited offer (.inr hslot))
          have hsame : offer.transferId = x ∧ offer.characterCount = text.length ∧ offer.byteLength = text.utf8ByteSize := by
            refine ⟨not_not.mp hid, ?_, ?_⟩
            · exact (not_not.mp fun hne => hlengths (.inl hne)).symm
            · exact (not_not.mp fun hne => hlengths (.inr hne)).symm
          obtain ⟨rfl, hcharacters, hbytes⟩ := hsame
          rw [hcharacters, hbytes] at hannounced
          refine ⟨fun other hother => List.mem_append_left _ (hmatched.awaited other hother), fun y received hin => ?_⟩
          rcases List.mem_append.mp hin with hold | hnew
          · exact List.mem_append_left _ (hmatched.received y received hold)
          · obtain ⟨rfl, rfl⟩ := TextEvent.received.inj (List.mem_singleton.mp hnew)
            exact List.mem_append_left _ hannounced

theorem Matched.input (h : peer.Matched) (input : TextInput) : (peer.input input).Matched := by
  cases input with
  | call call =>
    cases call with
    | offer x text => exact (peer.calm_offerText x text).matched h
    | decide x accepted => exact (peer.calm_decideText x accepted).matched h
    | cancel => exact peer.calm_cancelText.matched h
    | timeout timeout => exact (peer.calm_elapse timeout).matched h
    | transfers active => exact (Calm.of_eq rfl rfl rfl : Calm peer { peer with transferActive := active }).matched h
  | message message =>
    cases message with
    | textOffer x characterCount byteLength => exact h.handleTextOffer x characterCount byteLength
    | textDecision x accepted => exact (peer.calm_handleTextDecision x accepted).matched h
    | textPayload x text => exact h.handleTextPayload x text
    | textReceipt x => exact (peer.calm_handleTextReceipt x).matched h
    | textCancel x => exact (peer.calm_handleTextCancel x).matched h
  | channel channel => exact (Calm.of_eq rfl rfl rfl : Calm peer { peer with channel }).matched h

theorem Matched.run (h : peer.Matched) (inputs : List TextInput) : (inputs.foldl TextPeer.input peer).Matched := by
  induction inputs generalizing peer with
  | nil => exact h
  | cons input inputs ih => exact ih (h.input input)

theorem matched_initial : ({} : TextPeer).Matched := by
  constructor
  · intro offer hoffer
    rcases hoffer with hoffer | hoffer <;> cases hoffer
  · intro x text hin
    cases hin

/-- Whatever the other end sends. -/
theorem matches_run (inputs : List TextInput) (x text : String)
    (h : .received x text ∈ (inputs.foldl TextPeer.input {}).events) :
    .incomingOffered x text.length text.utf8ByteSize ∈ (inputs.foldl TextPeer.input {}).events :=
  (matched_initial.run inputs).received x text h

end TextPeer

end P2PTransmission.Rtc
