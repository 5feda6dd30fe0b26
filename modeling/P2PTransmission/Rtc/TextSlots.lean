import P2PTransmission.Rtc.Text
import Mathlib.Data.List.Basic

/-!
# Texts come to an end

A peer has three places for a text: one that it offers, one that it is offered and one that it waits for. Between two inputs the
second is empty, and one of the others is empty too. Whatever the other side sends or keeps back, a text that is under way has
its timeout scheduled, which frees the peer when it elapses, and a text that was offered is still under way or has come to an end
that the application was told of (`texts_tended`). A connection that is given up takes the text with it.
-/

set_option autoImplicit false

namespace P2PTransmission.Rtc

open Wire (TextMessage)

/-! ## Connections that are given up -/

namespace TextPeer

/-- What `clear_peer_resources` does to the channel: what was not delivered is lost. -/
def disconnected (peer : TextPeer) : TextPeer := { peer with channel := .absent, outbox := [] }

def notifyCancelled (peer : TextPeer) : Option String → TextPeer
  | some transferId => peer.emit (.cancelled transferId)
  | none => peer

/-- The part of `prepare_reconnect` about texts: one text is taken, the others are not looked at. -/
def prepareReconnect (peer : TextPeer) : TextPeer :=
  (match peer.outgoingText, peer.incomingText with
    | some _, _ => { peer with outgoingText := none }
    | none, some _ => { peer with incomingText := none }
    | none, none => { peer with receivingText := none } : TextPeer).disconnected.notifyCancelled peer.activeTextTransferId

/-- The part of `reset` about texts. -/
def reset (peer : TextPeer) : TextPeer :=
  { peer with outgoingText := none, incomingText := none, receivingText := none }.disconnected.notifyCancelled
    peer.activeTextTransferId

end TextPeer

/-- Whatever may happen to the texts of a peer. -/
inductive TextTurn
  | input (input : TextInput)
  | prepareReconnect
  | reset
  deriving DecidableEq, Repr

def TextPeer.turn (peer : TextPeer) : TextTurn → TextPeer
  | .input input => peer.input input
  | .prepareReconnect => peer.prepareReconnect
  | .reset => peer.reset

/-! ## Ends -/

namespace TextEvent

/-- The peer offers the text. -/
def offers (x : String) : TextEvent → Bool
  | outgoingOffered transferId _ _ => transferId == x
  | _ => false

/-- The text that the peer has offered comes to an end. -/
def ends (x : String) : TextEvent → Bool
  | rejected transferId .send | delivered transferId | cancelled transferId | failed transferId _ => transferId == x
  | _ => false

end TextEvent

namespace TextPeer

/-- The text is offered and not at its end: as often as it counts. -/
def offering (slot : Option OutgoingTextState) (x : String) : Nat := if slot.any (·.transferId == x) then 1 else 0

/-- Every text that is under way is looked after, and every text that was offered is accounted for. -/
structure Tended (peer : TextPeer) : Prop where
  decided : peer.incomingText = none
  oneText : peer.outgoingText = none ∨ peer.receivingText = none
  outgoing : ∀ slot, peer.outgoingText = some slot → .outgoing slot.transferId slot.accepted ∈ peer.timeouts
  receiving : ∀ slot, peer.receivingText = some slot → .incoming slot.transferId ∈ peer.timeouts
  accounted : ∀ x, peer.events.countP (TextEvent.offers x) ≤
    peer.events.countP (TextEvent.ends x) + offering peer.outgoingText x

/-- No text begins, and a text that was offered ends only with an event. -/
structure Settles (peer peer' : TextPeer) : Prop where
  decided : peer'.incomingText = none
  receiving : peer'.receivingText = peer.receivingText ∨ peer'.receivingText = none
  timeouts : peer.timeouts ⊆ peer'.timeouts
  ended : ∃ events, peer'.events = peer.events ++ events ∧ (∀ event ∈ events, ∀ x, event.offers x = false) ∧
    (peer'.outgoingText = peer.outgoingText ∨
      peer'.outgoingText = none ∧ ∀ slot, peer.outgoingText = some slot → ∃ event ∈ events, event.ends slot.transferId = true)

variable {peer peer' peer'' : TextPeer} {x : String}

theorem Settles.refl (h : peer.incomingText = none) : Settles peer peer :=
  ⟨h, .inl rfl, List.Subset.refl _, [], by simp, by simp, .inl rfl⟩

theorem Settles.of_eq (hincoming : peer'.incomingText = none) (hreceiving : peer'.receivingText = peer.receivingText)
    (houtgoing : peer'.outgoingText = peer.outgoingText) (htimeouts : peer'.timeouts = peer.timeouts)
    (hevents : peer'.events = peer.events) : Settles peer peer' := by
  refine ⟨hincoming, .inl hreceiving, ?_, [], by rw [hevents, List.append_nil], by simp, .inl houtgoing⟩
  rw [htimeouts]
  exact List.Subset.refl _

theorem Settles.trans (h : Settles peer peer') (h' : Settles peer' peer'') : Settles peer peer'' := by
  obtain ⟨events, hevents, hquiet, houtgoing⟩ := h.ended
  obtain ⟨events', hevents', hquiet', houtgoing'⟩ := h'.ended
  refine ⟨h'.decided, ?_, fun _ hin => h'.timeouts (h.timeouts hin), events ++ events', ?_, fun event hin => ?_, ?_⟩
  · rcases h'.receiving with hr | hr
    · rw [hr]
      exact h.receiving
    · exact .inr hr
  · rw [hevents', hevents, List.append_assoc]
  · rcases List.mem_append.mp hin with hin | hin
    · exact hquiet event hin
    · exact hquiet' event hin
  · rcases houtgoing with hsame | ⟨hnone, hends⟩
    · rw [hsame] at houtgoing'
      refine houtgoing'.imp_right fun ⟨hnone, hends⟩ => ⟨hnone, fun slot hslot => ?_⟩
      obtain ⟨event, hin, hevent⟩ := hends slot hslot
      exact ⟨event, List.mem_append_right _ hin, hevent⟩
    · refine .inr ⟨?_, fun slot hslot => ?_⟩
      · rcases houtgoing' with hsame | ⟨hnone', -⟩
        · rw [hsame, hnone]
        · exact hnone'
      · obtain ⟨event, hin, hevent⟩ := hends slot hslot
        exact ⟨event, List.mem_append_left _ hin, hevent⟩

theorem countP_offers_append {events : List TextEvent} (hquiet : ∀ event ∈ events, ∀ x, event.offers x = false) :
    (peer.events ++ events).countP (TextEvent.offers x) = peer.events.countP (TextEvent.offers x) := by
  have hnone : events.countP (TextEvent.offers x) = 0 :=
    List.countP_eq_zero.mpr fun event hin => by simp [hquiet event hin x]
  rw [List.countP_append, hnone, Nat.add_zero]

/-- **What does not begin a text keeps the texts looked after.** -/
theorem Settles.tended (h : Settles peer peer') (ht : Tended peer) : Tended peer' := by
  obtain ⟨events, hevents, hquiet, houtgoing⟩ := h.ended
  refine ⟨h.decided, ?_, fun slot hslot => ?_, fun slot hslot => ?_, fun x => ?_⟩
  · rcases ht.oneText with hnone | hnone
    · rcases houtgoing with hsame | ⟨hnone', -⟩
      · exact .inl (hsame.trans hnone)
      · exact .inl hnone'
    · rcases h.receiving with hsame | hnone'
      · exact .inr (hsame.trans hnone)
      · exact .inr hnone'
  · rcases houtgoing with hsame | ⟨hnone, -⟩
    · exact h.timeouts (ht.outgoing slot (hsame.symm.trans hslot))
    · rw [hnone] at hslot
      cases hslot
  · rcases h.receiving with hsame | hnone
    · exact h.timeouts (ht.receiving slot (hsame.symm.trans hslot))
    · rw [hnone] at hslot
      cases hslot
  · have haccounted := ht.accounted x
    rw [hevents, countP_offers_append hquiet, List.countP_append]
    rcases houtgoing with hsame | ⟨hnone, hends⟩
    · rw [hsame]
      omega
    · -- the text that was offered has ended
      have hcounted : offering peer.outgoingText x ≤ events.countP (TextEvent.ends x) := by
        cases hslot : peer.outgoingText with
        | none => exact Nat.zero_le _
        | some slot =>
          unfold offering
          split
          · rename_i hsame
            obtain ⟨event, hin, hevent⟩ := hends slot hslot
            rw [show slot.transferId = x by simpa using hsame] at hevent
            exact List.countP_pos_iff.mpr ⟨event, hin, hevent⟩
          · exact Nat.zero_le _
      omega

/-! ## What settles -/

theorem settles_emit (hincoming : peer.incomingText = none) {event : TextEvent} (hevent : ∀ x, event.offers x = false) :
    Settles peer (peer.emit event) := by
  refine ⟨hincoming, .inl rfl, List.Subset.refl _, [event], rfl, fun other hin => ?_, .inl rfl⟩
  rw [List.mem_singleton.mp hin]
  exact hevent

theorem settles_textFail (hincoming : peer.incomingText = none) (x message : String) :
    Settles peer (peer.textFail x message) := settles_emit hincoming fun _ => rfl

theorem sendControlOn_same {message : TextMessage} (h : peer.sendControlOn message = .ok peer') :
    ∃ outbox, peer' = { peer with outbox } := by
  unfold sendControlOn at h
  cases hvalid : message.validate with
  | error error =>
    rw [hvalid] at h
    cases h
  | ok _ =>
    rw [hvalid] at h
    cases h
    exact ⟨_, rfl⟩

theorem settles_sendControlOn (hincoming : peer.incomingText = none) {message : TextMessage}
    (h : peer.sendControlOn message = .ok peer') : Settles peer peer' := by
  obtain ⟨outbox, rfl⟩ := sendControlOn_same h
  exact .of_eq hincoming rfl rfl rfl rfl

theorem trySend_same (peer : TextPeer) (message : TextMessage) : ∃ outbox, peer.trySend message = { peer with outbox } := by
  unfold trySend
  cases peer.currentDataChannel with
  | error error => exact ⟨peer.outbox, rfl⟩
  | ok _ =>
    dsimp only
    cases hsent : peer.sendControlOn message with
    | error error => exact ⟨peer.outbox, rfl⟩
    | ok sent => exact sendControlOn_same hsent

theorem settles_trySend (hincoming : peer.incomingText = none) (message : TextMessage) :
    Settles peer (peer.trySend message) := by
  obtain ⟨outbox, hsame⟩ := trySend_same peer message
  rw [hsame]
  exact .of_eq hincoming rfl rfl rfl rfl

/-- A slot is the one that was there, or it is empty because it held this text. -/
theorem filter_cases {A : Type} (id : A → String) (slot : Option A) (x : String) :
    slot.filter (id · != x) = slot ∨ slot.filter (id · != x) = none ∧ ∀ held, slot = some held → id held = x := by
  cases slot with
  | none => exact .inl rfl
  | some held =>
    by_cases hsame : id held = x
    · refine .inr ⟨by simp [Option.filter, hsame], fun other hother => ?_⟩
      cases hother
      exact hsame
    · exact .inl (by simp [Option.filter, hsame])

/-- A text is dropped, and the application is told. -/
theorem settles_cleared (hincoming : peer.incomingText = none) {event : TextEvent} (hoffers : ∀ y, event.offers y = false)
    (hends : event.ends x = true) : Settles peer ((peer.cleared x).emit event) := by
  refine ⟨?_, ?_, List.Subset.refl _, [event], rfl, fun other hin => ?_, ?_⟩
  · change peer.incomingText.filter _ = none
    rw [hincoming]
    rfl
  · exact (filter_cases IncomingTextOffer.transferId peer.receivingText x).imp_right And.left
  · rw [List.mem_singleton.mp hin]
    exact hoffers
  · refine (filter_cases OutgoingTextState.transferId peer.outgoingText x).imp_right fun hdropped =>
      ⟨hdropped.1, fun slot hslot => ⟨event, List.mem_singleton_self event, ?_⟩⟩
    rw [hdropped.2 slot hslot]
    exact hends

/-- A text that is not there is dropped. -/
theorem cleared_of_not_holds (h : peer.holds x = false) : peer.cleared x = peer := by
  unfold holds at h
  simp only [Bool.or_eq_false_iff] at h
  obtain ⟨⟨houtgoing, hincoming⟩, hreceiving⟩ := h
  have hkept : ∀ {A : Type} (id : A → String) (slot : Option A), slot.any (id · == x) = false →
      slot.filter (id · != x) = slot := by
    intro A id slot hany
    cases slot with
    | none => rfl
    | some held =>
      have hne : id held ≠ x := by simpa using hany
      simp [Option.filter, hne]
  unfold cleared
  rw [hkept _ _ houtgoing, hkept _ _ hincoming, hkept _ _ hreceiving]

/-- The text that was offered ends. -/
theorem settles_ended {slot : OutgoingTextState} (hincoming : peer.incomingText = none)
    (hslot : peer.outgoingText = some slot) {event : TextEvent} (hoffers : ∀ y, event.offers y = false)
    (hends : event.ends slot.transferId = true) : Settles peer ({ peer with outgoingText := none }.emit event) := by
  refine ⟨hincoming, .inl rfl, List.Subset.refl _, [event], rfl, fun other hin => ?_, .inr ⟨rfl, fun other hother => ?_⟩⟩
  · rw [List.mem_singleton.mp hin]
    exact hoffers
  · rw [hslot] at hother
    cases hother
    exact ⟨event, List.mem_singleton_self event, hends⟩

theorem settles_received (hincoming : peer.incomingText = none) : Settles peer { peer with receivingText := none } :=
  ⟨hincoming, .inr rfl, List.Subset.refl _, [], by simp, by simp, .inl rfl⟩

/-! ## Calls -/

theorem free_slots (h : peer.fileOrTextTransferActive = false) :
    peer.outgoingText = none ∧ peer.incomingText = none ∧ peer.receivingText = none := by
  unfold fileOrTextTransferActive activeTextTransferId at h
  simp only [Bool.or_eq_false_iff, Option.isSome_or, Option.isSome_map] at h
  obtain ⟨-, ⟨houtgoing, hincoming⟩, hreceiving⟩ := h
  exact ⟨Option.isNone_iff_eq_none.mp (by simpa using houtgoing), Option.isNone_iff_eq_none.mp (by simpa using hincoming),
    Option.isNone_iff_eq_none.mp (by simpa using hreceiving)⟩

/-- A text is offered by a peer that is free. -/
theorem tended_offering (ht : Tended peer) (hfree : peer.outgoingText = none ∧ peer.incomingText = none ∧ peer.receivingText = none)
    (x text : String) (outbox : List TextMessage) (characterCount byteLength : Nat) :
    Tended (({ peer with outgoingText := some ⟨x, text, false⟩, outbox }.emit
      (.outgoingOffered x characterCount byteLength)).schedule (.outgoing x false)) := by
  obtain ⟨houtgoing, hincoming, hreceiving⟩ := hfree
  refine ⟨hincoming, .inr hreceiving, fun slot hslot => ?_, fun slot hslot => ?_, fun y => ?_⟩
  · cases hslot
    exact List.mem_append_right _ (List.mem_singleton_self _)
  · change peer.receivingText = some slot at hslot
    rw [hreceiving] at hslot
    cases hslot
  · have haccounted := ht.accounted y
    rw [houtgoing] at haccounted
    change (peer.events ++ [_]).countP (TextEvent.offers y) ≤ (peer.events ++ [_]).countP (TextEvent.ends y) +
      offering (some ⟨x, text, false⟩) y
    by_cases hsame : x = y
    · simp [offering, TextEvent.offers, TextEvent.ends, hsame] at haccounted ⊢
      omega
    · simp [offering, TextEvent.offers, TextEvent.ends, hsame] at haccounted ⊢
      omega

theorem Tended.offerText (ht : Tended peer) (x text : String) : Tended (peer.offerText x text).2 := by
  unfold TextPeer.offerText
  split
  · exact ht
  split
  · exact ht
  cases (TextMessage.textPayload x text).validate with
  | error error => exact ht
  | ok _ =>
    dsimp only
    cases (TextMessage.textOffer x text.length text.utf8ByteSize).validate with
    | error error => exact ht
    | ok _ =>
      dsimp only
      cases peer.currentDataChannel with
      | error error => exact ht
      | ok _ =>
        cases hactive : peer.fileOrTextTransferActive with
        | true => exact ht
        | false =>
          have hfree := free_slots hactive
          dsimp only
          cases hsent : { peer with outgoingText := some ⟨x, text, false⟩ }.sendControlOn
              (.textOffer x text.length text.utf8ByteSize) with
          | error error =>
            have hsame : Settles peer { peer with outgoingText := none } := .of_eq ht.decided rfl hfree.1.symm rfl rfl
            exact hsame.tended ht
          | ok sent =>
            obtain ⟨outbox, rfl⟩ := sendControlOn_same hsent
            exact tended_offering ht hfree x text outbox _ _

/-- Between two inputs there is nothing to decide. -/
theorem Tended.decideText (ht : Tended peer) (x : String) (accepted : Bool) : (peer.decideText x accepted).2 = peer := by
  unfold TextPeer.decideText
  rw [ht.decided]
  cases peer.currentDataChannel with
  | error error => rfl
  | ok _ => rfl

theorem Tended.cancelText (ht : Tended peer) : Tended peer.cancelText.2 := by
  unfold TextPeer.cancelText
  cases peer.activeTextTransferId with
  | none => exact ht
  | some x =>
    have hcancelled : ∀ {sent : TextPeer}, Settles peer sent → Tended ((sent.cleared x).emit (.cancelled x)) := by
      intro sent hsent
      refine (hsent.trans (settles_cleared hsent.decided (fun _ => rfl) ?_)).tended ht
      simp [TextEvent.ends]
    cases peer.currentDataChannel with
    | error error => exact hcancelled (.refl ht.decided)
    | ok _ =>
      dsimp only
      cases hsent : peer.sendControlOn (.textCancel x) with
      | error error => exact ht
      | ok sent => exact hcancelled (settles_sendControlOn ht.decided hsent)

/-! ## Timeouts -/

theorem Tended.timeoutTextTransfer (ht : Tended peer) (x : String) : Tended (peer.timeoutTextTransfer x) := by
  have hsent := settles_trySend ht.decided (.textCancel x)
  unfold TextPeer.timeoutTextTransfer
  split
  · refine (hsent.trans (settles_cleared hsent.decided (fun _ => rfl) ?_)).tended ht
    simp [TextEvent.ends]
  · rename_i hholds
    have hsame : (peer.trySend (.textCancel x)).holds x = false := by
      obtain ⟨outbox, hsend⟩ := trySend_same peer (.textCancel x)
      rw [hsend]
      exact hholds
    rw [cleared_of_not_holds hsame]
    exact hsent.tended ht

theorem trySend_timeouts (peer : TextPeer) (message : TextMessage) (timeouts : List TextTimeout) :
    { peer with timeouts }.trySend message = { peer.trySend message with timeouts } := by
  have hchannel : ({ peer with timeouts } : TextPeer).currentDataChannel = peer.currentDataChannel := rfl
  unfold trySend sendControlOn
  rw [hchannel]
  cases peer.currentDataChannel with
  | error error => rfl
  | ok _ =>
    dsimp only
    cases message.validate with
    | error error => rfl
    | ok _ => rfl

/-- The text that has timed out does not look at the other timeouts. -/
theorem timeoutTextTransfer_timeouts (peer : TextPeer) (x : String) (timeouts : List TextTimeout) :
    { peer with timeouts }.timeoutTextTransfer x = { peer.timeoutTextTransfer x with timeouts } := by
  have hholds : ({ peer with timeouts } : TextPeer).holds x = peer.holds x := rfl
  unfold TextPeer.timeoutTextTransfer
  rw [trySend_timeouts, hholds]
  cases peer.holds x with
  | true => rfl
  | false => rfl

theorem elapse_timedOut {timeout : TextTimeout} (hin : timeout ∈ peer.timeouts) (h : peer.timedOut timeout = true) :
    peer.elapse timeout =
      { peer.timeoutTextTransfer timeout.transferId with timeouts := peer.timeouts.erase timeout } := by
  have hstill : ({ peer with timeouts := peer.timeouts.erase timeout } : TextPeer).timedOut timeout = true := by
    cases timeout with
    | outgoing x accepted => exact h
    | incoming x => exact h
  unfold TextPeer.elapse
  rw [if_pos hin, hstill]
  exact timeoutTextTransfer_timeouts peer _ _

/-- The state that a timeout was scheduled for is the only one. -/
theorem Tended.timedOut_alone (ht : Tended peer) {timeout : TextTimeout} (h : peer.timedOut timeout = true) :
    peer.holds timeout.transferId = true ∧ peer.outgoingText.filter (·.transferId != timeout.transferId) = none ∧
      peer.receivingText.filter (·.transferId != timeout.transferId) = none := by
  cases timeout with
  | outgoing x accepted =>
    change peer.outgoingText.any (fun state => state.transferId == x && state.accepted == accepted) = true at h
    cases hslot : peer.outgoingText with
    | none =>
      rw [hslot] at h
      cases h
    | some slot =>
      rw [hslot] at h
      have hsame : slot.transferId = x := by simp at h; exact h.1
      have hnone : peer.receivingText = none := ht.oneText.resolve_left (by rw [hslot]; simp)
      simp [holds, TextTimeout.transferId, hslot, hnone, hsame, Option.filter]
  | incoming x =>
    change peer.receivingText.any (fun offer => offer.transferId == x) = true at h
    cases hslot : peer.receivingText with
    | none =>
      rw [hslot] at h
      cases h
    | some slot =>
      rw [hslot] at h
      have hsame : slot.transferId = x := by simpa using h
      have hnone : peer.outgoingText = none := ht.oneText.resolve_right (by rw [hslot]; simp)
      simp [holds, TextTimeout.transferId, hslot, hnone, hsame, Option.filter]

/-- A text that has timed out leaves the peer free. -/
theorem Tended.freed (ht : Tended peer) {timeout : TextTimeout} (h : peer.timedOut timeout = true) :
    (peer.timeoutTextTransfer timeout.transferId).outgoingText = none ∧
      (peer.timeoutTextTransfer timeout.transferId).receivingText = none ∧
      .failed timeout.transferId "text transfer timed out" ∈ (peer.timeoutTextTransfer timeout.transferId).events := by
  obtain ⟨hholds, houtgoing, hreceiving⟩ := ht.timedOut_alone h
  obtain ⟨outbox, hsent⟩ := trySend_same peer (.textCancel timeout.transferId)
  unfold TextPeer.timeoutTextTransfer
  rw [hholds, hsent]
  exact ⟨houtgoing, hreceiving, List.mem_append_right _ (List.mem_singleton_self _)⟩

theorem Tended.elapse (ht : Tended peer) (timeout : TextTimeout) : Tended (peer.elapse timeout) := by
  by_cases hin : timeout ∈ peer.timeouts
  · cases hout : peer.timedOut timeout with
    | true =>
      obtain ⟨houtgoing, hreceiving, -⟩ := ht.freed hout
      have hfreed := ht.timeoutTextTransfer timeout.transferId
      rw [elapse_timedOut hin hout]
      refine ⟨hfreed.decided, .inl houtgoing, fun slot hslot => ?_, fun slot hslot => ?_, hfreed.accounted⟩
      · rw [houtgoing] at hslot
        cases hslot
      · rw [hreceiving] at hslot
        cases hslot
    | false =>
      have hstill : ({ peer with timeouts := peer.timeouts.erase timeout } : TextPeer).timedOut timeout = false := by
        cases timeout with
        | outgoing x accepted => exact hout
        | incoming x => exact hout
      unfold TextPeer.elapse
      rw [if_pos hin, hstill]
      refine ⟨ht.decided, ht.oneText, fun slot hslot => ?_, fun slot hslot => ?_, ht.accounted⟩
      · refine (List.mem_erase_of_ne ?_).mpr (ht.outgoing slot hslot)
        rintro rfl
        change peer.outgoingText.any _ = false at hout
        rw [hslot] at hout
        simp at hout
      · refine (List.mem_erase_of_ne ?_).mpr (ht.receiving slot hslot)
        rintro rfl
        change peer.receivingText.any _ = false at hout
        rw [hslot] at hout
        simp at hout
  · unfold TextPeer.elapse
    rw [if_neg hin]
    exact ht

/-! ## Messages -/

/-- A text is accepted by a peer that is free. -/
theorem tended_receiving (ht : Tended peer)
    (hfree : peer.outgoingText = none ∧ peer.incomingText = none ∧ peer.receivingText = none) (slot : IncomingTextOffer)
    (outbox : List TextMessage) {events : List TextEvent} (hquiet : ∀ event ∈ events, ∀ x, event.offers x = false) :
    Tended { peer with
      incomingText := none, receivingText := some slot, outbox, events := peer.events ++ events
      timeouts := peer.timeouts ++ [.incoming slot.transferId] } := by
  refine ⟨rfl, .inl hfree.1, fun other hother => ?_, fun other hother => ?_, fun x => ?_⟩
  · exact List.mem_append_left _ (ht.outgoing other hother)
  · cases hother
    exact List.mem_append_right _ (List.mem_singleton_self _)
  · have haccounted := ht.accounted x
    change (peer.events ++ events).countP (TextEvent.offers x) ≤ (peer.events ++ events).countP (TextEvent.ends x) + _
    rw [countP_offers_append hquiet, List.countP_append]
    change _ ≤ _ + offering peer.outgoingText x
    omega

/-- An offer that has just come is accepted, unless the decision cannot be sent. -/
theorem decideText_offered {offer : IncomingTextOffer} (hslot : peer.incomingText = some offer) :
    (∃ error, peer.decideText offer.transferId true = (.error error, peer)) ∨
      ∃ outbox, peer.decideText offer.transferId true = (.ok (),
        ({ peer with outbox, incomingText := none, receivingText := some offer }.emit
          (.accepted offer.transferId .receive)).schedule (.incoming offer.transferId)) := by
  unfold TextPeer.decideText
  cases peer.currentDataChannel with
  | error error => exact .inl ⟨error, rfl⟩
  | ok _ =>
    rw [hslot]
    dsimp only
    rw [if_neg (by simp)]
    cases hsent : peer.sendControlOn (.textDecision offer.transferId true) with
    | error error => exact .inl ⟨error, rfl⟩
    | ok sent =>
      obtain ⟨outbox, rfl⟩ := sendControlOn_same hsent
      exact .inr ⟨outbox, rfl⟩

theorem Tended.handleTextOffer (ht : Tended peer) (x : String) (characterCount byteLength : Nat) :
    Tended (peer.handleTextOffer x characterCount byteLength) := by
  unfold TextPeer.handleTextOffer
  cases hactive : peer.fileOrTextTransferActive with
  | true => exact (settles_trySend ht.decided _).tended ht
  | false =>
    have hfree := free_slots hactive
    have hoffered : ({ peer with incomingText := some ⟨x, characterCount, byteLength⟩ }.emit
        (.incomingOffered x characterCount byteLength)).incomingText = some ⟨x, characterCount, byteLength⟩ := rfl
    dsimp only
    rcases decideText_offered hoffered with ⟨error, hdecided⟩ | ⟨outbox, hdecided⟩
    · rw [hdecided]
      have hfailed : Settles peer ((({ peer with incomingText := some ⟨x, characterCount, byteLength⟩ }.emit
          (.incomingOffered x characterCount byteLength)).cleared x).textFail x error.text) := by
        refine ⟨?_, .inl ?_, List.Subset.refl _,
          [.incomingOffered x characterCount byteLength, .failed x error.text], ?_, ?_, .inl ?_⟩
        · simp [cleared, emit, textFail, Option.filter]
        · simp [cleared, emit, textFail, Option.filter, hfree.2.2]
        · simp [cleared, emit, textFail]
        · simp [TextEvent.offers]
        · simp [cleared, emit, textFail, Option.filter, hfree.1]
      exact hfailed.tended ht
    · rw [hdecided]
      have hquiet : ∀ event ∈ ([.incomingOffered x characterCount byteLength, .accepted x .receive] : List TextEvent),
          ∀ y, event.offers y = false := by simp [TextEvent.offers]
      have hreceiving := tended_receiving ht hfree ⟨x, characterCount, byteLength⟩ outbox hquiet
      simpa [emit, schedule] using hreceiving

/-- The text is sent once its offer is accepted. -/
theorem tended_accepted (ht : Tended peer) {slot : OutgoingTextState} (hslot : peer.outgoingText = some slot)
    (outbox : List TextMessage) :
    Tended (({ peer with outgoingText := some { slot with accepted := true }, outbox }.emit
      (.accepted slot.transferId .send)).schedule (.outgoing slot.transferId true)) := by
  have hnone : peer.receivingText = none := ht.oneText.resolve_left (by rw [hslot]; simp)
  refine ⟨ht.decided, .inr hnone, fun other hother => ?_, fun other hother => ?_, fun y => ?_⟩
  · cases hother
    exact List.mem_append_right _ (List.mem_singleton_self _)
  · exact List.mem_append_left _ (ht.receiving other hother)
  · have haccounted := ht.accounted y
    change (peer.events ++ [_]).countP (TextEvent.offers y) ≤ (peer.events ++ [_]).countP (TextEvent.ends y) +
      offering (some { slot with accepted := true }) y
    rw [hslot] at haccounted
    simpa [offering, TextEvent.offers, TextEvent.ends] using haccounted

theorem Tended.handleTextDecision (ht : Tended peer) (x : String) (accepted : Bool) :
    Tended (peer.handleTextDecision x accepted) := by
  unfold TextPeer.handleTextDecision
  cases hslot : peer.outgoingText with
  | none => exact (settles_textFail ht.decided _ _).tended ht
  | some outgoing =>
    dsimp only
    by_cases hsame : outgoing.transferId = x
    · subst hsame
      rw [if_neg (by simp)]
      have hcleared : ({ peer with outgoingText := some { outgoing with accepted := true } } : TextPeer).cleared
          outgoing.transferId = peer.cleared outgoing.transferId := by
        simp [cleared, hslot, Option.filter]
      have hfailed : ∀ message, Tended (({ peer with outgoingText := some { outgoing with accepted := true } }.cleared
          outgoing.transferId).textFail outgoing.transferId message) := by
        intro message
        rw [hcleared]
        exact (settles_cleared ht.decided (fun _ => rfl) (by simp [TextEvent.ends])).tended ht
      cases outgoing.accepted with
      | true => exact (settles_textFail ht.decided _ _).tended ht
      | false =>
        cases accepted with
        | false => exact (settles_ended ht.decided hslot (fun _ => rfl) (by simp [TextEvent.ends])).tended ht
        | true =>
          dsimp only
          cases peer.currentDataChannel with
          | error error => exact hfailed _
          | ok _ =>
            dsimp only
            cases hsent : { peer with outgoingText := some { outgoing with accepted := true } }.sendControlOn
                (.textPayload outgoing.transferId outgoing.text) with
            | error error => exact hfailed _
            | ok sent =>
              obtain ⟨outbox, rfl⟩ := sendControlOn_same hsent
              exact tended_accepted ht hslot outbox
    · rw [if_pos hsame]
      exact (settles_textFail ht.decided _ _).tended ht

theorem Tended.handleTextPayload (ht : Tended peer) (x text : String) : Tended (peer.handleTextPayload x text) := by
  unfold TextPeer.handleTextPayload
  cases peer.receivingText with
  | none => exact (settles_textFail ht.decided _ _).tended ht
  | some offer =>
    have hgone : Settles peer { peer with receivingText := none } := settles_received ht.decided
    dsimp only
    split
    · exact (settles_textFail ht.decided _ _).tended ht
    split
    · have hfailed := hgone.trans (settles_textFail hgone.decided x "text payload metadata does not match")
      exact (hfailed.trans (settles_trySend hfailed.decided _)).tended ht
    split
    · exact (hgone.trans (settles_textFail hgone.decided _ _)).tended ht
    · have hsent := hgone.trans (settles_trySend hgone.decided (.textReceipt x))
      exact (hsent.trans (settles_emit hsent.decided fun _ => rfl)).tended ht

theorem Tended.handleTextReceipt (ht : Tended peer) (x : String) : Tended (peer.handleTextReceipt x) := by
  unfold TextPeer.handleTextReceipt
  cases hslot : peer.outgoingText with
  | none => exact (settles_textFail ht.decided _ _).tended ht
  | some slot =>
    cases hdue : (some slot).any fun outgoing => outgoing.transferId == x && outgoing.accepted with
    | false => exact (settles_textFail ht.decided _ _).tended ht
    | true =>
      have hsame : slot.transferId = x := by simp at hdue; exact hdue.1
      exact (settles_ended ht.decided hslot (fun _ => rfl) (by simp [TextEvent.ends, hsame])).tended ht

theorem Tended.handleTextCancel (ht : Tended peer) (x : String) : Tended (peer.handleTextCancel x) := by
  unfold TextPeer.handleTextCancel
  cases hholds : peer.holds x with
  | true => exact (settles_cleared ht.decided (fun _ => rfl) (by simp [TextEvent.ends])).tended ht
  | false =>
    dsimp only
    rw [cleared_of_not_holds hholds]
    exact ht

/-! ## Runs -/

theorem Tended.input (ht : Tended peer) (input : TextInput) : Tended (peer.input input) := by
  cases input with
  | channel channel => exact (Settles.of_eq ht.decided rfl rfl rfl rfl : Settles peer { peer with channel }).tended ht
  | call call =>
    cases call with
    | offer x text => exact ht.offerText x text
    | decide x accepted =>
      change Tended (peer.decideText x accepted).2
      rw [ht.decideText]
      exact ht
    | cancel => exact ht.cancelText
    | timeout timeout => exact ht.elapse timeout
    | transfers active =>
      exact (Settles.of_eq ht.decided rfl rfl rfl rfl : Settles peer { peer with transferActive := active }).tended ht
  | message message =>
    cases message with
    | textOffer x characterCount byteLength => exact ht.handleTextOffer x characterCount byteLength
    | textDecision x accepted => exact ht.handleTextDecision x accepted
    | textPayload x text => exact ht.handleTextPayload x text
    | textReceipt x => exact ht.handleTextReceipt x
    | textCancel x => exact ht.handleTextCancel x

/-- A text that is dropped with the connection is the one that is reported. -/
theorem Tended.taken (ht : Tended peer) : peer.prepareReconnect = peer.reset := by
  unfold TextPeer.prepareReconnect TextPeer.reset
  have hdecided := ht.decided
  rcases ht.oneText with hnone | hnone
  · simp [hnone, hdecided]
  · cases hslot : peer.outgoingText with
    | none => simp [hdecided, hnone]
    | some slot => simp [hdecided, hnone]

theorem Tended.reset (ht : Tended peer) : Tended peer.reset := by
  have hactive : ∀ slot, peer.outgoingText = some slot → peer.activeTextTransferId = some slot.transferId := by
    intro slot hslot
    simp [activeTextTransferId, hslot]
  unfold TextPeer.reset
  cases hid : peer.activeTextTransferId with
  | none =>
    have hnone : peer.outgoingText = none := by
      cases hslot : peer.outgoingText with
      | none => rfl
      | some slot =>
        rw [hactive slot hslot] at hid
        cases hid
    have hgone : Settles peer
        ({ peer with outgoingText := none, incomingText := none, receivingText := none } : TextPeer).disconnected :=
      ⟨rfl, .inr rfl, List.Subset.refl _, [], by simp [disconnected], by simp, .inl hnone.symm⟩
    exact hgone.tended ht
  | some x =>
    have hgone : Settles peer
        (({ peer with outgoingText := none, incomingText := none, receivingText := none } : TextPeer).disconnected.emit
          (.cancelled x)) := by
      refine ⟨rfl, .inr rfl, List.Subset.refl _, [.cancelled x], rfl, by simp [TextEvent.offers],
        .inr ⟨rfl, fun slot hslot => ⟨_, List.mem_singleton_self _, ?_⟩⟩⟩
      rw [hactive slot hslot] at hid
      cases hid
      simp [TextEvent.ends]
    exact hgone.tended ht

theorem Tended.turn (ht : Tended peer) (turn : TextTurn) : Tended (peer.turn turn) := by
  cases turn with
  | input input => exact ht.input input
  | prepareReconnect =>
    change Tended peer.prepareReconnect
    rw [ht.taken]
    exact ht.reset
  | reset => exact ht.reset

theorem tended_initial : Tended ({} : TextPeer) :=
  ⟨rfl, .inl rfl, fun _ h => (by cases h), fun _ h => (by cases h), fun _ => Nat.zero_le _⟩

theorem tended_run (turns : List TextTurn) : Tended (turns.foldl TextPeer.turn {}) := by
  induction turns using List.reverseRecOn with
  | nil => exact tended_initial
  | append_singleton turns turn ih =>
    rw [List.foldl_concat]
    exact ih.turn turn

/-- The text that is under way has a timeout that frees the peer, and tells the application. -/
theorem Tended.deadline (ht : Tended peer) (h : peer.activeTextTransferId = some x) :
    ∃ timeout ∈ peer.timeouts, timeout.transferId = x ∧ (peer.elapse timeout).activeTextTransferId = none ∧
      .failed x "text transfer timed out" ∈ (peer.elapse timeout).events := by
  have hfrees : ∀ timeout ∈ peer.timeouts, peer.timedOut timeout = true →
      (peer.elapse timeout).activeTextTransferId = none ∧
        .failed timeout.transferId "text transfer timed out" ∈ (peer.elapse timeout).events := by
    intro timeout hin hout
    obtain ⟨houtgoing, hreceiving, hfailed⟩ := ht.freed hout
    have hdecided := (ht.timeoutTextTransfer timeout.transferId).decided
    rw [elapse_timedOut hin hout]
    refine ⟨?_, hfailed⟩
    simp [activeTextTransferId, houtgoing, hreceiving, hdecided]
  cases hslot : peer.outgoingText with
  | some slot =>
    have hsame : slot.transferId = x := by simpa [activeTextTransferId, hslot] using h
    have hin := ht.outgoing slot hslot
    obtain ⟨hfree, hfailed⟩ := hfrees _ hin (by simp [timedOut, hslot])
    exact ⟨_, hin, hsame, hfree, by rw [← hsame]; exact hfailed⟩
  | none =>
    cases hwaits : peer.receivingText with
    | none => simp [activeTextTransferId, hslot, hwaits, ht.decided] at h
    | some slot =>
      have hsame : slot.transferId = x := by simpa [activeTextTransferId, hslot, ht.decided, hwaits] using h
      have hin := ht.receiving slot hwaits
      obtain ⟨hfree, hfailed⟩ := hfrees _ hin (by simp [timedOut, hwaits])
      exact ⟨_, hin, hsame, hfree, by rw [← hsame]; exact hfailed⟩

/-- **Whatever happens to a peer, its texts come to an end**: one text is under way at a time, it has a timeout that frees the
peer, and a text that was offered is under way or its end was reported. -/
theorem texts_tended (turns : List TextTurn) :
    Tended (turns.foldl TextPeer.turn {}) ∧
      ∀ x, (turns.foldl TextPeer.turn {}).activeTextTransferId = some x →
        ∃ timeout ∈ (turns.foldl TextPeer.turn {}).timeouts, timeout.transferId = x ∧
          ((turns.foldl TextPeer.turn {}).elapse timeout).activeTextTransferId = none ∧
          .failed x "text transfer timed out" ∈ ((turns.foldl TextPeer.turn {}).elapse timeout).events :=
  ⟨tended_run turns, fun _ h => (tended_run turns).deadline h⟩

end TextPeer

end P2PTransmission.Rtc
