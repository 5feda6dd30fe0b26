import P2PTransmission.Rtc.Text

/-!
# The life of a text

What two peers and the messages between them know of one text (`TextView`), and what may become of it from the offer to the
receipt while either of them may give up at any time (`Line`). A step of a peer changes what it knows of a single text.
-/

set_option autoImplicit false

namespace P2PTransmission.Rtc

open Wire (TextMessage)

/-! ## What a peer knows of a text -/

def outgoingIn (slot : Option OutgoingTextState) (x : String) : Option Bool :=
  match slot with
  | none => none
  | some outgoing => if outgoing.transferId = x then some outgoing.accepted else none

def receivingIn (slot : Option IncomingTextOffer) (x : String) : Bool :=
  match slot with
  | none => false
  | some offer => decide (offer.transferId = x)

def messagesIn (messages : List TextMessage) (x : String) : List TextMessage := messages.filter fun message => message.transferId = x

def TextEvent.receivedText (x : String) : TextEvent → Option String
  | received transferId text => if transferId = x then some text else none
  | _ => none

/-- The texts that were received under the id. -/
def TextPeer.receivedOf (peer : TextPeer) (x : String) : List String := peer.events.filterMap (TextEvent.receivedText x)

structure TextView where
  /-- Offered by this peer, and whether it was accepted. -/
  outgoing : Option Bool
  receiving : Bool
  /-- Sent and not arrived. -/
  messages : List TextMessage
  received : List String
  delivered : Prop

def TextPeer.view (peer : TextPeer) (x : String) : TextView where
  outgoing := outgoingIn peer.outgoingText x
  receiving := receivingIn peer.receivingText x
  messages := messagesIn peer.outbox x
  received := peer.receivedOf x
  delivered := .delivered x ∈ peer.events

def TextView.blank : TextView := ⟨none, false, [], [], False⟩

section Slots

variable {x y : String} {outgoing : OutgoingTextState} {offer : IncomingTextOffer}

theorem outgoingIn_self (slot : OutgoingTextState) : outgoingIn (some slot) slot.transferId = some slot.accepted := if_pos rfl

theorem outgoingIn_ne (h : y ≠ outgoing.transferId) : outgoingIn (some outgoing) y = none := if_neg fun hsame => h hsame.symm

theorem outgoingIn_eq_some {slot : Option OutgoingTextState} {accepted : Bool} (h : outgoingIn slot x = some accepted) :
    ∃ outgoing, slot = some outgoing ∧ outgoing.transferId = x ∧ outgoing.accepted = accepted := by
  cases slot with
  | none => cases h
  | some outgoing =>
    unfold outgoingIn at h
    dsimp only at h
    by_cases hsame : outgoing.transferId = x
    · rw [if_pos hsame] at h
      exact ⟨outgoing, rfl, hsame, Option.some.inj h⟩
    · rw [if_neg hsame] at h
      cases h

theorem receivingIn_eq_true {slot : Option IncomingTextOffer} (h : receivingIn slot x = true) :
    ∃ offer, slot = some offer ∧ offer.transferId = x := by
  cases slot with
  | none => cases h
  | some offer => exact ⟨offer, rfl, of_decide_eq_true h⟩

theorem receivingIn_self (slot : IncomingTextOffer) : receivingIn (some slot) slot.transferId = true := decide_eq_true rfl

theorem receivingIn_ne (h : y ≠ offer.transferId) : receivingIn (some offer) y = false :=
  decide_eq_false fun hsame => h hsame.symm

theorem filter_same {A : Type} {id : A → String} {slot : A} (h : id slot = x) : (some slot).filter (id · != x) = none := by
  simp [Option.filter, h]

theorem filter_other {A : Type} {id : A → String} {slot : A} (h : id slot ≠ x) :
    (some slot).filter (id · != x) = some slot := by
  simp [Option.filter, h]

theorem outgoingIn_cleared (slot : Option OutgoingTextState) : outgoingIn (slot.filter (·.transferId != x)) x = none := by
  cases slot with
  | none => rfl
  | some outgoing =>
    by_cases hsame : outgoing.transferId = x
    · rw [filter_same hsame]
      rfl
    · rw [filter_other hsame]
      exact outgoingIn_ne fun h => hsame h.symm

theorem outgoingIn_cleared_ne (slot : Option OutgoingTextState) (h : y ≠ x) :
    outgoingIn (slot.filter (·.transferId != x)) y = outgoingIn slot y := by
  cases slot with
  | none => rfl
  | some outgoing =>
    by_cases hsame : outgoing.transferId = x
    · rw [filter_same hsame, outgoingIn_ne (by rw [hsame]; exact h)]
      rfl
    · rw [filter_other hsame]

theorem receivingIn_cleared (slot : Option IncomingTextOffer) : receivingIn (slot.filter (·.transferId != x)) x = false := by
  cases slot with
  | none => rfl
  | some offer =>
    by_cases hsame : offer.transferId = x
    · rw [filter_same hsame]
      rfl
    · rw [filter_other hsame]
      exact receivingIn_ne fun h => hsame h.symm

theorem receivingIn_cleared_ne (slot : Option IncomingTextOffer) (h : y ≠ x) :
    receivingIn (slot.filter (·.transferId != x)) y = receivingIn slot y := by
  cases slot with
  | none => rfl
  | some offer =>
    by_cases hsame : offer.transferId = x
    · rw [filter_same hsame, receivingIn_ne (by rw [hsame]; exact h)]
      rfl
    · rw [filter_other hsame]

theorem messagesIn_append (messages others : List TextMessage) :
    messagesIn (messages ++ others) x = messagesIn messages x ++ messagesIn others x :=
  List.filter_append ..

theorem messagesIn_one {message : TextMessage} (h : message.transferId = x) : messagesIn [message] x = [message] := by
  simp [messagesIn, h]

theorem messagesIn_one_ne {message : TextMessage} (h : message.transferId ≠ x) : messagesIn [message] x = [] := by
  simp [messagesIn, h]

theorem messagesIn_cons {message : TextMessage} (messages : List TextMessage) (h : message.transferId = x) :
    messagesIn (message :: messages) x = message :: messagesIn messages x := by
  simp [messagesIn, h]

theorem messagesIn_cons_ne {message : TextMessage} (messages : List TextMessage) (h : message.transferId ≠ x) :
    messagesIn (message :: messages) x = messagesIn messages x := by
  simp [messagesIn, h]

end Slots

/-- The event is neither that of a receipt nor that of a delivery. -/
def TextEvent.Quiet : TextEvent → Prop
  | received _ _ | delivered _ => False
  | _ => True

theorem receivedText_quiet {event : TextEvent} (h : event.Quiet) (x : String) : event.receivedText x = none := by
  cases event with
  | received transferId text => exact h.elim
  | delivered transferId => exact h.elim
  | _ => rfl

/-- What a peer knows of the text `x` has become `after`, and of every other text it knows what it knew. -/
def TextPeer.Turns (peer peer' : TextPeer) (x : String) (after : TextView) : Prop :=
  peer'.view x = after ∧ ∀ y, y ≠ x → peer'.view y = peer.view y

section Views

variable {peer : TextPeer} {x : String}

theorem receivedOf_quiet {events : List TextEvent} (h : ∀ event ∈ events, event.Quiet) :
    (peer.events ++ events).filterMap (TextEvent.receivedText x) = peer.receivedOf x := by
  have hnone : events.filterMap (TextEvent.receivedText x) = [] :=
    List.filterMap_eq_nil_iff.mpr fun event hevent => receivedText_quiet (h event hevent) x
  rw [List.filterMap_append, hnone, List.append_nil]
  rfl

theorem delivered_quiet {events : List TextEvent} (h : ∀ event ∈ events, event.Quiet) :
    TextEvent.delivered x ∈ peer.events ++ events ↔ .delivered x ∈ peer.events := by
  rw [List.mem_append]
  exact ⟨fun hmem => hmem.resolve_right fun hin => h _ hin, .inl⟩

end Views

/-! ## Lines -/

section Lines

variable (x text : String)

/-- The offer of a text. -/
def offerOf : TextMessage := .textOffer x text.length text.utf8ByteSize

/-- What the one who received the offer may send. -/
def IsReply : TextMessage → Prop
  | .textDecision _ _ | .textReceipt _ | .textCancel _ => True
  | .textOffer _ _ _ | .textPayload _ _ => False

/-- **The life of a text**: whether it is offered and accepted at the one end, whether the other end waits for it, the messages
about it that are under way to and fro, and what was received. -/
inductive Line : Option Bool → Bool → List TextMessage → List TextMessage → List String → Prop
  | offered : Line (some false) false [offerOf x text] [] []
  | agreed : Line (some false) true [] [.textDecision x true] []
  | withdrawn : Line (some false) false [] [.textDecision x true, .textCancel x] []
  | refused : Line (some false) false [] [.textDecision x false] []
  | sending : Line (some true) true [.textPayload x text] [] []
  | crossing : Line (some true) false [.textPayload x text] [.textCancel x] []
  | dropped : Line (some true) false [] [.textCancel x] []
  | receipted : Line (some true) false [] [.textReceipt x] [text]
  -- from here on the sender has given up or is done
  | offerLeft : Line none false [offerOf x text, .textCancel x] [] []
  | waiting (replies : List TextMessage) (h : ∀ reply ∈ replies, IsReply reply) : Line none true [.textCancel x] replies []
  | waitingPayload (replies : List TextMessage) (h : ∀ reply ∈ replies, IsReply reply) :
      Line none true [.textPayload x text, .textCancel x] replies []
  | payloadLeft (replies : List TextMessage) (h : ∀ reply ∈ replies, IsReply reply) :
      Line none false [.textPayload x text] replies []
  | payloadCancelled (replies : List TextMessage) (h : ∀ reply ∈ replies, IsReply reply) :
      Line none false [.textPayload x text, .textCancel x] replies []
  | cancelled (replies : List TextMessage) (h : ∀ reply ∈ replies, IsReply reply) (received : List String)
      (hreceived : received = [] ∨ received = [text]) : Line none false [.textCancel x] replies received
  | ended (replies : List TextMessage) (h : ∀ reply ∈ replies, IsReply reply) (received : List String)
      (hreceived : received = [] ∨ received = [text]) : Line none false [] replies received

end Lines

end P2PTransmission.Rtc
