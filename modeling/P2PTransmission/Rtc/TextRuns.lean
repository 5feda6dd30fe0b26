import P2PTransmission.Foundation.Run
import P2PTransmission.Rtc.TextMatches
import P2PTransmission.Rtc.TextSteps

/-!
# Two peers that send each other texts

Each of two peers may offer a text, give up or let a timeout elapse at any time, and a message that one of them sent may arrive
at the other at any time, in the order of sending. However these mix, every text follows its line (`TextSystem.Inv`). So a text
that is reported as delivered was received, once and as it was offered; two texts are never accepted at the same time; and when
all messages have arrived both peers are free again, whatever crossed (`text_protocol`).
-/

set_option autoImplicit false

namespace P2PTransmission.Rtc

open Wire (TextMessage)

inductive Party
  | left | right
  deriving DecidableEq, Repr

def Party.other : Party → Party
  | left => right
  | right => left

abbrev TextSystem : Type := Party → TextPeer

inductive TextAct
  | call (party : Party) (call : TextCall)
  /-- The next message of the party arrives. -/
  | deliver (party : Party)
  deriving DecidableEq, Repr

/-- The id that an offer draws. -/
def TextAct.drawn : TextAct → Option String
  | call _ (.offer transferId _) => some transferId
  | _ => none

namespace TextSystem

def step (s : TextSystem) : TextAct → TextSystem
  | .call party call => Function.update s party ((s party).call call)
  | .deliver party =>
    match (s party).outbox with
    | [] => s
    | message :: rest =>
      Function.update (Function.update s party { s party with outbox := rest }) party.other
        ((s party.other).handleControl message)

def initial : TextSystem := fun _ => {}

def run (acts : List TextAct) : TextSystem := acts.foldl step initial

theorem step_idle {s : TextSystem} {party : Party} (h : (s party).outbox = []) : s.step (.deliver party) = s := by
  unfold step
  dsimp only
  rw [h]

theorem step_message {s : TextSystem} {party : Party} {message : TextMessage} {rest : List TextMessage}
    (h : (s party).outbox = message :: rest) :
    s.step (.deliver party) = Function.update (Function.update s party { s party with outbox := rest }) party.other
      ((s party.other).handleControl message) := by
  unfold step
  dsimp only
  rw [h]

end TextSystem

/-! ## One text -/

/-- The end that offers the text and the other one follow the line of the text. -/
structure Held (x text : String) (sender receiver : TextView) : Prop where
  line : Line x text sender.outgoing receiver.receiving sender.messages receiver.messages receiver.received
  own : sender.receiving = false ∧ sender.received = []
  theirs : receiver.outgoing = none ∧ ¬receiver.delivered
  delivered : sender.delivered → receiver.received = [text]

namespace Held

variable {x text : String} {sender receiver : TextView} {message : TextMessage} {rest : List TextMessage}

theorem blank : Held x text .blank .blank :=
  ⟨.ended [] (fun _ h => (by cases h)) [] (.inl rfl), ⟨rfl, rfl⟩, ⟨rfl, fun h => h.elim⟩, fun h => h.elim⟩

theorem offered : Held x text (TextView.blank.offering x text) .blank :=
  ⟨.offered, ⟨rfl, rfl⟩, ⟨rfl, fun h => h.elim⟩, fun h => h.elim⟩

theorem reply_snoc {replies : List TextMessage} (h : ∀ reply ∈ replies, IsReply reply) (hmessage : IsReply message) :
    ∀ reply ∈ replies ++ [message], IsReply reply := by
  intro reply hin
  rcases List.mem_append.mp hin with hin | hin
  · exact h reply hin
  · rw [List.mem_singleton.mp hin]
    exact hmessage

theorem reply_two {replies : List TextMessage} {first second : TextMessage} (hreplies : replies = [first, second])
    (hfirst : IsReply first) (hsecond : IsReply second) : ∀ reply ∈ replies, IsReply reply := by
  subst hreplies
  exact reply_snoc (fun reply hin => by rw [List.mem_singleton.mp hin]; exact hfirst) hsecond

theorem reply_one {replies : List TextMessage} (hreplies : replies = [message]) (hmessage : IsReply message) :
    ∀ reply ∈ replies, IsReply reply := by
  subst hreplies
  exact fun reply hin => by rw [List.mem_singleton.mp hin]; exact hmessage

/-- The sender gives up. -/
theorem sender_givesUp (h : Held x text sender receiver) (hhas : sender.outgoing ≠ none) :
    Held x text (sender.givenUp x) receiver := by
  obtain ⟨hline, ⟨hown, hreceived⟩, htheirs, hdelivered⟩ := h
  refine ⟨?_, ⟨rfl, hreceived⟩, htheirs, hdelivered⟩
  obtain ⟨outgoing, _, messages, _, _⟩ := sender
  obtain ⟨_, receiving, replies, received, _⟩ := receiver
  have hempty : ∀ reply ∈ ([] : List TextMessage), IsReply reply := fun _ hin => (by cases hin)
  cases hline with
  | offered => exact .offerLeft
  | agreed => exact .waiting _ (reply_one rfl (by trivial))
  | withdrawn => exact .cancelled _ (reply_two rfl (by trivial) (by trivial)) _ (.inl rfl)
  | refused => exact .cancelled _ (reply_one rfl (by trivial)) _ (.inl rfl)
  | sending => exact .waitingPayload _ hempty
  | crossing => exact .payloadCancelled _ (reply_one rfl (by trivial))
  | dropped => exact .cancelled _ (reply_one rfl (by trivial)) _ (.inl rfl)
  | receipted => exact .cancelled _ (reply_one rfl (by trivial)) _ (.inr rfl)
  | _ => exact absurd rfl hhas

/-- The receiver gives up. -/
theorem receiver_givesUp (h : Held x text sender receiver) (hhas : receiver.receiving = true) :
    Held x text sender (receiver.givenUp x) := by
  obtain ⟨hline, hown, ⟨houtgoing, hundelivered⟩, hdelivered⟩ := h
  refine ⟨?_, hown, ⟨rfl, hundelivered⟩, hdelivered⟩
  obtain ⟨outgoing, _, messages, _, _⟩ := sender
  obtain ⟨_, receiving, replies, received, _⟩ := receiver
  cases hline with
  | agreed => exact .withdrawn
  | sending => exact .crossing
  | waiting _ hreplies => exact .cancelled _ (reply_snoc hreplies (by trivial)) _ (.inl rfl)
  | waitingPayload _ hreplies => exact .payloadCancelled _ (reply_snoc hreplies (by trivial))
  | _ => cases hhas

/-- What the sender sends is about the text as it is. -/
theorem conforms (h : Held x text sender receiver) {texts : String → String} (htext : texts x = text)
    (hin : message ∈ sender.messages) : Conforms texts message := by
  have hline := h.line
  have hoffer : Conforms texts (offerOf x text) := ⟨by rw [htext], by rw [htext]⟩
  have hpayload : Conforms texts (.textPayload x text) := htext.symm
  have hone : ∀ other, Conforms texts other → message ∈ [other] → Conforms texts message := by
    intro other hother hin
    rw [List.mem_singleton.mp hin]
    exact hother
  have htwo : ∀ other, Conforms texts other → message ∈ [other, .textCancel x] → Conforms texts message := by
    intro other hother hin
    rcases List.mem_cons.mp hin with rfl | hin
    · exact hother
    · exact hone (.textCancel x) trivial hin
  generalize sender.messages = messages at hline hin
  generalize sender.outgoing = outgoing at hline
  generalize receiver.receiving = receiving at hline
  generalize receiver.messages = replies at hline
  generalize receiver.received = received at hline
  cases hline with
  | offered => exact hone _ hoffer hin
  | sending => exact hone _ hpayload hin
  | crossing => exact hone _ hpayload hin
  | offerLeft => exact htwo _ hoffer hin
  | waiting => exact hone (.textCancel x) trivial hin
  | waitingPayload => exact htwo _ hpayload hin
  | payloadLeft => exact hone _ hpayload hin
  | payloadCancelled => exact htwo _ hpayload hin
  | cancelled => exact hone (.textCancel x) trivial hin
  | _ => cases hin

theorem reply_conforms (h : Held x text sender receiver) {texts : String → String} (hin : message ∈ receiver.messages) :
    Conforms texts message := by
  have hline := h.line
  have hreply : IsReply message := by
    generalize sender.messages = messages at hline
    generalize sender.outgoing = outgoing at hline
    generalize receiver.receiving = receiving at hline
    generalize receiver.messages = replies at hline hin
    generalize receiver.received = received at hline
    cases hline with
    | offered => cases hin
    | agreed => exact reply_one rfl (by trivial) _ hin
    | withdrawn => exact reply_two rfl (by trivial) (by trivial) _ hin
    | refused => exact reply_one rfl (by trivial) _ hin
    | sending => cases hin
    | crossing => exact reply_one rfl (by trivial) _ hin
    | dropped => exact reply_one rfl (by trivial) _ hin
    | receipted => exact reply_one rfl (by trivial) _ hin
    | offerLeft => cases hin
    | waiting _ hreplies => exact hreplies _ hin
    | waitingPayload _ hreplies => exact hreplies _ hin
    | payloadLeft _ hreplies => exact hreplies _ hin
    | payloadCancelled _ hreplies => exact hreplies _ hin
    | cancelled _ hreplies => exact hreplies _ hin
    | ended _ hreplies => exact hreplies _ hin
  cases message with
  | textOffer => exact hreply.elim
  | textPayload => exact hreply.elim
  | _ => trivial

/-- A message of the sender arrives. -/
theorem forth (h : Held x text sender receiver) (hmessages : sender.messages = message :: rest) (free : Bool) :
    Held x text { sender with messages := rest } (receiver.arrived text free message) := by
  obtain ⟨hline, hown, ⟨htheirs, hundelivered⟩, hdelivered⟩ := h
  obtain ⟨outgoing, ownReceiving, messages, ownReceived, ownDelivered⟩ := sender
  obtain ⟨theirOutgoing, receiving, replies, received, theirDelivered⟩ := receiver
  obtain rfl : theirOutgoing = none := htheirs
  obtain rfl : messages = message :: rest := hmessages
  have hempty : ∀ reply ∈ ([] : List TextMessage), IsReply reply := fun _ hin => (by cases hin)
  cases hline with
  | offered =>
    cases free with
    | true => exact ⟨.agreed, hown, ⟨rfl, hundelivered⟩, hdelivered⟩
    | false => exact ⟨.refused, hown, ⟨rfl, hundelivered⟩, hdelivered⟩
  | sending => exact ⟨.receipted, hown, ⟨rfl, hundelivered⟩, fun _ => rfl⟩
  | crossing => exact ⟨.dropped, hown, ⟨rfl, hundelivered⟩, hdelivered⟩
  | offerLeft =>
    cases free with
    | true => exact ⟨.waiting _ (reply_one rfl (by trivial)), hown, ⟨rfl, hundelivered⟩, hdelivered⟩
    | false => exact ⟨.cancelled _ (reply_one rfl (by trivial)) _ (.inl rfl), hown, ⟨rfl, hundelivered⟩, hdelivered⟩
  | waiting _ hreplies => exact ⟨.ended _ hreplies _ (.inl rfl), hown, ⟨rfl, hundelivered⟩, hdelivered⟩
  | waitingPayload _ hreplies =>
    exact ⟨.cancelled _ (reply_snoc hreplies (by trivial)) _ (.inr rfl), hown, ⟨rfl, hundelivered⟩, fun _ => rfl⟩
  | payloadLeft _ hreplies => exact ⟨.ended _ hreplies _ (.inl rfl), hown, ⟨rfl, hundelivered⟩, hdelivered⟩
  | payloadCancelled _ hreplies => exact ⟨.cancelled _ hreplies _ (.inl rfl), hown, ⟨rfl, hundelivered⟩, hdelivered⟩
  | cancelled _ hreplies _ hreceived => exact ⟨.ended _ hreplies _ hreceived, hown, ⟨rfl, hundelivered⟩, hdelivered⟩

/-- A message of the receiver arrives. -/
theorem back (h : Held x text sender receiver) (hmessages : receiver.messages = message :: rest) (free : Bool) :
    Held x text (sender.arrived text free message) { receiver with messages := rest } := by
  obtain ⟨hline, ⟨hreceiving, hreceived⟩, ⟨htheirs, hundelivered⟩, hdelivered⟩ := h
  obtain ⟨outgoing, ownReceiving, messages, ownReceived, ownDelivered⟩ := sender
  obtain ⟨theirOutgoing, receiving, replies, received, theirDelivered⟩ := receiver
  obtain rfl : ownReceiving = false := hreceiving
  obtain rfl : ownReceived = [] := hreceived
  obtain rfl : replies = message :: rest := hmessages
  -- without an outgoing text an answer changes nothing
  have hidle : ∀ (after : Line x text none receiving messages rest received) (hmessage : IsReply message),
      Held x text (TextView.arrived ⟨none, false, messages, [], ownDelivered⟩ text free message)
        ⟨theirOutgoing, receiving, rest, received, theirDelivered⟩ := by
    intro after hmessage
    cases message with
    | textOffer => exact hmessage.elim
    | textPayload => exact hmessage.elim
    | textDecision y accepted => exact ⟨after, ⟨rfl, rfl⟩, ⟨htheirs, hundelivered⟩, hdelivered⟩
    | textReceipt y => exact ⟨after, ⟨rfl, rfl⟩, ⟨htheirs, hundelivered⟩, hdelivered⟩
    | textCancel y => exact ⟨after, ⟨rfl, rfl⟩, ⟨htheirs, hundelivered⟩, hdelivered⟩
  cases hline with
  | agreed => exact ⟨.sending, ⟨rfl, rfl⟩, ⟨htheirs, hundelivered⟩, hdelivered⟩
  | withdrawn => exact ⟨.crossing, ⟨rfl, rfl⟩, ⟨htheirs, hundelivered⟩, hdelivered⟩
  | refused => exact ⟨.ended _ (fun _ hin => (by cases hin)) _ (.inl rfl), ⟨rfl, rfl⟩, ⟨htheirs, hundelivered⟩, hdelivered⟩
  | crossing => exact ⟨.payloadLeft _ fun _ hin => (by cases hin), ⟨rfl, rfl⟩, ⟨htheirs, hundelivered⟩, hdelivered⟩
  | dropped => exact ⟨.ended _ (fun _ hin => (by cases hin)) _ (.inl rfl), ⟨rfl, rfl⟩, ⟨htheirs, hundelivered⟩, hdelivered⟩
  | receipted => exact ⟨.ended _ (fun _ hin => (by cases hin)) _ (.inr rfl), ⟨rfl, rfl⟩, ⟨htheirs, hundelivered⟩, fun _ => rfl⟩
  | waiting _ hreplies =>
    exact hidle (.waiting _ fun reply hin => hreplies reply (List.mem_cons_of_mem _ hin)) (hreplies _ List.mem_cons_self)
  | waitingPayload _ hreplies =>
    exact hidle (.waitingPayload _ fun reply hin => hreplies reply (List.mem_cons_of_mem _ hin)) (hreplies _ List.mem_cons_self)
  | payloadLeft _ hreplies =>
    exact hidle (.payloadLeft _ fun reply hin => hreplies reply (List.mem_cons_of_mem _ hin)) (hreplies _ List.mem_cons_self)
  | payloadCancelled _ hreplies =>
    exact hidle (.payloadCancelled _ fun reply hin => hreplies reply (List.mem_cons_of_mem _ hin)) (hreplies _ List.mem_cons_self)
  | cancelled _ hreplies _ hreceived =>
    exact hidle (.cancelled _ (fun reply hin => hreplies reply (List.mem_cons_of_mem _ hin)) _ hreceived)
      (hreplies _ List.mem_cons_self)
  | ended _ hreplies _ hreceived =>
    exact hidle (.ended _ (fun reply hin => hreplies reply (List.mem_cons_of_mem _ hin)) _ hreceived) (hreplies _ List.mem_cons_self)

end Held

theorem arrived_outgoing {view : TextView} {text : String} {free : Bool} {message : TextMessage}
    (h : (view.arrived text free message).outgoing ≠ none) : view.outgoing ≠ none := by
  cases message with
  | textOffer => exact h
  | textDecision x accepted =>
    intro hnone
    unfold TextView.arrived at h
    rw [hnone] at h
    exact h hnone
  | textPayload x content =>
    unfold TextView.arrived at h
    cases hreceiving : view.receiving with
    | true =>
      rw [hreceiving] at h
      exact h
    | false =>
      rw [hreceiving] at h
      exact h
  | textReceipt x =>
    intro hnone
    unfold TextView.arrived at h
    rw [hnone] at h
    exact h hnone
  | textCancel x => exact absurd rfl h

/-! ## Both peers -/

variable {owner : String → Party} {texts : String → String} {used : List String} {s : TextSystem} {peer peer' : TextPeer}

/-- A message after which the text `x` is over at the one who sent it is followed by the offer of `y`. -/
def TextPeer.Before (peer : TextPeer) (x y text : String) : Prop :=
  ∀ before message after, peer.outbox = before ++ message :: after → message.transferId = x → ClosesText message →
    offerOf y text ∈ after

/-- Every text follows its line, and a new text is offered after the last message about the one before. -/
structure TextSystem.Inv (owner : String → Party) (texts : String → String) (used : List String) (s : TextSystem) : Prop where
  steady : ∀ party, (s party).Steady texts
  held : ∀ x, Held x (texts x) ((s (owner x)).view x) ((s (owner x).other).view x)
  unused : ∀ x, x ∉ used → ∀ party, (s party).view x = .blank
  order : ∀ party x y, outgoingIn (s party.other).outgoingText x ≠ none → outgoingIn (s party).outgoingText y ≠ none →
    (s party).Before x y (texts y)

theorem Party.other_ne (party : Party) : party.other ≠ party := by
  cases party <;> decide

theorem Party.other_other (party : Party) : party.other.other = party := by
  cases party <;> rfl

theorem Party.eq_other {party other : Party} (h : other ≠ party) : other = party.other := by
  cases party <;> cases other <;> first | rfl | exact absurd rfl h

/-- What a peer sends keeps the order. -/
theorem TextPeer.Moves.before {x y : String} (h : peer.Moves texts peer')
    (hbefore : outgoingIn peer.outgoingText y ≠ none → peer.Before x y (texts y))
    (hout : outgoingIn peer'.outgoingText y ≠ none) : peer'.Before x y (texts y) := by
  intro before message after hsplit hid hcloses
  rcases h.offered y hout with hold | hnew
  · rcases h.sent with hsame | ⟨last, hsent, hlast⟩
    · rw [hsame] at hsplit
      exact hbefore hold before message after hsplit hid hcloses
    · rw [hsent] at hsplit
      rcases snoc_split hsplit with ⟨-, -, rfl⟩ | ⟨rest, rfl, hrest⟩
      · rw [hlast hcloses] at hout
        exact absurd rfl hout
      · exact List.mem_append_left _ (hbefore hold before message rest hrest hid hcloses)
  · rw [hnew] at hsplit
    rcases snoc_split hsplit with ⟨-, -, rfl⟩ | ⟨rest, rfl, -⟩
    · exact hcloses.elim
    · exact List.mem_append_right _ (List.mem_singleton_self _)

namespace TextSystem.Inv

variable (h : s.Inv owner texts used)

include h

/-- What a peer sends is its own. -/
theorem owner_of_outgoing {party : Party} {x : String} (hout : outgoingIn (s party).outgoingText x ≠ none) : owner x = party := by
  by_cases hparty : party = owner x
  · exact hparty.symm
  · have hheld := h.held x
    rw [← Party.eq_other hparty] at hheld
    exact absurd hheld.theirs.1 hout

theorem owner_of_receiving {party : Party} {x : String} (hreceiving : receivingIn (s party).receivingText x = true) :
    party = (owner x).other := by
  by_cases hparty : party = owner x
  · have hown := (h.held x).own.1
    rw [← hparty] at hown
    cases hreceiving.symm.trans hown
  · exact Party.eq_other hparty

theorem held_at (party : Party) (x : String) (hparty : owner x = party) :
    Held x (texts x) ((s party).view x) ((s party.other).view x) := by
  subst hparty
  exact h.held x

/-- A call keeps every text on its line. -/
theorem call (party : Party) (call : TextCall)
    (hoffer : ∀ x text, call = .offer x text → text = texts x ∧ owner x = party ∧ x ∉ used) :
    (s.step (.call party call)).Inv owner texts (used ++ ((TextAct.call party call).drawn).toList) := by
  obtain ⟨hmoves, hcalled⟩ := call_steady (h.steady party) call fun x text hcall => (hoffer x text hcall).1
  have hself : s.step (.call party call) party = (s party).call call := Function.update_self ..
  have hother : ∀ other, other ≠ party → s.step (.call party call) other = s other := fun other hne => Function.update_of_ne hne ..
  generalize s.step (.call party call) = s' at hself hother
  rw [← hself] at hmoves hcalled
  have hsub : ∀ {x}, x ∉ used ++ ((TextAct.call party call).drawn).toList → x ∉ used :=
    fun hnot hin => hnot (List.mem_append_left _ hin)
  -- an outgoing text is an old one, or it has just been drawn
  have hout : ∀ x, outgoingIn (s' party).outgoingText x ≠ none → outgoingIn (s party).outgoingText x ≠ none ∨
      x ∉ used := by
    intro x hx
    cases hcalled with
    | idle hview =>
      left
      have hsame := congrArg TextView.outgoing (hview x)
      exact fun hnone => hx (hsame.trans hnone)
    | gaveUp z hhas hturns =>
      left
      by_cases hxz : x = z
      · subst hxz
        exact absurd (congrArg TextView.outgoing hturns.1) hx
      · exact fun hnone => hx ((congrArg TextView.outgoing (hturns.2 x hxz)).trans hnone)
    | offered z hcall hfree hturns =>
      by_cases hxz : x = z
      · right
        subst hxz
        exact (hoffer x _ hcall).2.2
      · left
        exact fun hnone => hx ((congrArg TextView.outgoing (hturns.2 x hxz)).trans hnone)
  refine ⟨fun other => ?_, fun x => ?_, fun x hnot other => ?_, fun other x y hx hy => ?_⟩
  · by_cases hne : other = party
    · rw [hne]
      exact hmoves.steady
    · rw [hother other hne]
      exact h.steady other
  · have hold := h.held x
    -- the views of the text before and after, at the end that made the call
    have hkept : (s' party).view x = (s party).view x →
        Held x (texts x) ((s' (owner x)).view x) ((s' (owner x).other).view x) := by
      intro hview
      have hall : ∀ other, (s' other).view x = (s other).view x := by
        intro other
        by_cases hne : other = party
        · rw [hne]
          exact hview
        · rw [hother other hne]
      rw [hall, hall]
      exact hold
    cases hcalled with
    | idle hview => exact hkept (hview x)
    | gaveUp z hhas hturns =>
      by_cases hxz : x = z
      · subst hxz
        by_cases hparty : party = owner x
        · subst hparty
          rw [hother _ (owner x).other_ne, hturns.1]
          refine hold.sender_givesUp ?_
          rcases hhas with hhas | hhas
          · exact hhas
          · cases hhas.symm.trans hold.own.1
        · have hreceiver := Party.eq_other hparty
          rw [hreceiver] at hturns hother
          rw [hother _ fun hsame => hparty (hreceiver.trans hsame.symm), hturns.1]
          refine hold.receiver_givesUp ?_
          rw [hreceiver] at hhas
          rcases hhas with hhas | hhas
          · exact absurd hold.theirs.1 hhas
          · exact hhas
      · exact hkept (hturns.2 x hxz)
    | offered z hcall hfree hturns =>
      by_cases hxz : x = z
      · subst hxz
        obtain ⟨-, hparty, hunused⟩ := hoffer x _ hcall
        subst hparty
        rw [hother _ (owner x).other_ne, hturns.1, h.unused x hunused, h.unused x hunused]
        exact .offered
      · exact hkept (hturns.2 x hxz)
  · by_cases hne : other = party
    · subst hne
      cases hcalled with
      | idle hview => rw [hview, h.unused x (hsub hnot)]
      | gaveUp z hhas hturns =>
        by_cases hxz : x = z
        · subst hxz
          have hblank := h.unused x (hsub hnot) other
          rcases hhas with hhas | hhas
          · exact absurd (congrArg TextView.outgoing hblank) hhas
          · cases hhas.symm.trans (congrArg TextView.receiving hblank)
        · rw [hturns.2 x hxz, h.unused x (hsub hnot)]
      | offered z hcall hfree hturns =>
        by_cases hxz : x = z
        · subst hxz
          rw [hcall] at hnot
          exact absurd (List.mem_append_right _ (List.mem_singleton_self x)) hnot
        · rw [hturns.2 x hxz, h.unused x (hsub hnot)]
    · rw [hother other hne]
      exact h.unused x (hsub hnot) other
  · by_cases hne : other = party
    · subst hne
      rw [hother _ other.other_ne] at hx
      exact hmoves.before (h.order other x y hx) hy
    · rw [hother other hne] at hy ⊢
      obtain rfl : party = other.other := Party.eq_other fun hsame => hne hsame.symm
      rcases hout x hx with hold | hunused
      · exact h.order other x y hold hy
      · -- of a text that has just been offered there are no messages
        intro before message after hsplit hid _
        have hblank := congrArg TextView.messages (h.unused x hunused other)
        have hin : message ∈ messagesIn (s other).outbox x := by
          rw [hsplit]
          exact List.mem_filter.mpr ⟨List.mem_append_right _ List.mem_cons_self, decide_eq_true hid⟩
        rw [show messagesIn (s other).outbox x = [] from hblank] at hin
        cases hin

/-- A message that arrives keeps every text on its line. -/
theorem deliver (party : Party) : (s.step (.deliver party)).Inv owner texts used := by
  cases houtbox : (s party).outbox with
  | nil =>
    rw [TextSystem.step_idle houtbox]
    exact h
  | cons message rest =>
    rw [TextSystem.step_message houtbox]
    have hmem : message ∈ (s party).outbox := by
      rw [houtbox]
      exact List.mem_cons_self
    have hgood := (h.steady party).outbox message hmem
    have hmessages : ((s party).view message.transferId).messages = message :: messagesIn rest message.transferId := by
      show messagesIn (s party).outbox message.transferId = _
      rw [houtbox, messagesIn_cons rest rfl]
    have hin : message ∈ ((s party).view message.transferId).messages := by
      rw [hmessages]
      exact List.mem_cons_self
    have hconforms : Conforms texts message := by
      by_cases hparty : owner message.transferId = party
      · exact (h.held_at party _ hparty).conforms rfl hin
      · have hheld := h.held message.transferId
        rw [← Party.eq_other fun hsame => hparty hsame.symm] at hheld
        exact hheld.reply_conforms hin
    obtain ⟨hmoves, hturns⟩ := message_steady (h.steady party.other) message hgood hconforms
    have hself : Function.update (Function.update s party { s party with outbox := rest }) party.other
        ((s party.other).handleControl message) party = { s party with outbox := rest } := by
      rw [Function.update_of_ne party.other_ne.symm, Function.update_self]
    have hother : Function.update (Function.update s party { s party with outbox := rest }) party.other
        ((s party.other).handleControl message) party.other = (s party.other).handleControl message := Function.update_self ..
    generalize Function.update (Function.update s party { s party with outbox := rest }) party.other
        ((s party.other).handleControl message) = s' at hself hother
    rw [← hother] at hmoves hturns
    -- the sender knows one message less
    have hview : (s' party).view message.transferId =
        { (s party).view message.transferId with messages := messagesIn rest message.transferId } := by
      rw [hself]
      rfl
    have hviews : ∀ x, x ≠ message.transferId → (s' party).view x = (s party).view x := by
      intro x hx
      rw [hself]
      unfold TextPeer.view TextPeer.receivedOf
      dsimp only
      rw [houtbox, messagesIn_cons_ne rest fun hsame => hx hsame.symm]
    have hkept : ∀ x, x ≠ message.transferId → ∀ other, (s' other).view x = (s other).view x := by
      intro x hx other
      by_cases hne : other = party
      · rw [hne]
        exact hviews x hx
      · rw [Party.eq_other hne]
        exact hturns.2 x hx
    have hsteady : (s' party).Steady texts := by
      have hold := h.steady party
      rw [hself]
      refine ⟨hold.channel, hold.incoming, hold.single, hold.outgoing, hold.receiving, fun other hrest => hold.outbox other ?_⟩
      rw [houtbox]
      exact List.mem_cons_of_mem _ hrest
    refine ⟨fun other => ?_, fun x => ?_, fun x hnot other => ?_, fun other x y hx hy => ?_⟩
    · by_cases hne : other = party
      · rw [hne]
        exact hsteady
      · rw [Party.eq_other hne]
        exact hmoves.steady
    · by_cases hx : x = message.transferId
      · subst hx
        by_cases hparty : owner message.transferId = party
        · rw [hparty, hview, hturns.1]
          exact (h.held_at party _ hparty).forth hmessages _
        · have hsender : owner message.transferId = party.other := Party.eq_other hparty
          have hheld := h.held message.transferId
          rw [hsender, Party.other_other] at hheld ⊢
          rw [hview, hturns.1]
          exact hheld.back hmessages _
      · rw [hkept x hx, hkept x hx]
        exact h.held x
    · have hx : x ≠ message.transferId := by
        rintro rfl
        rw [h.unused _ hnot party] at hin
        cases hin
      rw [hkept x hx]
      exact h.unused x hnot other
    · -- a message does not start a text
      have hout : ∀ x, outgoingIn (s' party.other).outgoingText x ≠ none → outgoingIn (s party.other).outgoingText x ≠ none := by
        intro x hx
        by_cases hsame : x = message.transferId
        · subst hsame
          have hafter : (s' party.other).view message.transferId = _ := hturns.1
          exact arrived_outgoing fun hnone => hx ((congrArg TextView.outgoing hafter).trans hnone)
        · exact fun hnone => hx ((congrArg TextView.outgoing (hturns.2 x hsame)).trans hnone)
      by_cases hne : other = party
      · subst hne
        rw [hself] at hy ⊢
        intro before closing after hsplit hid hcloses
        refine h.order other x y (hout x hx) hy (message :: before) closing after ?_ hid hcloses
        rw [houtbox, List.cons_append]
        exact congrArg (message :: ·) hsplit
      · obtain rfl : other = party.other := Party.eq_other hne
        refine hmoves.before (h.order party.other x y ?_) hy
        rw [Party.other_other] at hx ⊢
        rw [hself] at hx
        exact hx

end TextSystem.Inv

theorem TextSystem.inv_initial (owner : String → Party) (texts : String → String) : TextSystem.initial.Inv owner texts [] where
  steady _ := ⟨rfl, rfl, .inl rfl, fun _ h => (by cases h), fun _ h => (by cases h), fun _ h => (by cases h)⟩
  held x := by
    have hblank : ({} : TextPeer).view x = .blank := by
      unfold TextPeer.view TextView.blank
      rw [show (TextEvent.delivered x ∈ ({} : TextPeer).events) = False from propext ⟨fun h => (by cases h), False.elim⟩]
      rfl
    show Held x (texts x) (({} : TextPeer).view x) (({} : TextPeer).view x)
    rw [hblank]
    exact .blank
  unused x _ _ := by
    show ({} : TextPeer).view x = .blank
    unfold TextPeer.view TextView.blank
    rw [show (TextEvent.delivered x ∈ ({} : TextPeer).events) = False from propext ⟨fun h => (by cases h), False.elim⟩]
    rfl
  order _ _ _ h := absurd rfl h

/-- The offers of the run are those of the assignment. -/
def TextAct.Agrees (owner : String → Party) (texts : String → String) : TextAct → Prop
  | .call party (.offer transferId text) => text = texts transferId ∧ owner transferId = party
  | _ => True

/-- **Runs.** Every text follows its line, as long as no id is drawn twice. -/
theorem TextSystem.inv_run (acts : List TextAct) (h : s.Inv owner texts used)
    (hagree : ∀ act ∈ acts, act.Agrees owner texts) (hids : (used ++ acts.filterMap TextAct.drawn).Nodup) :
    (acts.foldl TextSystem.step s).Inv owner texts (used ++ acts.filterMap TextAct.drawn) := by
  induction acts generalizing s used with
  | nil =>
    rw [List.filterMap_nil, List.append_nil]
    exact h
  | cons act acts ih =>
    have hagrees := hagree act List.mem_cons_self
    have hrest : ∀ other ∈ acts, other.Agrees owner texts := fun other hin => hagree other (List.mem_cons_of_mem _ hin)
    have hsplit : used ++ (act :: acts).filterMap TextAct.drawn = (used ++ act.drawn.toList) ++ acts.filterMap TextAct.drawn := by
      cases hdrawn : act.drawn with
      | none => rw [List.filterMap_cons_none hdrawn, Option.toList_none, List.append_nil]
      | some x => rw [List.filterMap_cons_some hdrawn, Option.toList_some, List.append_assoc, List.singleton_append]
    rw [hsplit] at hids ⊢
    refine ih ?_ hrest hids
    cases act with
    | deliver party =>
      show (s.step (.deliver party)).Inv owner texts (used ++ [])
      rw [List.append_nil]
      exact h.deliver party
    | call party call =>
      refine h.call party call fun x text hcall => ?_
      subst hcall
      refine ⟨hagrees.1, hagrees.2, fun hin => ?_⟩
      have hfresh := (List.nodup_append.mp (List.nodup_append.mp hids).1).2.2
      exact hfresh x hin x (List.mem_singleton_self x) rfl

/-! ## What the lines say -/

section Conclusions

variable {x text : String} {outgoing : Option Bool} {receiving : Bool} {messages replies : List TextMessage}
  {received : List String}

theorem Line.received_le (h : Line x text outgoing receiving messages replies received) : received = [] ∨ received = [text] := by
  cases h with
  | receipted => exact .inr rfl
  | cancelled _ _ _ hreceived => exact hreceived
  | ended _ _ _ hreceived => exact hreceived
  | _ => exact .inl rfl

/-- Where nothing is under way nothing is going on. -/
theorem Line.idle (h : Line x text outgoing receiving [] [] received) : outgoing = none ∧ receiving = false := by
  cases h
  exact ⟨rfl, rfl⟩

/-- An accepted text is waited for, or a message that it is over is under way. -/
theorem Line.accepted (h : Line x text (some true) receiving messages replies received) :
    (receiving = true ∨ ∃ reply, reply ∈ replies ∧ ClosesText reply) ∧ offerOf x text ∉ messages := by
  have hpayload : offerOf x text ∉ [TextMessage.textPayload x text] := by
    intro hin
    cases List.mem_singleton.mp hin
  cases h with
  | sending => exact ⟨.inl rfl, hpayload⟩
  | crossing => exact ⟨.inr ⟨_, List.mem_singleton_self _, trivial⟩, hpayload⟩
  | dropped => exact ⟨.inr ⟨_, List.mem_singleton_self _, trivial⟩, fun hin => (by cases hin)⟩
  | receipted => exact ⟨.inr ⟨_, List.mem_singleton_self _, trivial⟩, fun hin => (by cases hin)⟩

end Conclusions

namespace TextSystem.Inv

variable {x y : String}

/-- Two texts are not accepted at the same time. -/
theorem not_both (h : s.Inv owner texts used) (party : Party) (hy : outgoingIn (s party).outgoingText y = some true)
    (hx : outgoingIn (s party.other).outgoingText x = some true) : False := by
  have hheldY := h.held_at party y (h.owner_of_outgoing (by rw [hy]; exact Option.some_ne_none _))
  have hheldX := h.held_at party.other x (h.owner_of_outgoing (by rw [hx]; exact Option.some_ne_none _))
  have hlineY := hheldY.line
  have hlineX := hheldX.line
  rw [show ((s party).view y).outgoing = some true from hy] at hlineY
  rw [show ((s party.other).view x).outgoing = some true from hx] at hlineX
  rcases hlineY.accepted.1 with hreceiving | ⟨reply, hreply, hcloses⟩
  · -- the other peer waits for this text, so that it sends none
    obtain ⟨offer, hslot, -⟩ := receivingIn_eq_true hreceiving
    obtain ⟨outgoing, hout, -⟩ := outgoingIn_eq_some hx
    rcases (h.steady party.other).single with hnone | hnone
    · cases hout.symm.trans hnone
    · cases hslot.symm.trans hnone
  · -- it has sent a closing message, and its own offer after that
    obtain ⟨hin, hid⟩ := List.mem_filter.mp hreply
    obtain ⟨before, after, hsplit⟩ := List.append_of_mem hin
    have horder := h.order party.other y x (by rw [Party.other_other, hy]; exact Option.some_ne_none _)
      (by rw [hx]; exact Option.some_ne_none _)
    have hafter := horder before reply after hsplit (of_decide_eq_true hid) hcloses
    refine hlineX.accepted.2 (List.mem_filter.mpr ⟨?_, decide_eq_true rfl⟩)
    rw [hsplit]
    exact List.mem_append_right _ (List.mem_cons_of_mem _ hafter)

/-- When all messages have arrived both peers are free. -/
theorem idle (h : s.Inv owner texts used) (hdrained : ∀ party, (s party).outbox = []) (party : Party) :
    (s party).activeTextTransferId = none := by
  have hnone : ∀ party x, messagesIn (s party).outbox x = [] := by
    intro party x
    rw [hdrained party]
    rfl
  have hidle : ∀ x, ((s (owner x)).view x).outgoing = none ∧ ((s (owner x).other).view x).receiving = false := by
    intro x
    have hline := (h.held x).line
    rw [show ((s (owner x)).view x).messages = [] from hnone _ x, show ((s (owner x).other).view x).messages = [] from hnone _ x] at hline
    exact hline.idle
  have hout : (s party).outgoingText = none := by
    cases hslot : (s party).outgoingText with
    | none => rfl
    | some outgoing =>
      have hself : outgoingIn (s party).outgoingText outgoing.transferId = some outgoing.accepted := by
        rw [hslot]
        exact outgoingIn_self outgoing
      have howner := h.owner_of_outgoing (by rw [hself]; exact Option.some_ne_none _)
      have hnothing := (hidle outgoing.transferId).1
      rw [howner] at hnothing
      cases hself.symm.trans hnothing
  have hreceiving : (s party).receivingText = none := by
    cases hslot : (s party).receivingText with
    | none => rfl
    | some offer =>
      have hself : receivingIn (s party).receivingText offer.transferId = true := by
        rw [hslot]
        exact receivingIn_self offer
      have howner := h.owner_of_receiving hself
      have hnothing := (hidle offer.transferId).2
      rw [← howner] at hnothing
      cases hself.symm.trans hnothing
  unfold TextPeer.activeTextTransferId
  rw [hout, hreceiving, (h.steady party).incoming]
  rfl

theorem received_le (h : s.Inv owner texts used) (party : Party) (x : String) : ((s party).receivedOf x).length ≤ 1 := by
  by_cases hparty : party = owner x
  · have hown := (h.held x).own.2
    rw [← hparty] at hown
    rw [show (s party).receivedOf x = [] from hown]
    exact Nat.zero_le 1
  · have hline := (h.held x).line
    rw [← Party.eq_other hparty] at hline
    rcases hline.received_le with hreceived | hreceived
    · rw [show (s party).receivedOf x = [] from hreceived]
      exact Nat.zero_le 1
    · rw [show (s party).receivedOf x = [texts x] from hreceived]
      exact Nat.le_refl 1

/-- A delivered text is one that this peer has offered, and it was received as it is. -/
theorem received_of_delivered (h : s.Inv owner texts used) (party : Party) (x : String)
    (hdelivered : .delivered x ∈ (s party).events) :
    x ∈ used ∧ owner x = party ∧ (s party.other).receivedOf x = [texts x] := by
  have hparty : owner x = party := by
    by_cases hparty : party = owner x
    · exact hparty.symm
    · have hheld := h.held x
      rw [← Party.eq_other hparty] at hheld
      exact absurd hdelivered hheld.theirs.2
  refine ⟨?_, hparty, (h.held_at party x hparty).delivered hdelivered⟩
  by_contra hunused
  have hblank := congrArg TextView.delivered (h.unused x hunused party)
  rw [show ((s party).view x).delivered = (TextEvent.delivered x ∈ (s party).events) from rfl] at hblank
  exact (hblank ▸ hdelivered : TextView.blank.delivered)

end TextSystem.Inv

/-! ## Deliveries come to an end -/

def messageWeight : TextMessage → Nat
  | .textOffer _ _ _ => 4
  | .textDecision _ _ => 3
  | .textPayload _ _ => 2
  | .textReceipt _ | .textCancel _ => 1

/-- The weight of what was sent and has not arrived. -/
def TextPeer.load (peer : TextPeer) : Nat := (peer.outbox.map messageWeight).sum

def TextSystem.load (s : TextSystem) : Nat := (s .left).load + (s .right).load

/-- So many messages arrive, in any order between the two directions. -/
inductive TextSystem.Deliveries : TextSystem → Nat → TextSystem → Prop
  | none (s : TextSystem) : Deliveries s 0 s
  | more {s t : TextSystem} {number : Nat} (party : Party) (h : (s party).outbox ≠ []) (rest : Deliveries (s.step (.deliver party)) number t) :
      Deliveries s (number + 1) t

theorem load_trySend (peer : TextPeer) (message : TextMessage) : (peer.trySend message).load ≤ peer.load + messageWeight message := by
  unfold TextPeer.trySend TextPeer.sendControlOn
  cases peer.currentDataChannel with
  | error error => exact Nat.le_add_right _ _
  | ok _ =>
    cases message.validate with
    | error error => exact Nat.le_add_right _ _
    | ok _ => simp [TextPeer.load]

theorem load_sendControlOn {peer sent : TextPeer} {message : TextMessage} (h : peer.sendControlOn message = .ok sent) :
    sent.load = peer.load + messageWeight message := by
  unfold TextPeer.sendControlOn at h
  cases hvalid : message.validate with
  | error error =>
    rw [hvalid] at h
    cases h
  | ok _ =>
    rw [hvalid] at h
    obtain rfl := Except.ok.inj h
    simp [TextPeer.load]

theorem load_decideText (peer : TextPeer) (x : String) (accepted : Bool) : (peer.decideText x accepted).2.load ≤ peer.load + 3 := by
  unfold TextPeer.decideText
  cases peer.currentDataChannel with
  | error error => exact Nat.le_add_right _ _
  | ok _ =>
    cases peer.incomingText with
    | none => exact Nat.le_add_right _ _
    | some offer =>
      dsimp only
      split
      · exact Nat.le_add_right _ _
      · cases hsent : peer.sendControlOn (.textDecision x accepted) with
        | error error => exact Nat.le_add_right _ _
        | ok sent =>
          have hload := load_sendControlOn hsent
          cases accepted with
          | true => exact hload.le
          | false => exact hload.le

/-- A message is answered by a lighter one, if at all. -/
theorem load_handleControl (peer : TextPeer) (message : TextMessage) :
    (peer.handleControl message).load < peer.load + messageWeight message := by
  cases message with
  | textOffer x characterCount byteLength =>
    show (peer.handleTextOffer x characterCount byteLength).load < peer.load + 4
    unfold TextPeer.handleTextOffer
    cases peer.fileOrTextTransferActive with
    | true => exact Nat.lt_succ_of_le (load_trySend peer (.textDecision x false))
    | false =>
      dsimp only
      have hload := load_decideText ({ peer with incomingText := some ⟨x, characterCount, byteLength⟩ }.emit
        (.incomingOffered x characterCount byteLength)) x true
      generalize TextPeer.decideText _ x true = decided at hload
      obtain ⟨outcome, decided⟩ := decided
      cases outcome with
      | ok _ => exact Nat.lt_succ_of_le hload
      | error error => exact Nat.lt_succ_of_le hload
  | textDecision x accepted =>
    show (peer.handleTextDecision x accepted).load < peer.load + 3
    have hsame : ∀ after : TextPeer, after.outbox = peer.outbox → after.load < peer.load + 3 := by
      intro after houtbox
      unfold TextPeer.load
      rw [houtbox]
      omega
    unfold TextPeer.handleTextDecision
    cases peer.outgoingText with
    | none => exact hsame _ rfl
    | some outgoing =>
      dsimp only
      split
      · exact hsame _ rfl
      · obtain ⟨transferId, text, waits⟩ := outgoing
        cases waits with
        | true => exact hsame _ rfl
        | false =>
          cases accepted with
          | false => exact hsame _ rfl
          | true =>
            dsimp only
            cases peer.currentDataChannel with
            | error error => exact hsame _ rfl
            | ok _ =>
              dsimp only
              cases hsent : { peer with outgoingText := some ⟨transferId, text, true⟩ }.sendControlOn (.textPayload x text) with
              | error error => exact hsame _ rfl
              | ok sent => exact Nat.lt_succ_of_le (load_sendControlOn hsent).le
  | textPayload x text =>
    show (peer.handleTextPayload x text).load < peer.load + 2
    have hsame : ∀ after : TextPeer, after.outbox = peer.outbox → after.load < peer.load + 2 := by
      intro after houtbox
      unfold TextPeer.load
      rw [houtbox]
      omega
    unfold TextPeer.handleTextPayload
    cases peer.receivingText with
    | none => exact hsame _ rfl
    | some offer =>
      dsimp only
      split
      · exact hsame _ rfl
      · split
        · exact Nat.lt_succ_of_le (load_trySend ({ peer with receivingText := none }.textFail x _) (.textCancel x))
        · split
          · exact hsame _ rfl
          · exact Nat.lt_succ_of_le (load_trySend { peer with receivingText := none } (.textReceipt x))
  | textReceipt x =>
    show (peer.handleTextReceipt x).load < peer.load + 1
    unfold TextPeer.handleTextReceipt
    split
    · exact Nat.lt_succ_self _
    · exact Nat.lt_succ_self _
  | textCancel x =>
    show (peer.handleTextCancel x).load < peer.load + 1
    unfold TextPeer.handleTextCancel
    split
    · exact Nat.lt_succ_self _
    · exact Nat.lt_succ_self _

theorem TextSystem.load_step (s : TextSystem) (party : Party) (h : (s party).outbox ≠ []) :
    (s.step (.deliver party)).load < s.load := by
  obtain ⟨message, rest, houtbox⟩ := List.exists_cons_of_ne_nil h
  rw [TextSystem.step_message houtbox]
  have hhandled := load_handleControl (s party.other) message
  have hrest : (s party).load = messageWeight message + TextPeer.load { s party with outbox := rest } := by
    unfold TextPeer.load
    rw [houtbox]
    rfl
  unfold TextSystem.load
  cases party with
  | left =>
    rw [Function.update_of_ne (by decide), Function.update_self, Party.other, Function.update_self]
    rw [Party.other] at hhandled
    omega
  | right =>
    rw [Function.update_of_ne (by decide : Party.right ≠ Party.other .right), Function.update_self, Party.other, Function.update_self]
    rw [Party.other] at hhandled
    omega

theorem TextSystem.Deliveries.bounded {t : TextSystem} {number : Nat} (h : s.Deliveries number t) : number + t.load ≤ s.load := by
  induction h with
  | none s => omega
  | more party houtbox _ ih =>
    have hstep := TextSystem.load_step _ party houtbox
    omega

theorem TextSystem.Deliveries.inv {t : TextSystem} {number : Nat} (h : s.Deliveries number t) (hinv : s.Inv owner texts used) :
    t.Inv owner texts used := by
  induction h with
  | none s => exact hinv
  | more party _ _ ih => exact ih (hinv.deliver party)

/-! ## The protocol -/

theorem TextAct.eq_of_drawn {act : TextAct} {x : String} (h : act.drawn = some x) : ∃ party text, act = .call party (.offer x text) := by
  cases act with
  | deliver party => cases h
  | call party call =>
    cases call with
    | offer transferId text =>
      obtain rfl := Option.some.inj h
      exact ⟨party, text, rfl⟩
    | _ => cases h

/-- Where no id is drawn twice, each belongs to one party and one text. -/
theorem exists_agreeing (acts : List TextAct) (hids : (acts.filterMap TextAct.drawn).Nodup) :
    ∃ owner texts, ∀ act ∈ acts, act.Agrees owner texts := by
  induction acts with
  | nil => exact ⟨fun _ => .left, fun _ => "", fun _ h => (by cases h)⟩
  | cons act acts ih =>
    cases hdrawn : act.drawn with
    | none =>
      rw [List.filterMap_cons_none hdrawn] at hids
      obtain ⟨owner, texts, hagree⟩ := ih hids
      refine ⟨owner, texts, fun other hin => ?_⟩
      rcases List.mem_cons.mp hin with rfl | hin
      · cases other with
        | deliver party => trivial
        | call party call =>
          cases call with
          | offer transferId text => cases hdrawn
          | _ => trivial
      · exact hagree other hin
    | some x =>
      rw [List.filterMap_cons_some hdrawn] at hids
      obtain ⟨hfresh, hids⟩ := List.nodup_cons.mp hids
      obtain ⟨owner, texts, hagree⟩ := ih hids
      obtain ⟨party, text, rfl⟩ := TextAct.eq_of_drawn hdrawn
      refine ⟨Function.update owner x party, Function.update texts x text, fun other hin => ?_⟩
      rcases List.mem_cons.mp hin with rfl | hrest
      · have htext : Function.update texts x text x = text := Function.update_self ..
        exact ⟨htext.symm, Function.update_self ..⟩
      · have hold := hagree other hrest
        cases other with
        | deliver party => trivial
        | call otherParty call =>
          cases call with
          | offer y content =>
            have hne : y ≠ x := by
              rintro rfl
              exact hfresh (List.mem_filterMap.mpr ⟨.call otherParty (.offer y content), hrest, rfl⟩)
            obtain ⟨htext, howner⟩ := hold
            refine ⟨?_, ?_⟩
            · rw [Function.update_of_ne hne]
              exact htext
            · rw [Function.update_of_ne hne]
              exact howner
          | _ => trivial

/-- The peer sends a text that was accepted. -/
def TextPeer.Sending (peer : TextPeer) : Prop := ∃ outgoing, peer.outgoingText = some outgoing ∧ outgoing.accepted = true

/-- What any interleaving of two peers leads to: what is delivered was offered by this peer and received once as it is, an offer
is received at most once, and the two never send at the same time. From there all messages arrive after finitely many steps,
in whatever order, and then neither peer has a text under way. -/
structure TextSystem.Orderly (acts : List TextAct) : Prop where
  delivered : ∀ party x, .delivered x ∈ (run acts party).events →
    ∃ text, .call party (.offer x text) ∈ acts ∧ (run acts party.other).receivedOf x = [text]
  received : ∀ party x, ((run acts party).receivedOf x).length ≤ 1
  sending : ∀ party, (run acts party).Sending → ¬(run acts party.other).Sending
  arriving : ∀ number after, (run acts).Deliveries number after → number ≤ (run acts).load
  idle : ∀ number after, (run acts).Deliveries number after → (∀ party, (after party).outbox = []) →
    ∀ party, (after party).activeTextTransferId = none

/-- **Texts.** Two peers whose messages arrive in order transfer texts in an orderly way, whatever they offer, cancel and time
out meanwhile. And whatever the other end sends, a peer surfaces a text only if it is as long as it was announced. -/
theorem text_protocol :
    (∀ acts : List TextAct, (acts.filterMap TextAct.drawn).Nodup → TextSystem.Orderly acts) ∧
      ∀ (inputs : List TextInput) (x text : String), .received x text ∈ (inputs.foldl TextPeer.input {}).events →
        .incomingOffered x text.length text.utf8ByteSize ∈ (inputs.foldl TextPeer.input {}).events := by
  refine ⟨fun acts hids => ?_, TextPeer.matches_run⟩
  obtain ⟨owner, texts, hagree⟩ := exists_agreeing acts hids
  have hinv : (TextSystem.run acts).Inv owner texts ([] ++ acts.filterMap TextAct.drawn) :=
    TextSystem.inv_run acts (TextSystem.inv_initial owner texts) hagree (by rwa [List.nil_append])
  rw [List.nil_append] at hinv
  refine ⟨fun party x hdelivered => ?_, hinv.received_le, fun party hsending hother => ?_, fun number after h => ?_,
    fun number after h hdrained => (h.inv hinv).idle hdrained⟩
  · obtain ⟨hused, howner, hreceived⟩ := hinv.received_of_delivered party x hdelivered
    obtain ⟨act, hact, hdrawn⟩ := List.mem_filterMap.mp hused
    obtain ⟨offering, text, rfl⟩ := TextAct.eq_of_drawn hdrawn
    obtain ⟨rfl, hparty⟩ := hagree _ hact
    obtain rfl : offering = party := hparty.symm.trans howner
    exact ⟨texts x, hact, hreceived⟩
  · obtain ⟨outgoing, hslot, haccepted⟩ := hsending
    obtain ⟨theirs, htheirs, htheirsAccepted⟩ := hother
    have hours : outgoingIn (TextSystem.run acts party).outgoingText outgoing.transferId = some true := by
      rw [hslot, outgoingIn_self, haccepted]
    refine hinv.not_both party hours (x := theirs.transferId) ?_
    rw [htheirs, outgoingIn_self, htheirsAccepted]
  · exact (Nat.le_add_right _ _).trans h.bounded

/-- The first offer finds the other peer free, and then that one offers too late. -/
def twoOffers : List TextAct :=
  [.call .left (.offer "a" "hi"), .deliver .left, .call .right (.offer "b" "yo"), .deliver .right, .deliver .left, .deliver .right]

theorem text_protocol_sample :
    .delivered "a" ∈ (TextSystem.run twoOffers .left).events ∧ TextSystem.Orderly twoOffers :=
  ⟨by decide +kernel, text_protocol.1 twoOffers (by decide +kernel)⟩

end P2PTransmission.Rtc
