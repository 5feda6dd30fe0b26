import P2PTransmission.Rtc.TextLines

/-!
# What a peer does with a text

One lemma for each call and each message: what becomes of the text that it is about, and what the peer sends. The peer is one
whose channel is open and whose texts are those that were offered (`TextPeer.Steady`).
-/

set_option autoImplicit false

namespace P2PTransmission.Rtc

open Wire (TextMessage)

/-! ## Steady peers -/

/-- The text of the id passes the checks of its messages. -/
def Good (texts : String → String) (x : String) : Prop := (TextMessage.textPayload x (texts x)).validate = .ok ()

structure TextPeer.Steady (texts : String → String) (peer : TextPeer) : Prop where
  channel : peer.channel = .opened
  /-- An offer is decided at once. -/
  incoming : peer.incomingText = none
  single : peer.outgoingText = none ∨ peer.receivingText = none
  outgoing : ∀ outgoing, peer.outgoingText = some outgoing →
    outgoing.text = texts outgoing.transferId ∧ Good texts outgoing.transferId
  receiving : ∀ offer, peer.receivingText = some offer → offer.characterCount = (texts offer.transferId).length ∧
    offer.byteLength = (texts offer.transferId).utf8ByteSize ∧ Good texts offer.transferId
  outbox : ∀ message ∈ peer.outbox, Good texts message.transferId

variable {texts : String → String} {peer peer' : TextPeer} {x y text : String}

section Good

variable (h : Good texts x)

include h

theorem Good.token : validateToken x "transfer_id" = .ok () := by
  unfold Good TextMessage.validate TextMessage.transferId at h
  cases htoken : validateToken x "transfer_id" with
  | ok _ => rfl
  | error error =>
    rw [htoken] at h
    cases h

theorem Good.decision (accepted : Bool) : (TextMessage.textDecision x accepted).validate = .ok () := by
  unfold TextMessage.validate TextMessage.transferId
  rw [h.token]
  rfl

theorem Good.receipt : (TextMessage.textReceipt x).validate = .ok () := by
  unfold TextMessage.validate TextMessage.transferId
  rw [h.token]
  rfl

theorem Good.cancel : (TextMessage.textCancel x).validate = .ok () := by
  unfold TextMessage.validate TextMessage.transferId
  rw [h.token]
  rfl

theorem Good.limits : (texts x).length ≤ Wire.MAX_TEXT_TRANSFER_CHARS ∧
    (texts x).utf8ByteSize ≤ Wire.MAX_TEXT_TRANSFER_BYTES := by
  have htoken := h.token
  unfold Good TextMessage.validate TextMessage.transferId TextMessage.validateBody at h
  rw [htoken] at h
  dsimp only at h
  unfold Wire.validateMultilineText at h
  split at h
  · cases h
  · rename_i hvalid
    split at hvalid
    · cases hvalid
    · split at hvalid
      · cases hvalid
      · rename_i hbytes
        split at h
        · cases h
        · rename_i hcharacters
          exact ⟨Nat.le_of_not_lt hcharacters, Nat.le_of_not_lt hbytes⟩

end Good

theorem currentDataChannel_opened (h : peer.channel = .opened) : peer.currentDataChannel = .ok () := by
  unfold TextPeer.currentDataChannel
  rw [h]

theorem sendControlOn_valid {message : TextMessage} (h : message.validate = .ok ()) :
    peer.sendControlOn message = .ok { peer with outbox := peer.outbox ++ [message] } := by
  unfold TextPeer.sendControlOn
  rw [h]

theorem trySend_valid {message : TextMessage} (hchannel : peer.channel = .opened) (h : message.validate = .ok ()) :
    peer.trySend message = { peer with outbox := peer.outbox ++ [message] } := by
  unfold TextPeer.trySend
  rw [currentDataChannel_opened hchannel]
  dsimp only
  rw [sendControlOn_valid h]

/-! ## Steps -/

/-- A message after which the one who sends it does not expect the text any more. -/
def ClosesText : TextMessage → Prop
  | .textCancel _ | .textReceipt _ => True
  | _ => False

/-- What every step of a peer keeps, and what it may send: one message, and a closing one only if no text of its own goes on. -/
structure TextPeer.Moves (texts : String → String) (peer peer' : TextPeer) : Prop where
  steady : peer'.Steady texts
  sent : peer'.outbox = peer.outbox ∨
    ∃ message, peer'.outbox = peer.outbox ++ [message] ∧ (ClosesText message → peer'.outgoingText = none)
  offered : ∀ y, outgoingIn peer'.outgoingText y ≠ none →
    outgoingIn peer.outgoingText y ≠ none ∨ peer'.outbox = peer.outbox ++ [offerOf y (texts y)]

/-- The event says nothing of another text. -/
def TextEvent.About (x : String) (event : TextEvent) : Prop :=
  ∀ y, y ≠ x → event.receivedText y = none ∧ event ≠ .delivered y

theorem TextEvent.Quiet.about {event : TextEvent} (h : event.Quiet) (x : String) : event.About x := by
  refine fun y _ => ⟨receivedText_quiet h y, ?_⟩
  rintro rfl
  exact h

theorem turns_of (peer peer' : TextPeer) (x : String) {messages : List TextMessage} (events : List TextEvent)
    (hout : ∀ y, y ≠ x → outgoingIn peer'.outgoingText y = outgoingIn peer.outgoingText y)
    (hreceiving : ∀ y, y ≠ x → receivingIn peer'.receivingText y = receivingIn peer.receivingText y)
    (houtbox : peer'.outbox = peer.outbox ++ messages) (hmessages : ∀ message ∈ messages, message.transferId = x)
    (hevents : peer'.events = peer.events ++ events) (habout : ∀ event ∈ events, event.About x) :
    peer.Turns peer' x ⟨outgoingIn peer'.outgoingText x, receivingIn peer'.receivingText x, messagesIn peer.outbox x ++ messages,
      peer.receivedOf x ++ events.filterMap (TextEvent.receivedText x), .delivered x ∈ peer.events ∨ .delivered x ∈ events⟩ := by
  constructor
  · unfold TextPeer.view TextPeer.receivedOf
    rw [houtbox, hevents, messagesIn_append, List.filterMap_append]
    have hall : messagesIn messages x = messages := List.filter_eq_self.mpr fun message hin => decide_eq_true (hmessages message hin)
    have hmem : (TextEvent.delivered x ∈ peer.events ++ events) = (.delivered x ∈ peer.events ∨ .delivered x ∈ events) :=
      propext List.mem_append
    rw [hall, hmem]
  · intro y hy
    unfold TextPeer.view TextPeer.receivedOf
    rw [hout y hy, hreceiving y hy, houtbox, hevents, messagesIn_append, List.filterMap_append]
    have hnone : messagesIn messages y = [] := by
      refine List.filter_eq_nil_iff.mpr fun message hin hsame => hy ?_
      rw [← hmessages message hin]
      exact (of_decide_eq_true hsame).symm
    have hnothing : events.filterMap (TextEvent.receivedText y) = [] :=
      List.filterMap_eq_nil_iff.mpr fun event hin => (habout event hin y hy).1
    have hmem : (TextEvent.delivered y ∈ peer.events ++ events) = (.delivered y ∈ peer.events) := by
      refine propext (List.mem_append.trans ⟨fun hin => hin.resolve_right fun hnew => (habout _ hnew y hy).2 rfl, .inl⟩)
    rw [hnone, hnothing, hmem, List.append_nil, List.append_nil]

theorem turns_quiet (peer peer' : TextPeer) (x : String) {messages : List TextMessage} (events : List TextEvent)
    (hout : ∀ y, y ≠ x → outgoingIn peer'.outgoingText y = outgoingIn peer.outgoingText y)
    (hreceiving : ∀ y, y ≠ x → receivingIn peer'.receivingText y = receivingIn peer.receivingText y)
    (houtbox : peer'.outbox = peer.outbox ++ messages) (hmessages : ∀ message ∈ messages, message.transferId = x)
    (hevents : peer'.events = peer.events ++ events) (hquiet : ∀ event ∈ events, event.Quiet) :
    peer.Turns peer' x ⟨outgoingIn peer'.outgoingText x, receivingIn peer'.receivingText x, messagesIn peer.outbox x ++ messages,
      peer.receivedOf x, .delivered x ∈ peer.events⟩ := by
  have hturns := turns_of peer peer' x events hout hreceiving houtbox hmessages hevents fun event hin => (hquiet event hin).about x
  have hnone : events.filterMap (TextEvent.receivedText x) = [] :=
    List.filterMap_eq_nil_iff.mpr fun event hin => receivedText_quiet (hquiet event hin) x
  have hdelivered : (TextEvent.delivered x ∈ peer.events ∨ .delivered x ∈ events) = (.delivered x ∈ peer.events) :=
    propext ⟨fun h => h.resolve_right fun hin => hquiet _ hin, .inl⟩
  rw [hnone, hdelivered, List.append_nil] at hturns
  exact hturns

/-- Only events of no importance, timeouts and the transfer of files. -/
def TextPeer.Idles (peer peer' : TextPeer) : Prop :=
  ∃ active events timeouts, (∀ event ∈ events, TextEvent.Quiet event) ∧
    peer' = { peer with transferActive := active, events := peer.events ++ events, timeouts }

theorem TextPeer.Idles.moves (hsteady : peer.Steady texts) (h : peer.Idles peer') : peer.Moves texts peer' := by
  obtain ⟨active, events, timeouts, -, rfl⟩ := h
  exact ⟨⟨hsteady.channel, hsteady.incoming, hsteady.single, hsteady.outgoing, hsteady.receiving, hsteady.outbox⟩, .inl rfl,
    fun y hy => .inl hy⟩

theorem TextPeer.Idles.view (h : peer.Idles peer') (y : String) : peer'.view y = peer.view y := by
  obtain ⟨active, events, timeouts, hquiet, rfl⟩ := h
  unfold TextPeer.view
  have hreceived : TextPeer.receivedOf { peer with transferActive := active, events := peer.events ++ events, timeouts } y =
      peer.receivedOf y := receivedOf_quiet hquiet
  have hdelivered : (TextEvent.delivered y ∈ peer.events ++ events) = (.delivered y ∈ peer.events) :=
    propext (delivered_quiet hquiet)
  rw [hreceived]
  dsimp only
  rw [hdelivered]

theorem TextPeer.Idles.refl (peer : TextPeer) : peer.Idles peer :=
  ⟨peer.transferActive, [], peer.timeouts, fun _ h => (by cases h), by rw [List.append_nil]⟩

theorem TextPeer.Idles.textFail (peer : TextPeer) (x message : String) : peer.Idles (peer.textFail x message) :=
  ⟨peer.transferActive, [.failed x message], peer.timeouts, fun event hevent => by
    obtain rfl := List.mem_singleton.mp hevent
    trivial, rfl⟩

/-! ### Giving up -/

/-- The text is one that the peer sends or waits for. -/
def TextPeer.Has (peer : TextPeer) (x : String) : Prop :=
  outgoingIn peer.outgoingText x ≠ none ∨ receivingIn peer.receivingText x = true

def TextView.givenUp (view : TextView) (x : String) : TextView :=
  { view with outgoing := none, receiving := false, messages := view.messages ++ [.textCancel x] }

theorem TextPeer.Has.good (h : peer.Has x) (hsteady : peer.Steady texts) : Good texts x := by
  rcases h with h | h
  · obtain ⟨accepted, haccepted⟩ := Option.ne_none_iff_exists'.mp h
    obtain ⟨outgoing, hslot, rfl, -⟩ := outgoingIn_eq_some haccepted
    exact (hsteady.outgoing outgoing hslot).2
  · obtain ⟨offer, hslot, rfl⟩ := receivingIn_eq_true h
    exact (hsteady.receiving offer hslot).2.2

/-- There is one text at a time. -/
theorem TextPeer.Has.outgoing_cleared (h : peer.Has x) (hsteady : peer.Steady texts) : (peer.cleared x).outgoingText = none := by
  rcases h with h | h
  · obtain ⟨accepted, haccepted⟩ := Option.ne_none_iff_exists'.mp h
    obtain ⟨outgoing, hslot, hsame, -⟩ := outgoingIn_eq_some haccepted
    unfold TextPeer.cleared
    rw [hslot]
    exact filter_same hsame
  · obtain ⟨offer, hslot, -⟩ := receivingIn_eq_true h
    have hnone : peer.outgoingText = none := by
      rcases hsteady.single with hnone | hnone
      · exact hnone
      · cases hslot.symm.trans hnone
    unfold TextPeer.cleared
    rw [hnone]
    rfl

theorem filter_slot {A : Type} {slot : Option A} {p : A → Bool} {value : A} (h : slot.filter p = some value) : slot = some value :=
  (Option.filter_eq_some_iff.mp h).1

theorem TextPeer.Steady.cleared (h : peer.Steady texts) (x : String) : (peer.cleared x).Steady texts where
  channel := h.channel
  incoming := by
    show peer.incomingText.filter _ = none
    rw [h.incoming]
    rfl
  single := by
    rcases h.single with hnone | hnone
    · left
      show peer.outgoingText.filter _ = none
      rw [hnone]
      rfl
    · right
      show peer.receivingText.filter _ = none
      rw [hnone]
      rfl
  outgoing outgoing hslot := h.outgoing outgoing (filter_slot hslot)
  receiving offer hslot := h.receiving offer (filter_slot hslot)
  outbox := h.outbox

theorem outgoingIn_cleared_some {slot : Option OutgoingTextState} (h : outgoingIn (slot.filter (·.transferId != x)) y ≠ none) :
    outgoingIn slot y ≠ none := by
  by_cases hy : y = x
  · rw [hy, outgoingIn_cleared] at h
    exact absurd rfl h
  · rwa [outgoingIn_cleared_ne slot hy] at h

theorem givesUp (hsteady : peer.Steady texts) (hhas : peer.Has x) (event : TextEvent) (hquiet : event.Quiet)
    (timeouts : List TextTimeout)
    (hpeer : peer' = { peer.cleared x with
      outbox := peer.outbox ++ [.textCancel x], events := peer.events ++ [event], timeouts }) :
    peer.Moves texts peer' ∧ peer.Turns peer' x ((peer.view x).givenUp x) := by
  subst hpeer
  have hcleared := hsteady.cleared x
  constructor
  · refine ⟨⟨hcleared.channel, hcleared.incoming, hcleared.single, hcleared.outgoing, hcleared.receiving, fun message hin => ?_⟩,
      .inr ⟨_, rfl, fun _ => hhas.outgoing_cleared hsteady⟩, fun y hy => .inl (outgoingIn_cleared_some hy)⟩
    rcases List.mem_append.mp hin with hin | hin
    · exact hsteady.outbox message hin
    · obtain rfl := List.mem_singleton.mp hin
      exact hhas.good hsteady
  · have hturns := turns_quiet peer { peer.cleared x with
        outbox := peer.outbox ++ [.textCancel x], events := peer.events ++ [event], timeouts } x [event]
      (fun y hy => outgoingIn_cleared_ne _ hy) (fun y hy => receivingIn_cleared_ne _ hy) rfl
      (fun message hin => by rw [List.mem_singleton.mp hin]; rfl) rfl
      (fun other hin => by rw [List.mem_singleton.mp hin]; exact hquiet)
    have hout : outgoingIn (peer.cleared x).outgoingText x = none := outgoingIn_cleared _
    have hreceiving : receivingIn (peer.cleared x).receivingText x = false := receivingIn_cleared _
    dsimp only at hturns
    rw [hout, hreceiving] at hturns
    exact hturns

theorem has_of_active (hsteady : peer.Steady texts) (h : peer.activeTextTransferId = some x) : peer.Has x := by
  unfold TextPeer.activeTextTransferId at h
  rw [hsteady.incoming] at h
  cases hout : peer.outgoingText with
  | some outgoing =>
    rw [hout] at h
    obtain rfl : outgoing.transferId = x := Option.some.inj h
    left
    rw [hout, outgoingIn_self]
    exact Option.some_ne_none _
  | none =>
    rw [hout] at h
    cases hreceiving : peer.receivingText with
    | none =>
      rw [hreceiving] at h
      cases h
    | some offer =>
      rw [hreceiving] at h
      obtain rfl : offer.transferId = x := Option.some.inj h
      right
      rw [hreceiving]
      exact receivingIn_self offer

theorem holds_of_has (h : peer.Has x) : peer.holds x = true := by
  unfold TextPeer.holds
  rcases h with h | h
  · obtain ⟨accepted, haccepted⟩ := Option.ne_none_iff_exists'.mp h
    obtain ⟨outgoing, hslot, hsame, -⟩ := outgoingIn_eq_some haccepted
    have hany : peer.outgoingText.any (·.transferId == x) = true := by
      rw [hslot]
      exact beq_iff_eq.mpr hsame
    rw [hany]
    rfl
  · obtain ⟨offer, hslot, hsame⟩ := receivingIn_eq_true h
    have hany : peer.receivingText.any (·.transferId == x) = true := by
      rw [hslot]
      exact beq_iff_eq.mpr hsame
    rw [hany, Bool.or_true]

theorem has_of_timedOut {timeout : TextTimeout} (h : peer.timedOut timeout = true) : peer.Has timeout.transferId := by
  cases timeout with
  | outgoing transferId accepted =>
    left
    obtain ⟨state, hslot, hstate⟩ := (Option.any_eq_true _ _).mp h
    rw [Bool.and_eq_true, beq_iff_eq, beq_iff_eq] at hstate
    obtain ⟨rfl, -⟩ := hstate
    rw [hslot]
    show outgoingIn (some state) state.transferId ≠ none
    rw [outgoingIn_self]
    exact Option.some_ne_none _
  | incoming transferId =>
    right
    obtain ⟨offer, hslot, hoffer⟩ := (Option.any_eq_true _ _).mp h
    obtain rfl := beq_iff_eq.mp hoffer
    rw [hslot]
    exact receivingIn_self offer

/-- Nothing is sent and nothing is waited for. -/
theorem free_of_inactive (h : peer.fileOrTextTransferActive = false) : peer.outgoingText = none ∧ peer.receivingText = none := by
  unfold TextPeer.fileOrTextTransferActive TextPeer.activeTextTransferId at h
  rw [Bool.or_eq_false_iff] at h
  obtain ⟨-, h⟩ := h
  cases hout : peer.outgoingText with
  | some outgoing =>
    rw [hout] at h
    cases h
  | none =>
    rw [hout] at h
    refine ⟨rfl, ?_⟩
    cases hreceiving : peer.receivingText with
    | none => rfl
    | some offer =>
      rw [hreceiving] at h
      cases hincoming : peer.incomingText with
      | none =>
        rw [hincoming] at h
        cases h
      | some incoming =>
        rw [hincoming] at h
        cases h

/-! ### Calls -/

/-- The peer has offered the text. -/
def TextView.offering (view : TextView) (x text : String) : TextView :=
  { view with outgoing := some false, messages := view.messages ++ [offerOf x text] }

/-- What a call does: nothing to the texts, or it gives one up, or it offers a new one. -/
inductive TextPeer.Called (texts : String → String) (peer peer' : TextPeer) (call : TextCall) : Prop
  | idle (h : ∀ y, peer'.view y = peer.view y)
  | gaveUp (x : String) (hhas : peer.Has x) (h : peer.Turns peer' x ((peer.view x).givenUp x))
  | offered (x : String) (hcall : call = .offer x (texts x)) (hfree : peer.outgoingText = none ∧ peer.receivingText = none)
      (h : peer.Turns peer' x ((peer.view x).offering x (texts x)))

theorem offerText_cases (hsteady : peer.Steady texts) (x : String) :
    (peer.offerText x (texts x)).2 = peer ∨
      (Good texts x ∧ peer.fileOrTextTransferActive = false ∧ (peer.offerText x (texts x)).2 =
        { peer with
          outgoingText := some ⟨x, texts x, false⟩
          outbox := peer.outbox ++ [offerOf x (texts x)]
          events := peer.events ++ [.outgoingOffered x (texts x).length (texts x).utf8ByteSize]
          timeouts := peer.timeouts ++ [.outgoing x false] }) := by
  unfold TextPeer.offerText
  by_cases hcharacters : 2 ^ 32 ≤ (texts x).length
  · rw [if_pos hcharacters]
    exact .inl rfl
  rw [if_neg hcharacters]
  by_cases hbytes : 2 ^ 32 ≤ (texts x).utf8ByteSize
  · rw [if_pos hbytes]
    exact .inl rfl
  rw [if_neg hbytes]
  cases hpayload : (TextMessage.textPayload x (texts x)).validate with
  | error error => exact .inl rfl
  | ok _ =>
    cases hoffer : (TextMessage.textOffer x (texts x).length (texts x).utf8ByteSize).validate with
    | error error => exact .inl rfl
    | ok _ =>
      rw [currentDataChannel_opened hsteady.channel]
      cases hactive : peer.fileOrTextTransferActive with
      | true => exact .inl rfl
      | false =>
        dsimp only
        rw [sendControlOn_valid hoffer]
        exact .inr ⟨hpayload, rfl, rfl⟩

theorem call_steady (hsteady : peer.Steady texts) (call : TextCall)
    (hoffer : ∀ x text, call = .offer x text → text = texts x) :
    peer.Moves texts (peer.call call) ∧ peer.Called texts (peer.call call) call := by
  have hsame : ∀ {after : TextPeer}, peer.Idles after → peer.Moves texts after ∧ peer.Called texts after call :=
    fun h => ⟨h.moves hsteady, .idle h.view⟩
  have hgives : ∀ {after : TextPeer} {x : String}, peer.Has x →
      peer.Moves texts after ∧ peer.Turns after x ((peer.view x).givenUp x) →
        peer.Moves texts after ∧ peer.Called texts after call :=
    fun hhas h => ⟨h.1, .gaveUp _ hhas h.2⟩
  cases call with
  | decide x accepted =>
    have hnothing : (peer.decideText x accepted).2 = peer := by
      unfold TextPeer.decideText
      rw [currentDataChannel_opened hsteady.channel, hsteady.incoming]
    show peer.Moves texts (peer.decideText x accepted).2 ∧ _
    rw [show peer.call (.decide x accepted) = peer from hnothing, hnothing]
    exact hsame (.refl peer)
  | transfers active =>
    exact hsame ⟨active, [], peer.timeouts, fun _ h => (by cases h), by rw [List.append_nil]; rfl⟩
  | cancel =>
    show peer.Moves texts peer.cancelText.2 ∧ peer.Called texts peer.cancelText.2 .cancel
    unfold TextPeer.cancelText
    cases hactive : peer.activeTextTransferId with
    | none => exact hsame (.refl peer)
    | some x =>
      have hhas := has_of_active hsteady hactive
      rw [currentDataChannel_opened hsteady.channel]
      dsimp only
      rw [sendControlOn_valid (hhas.good hsteady).cancel]
      exact hgives hhas (givesUp hsteady hhas (.cancelled x) trivial peer.timeouts rfl)
  | timeout timeout =>
    show peer.Moves texts (peer.elapse timeout) ∧ peer.Called texts (peer.elapse timeout) (.timeout timeout)
    unfold TextPeer.elapse
    by_cases hscheduled : timeout ∈ peer.timeouts
    · rw [if_pos hscheduled]
      have herased : peer.Idles { peer with timeouts := peer.timeouts.erase timeout } :=
        ⟨peer.transferActive, [], _, fun _ h => (by cases h), by rw [List.append_nil]⟩
      cases htimed : { peer with timeouts := peer.timeouts.erase timeout }.timedOut timeout with
      | false => exact hsame herased
      | true =>
        have hhas : peer.Has timeout.transferId := has_of_timedOut htimed
        have hholds : { peer with timeouts := peer.timeouts.erase timeout }.holds timeout.transferId = true := holds_of_has hhas
        dsimp only
        unfold TextPeer.timeoutTextTransfer
        rw [hholds]
        dsimp only
        have hopened : { peer with timeouts := peer.timeouts.erase timeout }.channel = .opened := hsteady.channel
        rw [trySend_valid hopened (hhas.good hsteady).cancel]
        exact hgives hhas (givesUp hsteady hhas (.failed timeout.transferId "text transfer timed out") trivial _ rfl)
    · rw [if_neg hscheduled]
      exact hsame (.refl peer)
  | offer x text =>
    obtain rfl := hoffer x text rfl
    show peer.Moves texts (peer.offerText x (texts x)).2 ∧ peer.Called texts (peer.offerText x (texts x)).2 _
    rcases offerText_cases hsteady x with hnothing | ⟨hgood, hactive, hpeer⟩
    · rw [hnothing]
      exact hsame (.refl peer)
    rw [hpeer]
    obtain ⟨hout, hreceiving⟩ := free_of_inactive hactive
    constructor
    · refine ⟨⟨hsteady.channel, hsteady.incoming, .inr hreceiving, fun outgoing hslot => ?_, hsteady.receiving, fun message hin => ?_⟩,
        .inr ⟨_, rfl, fun hclosing => hclosing.elim⟩, fun y hy => ?_⟩
      · rw [← Option.some.inj hslot]
        exact ⟨rfl, hgood⟩
      · rcases List.mem_append.mp hin with hin | hin
        · exact hsteady.outbox message hin
        · rw [List.mem_singleton.mp hin]
          exact hgood
      · by_cases hsame : y = x
        · rw [hsame]
          exact .inr rfl
        · have hnone : outgoingIn (some ⟨x, texts x, false⟩) y = none := outgoingIn_ne hsame
          exact absurd hnone hy
    · refine .offered x rfl ⟨hout, hreceiving⟩ ?_
      have hturns := turns_quiet peer { peer with
          outgoingText := some ⟨x, texts x, false⟩
          outbox := peer.outbox ++ [offerOf x (texts x)]
          events := peer.events ++ [.outgoingOffered x (texts x).length (texts x).utf8ByteSize]
          timeouts := peer.timeouts ++ [.outgoing x false] } x [.outgoingOffered x (texts x).length (texts x).utf8ByteSize]
        (fun y hy => by rw [hout]; exact outgoingIn_ne hy) (fun y _ => rfl) rfl
        (fun message hin => by rw [List.mem_singleton.mp hin]; rfl) rfl
        (fun event hin => by rw [List.mem_singleton.mp hin]; trivial)
      have hself : outgoingIn (some ⟨x, texts x, false⟩) x = some false := if_pos rfl
      dsimp only at hturns
      rw [hself] at hturns
      exact hturns

/-! ### Messages -/

/-- What becomes of a text by a message about it; `free` tells whether an offer can be accepted. -/
def TextView.arrived (view : TextView) (text : String) (free : Bool) : TextMessage → TextView
  | .textOffer x _ _ =>
    { view with receiving := free || view.receiving, messages := view.messages ++ [.textDecision x free] }
  | .textDecision x accepted =>
    match view.outgoing, accepted with
    | some false, true => { view with outgoing := some true, messages := view.messages ++ [.textPayload x text] }
    | some false, false => { view with outgoing := none }
    | _, _ => view
  | .textPayload x _ =>
    match view.receiving with
    | true =>
      { view with receiving := false, messages := view.messages ++ [.textReceipt x], received := view.received ++ [text] }
    | false => view
  | .textReceipt _ =>
    match view.outgoing with
    | some true => { view with outgoing := none, delivered := True }
    | _ => view
  | .textCancel _ => { view with outgoing := none, receiving := false }

/-- The message is one about the text that was offered. -/
def Conforms (texts : String → String) : TextMessage → Prop
  | .textOffer x characterCount byteLength => characterCount = (texts x).length ∧ byteLength = (texts x).utf8ByteSize
  | .textPayload x text => text = texts x
  | _ => True

theorem TextPeer.Idles.turns (h : peer.Idles peer') (x : String) : peer.Turns peer' x (peer.view x) := ⟨h.view x, fun y _ => h.view y⟩

theorem decideText_accepts (peer : TextPeer) {offer : IncomingTextOffer} (hchannel : peer.channel = .opened)
    (hincoming : peer.incomingText = some offer)
    (hvalid : (TextMessage.textDecision offer.transferId true).validate = .ok ()) :
    peer.decideText offer.transferId true =
      (.ok (), { peer with
        incomingText := none
        receivingText := some offer
        outbox := peer.outbox ++ [.textDecision offer.transferId true]
        events := peer.events ++ [.accepted offer.transferId .receive]
        timeouts := peer.timeouts ++ [.incoming offer.transferId] }) := by
  unfold TextPeer.decideText
  rw [currentDataChannel_opened hchannel, hincoming]
  dsimp only
  rw [if_neg (not_not_intro rfl), sendControlOn_valid hvalid]
  rfl

section Messages

variable (hsteady : peer.Steady texts) (hgood : Good texts x)

include hsteady hgood

theorem handleTextOffer_steady :
    peer.Moves texts (peer.handleTextOffer x (texts x).length (texts x).utf8ByteSize) ∧
      peer.Turns (peer.handleTextOffer x (texts x).length (texts x).utf8ByteSize) x
        ((peer.view x).arrived (texts x) (!peer.fileOrTextTransferActive) (offerOf x (texts x))) := by
  unfold TextPeer.handleTextOffer
  cases hactive : peer.fileOrTextTransferActive with
  | true =>
    dsimp only
    rw [trySend_valid hsteady.channel (hgood.decision false)]
    constructor
    · refine ⟨⟨hsteady.channel, hsteady.incoming, hsteady.single, hsteady.outgoing, hsteady.receiving, fun message hin => ?_⟩,
        .inr ⟨_, rfl, fun hclosing => hclosing.elim⟩, fun y hy => .inl hy⟩
      rcases List.mem_append.mp hin with hin | hin
      · exact hsteady.outbox message hin
      · rw [List.mem_singleton.mp hin]
        exact hgood
    · exact turns_quiet peer { peer with outbox := peer.outbox ++ [.textDecision x false] } x []
        (fun y _ => rfl) (fun y _ => rfl) rfl (fun message hin => by rw [List.mem_singleton.mp hin]; rfl)
        (List.append_nil _).symm fun _ hin => (by cases hin)
  | false =>
    obtain ⟨hout, hreceiving⟩ := free_of_inactive hactive
    have hdecided : ({ peer with incomingText := some ⟨x, (texts x).length, (texts x).utf8ByteSize⟩ }.emit
        (.incomingOffered x (texts x).length (texts x).utf8ByteSize)).decideText x true =
        (.ok (), { peer with
          incomingText := none
          receivingText := some ⟨x, (texts x).length, (texts x).utf8ByteSize⟩
          outbox := peer.outbox ++ [.textDecision x true]
          events := (peer.events ++ [.incomingOffered x (texts x).length (texts x).utf8ByteSize]) ++ [.accepted x .receive]
          timeouts := peer.timeouts ++ [.incoming x] }) :=
      decideText_accepts ({ peer with
        incomingText := some ⟨x, (texts x).length, (texts x).utf8ByteSize⟩ }.emit _) hsteady.channel rfl (hgood.decision true)
    dsimp only
    rw [hdecided]
    dsimp only
    constructor
    · refine ⟨⟨hsteady.channel, rfl, .inl hout, hsteady.outgoing, fun offer hslot => ?_, fun message hin => ?_⟩,
        .inr ⟨_, rfl, fun hclosing => hclosing.elim⟩, fun y hy => .inl hy⟩
      · rw [← Option.some.inj hslot]
        exact ⟨rfl, rfl, hgood⟩
      · rcases List.mem_append.mp hin with hin | hin
        · exact hsteady.outbox message hin
        · rw [List.mem_singleton.mp hin]
          exact hgood
    · have hturns := turns_quiet peer { peer with
          incomingText := none
          receivingText := some ⟨x, (texts x).length, (texts x).utf8ByteSize⟩
          outbox := peer.outbox ++ [.textDecision x true]
          events := (peer.events ++ [.incomingOffered x (texts x).length (texts x).utf8ByteSize]) ++ [.accepted x .receive]
          timeouts := peer.timeouts ++ [.incoming x] } x
        [.incomingOffered x (texts x).length (texts x).utf8ByteSize, .accepted x .receive]
        (fun y _ => rfl) (fun y hy => by rw [hreceiving]; exact receivingIn_ne hy) rfl
        (fun message hin => by rw [List.mem_singleton.mp hin]; rfl) (List.append_assoc ..) (fun event hin => by
          rcases List.mem_cons.mp hin with rfl | hin
          · trivial
          · rw [List.mem_singleton.mp hin]
            trivial)
      have hself : receivingIn (some ⟨x, (texts x).length, (texts x).utf8ByteSize⟩) x = true := decide_eq_true rfl
      dsimp only at hturns
      rw [hself] at hturns
      exact hturns

theorem handleTextDecision_steady (accepted free : Bool) :
    peer.Moves texts (peer.handleTextDecision x accepted) ∧
      peer.Turns (peer.handleTextDecision x accepted) x ((peer.view x).arrived (texts x) free (.textDecision x accepted)) := by
  -- an answer that nobody waits for
  have hfails : ∀ message, (∀ waits, outgoingIn peer.outgoingText x = some waits → waits = true) →
      peer.Moves texts (peer.textFail x message) ∧
        peer.Turns (peer.textFail x message) x ((peer.view x).arrived (texts x) free (.textDecision x accepted)) := by
    intro message hwaits
    have hidles := TextPeer.Idles.textFail peer x message
    have hsame : (peer.view x).arrived (texts x) free (.textDecision x accepted) = peer.view x := by
      unfold TextView.arrived
      have hview : (peer.view x).outgoing = outgoingIn peer.outgoingText x := rfl
      rw [hview]
      cases hout : outgoingIn peer.outgoingText x with
      | none => rfl
      | some waits =>
        obtain rfl := hwaits waits hout
        rfl
    rw [hsame]
    exact ⟨hidles.moves hsteady, hidles.turns x⟩
  unfold TextPeer.handleTextDecision
  cases hslot : peer.outgoingText with
  | none =>
    rw [hslot] at hfails
    exact hfails _ fun waits hwaits => (by cases hwaits)
  | some outgoing =>
    dsimp only
    by_cases hid : outgoing.transferId = x
    · rw [if_neg (not_not_intro hid)]
      obtain ⟨transferId, text, waits⟩ := outgoing
      obtain rfl : transferId = x := hid
      obtain ⟨htext, -⟩ := hsteady.outgoing _ hslot
      obtain rfl : text = texts transferId := htext
      have hreceiving : peer.receivingText = none := by
        rcases hsteady.single with hnone | hnone
        · cases hslot.symm.trans hnone
        · exact hnone
      have hself : ∀ waits, outgoingIn (some ⟨transferId, texts transferId, waits⟩) transferId = some waits := fun _ => if_pos rfl
      have hother : ∀ waits y, y ≠ transferId → outgoingIn (some ⟨transferId, texts transferId, waits⟩) y = none :=
        fun _ _ hy => if_neg fun hsame => hy hsame.symm
      cases waits with
      | true =>
        rw [hslot] at hfails
        refine hfails _ fun waits hwaits => ?_
        rw [hself] at hwaits
        exact (Option.some.inj hwaits).symm
      | false =>
        have hview : (peer.view transferId).outgoing = some false := by
          show outgoingIn peer.outgoingText transferId = some false
          rw [hslot, hself]
        unfold TextView.arrived
        rw [hview]
        cases accepted with
        | false =>
          constructor
          · exact ⟨⟨hsteady.channel, hsteady.incoming, .inl rfl, fun _ h => (by cases h), hsteady.receiving, hsteady.outbox⟩,
              .inl rfl, fun y hy => absurd rfl hy⟩
          · have hturns := turns_quiet peer ({ peer with outgoingText := none }.emit (.rejected transferId .send)) transferId
              [.rejected transferId .send] (fun y hy => by rw [hslot, outgoingIn_ne hy]; rfl) (fun y _ => rfl)
              (List.append_nil _).symm (fun _ hin => (by cases hin)) rfl
              (fun event hin => by rw [List.mem_singleton.mp hin]; trivial)
            rw [List.append_nil] at hturns
            exact hturns
        | true =>
          dsimp only
          rw [currentDataChannel_opened hsteady.channel]
          dsimp only
          have hpayload : (TextMessage.textPayload transferId (texts transferId)).validate = .ok () := hgood
          rw [sendControlOn_valid hpayload]
          constructor
          · refine ⟨⟨hsteady.channel, hsteady.incoming, .inr hreceiving, fun outgoing hsome => ?_, hsteady.receiving, fun message hin => ?_⟩,
              .inr ⟨_, rfl, fun hclosing => hclosing.elim⟩, fun y hy => .inl ?_⟩
            · rw [← Option.some.inj hsome]
              exact ⟨rfl, hgood⟩
            · rcases List.mem_append.mp hin with hin | hin
              · exact hsteady.outbox message hin
              · rw [List.mem_singleton.mp hin]
                exact hgood
            · by_cases hsame : y = transferId
              · rw [hsame, hslot, hself]
                exact Option.some_ne_none _
              · have hnone : outgoingIn (some ⟨transferId, texts transferId, true⟩) y = none := outgoingIn_ne hsame
                exact absurd hnone hy
          · have hturns := turns_quiet peer { peer with
                outgoingText := some ⟨transferId, texts transferId, true⟩
                outbox := peer.outbox ++ [.textPayload transferId (texts transferId)]
                events := peer.events ++ [.accepted transferId .send]
                timeouts := peer.timeouts ++ [.outgoing transferId true] } transferId [.accepted transferId .send]
              (fun y hy => by rw [hslot, hother false y hy]; exact hother true y hy) (fun y _ => rfl) rfl
              (fun message hin => by rw [List.mem_singleton.mp hin]; rfl) rfl
              (fun event hin => by rw [List.mem_singleton.mp hin]; trivial)
            dsimp only at hturns
            rw [hself] at hturns
            exact hturns
    · rw [if_pos hid]
      rw [hslot] at hfails
      refine hfails _ fun waits hwaits => ?_
      obtain ⟨other, hother, hsame, -⟩ := outgoingIn_eq_some hwaits
      rw [← Option.some.inj hother] at hsame
      exact absurd hsame hid

theorem handleTextPayload_steady (free : Bool) :
    peer.Moves texts (peer.handleTextPayload x (texts x)) ∧
      peer.Turns (peer.handleTextPayload x (texts x)) x ((peer.view x).arrived (texts x) free (.textPayload x (texts x))) := by
  have hfails : ∀ message, receivingIn peer.receivingText x = false → peer.Moves texts (peer.textFail x message) ∧
      peer.Turns (peer.textFail x message) x ((peer.view x).arrived (texts x) free (.textPayload x (texts x))) := by
    intro message hwaits
    have hidles := TextPeer.Idles.textFail peer x message
    have hsame : (peer.view x).arrived (texts x) free (.textPayload x (texts x)) = peer.view x := by
      unfold TextView.arrived
      have hview : (peer.view x).receiving = receivingIn peer.receivingText x := rfl
      rw [hview, hwaits]
    rw [hsame]
    exact ⟨hidles.moves hsteady, hidles.turns x⟩
  unfold TextPeer.handleTextPayload
  cases hslot : peer.receivingText with
  | none =>
    rw [hslot] at hfails
    exact hfails _ rfl
  | some offer =>
    dsimp only
    by_cases hid : offer.transferId = x
    · rw [if_neg (not_not_intro hid)]
      obtain ⟨hcharacters, hbytes, -⟩ := hsteady.receiving offer hslot
      rw [hid] at hcharacters hbytes
      have hmatches : ¬((texts x).length ≠ offer.characterCount ∨ (texts x).utf8ByteSize ≠ offer.byteLength) := by
        rw [hcharacters, hbytes]
        exact fun h => h.elim (fun h => h rfl) fun h => h rfl
      have hlimits : ¬(Wire.MAX_TEXT_TRANSFER_CHARS < (texts x).length ∨ Wire.MAX_TEXT_TRANSFER_BYTES < (texts x).utf8ByteSize) :=
        fun h => h.elim (Nat.not_lt.mpr hgood.limits.1) (Nat.not_lt.mpr hgood.limits.2)
      have hopened : { peer with receivingText := none }.channel = .opened := hsteady.channel
      rw [if_neg hmatches, if_neg hlimits, trySend_valid hopened hgood.receipt]
      have hout : peer.outgoingText = none := by
        rcases hsteady.single with hnone | hnone
        · exact hnone
        · cases hslot.symm.trans hnone
      have hview : (peer.view x).receiving = true := by
        show receivingIn peer.receivingText x = true
        rw [hslot, ← hid]
        exact receivingIn_self offer
      unfold TextView.arrived
      rw [hview]
      constructor
      · refine ⟨⟨hsteady.channel, hsteady.incoming, .inr rfl, hsteady.outgoing, fun _ h => (by cases h), fun message hin => ?_⟩,
          .inr ⟨_, rfl, fun _ => hout⟩, fun y hy => .inl hy⟩
        rcases List.mem_append.mp hin with hin | hin
        · exact hsteady.outbox message hin
        · rw [List.mem_singleton.mp hin]
          exact hgood
      · have hturns := turns_of peer { peer with
            receivingText := none, outbox := peer.outbox ++ [.textReceipt x], events := peer.events ++ [.received x (texts x)] }
          x [.received x (texts x)] (fun y _ => rfl)
          (fun y hy => by
            rw [← hid] at hy
            rw [hslot, receivingIn_ne hy]
            rfl) rfl (fun message hin => by rw [List.mem_singleton.mp hin]; rfl) rfl
          (fun event hin y hy => by
            rw [List.mem_singleton.mp hin]
            exact ⟨if_neg fun hsame => hy hsame.symm, fun hsame => (by cases hsame)⟩)
        have hreceived : [TextEvent.received x (texts x)].filterMap (TextEvent.receivedText x) = [texts x] := by
          have hsome : (TextEvent.received x (texts x)).receivedText x = some (texts x) := if_pos rfl
          rw [List.filterMap_cons_some hsome]
          rfl
        have hdelivered : (TextEvent.delivered x ∈ peer.events ∨ .delivered x ∈ [TextEvent.received x (texts x)]) =
            (.delivered x ∈ peer.events) :=
          propext ⟨fun h => h.resolve_right fun hin => (by cases List.mem_singleton.mp hin), .inl⟩
        rw [hreceived, hdelivered] at hturns
        exact hturns
    · rw [if_pos hid]
      rw [hslot] at hfails
      refine hfails _ (receivingIn_ne fun hsame => hid hsame.symm)

theorem handleTextReceipt_steady (free : Bool) :
    peer.Moves texts (peer.handleTextReceipt x) ∧
      peer.Turns (peer.handleTextReceipt x) x ((peer.view x).arrived (texts x) free (.textReceipt x)) := by
  have hview : (peer.view x).outgoing = outgoingIn peer.outgoingText x := rfl
  unfold TextPeer.handleTextReceipt TextView.arrived
  rw [hview]
  cases hany : peer.outgoingText.any fun outgoing => outgoing.transferId == x && outgoing.accepted with
  | true =>
    obtain ⟨outgoing, hslot, hstate⟩ := (Option.any_eq_true _ _).mp hany
    rw [Bool.and_eq_true, beq_iff_eq] at hstate
    obtain ⟨rfl, haccepted⟩ := hstate
    rw [hslot, outgoingIn_self, haccepted]
    constructor
    · exact ⟨⟨hsteady.channel, hsteady.incoming, .inl rfl, fun _ h => (by cases h), hsteady.receiving, hsteady.outbox⟩,
        .inl rfl, fun y hy => absurd rfl hy⟩
    · have hturns := turns_of peer ({ peer with outgoingText := none }.emit (.delivered outgoing.transferId)) outgoing.transferId
        [.delivered outgoing.transferId] (fun y hy => by rw [hslot, outgoingIn_ne hy]; rfl) (fun y _ => rfl)
        (List.append_nil _).symm (fun _ hin => (by cases hin)) rfl
        (fun event hin y hy => by
          rw [List.mem_singleton.mp hin]
          exact ⟨rfl, fun hsame => hy (TextEvent.delivered.inj hsame).symm⟩)
      have hdelivered : (TextEvent.delivered outgoing.transferId ∈ peer.events ∨
          .delivered outgoing.transferId ∈ [TextEvent.delivered outgoing.transferId]) = True :=
        propext ⟨fun _ => trivial, fun _ => .inr (List.mem_singleton_self _)⟩
      rw [List.append_nil, hdelivered] at hturns
      exact ⟨hturns.1.trans (by rw [show [TextEvent.delivered outgoing.transferId].filterMap
        (TextEvent.receivedText outgoing.transferId) = [] from rfl, List.append_nil]; rfl), hturns.2⟩
  | false =>
    have hidles := TextPeer.Idles.textFail peer x "text receipt does not match an active transfer"
    have hnot : outgoingIn peer.outgoingText x ≠ some true := by
      intro hsome
      obtain ⟨outgoing, hslot, hsame, haccepted⟩ := outgoingIn_eq_some hsome
      rw [hslot, Option.any_some, hsame, haccepted, beq_self_eq_true] at hany
      cases hany
    refine ⟨hidles.moves hsteady, ?_⟩
    generalize hout : outgoingIn peer.outgoingText x = waits at hnot
    rcases waits with _ | _ | _
    · exact hidles.turns x
    · exact hidles.turns x
    · exact absurd rfl hnot

omit hgood in
theorem handleTextCancel_steady (free : Bool) :
    peer.Moves texts (peer.handleTextCancel x) ∧
      peer.Turns (peer.handleTextCancel x) x ((peer.view x).arrived (texts x) free (.textCancel x)) := by
  have hcleared : ∀ events : List TextEvent, (∀ event ∈ events, event.Quiet) →
      peer.Moves texts { peer.cleared x with events := peer.events ++ events } ∧
        peer.Turns { peer.cleared x with events := peer.events ++ events } x
          ((peer.view x).arrived (texts x) free (.textCancel x)) := by
    intro events hquiet
    have hsteady' := hsteady.cleared x
    constructor
    · exact ⟨⟨hsteady'.channel, hsteady'.incoming, hsteady'.single, hsteady'.outgoing, hsteady'.receiving, hsteady'.outbox⟩,
        .inl rfl, fun y hy => .inl (outgoingIn_cleared_some hy)⟩
    · have hturns := turns_quiet peer { peer.cleared x with events := peer.events ++ events } x events
        (fun y hy => outgoingIn_cleared_ne _ hy) (fun y hy => receivingIn_cleared_ne _ hy) (List.append_nil _).symm
        (fun _ hin => (by cases hin)) rfl hquiet
      have hout : outgoingIn (peer.cleared x).outgoingText x = none := outgoingIn_cleared _
      have hreceiving : receivingIn (peer.cleared x).receivingText x = false := receivingIn_cleared _
      dsimp only at hturns
      rw [hout, hreceiving, List.append_nil] at hturns
      exact hturns
  unfold TextPeer.handleTextCancel
  cases peer.holds x with
  | true => exact hcleared [.cancelled x] fun event hin => by rw [List.mem_singleton.mp hin]; trivial
  | false =>
    have hnone := hcleared [] fun _ hin => (by cases hin)
    rw [List.append_nil] at hnone
    exact hnone

end Messages

/-- **Messages.** What a message does to the text that it is about, and that it does nothing to any other text. -/
theorem message_steady (hsteady : peer.Steady texts) (message : TextMessage) (hgood : Good texts message.transferId)
    (hconforms : Conforms texts message) :
    peer.Moves texts (peer.handleControl message) ∧
      peer.Turns (peer.handleControl message) message.transferId
        ((peer.view message.transferId).arrived (texts message.transferId) (!peer.fileOrTextTransferActive) message) := by
  cases message with
  | textOffer x characterCount byteLength =>
    obtain ⟨rfl, rfl⟩ := hconforms
    exact handleTextOffer_steady hsteady hgood
  | textDecision x accepted => exact handleTextDecision_steady hsteady hgood accepted _
  | textPayload x text =>
    obtain rfl := hconforms
    exact handleTextPayload_steady hsteady hgood _
  | textReceipt x => exact handleTextReceipt_steady hsteady hgood _
  | textCancel x => exact handleTextCancel_steady hsteady _

end P2PTransmission.Rtc
