import P2PTransmission.Client.Transfers
import P2PTransmission.Foundation.Run

/-!
# Transfers of their own

An event of a peer changes the entry of that peer and no other, so what is shown of a peer after any sequence of events is what
its own events make of it (`afterEvents_entry`). A report of progress never takes an entry back (`progress_entry`).

An event that ends a transfer ends whichever transfer is shown. The entry of a transfer is safe from the events of other
transfers as long as none of them is such an event (`ownTransferOnly_iff`).
-/

set_option autoImplicit false

namespace P2PTransmission

open Rtc (TransferFile TransferMode TransferDirection CancelReason StreamPauseReason)

namespace TransferEvent

/-- The transfer that an event is about. -/
def transferId? : TransferEvent → Option String
  | outgoingOffered transferId _ _ | outgoingRecoveryOffered transferId _ _ => some transferId
  | incomingOffered transferId _ _ _ _ | transferStarted transferId _ _ _ _ => some transferId
  | transferProgress transferId _ _ _ | awaitingVerification transferId _ _ => some transferId
  | transferRejected transferId _ _ _ | transferCompleted transferId _ _ _ _ _ | transferCancelled transferId _ => some transferId
  | transferPaused transferId _ _ _ _ => some transferId
  | transferFailed transferId _ => transferId

/-- The events that end a transfer. -/
def isEnding : TransferEvent → Bool
  | transferRejected _ _ _ _ | transferCompleted _ _ _ _ _ _ | transferCancelled _ _ | transferFailed _ _ => true
  | _ => false

/-- The events that say how a transfer goes on, or that it ends. -/
def isReport : TransferEvent → Bool
  | transferProgress _ _ _ _ | transferPaused _ _ _ _ _ => true
  | event => event.isEnding

end TransferEvent

/-- The transfer that is offered or under way. -/
def TransferState.heldId : TransferState → Option String
  | .offering transferId _ _ => some transferId
  | .active transfer => some transfer.transferId
  | _ => none

namespace TransferModel

/-- The model after an event of a peer. -/
def after (model : TransferModel) (event : String × TransferEvent) : TransferModel :=
  (model.handleTransferEvent event.1 event.2).1

def afterEvents (model : TransferModel) (events : List (String × TransferEvent)) : TransferModel := events.foldl after model

def Step (model : TransferModel) (event : String × TransferEvent) (next : TransferModel) : Prop := model.after event = next

/-! ## What becomes of the entries -/

section Entries

variable {model : TransferModel} {peerId other : String} {event : TransferEvent}

theorem apply_setPeerTransfer (plan : PlannedTransferEvent) {transfer : TransferState} {notice : Option String}
    {clearError : Bool} (h : plan.mutation = some (.setPeerTransfer peerId transfer notice clearError)) :
    (model.apply plan).transfersByPeer = model.transfersByPeer.insert peerId transfer := by
  unfold apply
  rw [h]
  rfl

theorem apply_none (plan : PlannedTransferEvent) (h : plan.mutation = none) : model.apply plan = model := by
  unfold apply
  rw [h]

/-- What a plan writes goes to the entry of its peer. -/
def PlannedTransferEvent.Of (peerId : String) (plan : PlannedTransferEvent) : Prop :=
  plan.mutation = none ∨
    (∃ transfer notice clearError, plan.mutation = some (.setPeerTransfer peerId transfer notice clearError)) ∨
    ∃ transferId direction completedBytes, plan.mutation = some (.progress peerId transferId direction completedBytes)

theorem planTransferEvent_of (model : TransferModel) (peerId : String) (event : TransferEvent) :
    PlannedTransferEvent.Of peerId (model.planTransferEvent peerId event) := by
  cases event with
  | outgoingOffered | outgoingRecoveryOffered | incomingOffered | transferStarted | awaitingVerification =>
    exact .inr (.inl ⟨_, _, _, rfl⟩)
  | transferRejected | transferCompleted | transferCancelled | transferFailed => exact .inr (.inl ⟨_, _, _, rfl⟩)
  | transferProgress transferId direction completedBytes totalBytes =>
    change PlannedTransferEvent.Of peerId (model.planProgress peerId transferId direction completedBytes)
    unfold planProgress
    split
    · exact .inl rfl
    · split
      · exact .inr (.inr ⟨_, _, _, rfl⟩)
      · exact .inl rfl
  | transferPaused transferId direction reason completedBytes totalBytes =>
    change PlannedTransferEvent.Of peerId (model.planPaused peerId transferId direction reason completedBytes)
    unfold planPaused
    split
    · split
      · exact .inr (.inl ⟨_, _, _, rfl⟩)
      · exact .inl rfl
    · exact .inl rfl

/-- Progress is applied, or nothing is. -/
theorem applyPeerTransferProgress_cases (model : TransferModel) (peerId transferId : String) (direction : TransferDirection)
    (completedBytes : Nat) :
    model.applyPeerTransferProgress peerId transferId direction completedBytes = model ∨
      ∃ current next, model.transfersByPeer[peerId]? = some current ∧
        applyTransferProgress current transferId direction completedBytes = some next ∧
        (model.applyPeerTransferProgress peerId transferId direction completedBytes).transfersByPeer =
          model.transfersByPeer.insert peerId next := by
  unfold applyPeerTransferProgress
  split
  · exact .inl rfl
  · rename_i current hcurrent
    cases hnext : applyTransferProgress current transferId direction completedBytes with
    | none => exact .inl rfl
    | some next => exact .inr ⟨current, next, hcurrent, hnext, rfl⟩

/-- The entries of the other peers stay. -/
theorem after_other (h : other ≠ peerId) :
    (model.after (peerId, event)).transfersByPeer[other]? = model.transfersByPeer[other]? := by
  unfold after handleTransferEvent
  rcases planTransferEvent_of model peerId event with hnone | ⟨transfer, notice, clearError, hset⟩ |
    ⟨transferId, direction, completedBytes, hprogress⟩
  · rw [apply_none _ hnone]
  · rw [apply_setPeerTransfer _ hset, BTreeMap.getElem?_insert_of_ne h.symm]
  · unfold apply
    rw [hprogress]
    rcases applyPeerTransferProgress_cases model peerId transferId direction completedBytes with
      hsame | ⟨current, next, -, -, hinserted⟩
    · dsimp only
      rw [hsame]
    · dsimp only
      rw [hinserted, BTreeMap.getElem?_insert_of_ne h.symm]

/-- The events that end a transfer leave an entry that holds none. -/
theorem after_isEnding (model : TransferModel) (peerId : String) (h : event.isEnding = true) :
    ∃ entry, (model.after (peerId, event)).transfersByPeer[peerId]? = some entry ∧ entry.heldId = none := by
  have hwritten : ∀ transfer notice clearError,
      (model.planTransferEvent peerId event).mutation = some (.setPeerTransfer peerId transfer notice clearError) →
        (model.after (peerId, event)).transfersByPeer[peerId]? = some transfer := by
    intro transfer notice clearError hset
    unfold after handleTransferEvent
    rw [apply_setPeerTransfer _ hset, BTreeMap.getElem?_insert, if_pos rfl]
  cases event with
  | transferRejected transferId direction file files => exact ⟨_, hwritten _ _ _ rfl, rfl⟩
  | transferCompleted transferId direction file files blake3 downloadUrl => exact ⟨_, hwritten _ _ _ rfl, rfl⟩
  | transferCancelled transferId reason => exact ⟨_, hwritten _ _ _ rfl, rfl⟩
  | transferFailed transferId message => exact ⟨_, hwritten _ _ _ rfl, rfl⟩
  | outgoingOffered | outgoingRecoveryOffered | incomingOffered | transferStarted | awaitingVerification => cases h
  | transferProgress | transferPaused => cases h

/-- Progress that is applied is that of the transfer that is shown. -/
theorem applyTransferProgress_eq_some {current next : TransferState} {transferId : String} {direction : TransferDirection}
    {completedBytes : Nat} (h : applyTransferProgress current transferId direction completedBytes = some next) :
    ∃ transfer, current = .active transfer ∧ next = .active { transfer with completedBytes } ∧
      transfer.transferId = transferId ∧ transfer.completedBytes ≤ completedBytes ∧
      completedBytes ≤ transfer.file.sizeBytes := by
  unfold applyTransferProgress at h
  split at h
  · rename_i hvalid
    split at h
    · rename_i transfer
      simp only [transferProgressIsValid, Bool.and_eq_true, beq_iff_eq, decide_eq_true_eq] at hvalid
      obtain ⟨⟨⟨⟨⟨⟨hid, -⟩, -⟩, -⟩, -⟩, hle⟩, hbound⟩ := hvalid
      exact ⟨transfer, rfl, (Option.some.inj h).symm, hid, hle, hbound⟩
    · cases h
  · cases h

/-- Progress that was planned can still be applied. -/
theorem planProgress_applies {transferId : String} {direction : TransferDirection} {completedBytes : Nat}
    {mutation : TransferMutation} (h : (model.planProgress peerId transferId direction completedBytes).mutation = some mutation) :
    mutation = .progress peerId transferId direction completedBytes ∧
      ∃ current next, model.transfersByPeer[peerId]? = some current ∧
        applyTransferProgress current transferId direction completedBytes = some next := by
  unfold planProgress at h
  split at h
  · cases h
  · rename_i current hcurrent
    split at h
    · rename_i hvalid
      refine ⟨(Option.some.inj h).symm, current, ?_⟩
      unfold applyTransferProgress
      rw [if_pos hvalid]
      cases current with
      | active transfer => exact ⟨_, hcurrent, rfl⟩
      | idle | offering | outgoingRecovery | incoming | rejected | completed | cancelled | failed => cases hvalid
    · cases h

/-- What progress does to an entry. -/
theorem after_progress {transferId : String} {direction : TransferDirection} {completedBytes totalBytes : Nat}
    (model : TransferModel) (peerId : String) :
    (model.after (peerId, .transferProgress transferId direction completedBytes totalBytes)).transfersByPeer[peerId]? =
        model.transfersByPeer[peerId]? ∨
      ∃ transfer, model.transfersByPeer[peerId]? = some (.active transfer) ∧ transfer.transferId = transferId ∧
        transfer.completedBytes ≤ completedBytes ∧ completedBytes ≤ transfer.file.sizeBytes ∧
        (model.after (peerId, .transferProgress transferId direction completedBytes totalBytes)).transfersByPeer[peerId]? =
          some (.active { transfer with completedBytes }) := by
  unfold after handleTransferEvent
  dsimp only [planTransferEvent]
  rcases hplan : (model.planProgress peerId transferId direction completedBytes).mutation with _ | mutation
  · rw [apply_none _ hplan]
    exact .inl rfl
  · obtain ⟨rfl, -⟩ := planProgress_applies hplan
    unfold apply
    rw [hplan]
    dsimp only
    rcases applyPeerTransferProgress_cases model peerId transferId direction completedBytes with
      hsame | ⟨current, next, hcurrent, hnext, hinserted⟩
    · rw [hsame]
      exact .inl rfl
    · obtain ⟨transfer, rfl, rfl, hid, hle, hbound⟩ := applyTransferProgress_eq_some hnext
      rw [hinserted, BTreeMap.getElem?_insert, if_pos rfl]
      exact .inr ⟨transfer, hcurrent, hid, hle, hbound, rfl⟩

/-- A pause is that of the transfer that is shown, or changes nothing. -/
theorem after_paused {transferId : String} {direction : TransferDirection} {reason : StreamPauseReason}
    {completedBytes totalBytes : Nat} (model : TransferModel) (peerId : String)
    (h : ∀ transfer, model.transfersByPeer[peerId]? = some (.active transfer) → transfer.transferId ≠ transferId) :
    model.after (peerId, .transferPaused transferId direction reason completedBytes totalBytes) = model := by
  have hplan : (model.planPaused peerId transferId direction reason completedBytes).mutation = none := by
    unfold planPaused
    split
    · rename_i transfer hactive
      rw [if_neg (h transfer hactive)]
      rfl
    · rfl
  exact apply_none _ hplan

end Entries

/-! ## Runs -/

section Runs

variable {model : TransferModel} {events : List (String × TransferEvent)}

/-- What an event makes of the entry of its peer depends on that entry only. -/
theorem after_congr {first second : TransferModel} {peerId : String}
    (h : first.transfersByPeer[peerId]? = second.transfersByPeer[peerId]?) (event : TransferEvent) :
    (first.after (peerId, event)).transfersByPeer[peerId]? = (second.after (peerId, event)).transfersByPeer[peerId]? := by
  have hplan : first.planTransferEvent peerId event = second.planTransferEvent peerId event := by
    cases event <;>
      simp only [planTransferEvent, planStarted, planAwaitingVerification, planProgress, planPaused, startedBytes, shownFile, h]
  unfold after handleTransferEvent
  dsimp only
  rw [hplan]
  rcases planTransferEvent_of second peerId event with hnone | ⟨transfer, notice, clearError, hset⟩ |
    ⟨transferId, direction, completedBytes, hprogress⟩
  · rw [apply_none _ hnone, apply_none _ hnone, h]
  · rw [apply_setPeerTransfer _ hset, apply_setPeerTransfer _ hset, BTreeMap.getElem?_insert, BTreeMap.getElem?_insert,
      if_pos rfl, if_pos rfl]
  · unfold apply
    rw [hprogress]
    dsimp only
    unfold applyPeerTransferProgress
    rw [h]
    split
    · exact h
    · split
      · exact h
      · dsimp only
        rw [BTreeMap.getElem?_insert, BTreeMap.getElem?_insert, if_pos rfl, if_pos rfl]

/-- **What is shown of a peer is what its own events make of it**, whatever the other peers do in between. -/
theorem afterEvents_entry (model : TransferModel) (events : List (String × TransferEvent)) (peerId : String) :
    (model.afterEvents events).transfersByPeer[peerId]? =
      (model.afterEvents (events.filter (·.1 = peerId))).transfersByPeer[peerId]? := by
  have hgeneral : ∀ first second : TransferModel, first.transfersByPeer[peerId]? = second.transfersByPeer[peerId]? →
      (first.afterEvents events).transfersByPeer[peerId]? =
        (second.afterEvents (events.filter (·.1 = peerId))).transfersByPeer[peerId]? := by
    induction events with
    | nil => exact fun _ _ h => h
    | cons event events ih =>
      intro first second h
      obtain ⟨eventPeer, event⟩ := event
      by_cases hpeer : eventPeer = peerId
      · subst hpeer
        rw [List.filter_cons_of_pos (by simp)]
        exact ih _ _ (after_congr h event)
      · rw [List.filter_cons_of_neg (by simpa using hpeer)]
        refine ih _ _ ?_
        rw [after_other fun hsame => hpeer hsame.symm]
        exact h
  exact hgeneral model model rfl

/-- The transfer of an entry went on, if at all, within the size of its file. -/
structure WentOn (before next : ActiveTransfer) : Prop where
  transferId : next.transferId = before.transferId
  file : next.file = before.file
  forward : before.completedBytes ≤ next.completedBytes
  bounded : next.completedBytes = before.completedBytes ∨ next.completedBytes ≤ next.file.sizeBytes

theorem WentOn.refl (transfer : ActiveTransfer) : WentOn transfer transfer := ⟨rfl, rfl, Nat.le_refl _, .inl rfl⟩

theorem WentOn.trans {first second third : ActiveTransfer} (h : WentOn first second) (h' : WentOn second third) :
    WentOn first third := by
  refine ⟨h'.transferId.trans h.transferId, h'.file.trans h.file, Nat.le_trans h.forward h'.forward, ?_⟩
  rcases h'.bounded with hsame | hbound
  · rw [hsame, h'.file]
    exact h.bounded
  · exact .inr hbound

/-- Progress does not take an entry back. -/
theorem progress_entry (transferId : String) (direction : TransferDirection) (completedBytes totalBytes : Nat)
    {peerId : String} {before : ActiveTransfer} (h : model.transfersByPeer[peerId]? = some (.active before)) :
    ∃ next, WentOn before next ∧
      (model.after (peerId, .transferProgress transferId direction completedBytes totalBytes)).transfersByPeer[peerId]? =
        some (.active next) := by
  rcases after_progress model peerId with hsame | ⟨transfer, hactive, -, hle, hbound, hnext⟩
  · exact ⟨before, .refl before, hsame.trans h⟩
  · obtain rfl := TransferState.active.inj (Option.some.inj (hactive.symm.trans h))
    refine ⟨_, ?_, hnext⟩
    exact ⟨rfl, rfl, hle, .inr hbound⟩

/-- **Any number of reports of progress**, of whichever transfers, take the entry forward and within its file. -/
theorem progress_entry_run {peerId : String} {before : ActiveTransfer}
    (h : model.transfersByPeer[peerId]? = some (.active before))
    (hprogress : ∀ event, (peerId, event) ∈ events → ∃ transferId direction completedBytes totalBytes,
      event = .transferProgress transferId direction completedBytes totalBytes) :
    ∃ next, WentOn before next ∧ (model.afterEvents events).transfersByPeer[peerId]? = some (.active next) := by
  induction events generalizing model before with
  | nil => exact ⟨before, .refl before, h⟩
  | cons event events ih =>
    obtain ⟨eventPeer, event⟩ := event
    have hrest : ∀ event, (peerId, event) ∈ events → ∃ transferId direction completedBytes totalBytes,
        event = .transferProgress transferId direction completedBytes totalBytes := fun event hmem =>
      hprogress event (List.mem_cons_of_mem _ hmem)
    by_cases hpeer : eventPeer = peerId
    · subst hpeer
      obtain ⟨transferId, direction, completedBytes, totalBytes, rfl⟩ := hprogress event List.mem_cons_self
      obtain ⟨middle, hmiddle, hentry⟩ := progress_entry transferId direction completedBytes totalBytes h
      obtain ⟨next, hnext, hlast⟩ := ih hentry hrest
      exact ⟨next, hmiddle.trans hnext, hlast⟩
    · refine ih ?_ hrest
      rw [after_other fun hsame => hpeer hsame.symm]
      exact h

/-! ## Strays -/

/-- An event is about its own transfer only. -/
structure OwnTransferOnly (model : TransferModel) (event : String × TransferEvent) (next : TransferModel) : Prop where
  others : ∀ other, other ≠ event.1 → next.transfersByPeer[other]? = model.transfersByPeer[other]?
  reports : event.2.isReport = true → ∀ transferId entry heldId, event.2.transferId? = some transferId →
    model.transfersByPeer[event.1]? = some entry → entry.heldId = some heldId → transferId ≠ heldId →
      next.transfersByPeer[event.1]? = some entry
  progress : ∀ transferId direction completedBytes totalBytes before,
    event.2 = .transferProgress transferId direction completedBytes totalBytes →
      model.transfersByPeer[event.1]? = some (.active before) →
        ∃ next', WentOn before next' ∧ next.transfersByPeer[event.1]? = some (.active next')

/-- The end of a transfer, while another one is offered or under way. -/
def Stray (model : TransferModel) (event : String × TransferEvent) : Prop :=
  event.2.isEnding = true ∧ ∃ transferId entry heldId, event.2.transferId? = some transferId ∧
    model.transfersByPeer[event.1]? = some entry ∧ entry.heldId = some heldId ∧ transferId ≠ heldId

theorem after_ownTransferOnly (model : TransferModel) (event : String × TransferEvent) :
    model.OwnTransferOnly event (model.after event) ↔ ¬model.Stray event := by
  obtain ⟨peerId, event⟩ := event
  constructor
  · rintro ⟨-, hreports, -⟩ ⟨hending, transferId, entry, heldId, hid, hentry, hheld, hdiffers⟩
    have hreport : event.isReport = true := by
      cases event <;> first | rfl | cases hending
    obtain ⟨ended, hended, hnone⟩ := after_isEnding model peerId hending
    have hsame := hreports hreport transferId entry heldId hid hentry hheld hdiffers
    obtain rfl := Option.some.inj (hsame.symm.trans hended)
    rw [hnone] at hheld
    cases hheld
  · intro hstray
    refine ⟨fun other hother => after_other hother, ?_, ?_⟩
    · intro hreport transferId entry heldId hid hentry hheld hdiffers
      dsimp only at hreport hid hentry ⊢
      have hnotEnding : event.isEnding ≠ true := fun hending =>
        hstray ⟨hending, transferId, entry, heldId, hid, hentry, hheld, hdiffers⟩
      have hother : ∀ transfer, model.transfersByPeer[peerId]? = some (.active transfer) → transfer.transferId ≠ transferId := by
        intro transfer hactive hsame
        obtain rfl := Option.some.inj (hentry.symm.trans hactive)
        exact hdiffers (hsame.symm.trans (Option.some.inj hheld))
      cases event with
      | transferProgress eventId direction completedBytes totalBytes =>
        obtain rfl := Option.some.inj hid
        rcases after_progress model peerId with hsame | ⟨transfer, hactive, hsame, -⟩
        · exact hsame.trans hentry
        · exact absurd hsame (hother transfer hactive)
      | transferPaused eventId direction reason completedBytes totalBytes =>
        obtain rfl := Option.some.inj hid
        rw [after_paused model peerId hother]
        exact hentry
      | transferRejected | transferCompleted | transferCancelled | transferFailed => exact absurd rfl hnotEnding
      | outgoingOffered | outgoingRecoveryOffered | incomingOffered | transferStarted | awaitingVerification => cases hreport
    · rintro transferId direction completedBytes totalBytes before rfl hactive
      exact progress_entry transferId direction completedBytes totalBytes hactive

/-- **When the events of a sequence are about their own transfers only.** -/
theorem ownTransferOnly_iff (model : TransferModel) (events : List (String × TransferEvent)) :
    (∀ before event next, Taken Step model events before event next → before.OwnTransferOnly event next) ↔
      ∀ before event next, Taken Step model events before event next → ¬before.Stray event := by
  refine forall_congr' fun before => forall_congr' fun event => forall_congr' fun next => ?_
  refine forall_congr' fun htaken => ?_
  obtain rfl : before.after event = next := htaken.holds
  exact after_ownTransferOnly before event

/-- The other side cancels a transfer that is not there, while one is under way. -/
theorem stray_cancel_ends_transfer :
    ¬∀ (model : TransferModel) (events : List (String × TransferEvent)) before event next,
      Taken Step model events before event next → before.OwnTransferOnly event next := by
  intro hclaim
  let shown : ActiveTransfer :=
    { transferId := "transfer_1", direction := .send, streamed := false, file := { name := "a", mime := none, sizeBytes := 2 },
      files := [{ name := "a", mime := none, sizeBytes := 2 }], completedBytes := 1, awaitingVerification := false,
      linkState := .ready, storagePause := none }
  let model : TransferModel :=
    { session := none, screen := .booting, realtime := .connected, error := none, notice := none, decisionRequestId := none,
      enteringReceivers := [], transfer := .idle,
      transfersByPeer := (∅ : BTreeMap String TransferState).insert "peer_b" (.active shown) }
  let cancelled : String × TransferEvent := ("peer_b", .transferCancelled "transfer_2" .senderCancelled)
  have htaken : Taken Step model [cancelled] model cancelled (model.after cancelled) := ⟨[], [], rfl, .nil model, rfl⟩
  refine (after_ownTransferOnly model cancelled).mp (hclaim _ _ _ _ _ htaken) ?_
  refine ⟨rfl, "transfer_2", .active shown, "transfer_1", rfl, ?_, rfl, by decide⟩
  exact BTreeMap.getElem?_insert "peer_b" "peer_b" _

end Runs

end TransferModel

end P2PTransmission
