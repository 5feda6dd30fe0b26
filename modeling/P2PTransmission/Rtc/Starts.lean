import P2PTransmission.Rtc.Leftover

/-!
# When a transfer is sent

A task that sends a transfer is started when the receiver has accepted it and, for a streamed transfer, is ready for it.
Both are forgotten when the connection is lost, so that both have to be heard again on the next one. A receiver that pauses
the transfer has accepted it.
-/

set_option autoImplicit false

namespace P2PTransmission.Rtc

namespace Peer

/-- What a step makes of the acceptance and the readiness of the receiver, what was known when a task was started, and
which channels the tasks have taken. -/
structure Tells (accepts readies : Prop) (takes : Nat → ChannelId → Prop) (peer next : Peer) : Prop where
  heard : ∀ now, next.outgoing = some now → ∃ outgoing, peer.outgoing = some outgoing ∧ now.mode = outgoing.mode ∧
    (now.accepted = true → outgoing.accepted = true ∨ accepts) ∧
    (now.streamReady.isSome = true → outgoing.streamReady.isSome = true ∨ readies)
  starts : ∀ (m : TaskId) (transferId : String) (generation : Nat) (point : SendPoint),
    next.tasks[m]? = some (.send transferId generation point) →
      (∃ before, peer.tasks[m]? = some (.send transferId generation before)) ∨
        ∃ now, next.outgoing = some now ∧ now.accepted = true ∧
          (now.isStreamed = true → now.streamReady.isSome = true)
  channels : ∀ (m : TaskId) (transferId : String) (generation : Nat) (point : SendPoint) (c : ChannelId),
    next.tasks[m]? = some (.send transferId generation point) → point.channel = some c →
      (∃ before, peer.tasks[m]? = some (.send transferId generation before) ∧ before.channel = some c) ∨ takes generation c

/-- The tasks at work that send did so before, on the same channel unless they have taken another one. -/
def SendsBefore (takes : Nat → ChannelId → Prop) (peer : Peer) (may : TaskId → Task → Prop) : Prop :=
  ∀ m transferId generation point, may m (.send transferId generation point) →
    ∃ before, peer.tasks[m]? = some (.send transferId generation before) ∧
      ∀ c, point.channel = some c → before.channel = some c ∨ takes generation c

section Tells

variable {accepts readies : Prop} {takes : Nat → ChannelId → Prop} {may : TaskId → Task → Prop} {peer next last : Peer}

theorem sendsBefore_noTask (peer : Peer) : SendsBefore takes peer NoTask := fun _ _ _ _ h => h.elim

theorem sendsBefore_aside (peer : Peer) (n : TaskId) : SendsBefore takes peer (StaysAside n) := by
  rintro m transferId generation point ⟨-, haside⟩
  cases haside

theorem sendsBefore_sending {n : TaskId} {transferId : String} {generation : Nat} {point : SendPoint}
    {channel : Option ChannelId} (htask : peer.tasks[n]? = some (.send transferId generation point))
    (htakes : ∀ c, channel = some c → point.channel = some c ∨ takes generation c) :
    SendsBefore takes peer (StaysSending n transferId generation channel) := by
  rintro m id g p ⟨rfl, point', hsend, hchannel, -⟩
  cases hsend
  refine ⟨point, htask, fun c hc => ?_⟩
  rcases hchannel with hnone | hsame
  · rw [hc] at hnone
    cases hnone
  · exact htakes c (by rw [← hsame, hc])

theorem sendsBefore_resolves (peer : Peer) : SendsBefore takes peer (Resolves peer) := by
  rintro m id g p ⟨id', g', loop, file, segment, result, hwaits, hsend⟩
  cases hsend
  exact ⟨_, hwaits, fun c hc => .inl hc⟩

theorem Passes.sends (hmay : SendsBefore takes peer may) (h : peer.Passes may next) {m : TaskId} {transferId : String}
    {generation : Nat} {point : SendPoint} (htask : next.tasks[m]? = some (.send transferId generation point)) :
    ∃ before, peer.tasks[m]? = some (.send transferId generation before) ∧
      ∀ c, point.channel = some c → before.channel = some c ∨ takes generation c := by
  rcases h.tasks m with hsame | ⟨task, hnow, hmay' | ⟨-, -, haside⟩⟩
  · exact ⟨point, by rw [← hsame, htask], fun c hc => .inl hc⟩
  · rw [htask] at hnow
    cases hnow
    exact hmay m _ _ _ hmay'
  · rw [htask] at hnow
    cases hnow
    cases haside

theorem Passes.tells (hmay : SendsBefore takes peer may) (h : peer.Passes may next) :
    peer.Tells accepts readies takes next where
  heard now hnow := by
    obtain ⟨outgoing, hout, hfollows⟩ := h.outgoing now hnow
    refine ⟨outgoing, hout, hfollows.mode, ?_⟩
    rcases hfollows.goesOn with hgoes | ⟨-, hwaits⟩
    · rw [hgoes.accepted, hgoes.streamReady]
      exact ⟨.inl, .inl⟩
    · rw [hwaits.accepted, hwaits.streamReady]
      exact ⟨fun hyes => (by cases hyes), fun hyes => (by cases hyes)⟩
  starts m transferId generation point htask := by
    obtain ⟨before, hbefore, -⟩ := h.sends hmay htask
    exact .inl ⟨before, hbefore⟩
  channels m transferId generation point c htask hc := by
    obtain ⟨before, hbefore, hsame⟩ := h.sends hmay htask
    exact (hsame c hc).imp (fun hsame => ⟨before, hbefore, hsame⟩) id

/-- What comes before passes. -/
theorem Tells.after (hmay : SendsBefore takes peer may) (h : peer.Passes may next)
    (h' : next.Tells accepts readies takes last) : peer.Tells accepts readies takes last where
  heard now hnow := by
    obtain ⟨between, hbetween, hmode', haccepted', hready'⟩ := h'.heard now hnow
    have hfirst : peer.Tells accepts readies takes next := h.tells hmay
    obtain ⟨outgoing, hout, hmode, haccepted, hready⟩ := hfirst.heard between hbetween
    refine ⟨outgoing, hout, hmode'.trans hmode, fun hyes => ?_, fun hyes => ?_⟩
    · exact (haccepted' hyes).elim haccepted .inr
    · exact (hready' hyes).elim hready .inr
  starts m transferId generation point htask := by
    rcases h'.starts m transferId generation point htask with ⟨between, hbetween⟩ | hstarted
    · obtain ⟨before, hbefore, -⟩ := h.sends hmay hbetween
      exact .inl ⟨before, hbefore⟩
    · exact .inr hstarted
  channels m transferId generation point c htask hc := by
    rcases h'.channels m transferId generation point c htask hc with ⟨between, hbetween, hsame⟩ | htaken
    · obtain ⟨before, hbefore, hsame'⟩ := h.sends hmay hbetween
      exact (hsame' c hsame).imp (fun hsame => ⟨before, hbefore, hsame⟩) id
    · exact .inr htaken

theorem Tells.mono {accepts' readies' : Prop} (h : peer.Tells accepts readies takes next)
    (haccepts : ∀ outgoing, peer.outgoing = some outgoing → accepts → accepts')
    (hreadies : ∀ outgoing, peer.outgoing = some outgoing → readies → readies') :
    peer.Tells accepts' readies' takes next where
  heard now hnow := by
    obtain ⟨outgoing, hout, hmode, haccepted, hready⟩ := h.heard now hnow
    exact ⟨outgoing, hout, hmode, fun hyes => (haccepted hyes).imp id (haccepts outgoing hout),
      fun hyes => (hready hyes).imp id (hreadies outgoing hout)⟩
  starts := h.starts
  channels := h.channels

/-- What comes after a change of the outgoing transfer passes. -/
theorem Tells.before (h : peer.Tells accepts readies takes next) (htasks : next.tasks = peer.tasks)
    (hmay : SendsBefore takes next may) (h' : next.Passes may last) : peer.Tells accepts readies takes last where
  heard now hnow := by
    have hlast : next.Tells False False takes last := h'.tells hmay
    obtain ⟨between, hbetween, hmode', haccepted', hready'⟩ := hlast.heard now hnow
    obtain ⟨outgoing, hout, hmode, haccepted, hready⟩ := h.heard between hbetween
    refine ⟨outgoing, hout, hmode'.trans hmode, fun hyes => ?_, fun hyes => ?_⟩
    · exact haccepted ((haccepted' hyes).resolve_right id)
    · exact hready ((hready' hyes).resolve_right id)
  starts m transferId generation point htask := by
    obtain ⟨before, hbefore, -⟩ := h'.sends hmay htask
    exact .inl ⟨before, by rw [← htasks, hbefore]⟩
  channels m transferId generation point c htask hc := by
    obtain ⟨before, hbefore, hsame⟩ := h'.sends hmay htask
    exact (hsame c hc).imp (fun hsame => ⟨before, by rw [← htasks, hbefore], hsame⟩) id

theorem Tells.refl (peer : Peer) : peer.Tells accepts readies takes peer :=
  (Passes.refl peer : peer.Passes NoTask peer).tells (sendsBefore_noTask peer)

theorem Passes.tellsNothing (h : peer.Passes NoTask next) : peer.Tells accepts readies takes next :=
  h.tells (sendsBefore_noTask peer)

/-- Another state of the outgoing transfer, with the same tasks. -/
theorem Tells.change {outgoing now : OutgoingState} (hout : peer.outgoing = some outgoing)
    (hnext : next.outgoing = some now) (htasks : next.tasks = peer.tasks) (hmode : now.mode = outgoing.mode)
    (haccepted : now.accepted = true → outgoing.accepted = true ∨ accepts)
    (hready : now.streamReady.isSome = true → outgoing.streamReady.isSome = true ∨ readies) :
    peer.Tells accepts readies takes next where
  heard last hlast := by
    rw [hnext] at hlast
    cases hlast
    exact ⟨outgoing, hout, hmode, haccepted, hready⟩
  starts m transferId generation point htask := .inl ⟨point, by rw [← htasks, htask]⟩
  channels m transferId generation point c htask hc := .inl ⟨point, by rw [← htasks, htask], hc⟩

/-- The start of a task, for a receiver that has accepted and is ready. -/
theorem Tells.spawn {outgoing now : OutgoingState} (hout : peer.outgoing = some outgoing)
    (hmode : now.mode = outgoing.mode) (haccepted : outgoing.accepted = true ∨ accepts)
    (hready : now.streamReady.isSome = true → outgoing.streamReady.isSome = true ∨ readies)
    (hyes : now.accepted = true) (hstart : now.isStreamed = true → now.streamReady.isSome = true)
    (transferId : String) (generation : Nat) :
    peer.Tells accepts readies takes (({ peer with outgoing := some now } : Peer).spawnOutgoing transferId generation) where
  heard last hlast := by
    cases hlast
    exact ⟨outgoing, hout, hmode, fun _ => haccepted, hready⟩
  starts m id g point htask := by
    have hat : (peer.tasks.insert peer.nextTask (.send transferId generation .spawned))[m]? = some (.send id g point) :=
      htask
    rw [BTreeMap.getElem?_insert] at hat
    by_cases hm : peer.nextTask = m
    · exact .inr ⟨now, rfl, hyes, hstart⟩
    · rw [if_neg hm] at hat
      exact .inl ⟨point, hat⟩
  channels m id g point c htask hc := by
    have hat : (peer.tasks.insert peer.nextTask (.send transferId generation .spawned))[m]? = some (.send id g point) :=
      htask
    rw [BTreeMap.getElem?_insert] at hat
    by_cases hm : peer.nextTask = m
    · rw [if_pos hm] at hat
      cases hat
      cases hc
    · rw [if_neg hm] at hat
      exact .inl ⟨point, hat, hc⟩

end Tells

/-! ## The messages of the receiver -/

section Messages

variable {peer : Peer} {takes : Nat → ChannelId → Prop} [Blake3]

omit [Blake3] in
theorem handleDecision_tells {readies : Prop} (peer : Peer) (id : String) (accepted : Bool) :
    peer.Tells (accepted = true ∧ ∀ outgoing, peer.outgoing = some outgoing → outgoing.transferId = id) readies takes
      (peer.handleDecision id accepted) := by
  unfold Peer.handleDecision
  cases hout : peer.outgoing with
  | none => exact Passes.tellsNothing (.fail _ _ _)
  | some outgoing =>
    dsimp only
    by_cases hid : outgoing.transferId = id
    · rw [if_neg (by simp [hid])]
      have hmatches : ∀ now, some outgoing = some now → now.transferId = id := by
        intro now hnow
        cases hnow
        exact hid
      cases accepted with
      | true =>
        rw [if_pos rfl]
        by_cases hstart : (outgoing.mode = .buffered ∨ outgoing.streamReady.isSome) ∧ outgoing.sending = false
        · rw [if_pos hstart]
          have haccepts : outgoing.accepted = true ∨
              (true = true ∧ ∀ now, some outgoing = some now → now.transferId = id) := .inr ⟨rfl, hmatches⟩
          apply Tells.spawn hout
          · rfl
          · exact haccepts
          · exact .inl
          · rfl
          · intro hstreamed
            rcases hstart.1 with hbuffered | hready
            · have hmode : outgoing.isStreamed = true := hstreamed
              unfold OutgoingState.isStreamed at hmode
              rw [hbuffered] at hmode
              cases hmode
            · exact hready
        · rw [if_neg hstart]
          exact Tells.change hout rfl rfl rfl (fun _ => .inr ⟨rfl, hmatches⟩) .inl
      | false =>
        rw [if_neg (by simp)]
        exact Passes.tellsNothing
          (((Passes.withoutOutgoing peer).trans (.emit _ _)).trans (.spawnDeleteOutgoing _ _))
    · rw [if_pos (by simpa using hid)]
      exact Passes.tellsNothing (.fail _ _ _)

omit [Blake3] in
theorem startIfAccepted_tells {accepts readies : Prop} {outgoing now : OutgoingState}
    (hout : peer.outgoing = some outgoing) (hmode : now.mode = outgoing.mode)
    (haccepted : now.accepted = outgoing.accepted) (hready : now.streamReady.isSome = true) (hreadies : readies) :
    peer.Tells accepts readies takes (peer.startIfAccepted now) := by
  unfold Peer.startIfAccepted
  by_cases hstart : now.accepted = true ∧ now.sending = false
  · rw [if_pos hstart]
    have hyes : outgoing.accepted = true := by rw [← haccepted, hstart.1]
    generalize hsending : ({ now with sending := true } : OutgoingState) = sending
    have hsame : sending.mode = now.mode ∧ sending.accepted = now.accepted ∧ sending.streamReady = now.streamReady := by
      rw [← hsending]
      exact ⟨rfl, rfl, rfl⟩
    obtain ⟨hmode', haccepted', hready'⟩ := hsame
    exact Tells.spawn hout (hmode'.trans hmode) (.inl hyes) (fun _ => .inr hreadies) (haccepted'.trans hstart.1)
      (fun _ => by rw [hready', hready]) _ _
  · rw [if_neg hstart]
    exact .change hout rfl rfl hmode (fun hyes => .inl (by rw [← haccepted, hyes])) fun _ => .inr hreadies

omit [Blake3] in
theorem ready_isSome (outgoing : OutgoingState) (promote : Bool) (request : StreamReadyRequest) :
    (outgoing.ready promote request).streamReady.isSome = true := by
  unfold OutgoingState.ready
  cases promote <;> cases outgoing.pendingAck <;> rfl

omit [Blake3] in
theorem receiverReady_tells {accepts : Prop} (peer : Peer) (request : StreamReadyRequest) :
    peer.Tells accepts (∀ outgoing, peer.outgoing = some outgoing → outgoing.transferId = request.transferId) takes
      (peer.receiverReady request) := by
  unfold Peer.receiverReady
  cases hout : peer.outgoing with
  | none => exact Passes.tellsNothing (.fail _ _ _)
  | some outgoing =>
    dsimp only
    split
    · exact Passes.tellsNothing (.fail _ _ _)
    · rename_i segmentBytes _
      by_cases hmatch : outgoing.transferId ≠ request.transferId ∨ request.ackWindowBytes < segmentBytes
      · rw [if_pos hmatch]
        exact Passes.tellsNothing (.fail _ _ _)
      · rw [if_neg hmatch]
        split
        · exact Passes.tellsNothing (.sendTransferError _ _ _ _)
        · rename_i promote _
          obtain ⟨-, hmode, -, -, haccepted⟩ := ready_eq outgoing promote request
          refine startIfAccepted_tells hout hmode haccepted (ready_isSome outgoing promote request) fun now hnow => ?_
          cases hnow
          exact of_not_not fun hne => hmatch (.inl hne)

omit [Blake3] in
theorem handleStreamReady_tells {accepts : Prop} (peer : Peer) (request : StreamReadyRequest) :
    peer.Tells accepts (∀ outgoing, peer.outgoing = some outgoing → outgoing.transferId = request.transferId) takes
      (peer.handleStreamReady request) := by
  unfold Peer.handleStreamReady
  split
  · exact .refl peer
  · have hmarked : peer.Passes NoTask (peer.withOutgoing fun outgoing => { outgoing with reconcilingResume := true }) :=
      .withOutgoing peer fun _ => Passes.follows_of_eq rfl rfl rfl rfl rfl rfl rfl
    exact Passes.tellsNothing (hmarked.trans (.spawn _ rfl))
  · dsimp only
    generalize hlive : peer.withOutgoing _ = live
    have hfollows : peer.Passes NoTask live := by
      rw [← hlive]
      refine .withOutgoing peer fun outgoing => ?_
      split
      · rw [if_neg (by simp)]
        exact .refl outgoing
      · split
        · exact Passes.follows_of_eq rfl rfl rfl rfl rfl rfl rfl
        · exact .refl outgoing
    refine Tells.after (sendsBefore_noTask peer) hfollows ((receiverReady_tells live request).mono (fun _ _ h => h)
      fun _ _ hmatch => ?_)
    intro outgoing hout
    obtain ⟨now, hnow⟩ : ∃ now, live.outgoing = some now := by
      rw [← hlive]
      exact ⟨_, Option.map_eq_some_iff.mpr ⟨outgoing, hout, rfl⟩⟩
    obtain ⟨before, hbefore, hsame⟩ := hfollows.outgoing _ hnow
    rw [hout] at hbefore
    cases hbefore
    rw [← hsame.transferId]
    exact hmatch _ hnow

omit [Blake3] in
theorem handleStreamPaused_tells {readies : Prop} (peer : Peer) (id : String) (reason : StreamPauseReason) :
    peer.Tells (∀ outgoing, peer.outgoing = some outgoing → outgoing.transferId = id) readies takes
      (peer.handleStreamPaused id reason) := by
  unfold Peer.handleStreamPaused
  cases hout : peer.outgoing with
  | none => exact Passes.tellsNothing (.fail _ _ _)
  | some outgoing =>
    dsimp only
    by_cases hmatch : outgoing.transferId ≠ id ∨ outgoing.mode = .buffered
    · rw [if_pos hmatch]
      exact Passes.tellsNothing (.fail _ _ _)
    · rw [if_neg hmatch]
      refine .change hout rfl rfl rfl (fun _ => .inr fun now hnow => ?_) fun hnone => (by cases hnone)
      cases hnow
      exact of_not_not fun hne => hmatch (.inl hne)

omit [Blake3] in
theorem handleSegmentAck_tells {accepts readies : Prop} (peer : Peer) (ack : SegmentAck) :
    peer.Tells accepts readies takes (peer.handleSegmentAck ack) := by
  unfold Peer.handleSegmentAck
  cases hout : peer.outgoing with
  | none => exact Passes.tellsNothing (.fail _ _ _)
  | some outgoing =>
    dsimp only
    split
    · exact Passes.tellsNothing (.fail _ _ _)
    · split
      · exact Passes.tellsNothing (.fail _ _ _)
      · rename_i pending _
        split
        · have hcommitted : peer.Tells accepts readies takes { peer with outgoing := some (outgoing.commitPending pending) } :=
            .change hout rfl rfl rfl .inl .inl
          split
          · exact hcommitted.before rfl (sendsBefore_noTask _) (.spawn _ rfl)
          · exact hcommitted.before rfl (sendsBefore_resolves _) (.resolveAck _ _ _)
        · have hdropped : peer.Tells accepts readies takes { peer with outgoing := some { outgoing with pendingAck := none } } :=
            .change hout rfl rfl rfl .inl .inl
          exact hdropped.before rfl (sendsBefore_resolves _) (.resolveAck _ _ _)

end Messages

/-! ## The steps -/

section Steps

variable {transferId : String} {peer : Peer} {takes : Nat → ChannelId → Prop} [Blake3] {n : TaskId}

omit [Blake3] in
theorem wakeSaveAck_tells {accepts readies : Prop} (peer : Peer) (recovery : OutgoingRecoveryRecord)
    (sender : Option TaskId) (result : Except String Unit) (answer : Answer) :
    peer.Tells accepts readies takes (peer.wakeSaveAck n recovery sender result answer) := by
  unfold Peer.wakeSaveAck
  have hended : peer.Passes (StaysAside n) (peer.setTask n .finished) := .setAside _ rfl
  dsimp only
  split
  · generalize hsaved : ({ peer.setTask n .finished with outgoingRecovery := _ } : Peer) = saved
    have hsame : (peer.setTask n .finished).Passes (StaysAside n) saved := by
      rw [← hsaved]
      exact .of_eq rfl rfl rfl rfl
    exact Tells.after (sendsBefore_aside peer n) (hended.trans hsame)
      (Passes.tells (sendsBefore_resolves saved) (.resolveAck saved _ _))
  · exact Tells.after (sendsBefore_aside peer n) hended (Passes.tells (sendsBefore_resolves _) (.resolveAck _ _ _))

omit [Blake3] in
/-- The files are those of the receiver from now on. -/
theorem reconciled_tells {accepts : Prop} (peer : Peer) {outgoing : OutgoingState} (hout : peer.outgoing = some outgoing)
    (request : StreamReadyRequest) (recovery : OutgoingRecoveryRecord) (files : List RecoveredSourceFile) :
    peer.Tells accepts True takes
      ((({ peer with outgoing := some (reconciledOutgoing outgoing recovery files) } : Peer).setTask n
        (.reconcile request .finished)).handleStreamReady request) := by
  generalize hended : ({ peer with outgoing := some (reconciledOutgoing outgoing recovery files) } : Peer).setTask n
    (.reconcile request .finished) = ended
  have hnow : ended.outgoing = some (reconciledOutgoing outgoing recovery files) := by rw [← hended]; rfl
  have htasks : ∀ (m : TaskId) (id : String) (generation : Nat) (point : SendPoint),
      ended.tasks[m]? = some (.send id generation point) → peer.tasks[m]? = some (.send id generation point) := by
    intro m id generation point htask
    rw [← hended] at htask
    have hat : (peer.tasks.insert n (.reconcile request .finished))[m]? = some (.send id generation point) := htask
    rw [BTreeMap.getElem?_insert] at hat
    split at hat
    · cases hat
    · exact hat
  have hready : ended.Tells accepts True takes (ended.handleStreamReady request) :=
    (handleStreamReady_tells ended request).mono (fun _ _ h => h) fun _ _ _ => trivial
  constructor
  · intro now hlast
    obtain ⟨between, hbetween, hmode, haccepted, -⟩ := hready.heard now hlast
    rw [hnow] at hbetween
    cases hbetween
    exact ⟨outgoing, hout, hmode, haccepted, fun _ => .inr trivial⟩
  · intro m id generation point htask
    rcases hready.starts m id generation point htask with ⟨before, hbefore⟩ | hstarted
    · exact .inl ⟨before, htasks m id generation before hbefore⟩
    · exact .inr hstarted
  · intro m id generation point c htask hc
    exact (hready.channels m id generation point c htask hc).imp
      (fun ⟨before, hbefore, hsame⟩ => ⟨before, htasks m id generation before hbefore, hsame⟩) fun htaken => htaken

theorem wakeReconcile_tells {accepts : Prop} (peer : Peer) (request : StreamReadyRequest) (point : ReconcilePoint)
    (answer : Answer) : peer.Tells accepts True takes (peer.wakeReconcile n request point answer) := by
  have hpass : ∀ {next : Peer}, peer.Passes (StaysAside n) next → peer.Tells accepts True takes next := fun h =>
    h.tells (sendsBefore_aside peer n)
  cases point with
  | spawned =>
    unfold Peer.wakeReconcile
    dsimp only
    split
    · exact hpass (.reconcileFailed _ _ _)
    · split
      · exact hpass (.reconcileFailed _ _ _)
      · split
        · exact hpass (.reconcileFailed _ _ _)
        · split
          · exact hpass (.reconcileFailed _ _ _)
          · exact hpass (.reconcileNext _ _ _ _ _)
  | recovering recovery files rest =>
    cases rest with
    | nil => exact hpass (.setAside _ rfl)
    | cons file rest =>
      unfold Peer.wakeReconcile
      dsimp only
      split
      · exact hpass (.reconcileFailed _ _ _)
      · split
        · exact hpass (.reconcileFailed _ _ _)
        · exact hpass (.reconcileNext _ _ _ _ _)
  | saving recovery files =>
    cases answer with
    | error error => exact hpass (.reconcileFailed _ _ _)
    | ok =>
      generalize hsaved : ({ peer with outgoingRecovery := peer.outgoingRecovery.insert recovery.peerId recovery } : Peer) =
        saved
      have hsame : peer.Passes (StaysAside n) saved := by
        rw [← hsaved]
        exact .of_eq rfl rfl rfl rfl
      rw [wakeReconcile_saved, hsaved]
      cases hstate : saved.outgoing with
      | none => exact hpass (hsame.trans (.reconcileFailed _ _ _))
      | some outgoing =>
        dsimp only
        split
        · exact hpass (hsame.trans (.reconcileFailed _ _ _))
        · refine Tells.after (sendsBefore_aside peer n) hsame (reconciled_tells saved hstate request recovery files)
  | finished => exact .refl peer

end Steps

end Peer

/-- The receiver accepts the transfer: by a decision, or because it pauses it. -/
def Input.accepts (transferId : String) : Input → Prop
  | .receive (.frame (.control (.decision id true))) _ => id = transferId
  | .receive (.frame (.control (.streamPaused id _))) _ => id = transferId
  | _ => False

/-- The connection is gone. -/
def Input.losesConnection : Input → Bool
  | .channelClosed _ | .connectionLost _ | .prepareReconnect | .reset => true
  | _ => false

namespace Peer

/-- The receiver is ready for the transfer: it says so, or what it said to a sender that was restored is reconciled. -/
def Readies (transferId : String) (peer : Peer) : Input → Prop
  | .receive (.frame (.control (.streamReady id _ _ _))) _ => id = transferId
  | .wake n _ => ∃ request point, peer.tasks[n]? = some (.reconcile request point)
  | _ => False

/-- The current channel belongs to the current generation. -/
def Takes (peer : Peer) (generation : Nat) (c : ChannelId) : Prop :=
  peer.dataChannel.map (·.id) = some c ∧ ∃ outgoing, peer.outgoing = some outgoing ∧ outgoing.generation = generation

section Step

variable {transferId : String} {peer : Peer} {takes : Nat → ChannelId → Prop} [Blake3] {n : TaskId}

/-- A task takes the current channel when it begins, if its generation is the current one. -/
theorem wakeSend_tells (hsolo : peer.Solo transferId) {generation : Nat} {point : SendPoint}
    (htask : peer.tasks[n]? = some (.send transferId generation point)) (hsound : point.sound) (choice : Choice)
    {accepts readies : Prop} :
    peer.Tells accepts readies peer.Takes (peer.wakeSend n transferId generation point choice) := by
  have hpasses : peer.Passes _ (peer.wakeSend n transferId generation point choice) := .wakeSend peer hsound choice
  by_cases hbegins : point = .spawned
  · subst hbegins
    by_cases hcurrent : ∃ outgoing, peer.outgoing = some outgoing ∧ outgoing.generation = generation
    · exact hpasses.tells (sendsBefore_sending htask fun c hc => .inr ⟨hc, hcurrent⟩)
    · have hleft : peer.Left generation := fun outgoing hout hsame => hcurrent ⟨outgoing, hout, hsame⟩
      have hended : peer.wakeSend n transferId generation .spawned choice =
          peer.sendAt n transferId generation .finished :=
        hleft.startSending (hleft.streamed hsolo ⟨.spawned, htask, by simp⟩)
      rw [hended]
      have hfinished : peer.Passes (StaysSending n transferId generation none)
          (peer.sendAt n transferId generation .finished) := .sendAt peer (.inl rfl) trivial
      exact hfinished.tells (sendsBefore_sending htask fun c hc => by cases hc)
  · have hsame : Passes.channelFrom peer point = point.channel := by
      cases point <;> first | rfl | exact absurd rfl hbegins
    exact hpasses.tells (sendsBefore_sending htask fun c hc => .inl (by rw [← hsame, hc]))

theorem wake_tells (hsolo : peer.Solo transferId) {task : Task} (htask : peer.tasks[n]? = some task) (choice : Choice)
    {accepts : Prop} :
    peer.Tells accepts (peer.Readies transferId (.wake n choice)) peer.Takes (peer.wake n task choice) := by
  have hpass : ∀ {next : Peer}, peer.Passes (StaysAside n) next →
      peer.Tells accepts (peer.Readies transferId (.wake n choice)) peer.Takes next := fun h =>
    h.tells (sendsBefore_aside peer n)
  have hkind := hsolo.tasks n task htask
  cases task with
  | send id generation point =>
    rcases hkind with haside | ⟨generation', point', hsend, hsound⟩
    · cases haside
    · cases hsend
      exact wakeSend_tells hsolo htask hsound choice
  | saveAck recovery sender result => exact wakeSaveAck_tells peer recovery sender result choice.answer
  | reconcile request point =>
    exact (wakeReconcile_tells peer request point choice.answer).mono (fun _ _ h => h)
      fun _ _ _ => ⟨request, point, htask⟩
  | write segment point => exact hpass (.wakeWrite peer segment point choice.answer)
  | lookup point => exact hpass (.wakeLookup peer point choice)
  | accept point => exact hpass (.wakeAccept peer point choice.answer)
  | resume id point => exact hpass (.wakeResume peer id point choice)
  | close closing point => exact hpass (.wakeClose peer closing point choice.answer)
  | offer point | restoreOutgoing peerId point | resumeOutgoing point =>
    rcases hkind with haside | ⟨_, _, hsend, -⟩
    · cases haside
    · cases hsend
  | cancel id reason firstError point => exact hpass (.wakeCancel peer id reason firstError point choice.answer)
  | deleteStream id =>
    have hended : peer.Passes (StaysAside n) (peer.setTask n .finished) := .setAside _ rfl
    unfold Peer.wake
    dsimp only
    split
    · exact hpass hended
    · exact hpass (hended.trans (.of_eq rfl rfl rfl rfl))
  | deleteOutgoing peerId =>
    have hended : peer.Passes (StaysAside n) (peer.setTask n .finished) := .setAside _ rfl
    exact hpass (hended.trans (.eraseOutgoingRecovery _ _ _))
  | finished => exact .refl peer

theorem handleControl_tells (hsolo : peer.Solo transferId) (message : ControlMessage) (download : Download) :
    peer.Tells (Input.accepts transferId (.receive (.frame (.control message)) download))
      (peer.Readies transferId (.receive (.frame (.control message)) download)) takes
      (peer.handleControl message download) := by
  cases message with
  | manifest id mode files => exact Passes.tellsNothing (.handleManifest peer id mode files)
  | decision id accepted =>
    refine (handleDecision_tells peer id accepted).mono (fun outgoing hout hyes => ?_) fun _ _ h => h
    obtain ⟨rfl, hmatch⟩ := hyes
    show id = transferId
    rw [← hmatch outgoing hout, hsolo.sole outgoing hout]
  | start id => exact Passes.tellsNothing (.handleStart peer id)
  | streamReady id maxChunkBytes ackWindowBytes resume =>
    refine (handleStreamReady_tells peer _).mono (fun _ _ h => h) fun outgoing hout hmatch => ?_
    show id = transferId
    rw [← hsolo.sole outgoing hout, hmatch outgoing hout]
  | segmentCommit id fileId segmentIndex offset bytes blake3 => exact Passes.tellsNothing (.handleSegmentCommit peer _)
  | segmentAck id fileId segmentIndex committedBytes blake3 => exact handleSegmentAck_tells peer _
  | streamPaused id reason =>
    refine (handleStreamPaused_tells peer id reason).mono (fun outgoing hout hmatch => ?_) fun _ _ h => h
    show id = transferId
    rw [← hmatch outgoing hout, hsolo.sole outgoing hout]
  | cancel id reason => exact Passes.tellsNothing ((Passes.clearTransfer peer id).trans (.emit _ _))
  | complete id bytes blake3 =>
    show peer.Tells _ _ _ (peer.handleComplete id bytes blake3 download)
    unfold Peer.handleComplete
    split
    · exact Passes.tellsNothing (.finishReceive _ _ _ _ _)
    · exact Passes.tellsNothing (.bufferedVerified _ _ _ _)
  | streamComplete id totalBytes files =>
    show peer.Tells _ _ _ (peer.handleStreamComplete id totalBytes files)
    unfold Peer.handleStreamComplete
    split
    · exact Passes.tellsNothing (.finishStreamReceive _ _ _ _)
    · exact Passes.tellsNothing (.streamVerified _ _ _ _)
  | error id code message => exact Passes.tellsNothing ((Passes.clearTransfer peer id).trans (.fail _ _ _))

theorem handleReceived_tells (hsolo : peer.Solo transferId) (received : Received) (download : Download) :
    peer.Tells (Input.accepts transferId (.receive received download))
      (peer.Readies transferId (.receive received download)) takes (peer.handleReceived received download) := by
  unfold Peer.handleReceived
  split
  · exact Passes.tellsNothing (.handleBinary _ _)
  · split
    · exact Passes.tellsNothing (.fail _ _ _)
    · exact handleControl_tells hsolo _ _
  · exact Passes.tellsNothing (.fail _ _ _)
  · exact Passes.tellsNothing (.fail _ _ _)

omit [Blake3] in
/-- Another channel changes nothing of the transfer. -/
theorem withChannel_tells {accepts readies : Prop} {next : Peer} (channel : Option DataChannel)
    (h : ({ peer with dataChannel := channel } : Peer).Tells accepts readies takes next) :
    peer.Tells accepts readies takes next := ⟨h.heard, h.starts, h.channels⟩

omit [Blake3] in
theorem prepareReconnect_outgoing (peer : Peer) :
    peer.prepareReconnect.outgoing = (peer.outgoing.filter (·.isStreamed)).map OutgoingState.suspended := by
  unfold Peer.prepareReconnect
  cases peer.cancelledByReconnect <;> rfl

omit [Blake3] in
theorem prepareReconnect_tasks (peer : Peer) : peer.prepareReconnect.tasks = peer.tasks := by
  unfold Peer.prepareReconnect
  cases peer.cancelledByReconnect <;> rfl

omit [Blake3] in
theorem reset_outgoing (peer : Peer) : peer.reset.outgoing = none := by
  unfold Peer.reset spawnDeleteOutgoing
  dsimp only
  split <;> split <;> rfl

omit [Blake3] in
theorem prepareReconnect_tells {accepts readies : Prop} (peer : Peer) :
    peer.Tells accepts readies takes peer.prepareReconnect where
  heard now hnow := by
    rw [prepareReconnect_outgoing] at hnow
    obtain ⟨outgoing, hfilter, rfl⟩ := Option.map_eq_some_iff.mp hnow
    exact ⟨outgoing, (Option.filter_eq_some_iff.mp hfilter).1, rfl, fun hyes => (by cases hyes),
      fun hyes => (by cases hyes)⟩
  starts m id generation point htask := .inl ⟨point, by rw [← prepareReconnect_tasks, htask]⟩
  channels m id generation point c htask hc := .inl ⟨point, by rw [← prepareReconnect_tasks, htask], hc⟩

omit [Blake3] in
theorem reset_tells {accepts readies : Prop} (peer : Peer) : peer.Tells accepts readies takes peer.reset where
  heard now hnow := by
    rw [reset_outgoing] at hnow
    cases hnow
  starts m id generation point htask := by
    obtain ⟨gone, -, htasks, -, hpasses⟩ := reset_passes peer
    obtain ⟨before, hbefore, -⟩ := hpasses.sends (sendsBefore_noTask gone : SendsBefore takes gone NoTask) htask
    exact .inl ⟨before, by rw [← htasks, hbefore]⟩
  channels m id generation point c htask hc := by
    obtain ⟨gone, -, htasks, -, hpasses⟩ := reset_passes peer
    obtain ⟨before, hbefore, hsame⟩ := hpasses.sends (sendsBefore_noTask gone) htask
    exact (hsame c hc).imp (fun hsame => ⟨before, by rw [← htasks, hbefore], hsame⟩) fun htaken => htaken

/-- **What a step makes of the acceptance and the readiness of the receiver.** -/
theorem step_tells (hsolo : peer.Solo transferId) {input : Input} (hinput : input.installsNothing = true) :
    peer.Tells (input.accepts transferId) (peer.Readies transferId input) peer.Takes (peer.step input) := by
  cases input with
  | receive received download =>
    show peer.Tells _ _ _ (if peer.dataChannel.isSome then peer.handleReceived received download else peer)
    split
    · exact handleReceived_tells hsolo received download
    · exact .refl peer
  | wake n choice =>
    unfold Peer.step
    dsimp only
    cases htask : peer.tasks[n]? with
    | none => exact .refl peer
    | some task => exact wake_tells hsolo htask choice
  | offerFiles files ids | offerPersistentFiles files ids | restoreOutgoing peerId | resumeOutgoing => cases hinput
  | decide id accepted => exact Passes.tellsNothing (.decideTransfer peer id accepted)
  | acceptStream id writers => exact Passes.tellsNothing (.acceptStreamTransfer peer id writers)
  | resumeStream id => exact Passes.tellsNothing (.resumeStreamTransfer peer id)
  | cancel reason => exact Passes.tellsNothing (.cancelTransfer peer reason)
  | connect targetPeer => exact Passes.tellsNothing (.of_eq rfl rfl rfl rfl)
  | installChannel channel => exact withChannel_tells (some ⟨channel, false⟩) (.refl _)
  | channelOpened =>
    unfold Peer.step
    dsimp only
    split
    · rename_i channel _
      exact withChannel_tells (some ⟨channel.id, true⟩) (Passes.tellsNothing (.dataChannelOpened _))
    · exact .refl peer
  | channelClosing => exact withChannel_tells (peer.dataChannel.map fun channel => { channel with isOpen := false }) (.refl _)
  | channelClosed phase =>
    exact withChannel_tells (peer.dataChannel.map fun channel => { channel with isOpen := false })
      (Passes.tellsNothing ((Passes.suspendStreamForReconnect _).trans (.emit _ _)))
  | connectionLost phase => exact Passes.tellsNothing ((Passes.suspendStreamForReconnect _).trans (.emit _ _))
  | prepareReconnect => exact prepareReconnect_tells peer
  | reset => exact reset_tells peer

/-- What was heard is forgotten with the connection. -/
theorem forgotten_of_loss {input : Input} (hloses : input.losesConnection = true) {now : OutgoingState}
    (hnow : (peer.step input).outgoing = some now) (hstreamed : now.isStreamed = true) :
    now.accepted = false ∧ now.streamReady = none := by
  have hsuspended : ∀ now, (peer.outgoing.map fun outgoing =>
      if outgoing.isStreamed then outgoing.suspended else outgoing) = some now → now.isStreamed = true →
        now.accepted = false ∧ now.streamReady = none := by
    intro now hnow hstreamed
    obtain ⟨outgoing, -, rfl⟩ := Option.map_eq_some_iff.mp hnow
    cases hmode : outgoing.isStreamed with
    | true => exact ⟨rfl, rfl⟩
    | false =>
      rw [hmode] at hstreamed
      simp [hmode] at hstreamed
  cases input with
  | channelClosed phase => exact hsuspended now hnow hstreamed
  | connectionLost phase => exact hsuspended now hnow hstreamed
  | prepareReconnect =>
    have hprepared : peer.prepareReconnect.outgoing = some now := hnow
    rw [prepareReconnect_outgoing] at hprepared
    obtain ⟨outgoing, -, rfl⟩ := Option.map_eq_some_iff.mp hprepared
    exact ⟨rfl, rfl⟩
  | reset =>
    have hreset : peer.reset.outgoing = some now := hnow
    rw [reset_outgoing] at hreset
    cases hreset
  | receive | wake | offerFiles | offerPersistentFiles | decide | acceptStream | resumeStream | restoreOutgoing
    | resumeOutgoing | cancel | connect | installChannel | channelOpened | channelClosing => cases hloses

end Step

end Peer

end P2PTransmission.Rtc
