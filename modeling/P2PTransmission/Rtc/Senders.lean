import P2PTransmission.Foundation.Run
import P2PTransmission.Rtc.Aside

/-!
# One sender

Every start of a sending task marks the transfer as being sent, and every loss of the connection gives it another
generation. So no two tasks send the same generation of a transfer, and a task that is left over from an earlier
generation ends as soon as it looks.
-/

set_option autoImplicit false

namespace P2PTransmission.Rtc

/-- The channel that the task was started on. -/
def SendPoint.channel : SendPoint → Option ChannelId
  | .settling loop | .congested loop _ _ | .reading loop _ _ _ | .acknowledging loop _ _ _ => some loop.channel
  | .bufferedSettling loop | .bufferedCongested loop | .bufferedReading loop => some loop.channel
  | .spawned | .finished => none

/-- Segments are not empty, where the task has looked. -/
def SendPoint.sound : SendPoint → Prop
  | .congested loop _ _ | .reading loop _ _ _ | .acknowledging loop _ _ _ => loop.segmentBytes ≠ 0
  | _ => True

namespace Peer

/-! ## The sending task -/

/-- The task at work stays a task of the same generation, on the same channel. -/
def StaysSending (n : TaskId) (transferId : String) (generation : Nat) (channel : Option ChannelId) (m : TaskId)
    (task : Task) : Prop :=
  m = n ∧ ∃ point, task = .send transferId generation point ∧ (point.channel = none ∨ point.channel = channel) ∧
    point.sound

namespace Passes

section Follows

/-- The change touches only what is counted and expected. -/
theorem follows_of_eq {outgoing next : OutgoingState} (hid : next.transferId = outgoing.transferId)
    (hmode : next.mode = outgoing.mode) (hfiles : next.files.map (·.committed) = outgoing.files.map (·.committed))
    (hgeneration : next.generation = outgoing.generation) (haccepted : next.accepted = outgoing.accepted)
    (hready : next.streamReady = outgoing.streamReady) (hsending : next.sending = outgoing.sending) :
    outgoing.Follows next := ⟨hid, hmode, hfiles, .inl ⟨hgeneration, haccepted, hready, hsending⟩⟩

theorem follows_withExpectedHash (outgoing : OutgoingState) (fileIndex : Nat) (digest : String) :
    outgoing.Follows (withExpectedHash outgoing fileIndex digest) := by
  refine follows_of_eq rfl rfl ?_ rfl rfl rfl rfl
  show (outgoing.files.modify fileIndex _).map _ = _
  apply List.ext_getElem?
  intro k
  rw [List.getElem?_map, List.getElem?_modify, List.getElem?_map]
  cases outgoing.files[k]? with
  | none => rfl
  | some file => by_cases hk : fileIndex = k <;> simp [hk, OutgoingFileState.committed]

end Follows

section Sending

variable [Blake3] {n : TaskId} {transferId : String} {generation : Nat} {channel : Option ChannelId} {peer next : Peer}

omit [Blake3] in
theorem sendAt (peer : Peer) {point : SendPoint} (hpoint : point.channel = none ∨ point.channel = channel)
    (hsound : point.sound) :
    peer.Passes (StaysSending n transferId generation channel) (peer.sendAt n transferId generation point) :=
  setTask peer ⟨rfl, point, rfl, hpoint, hsound⟩

omit [Blake3] in
/-- A part of the outgoing transfer that neither its checkpoint nor the start of its task depends on. -/
theorem withOutgoing {may : TaskId → Task → Prop} (peer : Peer) {change : OutgoingState → OutgoingState}
    (h : ∀ outgoing : OutgoingState, outgoing.Follows (change outgoing)) : peer.Passes may (peer.withOutgoing change) where
  channel := rfl
  outgoing now hnow := by
    obtain ⟨outgoing, hout, rfl⟩ := Option.map_eq_some_iff.mp hnow
    exact ⟨outgoing, hout, h outgoing⟩
  nextTask := Nat.le_refl _
  tasks _ := .inl rfl

omit [Blake3] in
theorem sendEnded (peer : Peer) (answer : Answer) :
    peer.Passes (StaysSending n transferId generation channel) (peer.sendEnded n transferId generation answer) := by
  unfold Peer.sendEnded
  have hended : peer.Passes (StaysSending n transferId generation channel)
      (peer.sendAt n transferId generation .finished) := sendAt peer (.inl rfl) trivial
  refine hended.trans ?_
  dsimp only
  split
  · exact refl _
  · split
    · exact refl _
    · split
      · exact (suspendStreamForReconnect _).trans (emit _ _)
      · exact (clearTransfer _ _).trans (fail _ _ _)

omit [Blake3] in
theorem sendFailed (peer : Peer) (message : String) :
    peer.Passes (StaysSending n transferId generation channel) (peer.sendFailed n transferId generation message) :=
  sendEnded peer _

omit [Blake3] in
theorem sendStreamComplete (peer : Peer) (loop : SendLoop) :
    peer.Passes (StaysSending n transferId generation channel)
      (peer.sendStreamComplete n transferId generation loop) := by
  unfold Peer.sendStreamComplete
  split
  · exact sendEnded _ _
  · have hcounted : peer.Passes (StaysSending n transferId generation channel)
        (peer.withOutgoing fun outgoing =>
          { outgoing with expectedDigests := loop.digests, sentBytes := loop.totalBytes }) :=
      withOutgoing peer fun _ => follows_of_eq rfl rfl rfl rfl rfl rfl rfl
    refine hcounted.trans ?_
    dsimp only
    split
    · exact sendEnded _ _
    · rename_i hsend
      exact ((sendControlOn hsend).trans (emit _ _)).trans (sendEnded _ _)

section Loop

variable {loop : SendLoop}

omit [Blake3] in
theorem sendChunk (hloop : loop.segmentBytes ≠ 0) (peer : Peer) (file : SendFile) (segment : SendSegment) (congested : Bool) :
    peer.Passes (StaysSending n transferId generation (some loop.channel))
      (peer.sendChunk n transferId generation loop file segment congested) := by
  unfold Peer.sendChunk
  split
  · exact sendEnded _ _
  · split
    · exact sendAt _ (.inr rfl) hloop
    · exact sendAt _ (.inr rfl) hloop

theorem sendSegmentCommit (hloop : loop.segmentBytes ≠ 0) (peer : Peer) (file : SendFile) (segment : SendSegment) :
    peer.Passes (StaysSending n transferId generation (some loop.channel))
      (peer.sendSegmentCommit n transferId generation loop file segment) := by
  unfold Peer.sendSegmentCommit
  split
  · exact sendFailed _ _
  · rename_i outgoing hout
    dsimp only
    generalize hpending : ({ peer with outgoing := some { outgoing with pendingAck := some _ } } : Peer) = pending
    have hpasses : peer.Passes (StaysSending n transferId generation (some loop.channel)) pending := by
      subst hpending
      exact
        { channel := rfl
          outgoing := fun now hnow => by
            cases hnow
            exact ⟨outgoing, hout, follows_of_eq rfl rfl rfl rfl rfl rfl rfl⟩
          nextTask := Nat.le_refl _
          tasks := fun _ => .inl rfl }
    refine hpasses.trans ?_
    split
    · exact sendEnded _ _
    · rename_i hsend
      exact (sendControlOn hsend).trans (sendAt _ (.inr rfl) hloop)

theorem sendSegment (hloop : loop.segmentBytes ≠ 0) (peer : Peer) (file : SendFile) (segment : SendSegment) (congested : Bool) :
    peer.Passes (StaysSending n transferId generation (some loop.channel))
      (peer.sendSegment n transferId generation loop file segment congested) := by
  unfold Peer.sendSegment
  split
  · exact sendChunk hloop _ _ _ _
  · exact sendSegmentCommit hloop _ _ _

omit [Blake3] in
theorem sendOn {may : TaskId → Task → Prop} {c : ChannelId} {frame : Frame} (h : peer.sendOn c frame = .ok next) :
    peer.Passes may next := by
  obtain ⟨-, rfl⟩ := sendOn_ok h
  exact withSent _ _ _

theorem sendChunkRead (hloop : loop.segmentBytes ≠ 0) (peer : Peer) (file : SendFile) (segment : SendSegment) (chunkLength : Nat) (choice : Choice) :
    peer.Passes (StaysSending n transferId generation (some loop.channel))
      (peer.sendChunkRead n transferId generation loop file segment chunkLength choice) := by
  unfold Peer.sendChunkRead
  split
  · exact sendEnded _ _
  · dsimp only
    split
    · exact sendEnded _ _
    · rename_i hsend
      refine (sendOn hsend).trans ?_
      split
      · exact sendFailed _ _
      · refine Passes.trans (withOutgoing _ fun _ => ?_) (sendSegment hloop _ _ _ _)
        exact follows_of_eq rfl rfl rfl rfl rfl rfl rfl

theorem sendFiles (congested : Bool) (rest : Nat) (peer : Peer) (loop : SendLoop) :
    peer.Passes (StaysSending n transferId generation (some loop.channel))
      (Peer.sendFiles n transferId generation congested rest peer loop) := by
  induction rest generalizing peer loop with
  | zero => exact sendStreamComplete peer loop
  | succ rest ih =>
    unfold Peer.sendFiles
    split
    · exact sendFailed _ _
    · split
      · exact sendEnded _ _
      · split
        · exact sendFailed _ _
        · split
          · exact sendFailed _ _
          · rename_i segments hplan
            have hloop : loop.segmentBytes ≠ 0 := by
              intro hzero
              simp [SegmentPlan.new, hzero] at hplan
            dsimp only
            split
            · split
              · exact sendFailed _ _
              · exact sendSegment hloop _ _ _ _
            · exact (withOutgoing _ fun _ => follows_withExpectedHash _ _ _).trans (ih _ (SendLoop.next loop _))

theorem sendAfterSegment (hloop : loop.segmentBytes ≠ 0) (peer : Peer) (file : SendFile) (index : Nat) (congested : Bool) :
    peer.Passes (StaysSending n transferId generation (some loop.channel))
      (peer.sendAfterSegment n transferId generation loop file index congested) := by
  unfold Peer.sendAfterSegment
  dsimp only
  split
  · split
    · exact sendFailed _ _
    · exact sendSegment hloop _ _ _ _
  · split
    · exact sendFailed _ _
    · split
      · exact sendFailed _ _
      · exact (withOutgoing _ fun _ => follows_withExpectedHash _ _ _).trans (sendFiles _ _ _ (SendLoop.next loop file))

end Loop

section Buffered

theorem sendBufferedComplete (peer : Peer) (loop : BufferedLoop) :
    peer.Passes (StaysSending n transferId generation channel)
      (peer.sendBufferedComplete n transferId generation loop) := by
  unfold Peer.sendBufferedComplete
  split
  · exact sendFailed _ _
  · split
    · exact sendFailed _ _
    · refine Passes.trans (withOutgoing _ fun _ => follows_withExpectedHash _ 0 loop.hasher.finalize) ?_
      dsimp only
      split
      · exact sendEnded _ _
      · rename_i hsend
        exact ((sendControlOn hsend).trans (emit _ _)).trans (sendEnded _ _)

theorem sendBufferedChunk (peer : Peer) (loop : BufferedLoop) (congested : Bool) :
    peer.Passes (StaysSending n transferId generation (some loop.channel))
      (peer.sendBufferedChunk n transferId generation loop congested) := by
  unfold Peer.sendBufferedChunk
  split
  · split
    · exact sendEnded _ _
    · split
      · exact sendAt _ (.inr rfl) trivial
      · exact sendAt _ (.inr rfl) trivial
  · exact sendBufferedComplete _ _

theorem sendBufferedRead (peer : Peer) (loop : BufferedLoop) (choice : Choice) :
    peer.Passes (StaysSending n transferId generation (some loop.channel))
      (peer.sendBufferedRead n transferId generation loop choice) := by
  unfold Peer.sendBufferedRead
  split
  · exact sendEnded _ _
  · exact sendFailed _ _
  · dsimp only
    split
    · exact sendEnded _ _
    · rename_i hsend
      refine (sendOn hsend).trans ?_
      split
      · exact sendFailed _ _
      · refine Passes.trans (withOutgoing _ fun _ => ?_)
          (sendBufferedChunk _ { loop with hasher := loop.hasher.update _, index := loop.index + 1 } _)
        exact follows_of_eq rfl rfl rfl rfl rfl rfl rfl

end Buffered

omit [Blake3] in
theorem startStreamed (peer : Peer) (outgoing : OutgoingState) (segmentBytes : Nat) :
    peer.Passes (StaysSending n transferId generation (peer.dataChannel.map (·.id)))
      (peer.startStreamed n transferId generation outgoing segmentBytes) := by
  unfold Peer.startStreamed
  split
  · exact sendEnded _ _
  · split
    · exact sendFailed _ _
    · split
      · exact sendFailed _ _
      · split
        · exact sendEnded _ _
        · rename_i hchannel
          have hopen := currentDataChannel_ok hchannel
          split
          · exact sendEnded _ _
          · rename_i hsend
            refine ((sendControlOn hsend).trans (emit _ _)).trans (sendAt _ (.inr ?_) trivial)
            rw [hopen]
            rfl

omit [Blake3] in
theorem startBuffered (peer : Peer) (outgoing : OutgoingState) :
    peer.Passes (StaysSending n transferId generation (peer.dataChannel.map (·.id)))
      (peer.startBuffered n transferId generation outgoing) := by
  unfold Peer.startBuffered
  split
  · exact sendFailed _ _
  · exact sendEnded _ _
  · rename_i hchannel
    have hopen := currentDataChannel_ok hchannel
    split
    · exact sendEnded _ _
    · rename_i hsend
      refine ((sendControlOn hsend).trans (emit _ _)).trans (sendAt _ (.inr ?_) trivial)
      rw [hopen]
      rfl

/-- The channel of the task after its next step: at its beginning it takes the current one. -/
def channelFrom (peer : Peer) : SendPoint → Option ChannelId
  | .spawned => peer.dataChannel.map (·.id)
  | point => point.channel

theorem wakeSend (peer : Peer) {point : SendPoint} (hsound : point.sound) (choice : Choice) :
    peer.Passes (StaysSending n transferId generation (channelFrom peer point))
      (peer.wakeSend n transferId generation point choice) := by
  cases point with
  | spawned =>
    show peer.Passes (StaysSending n transferId generation (peer.dataChannel.map (·.id)))
      (peer.startSending n transferId generation)
    unfold Peer.startSending
    split
    · exact sendFailed _ _
    · split
      · exact startBuffered _ _
      · exact startStreamed _ _ _
  | settling loop => exact sendFiles _ _ _ loop
  | congested loop file segment => exact sendChunk hsound _ _ _ _
  | reading loop file segment chunkLength => exact sendChunkRead hsound _ _ _ _ _
  | acknowledging loop file segment result =>
    show peer.Passes (StaysSending n transferId generation (some loop.channel)) _
    unfold Peer.wakeSend
    dsimp only
    split
    · exact refl _
    · exact sendFailed _ _
    · exact sendAfterSegment hsound _ _ _ _
  | bufferedSettling loop => exact sendBufferedChunk _ _ _
  | bufferedCongested loop =>
    show peer.Passes (StaysSending n transferId generation (some loop.channel)) _
    unfold Peer.wakeSend
    dsimp only
    split
    · exact sendEnded _ _
    · exact sendAt _ (.inr rfl) trivial
  | bufferedReading loop => exact sendBufferedRead _ _ _
  | finished => exact refl _

end Sending

end Passes

/-! ## One task for each generation -/

/-- The task is at work for the generation of the transfer. -/
def Runs (peer : Peer) (n : TaskId) (transferId : String) (generation : Nat) : Prop :=
  ∃ point, peer.tasks[n]? = some (.send transferId generation point) ∧ point ≠ .finished

/-- Only one transfer goes out, and the tasks that send it belong to its generations. -/
structure Solo (transferId : String) (peer : Peer) : Prop where
  fresh : ∀ (m : TaskId) (task : Task), peer.tasks[m]? = some task → m < peer.nextTask
  sole : ∀ outgoing, peer.outgoing = some outgoing → outgoing.transferId = transferId
  tasks : ∀ (m : TaskId) (task : Task), peer.tasks[m]? = some task →
    task.isAside = true ∨ ∃ generation point, task = .send transferId generation point ∧ point.sound
  generation : ∀ m generation outgoing, peer.Runs m transferId generation → peer.outgoing = some outgoing →
    generation ≤ outgoing.generation ∧ (outgoing.isStreamed = false → generation = outgoing.generation)
  sending : ∀ m outgoing, peer.Runs m transferId outgoing.generation → peer.outgoing = some outgoing →
    outgoing.sending = true
  unique : ∀ m m' generation, peer.Runs m transferId generation → peer.Runs m' transferId generation → m = m'

/-- The generation of the outgoing transfer can be raised. -/
def Unsaturated (peer : Peer) : Prop := ∀ outgoing, peer.outgoing = some outgoing → outgoing.generation < U64_MAX

/-- What the tasks at work may become: they stay aside, or send what they sent. -/
def KeepsTasks (transferId : String) (peer : Peer) (may : TaskId → Task → Prop) : Prop :=
  ∀ m task, may m task → m < peer.nextTask ∧
    (task.isAside = true ∨ ∃ generation point, task = .send transferId generation point ∧ point.sound ∧
      (point ≠ .finished → peer.Runs m transferId generation))

section Invariant

variable {may : TaskId → Task → Prop} {transferId : String} {peer next : Peer}

theorem Passes.runs (hkeeps : KeepsTasks transferId peer may) (h : peer.Passes may next) {m : TaskId} {generation : Nat}
    (hruns : next.Runs m transferId generation) : peer.Runs m transferId generation := by
  obtain ⟨point, htask, hrunning⟩ := hruns
  rcases h.tasks m with hsame | ⟨task, hnow, hmay | ⟨-, -, haside⟩⟩
  · exact ⟨point, by rw [← hsame, htask], hrunning⟩
  · obtain ⟨-, haside | ⟨generation', point', hsend, -, hruns⟩⟩ := hkeeps m task hmay
    · rw [htask] at hnow
      cases hnow
      cases haside
    · rw [htask] at hnow
      cases hnow
      cases hsend
      exact hruns hrunning
  · rw [htask] at hnow
    cases hnow
    cases haside

/-- What becomes of the outgoing transfer: the generation is the same and a transfer that is being sent still is, or the
transfer is streamed and the generation is a later one. -/
structure Succeeds (outgoing now : OutgoingState) : Prop where
  transferId : now.transferId = outgoing.transferId
  mode : now.mode = outgoing.mode
  generation : (now.generation = outgoing.generation ∧ (outgoing.sending = true → now.sending = true)) ∨
    (outgoing.isStreamed = true ∧ outgoing.generation < now.generation)

theorem Succeeds.of_follows {outgoing now : OutgoingState} (h : outgoing.Follows now)
    (hunsaturated : outgoing.generation < U64_MAX) : Succeeds outgoing now where
  transferId := h.transferId
  mode := h.mode
  generation := by
    rcases h.goesOn with hgoes | ⟨hstreamed, hwaits⟩
    · exact .inl ⟨hgoes.generation, fun hsending => by rw [hgoes.sending, hsending]⟩
    · exact .inr ⟨hstreamed, hwaits.later hunsaturated⟩

theorem Solo.of_parts (hsolo : peer.Solo transferId)
    (houtgoing : ∀ now, next.outgoing = some now → ∃ outgoing, peer.outgoing = some outgoing ∧ Succeeds outgoing now)
    (hfresh : ∀ (m : TaskId) (task : Task), next.tasks[m]? = some task → m < next.nextTask)
    (htasks : ∀ (m : TaskId) (task : Task), next.tasks[m]? = some task →
      task.isAside = true ∨ ∃ generation point, task = .send transferId generation point ∧ point.sound)
    (hruns : ∀ m generation, next.Runs m transferId generation → peer.Runs m transferId generation) :
    next.Solo transferId where
  fresh := hfresh
  tasks := htasks
  sole now hnow := by
    obtain ⟨outgoing, hout, hsucceeds⟩ := houtgoing now hnow
    rw [hsucceeds.transferId]
    exact hsolo.sole outgoing hout
  generation m generation now hrun hnow := by
    obtain ⟨outgoing, hout, hsucceeds⟩ := houtgoing now hnow
    obtain ⟨hle, hsame⟩ := hsolo.generation m generation outgoing (hruns m generation hrun) hout
    have hmode := OutgoingState.isStreamed_congr hsucceeds.mode
    rcases hsucceeds.generation with ⟨hgeneration, -⟩ | ⟨hstreamed, hlt⟩
    · rw [hgeneration, hmode]
      exact ⟨hle, hsame⟩
    · refine ⟨hle.trans hlt.le, fun hbuffered => ?_⟩
      rw [hmode, hstreamed] at hbuffered
      cases hbuffered
  sending m now hrun hnow := by
    obtain ⟨outgoing, hout, hsucceeds⟩ := houtgoing now hnow
    have hbefore := hruns m now.generation hrun
    rcases hsucceeds.generation with ⟨hgeneration, hsending⟩ | ⟨-, hlt⟩
    · rw [hgeneration] at hbefore
      exact hsending (hsolo.sending m outgoing hbefore hout)
    · -- a task of the later generation would be ahead of the transfer
      exact absurd hlt (Nat.not_lt.mpr (hsolo.generation m now.generation outgoing hbefore hout).1)
  unique m m' generation hrun hrun' := hsolo.unique m m' generation (hruns m _ hrun) (hruns m' _ hrun')

/-- **A piece of the program that passes keeps the invariant.** -/
theorem Solo.passes (hsolo : peer.Solo transferId) (hunsaturated : peer.Unsaturated)
    (hkeeps : KeepsTasks transferId peer may) (h : peer.Passes may next) : next.Solo transferId := by
  refine hsolo.of_parts ?_ ?_ ?_ fun m generation => h.runs hkeeps
  · intro now hnow
    obtain ⟨outgoing, hout, hfollows⟩ := h.outgoing now hnow
    exact ⟨outgoing, hout, .of_follows hfollows (hunsaturated outgoing hout)⟩
  · intro m task htask
    rcases h.tasks m with hsame | ⟨task', -, hmay | ⟨-, hlt, -⟩⟩
    · exact (hsolo.fresh m task (by rw [← hsame, htask])).trans_le h.nextTask
    · exact (hkeeps m task' hmay).1.trans_le h.nextTask
    · exact hlt
  · intro m task htask
    rcases h.tasks m with hsame | ⟨task', hnow, hmay | ⟨-, -, haside⟩⟩
    · exact hsolo.tasks m task (by rw [← hsame, htask])
    · rw [htask] at hnow
      cases hnow
      obtain ⟨-, haside | ⟨generation, point, hsend, hsound, -⟩⟩ := hkeeps m task hmay
      · exact .inl haside
      · exact .inr ⟨generation, point, hsend, hsound⟩
    · rw [htask] at hnow
      cases hnow
      exact .inl haside

/-- Another state of the outgoing transfer. -/
theorem Solo.change (hsolo : peer.Solo transferId) (htasks : next.tasks = peer.tasks)
    (hnext : next.nextTask = peer.nextTask)
    (houtgoing : ∀ now, next.outgoing = some now → ∃ outgoing, peer.outgoing = some outgoing ∧ Succeeds outgoing now) :
    next.Solo transferId := by
  refine hsolo.of_parts houtgoing ?_ ?_ ?_
  · rw [htasks, hnext]
    exact hsolo.fresh
  · rw [htasks]
    exact hsolo.tasks
  · intro m generation hrun
    unfold Runs at hrun ⊢
    rw [← htasks]
    exact hrun

/-- The start of a task, for a transfer that is not being sent. -/
theorem Solo.spawnOutgoing {outgoing now : OutgoingState} (hsolo : peer.Solo transferId)
    (hout : peer.outgoing = some outgoing) (hidle : outgoing.sending = false) (hid : now.transferId = outgoing.transferId)
    (hmode : now.mode = outgoing.mode) (hgeneration : now.generation = outgoing.generation) (hsending : now.sending = true) :
    (({ peer with outgoing := some now } : Peer).spawnOutgoing transferId now.generation).Solo transferId := by
  generalize hnext : (({ peer with outgoing := some now } : Peer).spawnOutgoing transferId now.generation) = next
  have htasks : ∀ m : TaskId, next.tasks[m]? =
      if peer.nextTask = m then some (.send transferId now.generation .spawned) else peer.tasks[m]? := by
    intro m
    rw [← hnext]
    exact BTreeMap.getElem?_insert _ _ _
  have houtgoing : next.outgoing = some now := by rw [← hnext]; rfl
  have hnextTask : next.nextTask = peer.nextTask + 1 := by rw [← hnext]; rfl
  -- the new task is the only one of the current generation
  have hruns : ∀ m generation, next.Runs m transferId generation →
      (m = peer.nextTask ∧ generation = now.generation) ∨
        (peer.Runs m transferId generation ∧ generation ≠ now.generation) := by
    rintro m generation ⟨point, htask, hrunning⟩
    rw [htasks m] at htask
    by_cases hm : peer.nextTask = m
    · rw [if_pos hm] at htask
      cases htask
      exact .inl ⟨hm.symm, rfl⟩
    · rw [if_neg hm] at htask
      have hrun : peer.Runs m transferId generation := ⟨point, htask, hrunning⟩
      refine .inr ⟨hrun, fun hcurrent => ?_⟩
      rw [hcurrent, hgeneration] at hrun
      have hbusy := hsolo.sending m outgoing hrun hout
      rw [hidle] at hbusy
      cases hbusy
  constructor
  · intro m task htask
    rw [htasks m] at htask
    rw [hnextTask]
    by_cases hm : peer.nextTask = m
    · rw [← hm]
      exact Nat.lt_succ_self _
    · rw [if_neg hm] at htask
      exact Nat.lt_succ_of_lt (hsolo.fresh m task htask)
  · intro last hlast
    rw [houtgoing] at hlast
    cases hlast
    rw [hid]
    exact hsolo.sole outgoing hout
  · intro m task htask
    rw [htasks m] at htask
    by_cases hm : peer.nextTask = m
    · rw [if_pos hm] at htask
      cases htask
      exact .inr ⟨_, _, rfl, trivial⟩
    · rw [if_neg hm] at htask
      exact hsolo.tasks m task htask
  · intro m generation last hrun hlast
    rw [houtgoing] at hlast
    cases hlast
    rcases hruns m generation hrun with ⟨-, rfl⟩ | ⟨hbefore, hother⟩
    · exact ⟨Nat.le_refl _, fun _ => rfl⟩
    · rw [hgeneration] at hother ⊢
      have hold := hsolo.generation m generation outgoing hbefore hout
      refine ⟨hold.1, fun hbuffered => ?_⟩
      rw [OutgoingState.isStreamed_congr hmode] at hbuffered
      exact hold.2 hbuffered
  · intro m last _ hlast
    rw [houtgoing] at hlast
    cases hlast
    exact hsending
  · intro m m' generation hrun hrun'
    rcases hruns m generation hrun with ⟨hm, hcurrent⟩ | ⟨hbefore, hother⟩
    · rcases hruns m' generation hrun' with ⟨hm', -⟩ | ⟨-, hother'⟩
      · rw [hm, hm']
      · exact absurd hcurrent hother'
    · rcases hruns m' generation hrun' with ⟨-, hcurrent'⟩ | ⟨hbefore', -⟩
      · exact absurd hcurrent' hother
      · exact hsolo.unique m m' generation hbefore hbefore'

theorem keepsTasks_noTask (transferId : String) (peer : Peer) : KeepsTasks transferId peer NoTask :=
  fun _ _ h => h.elim

theorem keepsTasks_aside {n : TaskId} (hn : n < peer.nextTask) : KeepsTasks transferId peer (StaysAside n) := by
  rintro m task ⟨rfl, haside⟩
  exact ⟨hn, .inl haside⟩

theorem keepsTasks_sending {n : TaskId} {generation : Nat} {channel : Option ChannelId} (hn : n < peer.nextTask)
    (hrun : peer.Runs n transferId generation) :
    KeepsTasks transferId peer (StaysSending n transferId generation channel) := by
  rintro m task ⟨rfl, point, hsend, -, hsound⟩
  exact ⟨hn, .inr ⟨generation, point, hsend, hsound, fun _ => hrun⟩⟩

end Invariant

/-! ## The steps of the sender -/

section Steps

variable {transferId : String} {peer : Peer}

theorem Solo.aside (hsolo : peer.Solo transferId) (hunsaturated : peer.Unsaturated) {next : Peer}
    (h : peer.Passes NoTask next) : next.Solo transferId :=
  hsolo.passes hunsaturated (keepsTasks_noTask transferId peer) h

/-- The outgoing transfer is gone. -/
theorem Passes.withoutOutgoing {may : TaskId → Task → Prop} (peer : Peer) :
    peer.Passes may { peer with outgoing := none } := of_none rfl (.inr rfl) rfl rfl

variable [Blake3]

omit [Blake3] in
theorem Solo.handleDecision (hsolo : peer.Solo transferId) (hunsaturated : peer.Unsaturated) (id : String)
    (accepted : Bool) : (peer.handleDecision id accepted).Solo transferId := by
  unfold Peer.handleDecision
  cases hout : peer.outgoing with
  | none => exact hsolo.aside hunsaturated (.fail _ _ _)
  | some outgoing =>
    dsimp only
    by_cases hid : outgoing.transferId = id
    · have hsame : id = transferId := by rw [← hid, hsolo.sole outgoing hout]
      subst hsame
      rw [if_neg (by simp [hid])]
      cases accepted with
      | true =>
        rw [if_pos rfl]
        by_cases hstart : (outgoing.mode = .buffered ∨ outgoing.streamReady.isSome) ∧ outgoing.sending = false
        · rw [if_pos hstart]
          exact hsolo.spawnOutgoing hout hstart.2 rfl rfl rfl rfl
        · rw [if_neg hstart]
          refine hsolo.change rfl rfl fun now hnow => ⟨outgoing, hout, ?_⟩
          cases hnow
          exact ⟨rfl, rfl, .inl ⟨rfl, fun hbusy => hbusy⟩⟩
      | false =>
        rw [if_neg (by simp)]
        exact hsolo.aside hunsaturated
          (((Passes.withoutOutgoing peer).trans (.emit _ _)).trans (.spawnDeleteOutgoing _ _))
    · rw [if_pos (by simpa using hid)]
      exact hsolo.aside hunsaturated (.fail _ _ _)

omit [Blake3] in
theorem Solo.startIfAccepted {outgoing now : OutgoingState} (hsolo : peer.Solo transferId)
    (hout : peer.outgoing = some outgoing) (hid : now.transferId = outgoing.transferId)
    (hmode : now.mode = outgoing.mode) (hgeneration : now.generation = outgoing.generation)
    (hsending : now.sending = outgoing.sending) : (peer.startIfAccepted now).Solo transferId := by
  unfold Peer.startIfAccepted
  by_cases hstart : now.accepted = true ∧ now.sending = false
  · rw [if_pos hstart, hid, hsolo.sole outgoing hout]
    exact hsolo.spawnOutgoing hout (by rw [← hsending, hstart.2]) (hsolo.sole outgoing hout).symm hmode hgeneration rfl
  · rw [if_neg hstart]
    refine hsolo.change rfl rfl fun last hlast => ⟨outgoing, hout, ?_⟩
    cases hlast
    exact ⟨hid, hmode, .inl ⟨hgeneration, fun hbusy => by rw [hsending, hbusy]⟩⟩

end Steps

/-- The readiness of the receiver concerns neither the generation nor the task. -/
theorem ready_eq (outgoing : OutgoingState) (promote : Bool) (request : StreamReadyRequest) :
    (outgoing.ready promote request).transferId = outgoing.transferId ∧
      (outgoing.ready promote request).mode = outgoing.mode ∧
      (outgoing.ready promote request).generation = outgoing.generation ∧
      (outgoing.ready promote request).sending = outgoing.sending ∧
      (outgoing.ready promote request).accepted = outgoing.accepted := by
  unfold OutgoingState.ready
  cases promote <;> cases outgoing.pendingAck <;> exact ⟨rfl, rfl, rfl, rfl, rfl⟩

section Readiness

variable {transferId : String} {peer : Peer} [Blake3]

omit [Blake3] in
theorem Solo.receiverReady (hsolo : peer.Solo transferId) (hunsaturated : peer.Unsaturated)
    (request : StreamReadyRequest) : (peer.receiverReady request).Solo transferId := by
  unfold Peer.receiverReady
  cases hout : peer.outgoing with
  | none => exact hsolo.aside hunsaturated (.fail _ _ _)
  | some outgoing =>
    dsimp only
    cases hmode : outgoing.mode with
    | buffered => exact hsolo.aside hunsaturated (.fail _ _ _)
    | streamed segmentBytes =>
      dsimp only
      split
      · exact hsolo.aside hunsaturated (.fail _ _ _)
      · split
        · exact hsolo.aside hunsaturated (.sendTransferError _ _ _ _)
        · rename_i promote _
          obtain ⟨hid, hsame, hgeneration, hsending, -⟩ := ready_eq outgoing promote request
          exact hsolo.startIfAccepted hout hid hsame hgeneration hsending

omit [Blake3] in
theorem Solo.handleStreamReady (hsolo : peer.Solo transferId) (hunsaturated : peer.Unsaturated)
    (request : StreamReadyRequest) : (peer.handleStreamReady request).Solo transferId := by
  unfold Peer.handleStreamReady
  split
  · exact hsolo
  · have hmarked : peer.Passes NoTask (peer.withOutgoing fun outgoing => { outgoing with reconcilingResume := true }) :=
      .withOutgoing peer fun _ => Passes.follows_of_eq rfl rfl rfl rfl rfl rfl rfl
    exact hsolo.aside hunsaturated (hmarked.trans (.spawn _ rfl))
  · dsimp only
    generalize hlive : peer.withOutgoing _ = live
    have hfollows : peer.Passes NoTask live := by
      rw [← hlive]
      refine .withOutgoing peer fun outgoing => ?_
      split
      · rw [if_neg (by simp)]
        exact .refl outgoing
      · split
        · exact Passes.follows_of_eq rfl rfl rfl rfl rfl rfl rfl
        · exact .refl outgoing
    have hstill : live.Unsaturated := by
      intro now hnow
      rw [← hlive] at hnow
      obtain ⟨outgoing, hout, hchanged⟩ := Option.map_eq_some_iff.mp hnow
      have hgeneration : now.generation = outgoing.generation := by
        rw [← hchanged]
        split
        · rw [if_neg (by simp)]
        · split <;> rfl
      rw [hgeneration]
      exact hunsaturated outgoing hout
    exact (hsolo.aside hunsaturated hfollows).receiverReady hstill request

omit [Blake3] in
theorem Solo.handleStreamPaused (hsolo : peer.Solo transferId) (hunsaturated : peer.Unsaturated) (id : String)
    (reason : StreamPauseReason) : (peer.handleStreamPaused id reason).Solo transferId := by
  unfold Peer.handleStreamPaused
  cases hout : peer.outgoing with
  | none => exact hsolo.aside hunsaturated (.fail _ _ _)
  | some outgoing =>
    dsimp only
    by_cases hmatch : outgoing.transferId ≠ id ∨ outgoing.mode = .buffered
    · rw [if_pos hmatch]
      exact hsolo.aside hunsaturated (.fail _ _ _)
    · rw [if_neg hmatch]
      refine hsolo.change rfl rfl fun now hnow => ⟨outgoing, hout, ?_⟩
      cases hnow
      have hstreamed : outgoing.isStreamed = true := by
        unfold OutgoingState.isStreamed
        cases hmode : outgoing.mode with
        | buffered => exact absurd (.inr hmode) hmatch
        | streamed segmentBytes => rfl
      exact ⟨rfl, rfl, .inr ⟨hstreamed, outgoing.suspended_waits.later (hunsaturated outgoing hout)⟩⟩

end Readiness

/-! ## Acknowledgements -/

section Acknowledgements

variable {transferId : String} {peer : Peer}

/-- A task that waits for an acknowledgement gets one. -/
def Resolves (peer : Peer) (m : TaskId) (task : Task) : Prop :=
  ∃ transferId generation loop file segment result,
    peer.tasks[m]? = some (.send transferId generation (.acknowledging loop file segment none)) ∧
      task = .send transferId generation (.acknowledging loop file segment (some result))

theorem keepsTasks_resolves (hsolo : peer.Solo transferId) : KeepsTasks transferId peer (Resolves peer) := by
  rintro m task ⟨id, generation, loop, file, segment, result, hwaits, rfl⟩
  refine ⟨hsolo.fresh m _ hwaits, .inr ?_⟩
  rcases hsolo.tasks m _ hwaits with haside | ⟨generation', point, hsend, hsound⟩
  · cases haside
  · cases hsend
    exact ⟨generation, _, rfl, hsound, fun _ => ⟨_, hwaits, by simp⟩⟩

theorem Passes.resolveAck (peer : Peer) (sender : Option TaskId) (result : Except String Unit) :
    peer.Passes (Resolves peer) (peer.resolveAck sender result) := by
  unfold Peer.resolveAck
  cases sender with
  | none => exact refl peer
  | some n =>
    dsimp only
    split
    · rename_i id generation loop file segment hwaits
      exact setTask peer ⟨id, generation, loop, file, segment, result, hwaits, rfl⟩
    · exact refl peer

theorem commitPending_eq (outgoing : OutgoingState) (pending : PendingSegmentAck) :
    (outgoing.commitPending pending).transferId = outgoing.transferId ∧
      (outgoing.commitPending pending).mode = outgoing.mode ∧
      (outgoing.commitPending pending).generation = outgoing.generation ∧
      (outgoing.commitPending pending).sending = outgoing.sending := ⟨rfl, rfl, rfl, rfl⟩

theorem Solo.resolveAck (hsolo : peer.Solo transferId) (hunsaturated : peer.Unsaturated) (sender : Option TaskId)
    (result : Except String Unit) : (peer.resolveAck sender result).Solo transferId :=
  hsolo.passes hunsaturated (keepsTasks_resolves hsolo) (.resolveAck peer sender result)

/-- The transfer in another state of the same generation. -/
theorem Unsaturated.change {outgoing now : OutgoingState} (hunsaturated : peer.Unsaturated)
    (hout : peer.outgoing = some outgoing) (hgeneration : now.generation = outgoing.generation) :
    ({ peer with outgoing := some now } : Peer).Unsaturated := by
  intro last hlast
  cases hlast
  rw [hgeneration]
  exact hunsaturated outgoing hout

variable [Blake3]

omit [Blake3] in
theorem Solo.handleSegmentAck (hsolo : peer.Solo transferId) (hunsaturated : peer.Unsaturated) (ack : SegmentAck) :
    (peer.handleSegmentAck ack).Solo transferId := by
  unfold Peer.handleSegmentAck
  cases hout : peer.outgoing with
  | none => exact hsolo.aside hunsaturated (.fail _ _ _)
  | some outgoing =>
    dsimp only
    split
    · exact hsolo.aside hunsaturated (.fail _ _ _)
    · split
      · exact hsolo.aside hunsaturated (.fail _ _ _)
      · rename_i pending _
        have hchanged : ∀ now : OutgoingState, now.transferId = outgoing.transferId → now.mode = outgoing.mode →
            now.generation = outgoing.generation → now.sending = outgoing.sending →
            ({ peer with outgoing := some now } : Peer).Solo transferId := by
          intro now hid hmode hgeneration hsending
          refine hsolo.change rfl rfl fun last hlast => ⟨outgoing, hout, ?_⟩
          cases hlast
          exact ⟨hid, hmode, .inl ⟨hgeneration, fun hbusy => by rw [hsending, hbusy]⟩⟩
        split
        · have hcommitted := hchanged (outgoing.commitPending pending) rfl rfl rfl rfl
          have hstill : ({ peer with outgoing := some (outgoing.commitPending pending) } : Peer).Unsaturated :=
            hunsaturated.change hout rfl
          split
          · exact hcommitted.aside hstill (.spawn _ rfl)
          · exact hcommitted.resolveAck hstill _ _
        · exact (hchanged { outgoing with pendingAck := none } rfl rfl rfl rfl).resolveAck (hunsaturated.change hout rfl)
            _ _

omit [Blake3] in
theorem Solo.wakeSaveAck (hsolo : peer.Solo transferId) (hunsaturated : peer.Unsaturated) {n : TaskId}
    (hn : n < peer.nextTask) (recovery : OutgoingRecoveryRecord) (sender : Option TaskId) (result : Except String Unit)
    (answer : Answer) : (peer.wakeSaveAck n recovery sender result answer).Solo transferId := by
  unfold Peer.wakeSaveAck
  have hended : (peer.setTask n .finished).Solo transferId :=
    hsolo.passes hunsaturated (keepsTasks_aside hn) (.setTask peer ⟨rfl, rfl⟩)
  dsimp only
  split
  · generalize hsaved : ({ peer.setTask n .finished with outgoingRecovery := _ } : Peer) = saved
    have hsame : (peer.setTask n .finished).Passes NoTask saved := by
      rw [← hsaved]
      exact .of_eq rfl rfl rfl rfl
    have hstill : saved.Unsaturated := by
      rw [← hsaved]
      exact hunsaturated
    exact (hended.aside hunsaturated hsame).resolveAck hstill _ _
  · exact hended.resolveAck hunsaturated _ _

end Acknowledgements

/-! ## Reconciliation -/

section Reconciliation

variable {transferId : String} {peer : Peer} [Blake3] {n : TaskId}

omit [Blake3] in
theorem Passes.reconcileFailed (peer : Peer) (request : StreamReadyRequest) (error : BrowserPlatformError) :
    peer.Passes (StaysAside n) (peer.reconcileFailed n request error) :=
  (((Passes.setAside peer rfl).trans (.sendTransferError _ _ _ _)).trans (.clearTransfer _ _)).trans (.fail _ _ _)

omit [Blake3] in
theorem Passes.reconcileNext (peer : Peer) (request : StreamReadyRequest) (recovery : OutgoingRecoveryRecord)
    (files : List RecoveredSourceFile) (rest : List OutgoingRecoveryFile) :
    peer.Passes (StaysAside n) (peer.reconcileNext n request recovery files rest) := by
  unfold Peer.reconcileNext
  split <;> exact .setAside _ rfl

/-- What comes after the record with the cursors of the receiver was saved. -/
theorem wakeReconcile_saved (peer : Peer) (request : StreamReadyRequest) (recovery : OutgoingRecoveryRecord)
    (files : List RecoveredSourceFile) :
    peer.wakeReconcile n request (.saving recovery files) (.ok ()) =
      match ({ peer with outgoingRecovery := peer.outgoingRecovery.insert recovery.peerId recovery } : Peer).outgoing with
      | none =>
        ({ peer with outgoingRecovery := peer.outgoingRecovery.insert recovery.peerId recovery } : Peer).reconcileFailed n
          request (.browser "outgoing recovery disappeared")
      | some outgoing =>
        if !reconciles outgoing request.transferId || outgoing.files.length ≠ files.length then
          ({ peer with outgoingRecovery := peer.outgoingRecovery.insert recovery.peerId recovery } : Peer).reconcileFailed
            n request (.browser "outgoing recovery changed while validating files")
        else
          ((({ ({ peer with outgoingRecovery := peer.outgoingRecovery.insert recovery.peerId recovery } : Peer) with
            outgoing := some (reconciledOutgoing outgoing recovery files) } : Peer).setTask n
            (.reconcile request .finished)).handleStreamReady request) := rfl

omit [Blake3] in
/-- The files are those of the receiver from now on, of the same generation. -/
theorem Solo.reconciled (hsolo : peer.Solo transferId)
    (hunsaturated : ∀ outgoing, peer.outgoing = some outgoing → outgoing.generation < U64_MAX) (hn : n < peer.nextTask)
    {outgoing : OutgoingState} (hout : peer.outgoing = some outgoing) (request : StreamReadyRequest)
    (recovery : OutgoingRecoveryRecord) (files : List RecoveredSourceFile) :
    ((({ peer with outgoing := some (reconciledOutgoing outgoing recovery files) } : Peer).setTask n
      (.reconcile request .finished)).handleStreamReady request).Solo transferId := by
  have hchanged : ({ peer with outgoing := some (reconciledOutgoing outgoing recovery files) } : Peer).Solo transferId := by
    refine hsolo.change rfl rfl fun now hnow => ⟨outgoing, hout, ?_⟩
    cases hnow
    exact ⟨rfl, rfl, .inl ⟨rfl, fun hbusy => hbusy⟩⟩
  have hstill : ({ peer with outgoing := some (reconciledOutgoing outgoing recovery files) } : Peer).Unsaturated :=
    Unsaturated.change hunsaturated hout rfl
  have hended := hchanged.passes hstill (keepsTasks_aside hn) (.setAside _ rfl : Passes _ _ (Peer.setTask _ n
    (.reconcile request .finished)))
  exact hended.handleStreamReady hstill request

theorem Solo.wakeReconcile (hsolo : peer.Solo transferId) (hunsaturated : peer.Unsaturated) (hn : n < peer.nextTask)
    (request : StreamReadyRequest) (point : ReconcilePoint) (answer : Answer) :
    (peer.wakeReconcile n request point answer).Solo transferId := by
  have hpass : ∀ {next : Peer}, peer.Passes (StaysAside n) next → next.Solo transferId := fun h =>
    hsolo.passes hunsaturated (keepsTasks_aside hn) h
  cases point with
  | spawned =>
    unfold Peer.wakeReconcile
    dsimp only
    split
    · exact hpass (.reconcileFailed _ _ _)
    · split
      · exact hpass (.reconcileFailed _ _ _)
      · split
        · exact hpass (.reconcileFailed _ _ _)
        · split
          · exact hpass (.reconcileFailed _ _ _)
          · exact hpass (.reconcileNext _ _ _ _ _)
  | recovering recovery files rest =>
    cases rest with
    | nil => exact hpass (.setAside _ rfl)
    | cons file rest =>
      unfold Peer.wakeReconcile
      dsimp only
      split
      · exact hpass (.reconcileFailed _ _ _)
      · split
        · exact hpass (.reconcileFailed _ _ _)
        · exact hpass (.reconcileNext _ _ _ _ _)
  | saving recovery files =>
    cases answer with
    | error error => exact hpass (.reconcileFailed _ _ _)
    | ok =>
      generalize hsaved : ({ peer with outgoingRecovery := peer.outgoingRecovery.insert recovery.peerId recovery } : Peer) =
        saved
      have hsame : peer.Passes (StaysAside n) saved := by
        rw [← hsaved]
        exact .of_eq rfl rfl rfl rfl
      have hunsaved : ∀ outgoing, saved.outgoing = some outgoing → outgoing.generation < U64_MAX := by
        rw [← hsaved]
        exact hunsaturated
      rw [wakeReconcile_saved, hsaved]
      cases hstate : saved.outgoing with
      | none => exact hpass (hsame.trans (.reconcileFailed _ _ _))
      | some outgoing =>
        dsimp only
        split
        · exact hpass (hsame.trans (.reconcileFailed _ _ _))
        · exact Solo.reconciled (hpass hsame) hunsaved (hn.trans_le hsame.nextTask) hstate request recovery files
  | finished => exact hsolo

end Reconciliation

end Peer

/-- The application neither offers a transfer nor restores one. -/
def Input.installsNothing : Input → Bool
  | .offerFiles _ _ | .offerPersistentFiles _ _ | .restoreOutgoing _ | .resumeOutgoing => false
  | _ => true

namespace Peer

section Inputs

variable {transferId : String} {peer : Peer} [Blake3] {n : TaskId}

theorem Solo.wake (hsolo : peer.Solo transferId) (hunsaturated : peer.Unsaturated) {task : Task}
    (htask : peer.tasks[n]? = some task) (choice : Choice) : (peer.wake n task choice).Solo transferId := by
  have hn := hsolo.fresh n task htask
  have hpass : ∀ {next : Peer}, peer.Passes (StaysAside n) next → next.Solo transferId := fun h =>
    hsolo.passes hunsaturated (keepsTasks_aside hn) h
  have hkind := hsolo.tasks n task htask
  cases task with
  | send id generation point =>
    rcases hkind with haside | ⟨generation', point', hsend, hsound⟩
    · cases haside
    · cases hsend
      by_cases hrunning : point = .finished
      · rw [hrunning]
        exact hsolo
      · exact hsolo.passes hunsaturated (keepsTasks_sending hn ⟨point, htask, hrunning⟩) (.wakeSend peer hsound choice)
  | saveAck recovery sender result => exact hsolo.wakeSaveAck hunsaturated hn recovery sender result choice.answer
  | reconcile request point => exact hsolo.wakeReconcile hunsaturated hn request point choice.answer
  | write segment point => exact hpass (.wakeWrite peer segment point choice.answer)
  | lookup point => exact hpass (.wakeLookup peer point choice)
  | accept point => exact hpass (.wakeAccept peer point choice.answer)
  | resume id point => exact hpass (.wakeResume peer id point choice)
  | close closing point => exact hpass (.wakeClose peer closing point choice.answer)
  | offer point | restoreOutgoing peerId point | resumeOutgoing point =>
    rcases hkind with haside | ⟨_, _, hsend, -⟩
    · cases haside
    · cases hsend
  | cancel id reason firstError point => exact hpass (.wakeCancel peer id reason firstError point choice.answer)
  | deleteStream id =>
    have hended : peer.Passes (StaysAside n) (peer.setTask n .finished) := .setAside _ rfl
    unfold Peer.wake
    dsimp only
    split
    · exact hpass hended
    · exact hpass (hended.trans (.of_eq rfl rfl rfl rfl))
  | deleteOutgoing peerId =>
    have hended : peer.Passes (StaysAside n) (peer.setTask n .finished) := .setAside _ rfl
    exact hpass (hended.trans (.eraseOutgoingRecovery _ _ _))
  | finished => exact hsolo

theorem Solo.handleControl (hsolo : peer.Solo transferId) (hunsaturated : peer.Unsaturated) (message : ControlMessage)
    (download : Download) : (peer.handleControl message download).Solo transferId := by
  cases message with
  | manifest id mode files => exact hsolo.aside hunsaturated (.handleManifest peer id mode files)
  | decision id accepted => exact hsolo.handleDecision hunsaturated id accepted
  | start id => exact hsolo.aside hunsaturated (.handleStart peer id)
  | streamReady id maxChunkBytes ackWindowBytes resume => exact hsolo.handleStreamReady hunsaturated _
  | segmentCommit id fileId segmentIndex offset bytes blake3 =>
    exact hsolo.aside hunsaturated (.handleSegmentCommit peer _)
  | segmentAck id fileId segmentIndex committedBytes blake3 => exact hsolo.handleSegmentAck hunsaturated _
  | streamPaused id reason => exact hsolo.handleStreamPaused hunsaturated id reason
  | cancel id reason => exact hsolo.aside hunsaturated ((Passes.clearTransfer peer id).trans (.emit _ _))
  | complete id bytes blake3 =>
    show (peer.handleComplete id bytes blake3 download).Solo transferId
    unfold Peer.handleComplete
    split
    · exact hsolo.aside hunsaturated (.finishReceive _ _ _ _ _)
    · exact hsolo.aside hunsaturated (.bufferedVerified _ _ _ _)
  | streamComplete id totalBytes files =>
    show (peer.handleStreamComplete id totalBytes files).Solo transferId
    unfold Peer.handleStreamComplete
    split
    · exact hsolo.aside hunsaturated (.finishStreamReceive _ _ _ _)
    · exact hsolo.aside hunsaturated (.streamVerified _ _ _ _)
  | error id code message => exact hsolo.aside hunsaturated ((Passes.clearTransfer peer id).trans (.fail _ _ _))

theorem Solo.handleReceived (hsolo : peer.Solo transferId) (hunsaturated : peer.Unsaturated) (received : Received)
    (download : Download) : (peer.handleReceived received download).Solo transferId := by
  unfold Peer.handleReceived
  split
  · exact hsolo.aside hunsaturated (.handleBinary _ _)
  · split
    · exact hsolo.aside hunsaturated (.fail _ _ _)
    · exact hsolo.handleControl hunsaturated _ _
  · exact hsolo.aside hunsaturated (.fail _ _ _)
  · exact hsolo.aside hunsaturated (.fail _ _ _)

omit [Blake3] in
theorem Solo.prepareReconnect (hsolo : peer.Solo transferId) (hunsaturated : peer.Unsaturated) :
    peer.prepareReconnect.Solo transferId := by
  have houtgoing : ∀ now, peer.prepareReconnect.outgoing = some now →
      ∃ outgoing, peer.outgoing = some outgoing ∧ Succeeds outgoing now := by
    intro now hnow
    have hmap : ((peer.outgoing.filter (·.isStreamed)).map OutgoingState.suspended) = some now := by
      rw [← hnow]
      unfold Peer.prepareReconnect
      cases peer.cancelledByReconnect <;> rfl
    obtain ⟨outgoing, hfilter, rfl⟩ := Option.map_eq_some_iff.mp hmap
    obtain ⟨hout, hstreamed⟩ := Option.filter_eq_some_iff.mp hfilter
    exact ⟨outgoing, hout, .of_follows (OutgoingState.suspended_follows hstreamed) (hunsaturated outgoing hout)⟩
  have hrest : peer.prepareReconnect.tasks = peer.tasks ∧ peer.prepareReconnect.nextTask = peer.nextTask := by
    unfold Peer.prepareReconnect
    cases peer.cancelledByReconnect <;> exact ⟨rfl, rfl⟩
  exact hsolo.change hrest.1 hrest.2 houtgoing

omit [Blake3] in
/-- Nothing is left of the transfers, and what follows concerns other tasks. -/
theorem reset_passes (peer : Peer) : ∃ gone : Peer, gone.outgoing = none ∧ gone.tasks = peer.tasks ∧
    gone.nextTask = peer.nextTask ∧ gone.Passes NoTask peer.reset := by
  unfold Peer.reset
  dsimp only
  generalize hgone : clearPeerResources _ = gone
  refine ⟨gone, by rw [← hgone]; rfl, by rw [← hgone]; rfl, by rw [← hgone]; rfl, ?_⟩
  refine Passes.trans ?_ (.spawnDeleteOutgoing _ _)
  split
  · exact (Passes.spawn _ rfl).trans (.emit _ _)
  · exact .refl _

omit [Blake3] in
theorem Solo.reset (hsolo : peer.Solo transferId) : peer.reset.Solo transferId := by
  obtain ⟨gone, hnone, htasks, hnext, hpasses⟩ := reset_passes peer
  have hcleared : gone.Solo transferId := by
    refine hsolo.change htasks hnext fun now hnow => ?_
    rw [hnone] at hnow
    cases hnow
  have hstill : gone.Unsaturated := by
    intro outgoing hout
    rw [hnone] at hout
    cases hout
  exact hcleared.aside hstill hpasses

/-- **Whatever happens to the peer, two tasks never send the same generation of the transfer.** -/
theorem Solo.step (hsolo : peer.Solo transferId) (hunsaturated : peer.Unsaturated) {input : Input}
    (hinput : input.installsNothing = true) : (peer.step input).Solo transferId := by
  have hchannel : ∀ channel : Option DataChannel,
      ({ peer with dataChannel := channel } : Peer).Solo transferId := fun channel =>
    hsolo.change rfl rfl fun now hnow => ⟨now, hnow, rfl, rfl, .inl ⟨rfl, fun hbusy => hbusy⟩⟩
  cases input with
  | receive received download =>
    show (if peer.dataChannel.isSome then peer.handleReceived received download else peer).Solo transferId
    split
    · exact hsolo.handleReceived hunsaturated received download
    · exact hsolo
  | wake n choice =>
    unfold Peer.step
    dsimp only
    cases htask : peer.tasks[n]? with
    | none => exact hsolo
    | some task => exact hsolo.wake hunsaturated htask choice
  | offerFiles files ids | offerPersistentFiles files ids | restoreOutgoing peerId | resumeOutgoing => cases hinput
  | decide id accepted => exact hsolo.aside hunsaturated (.decideTransfer peer id accepted)
  | acceptStream id writers => exact hsolo.aside hunsaturated (.acceptStreamTransfer peer id writers)
  | resumeStream id => exact hsolo.aside hunsaturated (.resumeStreamTransfer peer id)
  | cancel reason => exact hsolo.aside hunsaturated (.cancelTransfer peer reason)
  | connect targetPeer => exact hsolo.aside hunsaturated (.of_eq rfl rfl rfl rfl)
  | installChannel channel => exact hchannel _
  | channelOpened =>
    unfold Peer.step
    dsimp only
    split
    · rename_i channel _
      exact (hchannel (some ⟨channel.id, true⟩)).aside hunsaturated (.dataChannelOpened _)
    · exact hsolo
  | channelClosing => exact hchannel _
  | channelClosed phase =>
    have hclosed := hchannel (peer.dataChannel.map fun channel => { channel with isOpen := false })
    exact hclosed.aside hunsaturated ((Passes.suspendStreamForReconnect _).trans (.emit _ _))
  | connectionLost phase => exact hsolo.aside hunsaturated ((Passes.suspendStreamForReconnect _).trans (.emit _ _))
  | prepareReconnect => exact hsolo.prepareReconnect hunsaturated
  | reset => exact hsolo.reset

end Inputs

end Peer

end P2PTransmission.Rtc
