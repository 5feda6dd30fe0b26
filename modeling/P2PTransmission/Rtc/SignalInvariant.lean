import P2PTransmission.Rtc.SignalRecord
import P2PTransmission.Rtc.SignalCalls

/-!
# The invariant of signalling

The invariant has two parts. The ledger relates the tasks to the record: a task was started for a connection that was opened, and
for each connection there is one task at most that may still describe it, or have it described, unless this has happened. The
other part is about the connection that the peer has now, whose flags say how far it has come.
-/

set_option autoImplicit false

namespace P2PTransmission.Rtc

open Wire (Signal)
open Happening (announces describesRemote gatheredIn candidateSent Grounds)

/-! ## The invariant -/

namespace SignalTask

/-- The browser has done what the task asked for. -/
def granted (task : SignalTask) : Prop := task.promise = .settled (.ok ())

/-- The task is there to have the connection described by the other side. -/
def describing (epoch : Nat) (task : SignalTask) : Bool :=
  task.negotiation.epoch == epoch && match task.stage with
    | .settingRemoteOffer _ _ | .settingRemoteAnswer _ => true
    | _ => false

/-- It has not been described yet. -/
def undescribed (epoch : Nat) (task : SignalTask) : Bool :=
  task.describing epoch && match task.promise with
    | .settled (.ok ()) => false
    | _ => true

/-- The task ends with the description of the connection, if all goes well. -/
def announcing (epoch : Nat) (task : SignalTask) : Bool :=
  task.negotiation.epoch == epoch && match task.stage with
    | .creatingOffer _ | .settingOffer _ | .settingRemoteOffer _ _ | .creatingAnswer _ | .settingAnswer _
    | .addingPending _ _ (some _) => true
    | _ => false

end SignalTask

/-- What has happened for a task that waits, in the negotiation with `target`. -/
def StageFounded (record : List Happening) (negotiation : Negotiation) (target : String) (granted : Prop) :
    SignalStage → Prop
  | .creatingOffer toPeer => toPeer = target
  | .settingOffer toPeer =>
    toPeer = target ∧ (granted → .localDescribed negotiation.epoch negotiation.connection ∈ record)
  | .settingRemoteOffer fromPeer sdp =>
    fromPeer = target ∧ .received target negotiation.negotiationId (.offer sdp) ∈ record ∧
      (granted → .remoteDescribed negotiation.epoch negotiation.connection (.offer sdp) ∈ record)
  | .creatingAnswer fromPeer =>
    fromPeer = target ∧ ∃ sdp, .remoteDescribed negotiation.epoch negotiation.connection (.offer sdp) ∈ record
  | .settingAnswer fromPeer =>
    fromPeer = target ∧ (∃ sdp, .remoteDescribed negotiation.epoch negotiation.connection (.offer sdp) ∈ record) ∧
      (granted → .localDescribed negotiation.epoch negotiation.connection ∈ record)
  | .settingRemoteAnswer sdp =>
    .received target negotiation.negotiationId (.answer sdp) ∈ record ∧
      (granted → .remoteDescribed negotiation.epoch negotiation.connection (.answer sdp) ∈ record)
  | .addingPending candidate rest answering =>
    (∃ description, .remoteDescribed negotiation.epoch negotiation.connection description ∈ record) ∧
      (∀ waiting ∈ candidate :: rest, .received target negotiation.negotiationId waiting ∈ record) ∧
      ∀ fromPeer ∈ answering, fromPeer = target ∧
        ∃ sdp, .remoteDescribed negotiation.epoch negotiation.connection (.offer sdp) ∈ record
  | .addingCandidate candidate =>
    (∃ description, .remoteDescribed negotiation.epoch negotiation.connection description ∈ record) ∧
      .received target negotiation.negotiationId candidate ∈ record

/-- A task was started for a connection that was opened, and has come as far as it has for a reason. -/
def TaskFounded (record : List Happening) (task : SignalTask) : Prop :=
  ∃ target, .opened task.negotiation.epoch task.negotiation.connection target task.negotiation.negotiationId ∈ record ∧
    StageFounded record task.negotiation target task.granted task.stage

/-- The tasks, the candidates that wait and the record. -/
structure Ledger (epoch connections : Nat) (queue : List (String × String × Signal)) (tasks : List SignalTask)
    (record : List Happening) : Prop where
  within : ∀ h ∈ record, ∀ epoch' ∈ h.epoch?, epoch' ≤ epoch
  built : ∀ epoch' connection target negotiationId, .opened epoch' connection target negotiationId ∈ record →
    connection < connections
  oneTarget : ∀ epoch' connection connection' target target' negotiationId negotiationId',
    .opened epoch' connection target negotiationId ∈ record → .opened epoch' connection' target' negotiationId' ∈ record →
    connection = connection' ∧ target = target' ∧ negotiationId = negotiationId'
  oneEpoch : ∀ epoch' epoch'' connection target target' negotiationId negotiationId',
    .opened epoch' connection target negotiationId ∈ record → .opened epoch'' connection target' negotiationId' ∈ record →
    epoch' = epoch''
  started : ∀ task ∈ tasks, TaskFounded record task
  queued : ∀ entry ∈ queue, .received entry.1 entry.2.1 entry.2.2 ∈ record
  oneRemote : ∀ epoch', record.countP (describesRemote epoch') + tasks.countP (·.undescribed epoch') ≤ 1
  oneDescriber : ∀ epoch', tasks.countP (·.describing epoch') ≤ 1
  oneDescription : ∀ epoch', record.countP (announces epoch') + tasks.countP (·.announcing epoch') ≤ 1
  founded : Founded Grounds record
  inOrder : ∀ epoch', InOrder (List.take NEGOTIATION_SIGNAL_LIMIT) epoch' record

/-- How far the connection has come, if a task of it waits for this. -/
def StageLive (peer : RtcPeer) : SignalStage → Prop
  | .creatingOffer _ | .settingOffer _ => True
  | .settingRemoteOffer _ _ => peer.remoteDescriptionSet = false
  | .settingRemoteAnswer _ =>
    peer.localDescriptionAnnounced = true ∧ peer.remoteDescriptionPending = true ∧ peer.remoteDescriptionSet = false
  | .creatingAnswer _ | .settingAnswer _ | .addingPending _ _ _ | .addingCandidate _ => peer.remoteDescriptionSet = true

/-- The connection that the peer has now. -/
structure Live (peer : RtcPeer) (connection : ConnectionId) (tasks : List SignalTask) (record : List Happening) : Prop where
  opened : ∃ target negotiationId, peer.targetPeer = some target ∧ peer.negotiationId = some negotiationId ∧
    .opened peer.connectionEpoch connection target negotiationId ∈ record
  announced : peer.localDescriptionAnnounced = true → record.countP (announces peer.connectionEpoch) = 1
  unannounced : peer.localDescriptionAnnounced = false → record.countP (announces peer.connectionEpoch) = 0
  described : peer.remoteDescriptionSet = true →
    ∃ description, .remoteDescribed peer.connectionEpoch connection description ∈ record
  undescribed : peer.remoteDescriptionSet = false → tasks.countP (·.describing peer.connectionEpoch) = 0 →
    record.countP (describesRemote peer.connectionEpoch) = 0
  localDescribed : peer.localDescriptionAnnounced = true → .localDescribed peer.connectionEpoch connection ∈ record
  stages : ∀ task ∈ tasks, task.negotiation.epoch = peer.connectionEpoch → StageLive peer task.stage
  waiting : peer.localDescriptionAnnounced = false →
    peer.pendingLocalCandidates = (record.filterMap (gatheredIn peer.connectionEpoch)).take NEGOTIATION_SIGNAL_LIMIT
  emptied : peer.localDescriptionAnnounced = true → peer.pendingLocalCandidates = []
  localCandidates : ∀ candidate ∈ peer.pendingLocalCandidates, describes candidate = false

structure Signalling.Sound (s : Signalling) : Prop where
  ledger : Ledger s.peer.connectionEpoch s.connections s.peer.pendingRemoteCandidates s.tasks s.record
  live : ∀ connection, s.peer.peerConnection = some connection → Live s.peer connection s.tasks s.record

/-! ## The ledger goes on -/

theorem StageFounded.mono {record new : List Happening} {negotiation : Negotiation} {target : String} {granted : Prop}
    {stage : SignalStage} (h : StageFounded record negotiation target granted stage) :
    StageFounded (record ++ new) negotiation target granted stage := by
  cases stage with
  | creatingOffer toPeer => exact h
  | settingOffer toPeer => exact ⟨h.1, fun hgranted => List.mem_append_left _ (h.2 hgranted)⟩
  | settingRemoteOffer fromPeer sdp =>
    exact ⟨h.1, List.mem_append_left _ h.2.1, fun hgranted => List.mem_append_left _ (h.2.2 hgranted)⟩
  | creatingAnswer fromPeer => exact ⟨h.1, h.2.imp fun _ hin => List.mem_append_left _ hin⟩
  | settingAnswer fromPeer =>
    exact ⟨h.1, h.2.1.imp fun _ hin => List.mem_append_left _ hin, fun hgranted => List.mem_append_left _ (h.2.2 hgranted)⟩
  | settingRemoteAnswer sdp => exact ⟨List.mem_append_left _ h.1, fun hgranted => List.mem_append_left _ (h.2 hgranted)⟩
  | addingPending candidate rest answering =>
    refine ⟨h.1.imp fun _ hin => List.mem_append_left _ hin, fun waiting hin => List.mem_append_left _ (h.2.1 waiting hin),
      fun fromPeer hin => ?_⟩
    obtain ⟨htarget, hoffered⟩ := h.2.2 fromPeer hin
    exact ⟨htarget, hoffered.imp fun _ hin => List.mem_append_left _ hin⟩
  | addingCandidate candidate => exact ⟨h.1.imp fun _ hin => List.mem_append_left _ hin, List.mem_append_left _ h.2⟩

/-- What has happened does not depend on what the browser has not done. -/
theorem StageFounded.imp {record : List Happening} {negotiation : Negotiation} {target : String} {granted granted' : Prop}
    {stage : SignalStage} (h : StageFounded record negotiation target granted stage) (himp : granted' → granted) :
    StageFounded record negotiation target granted' stage := by
  cases stage with
  | creatingOffer toPeer => exact h
  | settingOffer toPeer => exact ⟨h.1, fun hgranted => h.2 (himp hgranted)⟩
  | settingRemoteOffer fromPeer sdp => exact ⟨h.1, h.2.1, fun hgranted => h.2.2 (himp hgranted)⟩
  | creatingAnswer fromPeer => exact h
  | settingAnswer fromPeer => exact ⟨h.1, h.2.1, fun hgranted => h.2.2 (himp hgranted)⟩
  | settingRemoteAnswer sdp => exact ⟨h.1, fun hgranted => h.2 (himp hgranted)⟩
  | addingPending candidate rest answering => exact h
  | addingCandidate candidate => exact h

theorem TaskFounded.mono {record new : List Happening} {task : SignalTask} (h : TaskFounded record task) :
    TaskFounded (record ++ new) task := by
  obtain ⟨target, hopened, hstage⟩ := h
  exact ⟨target, List.mem_append_left _ hopened, hstage.mono⟩

/-- Nothing has happened to a connection that is still to come. -/
theorem Ledger.fresh_record {epoch epoch' connections : Nat} {queue : List (String × String × Signal)}
    {tasks : List SignalTask} {record : List Happening} (h : Ledger epoch connections queue tasks record)
    (hlater : epoch < epoch') : ∀ happening ∈ record, happening.epoch? ≠ some epoch' := by
  intro happening hin hepoch
  have hle := h.within happening hin epoch' hepoch
  omega

theorem Ledger.fresh_tasks {epoch epoch' connections : Nat} {queue : List (String × String × Signal)}
    {tasks : List SignalTask} {record : List Happening} (h : Ledger epoch connections queue tasks record)
    (hlater : epoch < epoch') : ∀ task ∈ tasks, task.negotiation.epoch ≠ epoch' := by
  intro task hin hepoch
  obtain ⟨target, hopened, -⟩ := h.started task hin
  have hle := h.within _ hopened _ rfl
  omega

/-- Nothing that was not there is opened, and nothing happens to a connection that is still to come. -/
def Closed (epoch : Nat) (h : Happening) : Prop :=
  (∀ epoch' connection target negotiationId, h ≠ .opened epoch' connection target negotiationId) ∧
    ∀ epoch' ∈ h.epoch?, epoch' ≤ epoch

section Advance

variable {epoch epoch' connections connections' : Nat} {queue queue' : List (String × String × Signal)}
  {before old new after : List SignalTask} {record grown : List Happening}

/-- Some tasks take the place of others, and something happens. -/
theorem Ledger.advance (h : Ledger epoch connections queue (before ++ old ++ after) record) (hepoch : epoch ≤ epoch')
    (hconnections : connections ≤ connections')
    (hqueue : ∀ entry ∈ queue', entry ∈ queue ∨ .received entry.1 entry.2.1 entry.2.2 ∈ record ++ grown)
    (hnew : ∀ task ∈ new, TaskFounded (record ++ grown) task) (hclosed : ∀ h ∈ grown, Closed epoch' h)
    (hremote : ∀ e, grown.countP (describesRemote e) + new.countP (·.undescribed e) ≤ old.countP (·.undescribed e))
    (hdescriber : ∀ e, new.countP (·.describing e) ≤ old.countP (·.describing e))
    (hdescription : ∀ e, grown.countP (announces e) + new.countP (·.announcing e) ≤ old.countP (·.announcing e))
    (hfounded : Founded Grounds (record ++ grown))
    (horder : ∀ e, InOrder (List.take NEGOTIATION_SIGNAL_LIMIT) e (record ++ grown)) :
    Ledger epoch' connections' queue' (before ++ new ++ after) (record ++ grown) := by
  have hopened : ∀ {e connection target negotiationId},
      .opened e connection target negotiationId ∈ record ++ grown → .opened e connection target negotiationId ∈ record := by
    intro e connection target negotiationId hin
    rcases List.mem_append.mp hin with hin | hin
    · exact hin
    · exact absurd rfl ((hclosed _ hin).1 e connection target negotiationId)
  refine ⟨fun happening hin e he => ?_, ?_, ?_, ?_, fun task hin => ?_, fun entry hin => ?_, fun e => ?_, fun e => ?_,
    fun e => ?_, hfounded, horder⟩
  · rcases List.mem_append.mp hin with hin | hin
    · exact (h.within happening hin e he).trans hepoch
    · exact (hclosed happening hin).2 e he
  · intro e connection target negotiationId hin
    exact Nat.lt_of_lt_of_le (h.built e connection target negotiationId (hopened hin)) hconnections
  · intro e connection connection' target target' negotiationId negotiationId' hin hin'
    exact h.oneTarget e _ _ _ _ _ _ (hopened hin) (hopened hin')
  · intro e e' connection target target' negotiationId negotiationId' hin hin'
    exact h.oneEpoch e e' _ _ _ _ _ (hopened hin) (hopened hin')
  · rw [List.mem_append, List.mem_append] at hin
    rcases hin with (hin | hin) | hin
    · exact (h.started task (by simp [hin])).mono
    · exact hnew task hin
    · exact (h.started task (by simp [hin])).mono
  · rcases hqueue entry hin with hin | hin
    · exact List.mem_append_left _ (h.queued entry hin)
    · exact hin
  · have hone := h.oneRemote e
    have hless := hremote e
    simp only [List.countP_append] at hone ⊢
    omega
  · have hone := h.oneDescriber e
    have hless := hdescriber e
    simp only [List.countP_append] at hone ⊢
    omega
  · have hone := h.oneDescription e
    have hless := hdescription e
    simp only [List.countP_append] at hone ⊢
    omega

/-- The own side of the negotiation is as it was. -/
structure SameLocal (before after : RtcPeer) : Prop where
  connectionEpoch : after.connectionEpoch = before.connectionEpoch
  targetPeer : after.targetPeer = before.targetPeer
  negotiationId : after.negotiationId = before.negotiationId
  localDescriptionAnnounced : after.localDescriptionAnnounced = before.localDescriptionAnnounced
  pendingLocalCandidates : after.pendingLocalCandidates = before.pendingLocalCandidates

theorem countP_announces_quiet {e : Nat} (hquiet : ∀ h ∈ grown, h.quiet e) :
    (record ++ grown).countP (announces e) = record.countP (announces e) := by
  have hnone : grown.countP (announces e) = 0 :=
    List.countP_eq_zero.mpr fun h hin => by simp [quiet_announces (hquiet h hin)]
  rw [List.countP_append, hnone, Nat.add_zero]

theorem gatheredIn_quiet {e : Nat} (hquiet : ∀ h ∈ grown, h.quiet e) :
    (record ++ grown).filterMap (gatheredIn e) = record.filterMap (gatheredIn e) := by
  rw [List.filterMap_append, List.filterMap_eq_nil_iff.mpr fun h hin => quiet_gatheredIn (hquiet h hin), List.append_nil]

/-- The other side has come further, or a task has. -/
theorem Live.advance {peer peer' : RtcPeer} {connection : ConnectionId} (h : Live peer connection (before ++ old ++ after) record)
    (hlocal : SameLocal peer peer') (hquiet : ∀ h ∈ grown, h.quiet peer.connectionEpoch)
    (hdescribed : peer'.remoteDescriptionSet = true →
      ∃ description, .remoteDescribed peer.connectionEpoch connection description ∈ record ++ grown)
    (hundescribed : peer'.remoteDescriptionSet = false →
      (before ++ new ++ after).countP (·.describing peer.connectionEpoch) = 0 →
      (record ++ grown).countP (describesRemote peer.connectionEpoch) = 0)
    (hstages : ∀ task ∈ before ++ new ++ after, task.negotiation.epoch = peer.connectionEpoch → StageLive peer' task.stage) :
    Live peer' connection (before ++ new ++ after) (record ++ grown) := by
  obtain ⟨target, negotiationId, htarget, hname, hopened⟩ := h.opened
  refine ⟨⟨target, negotiationId, ?_, ?_, ?_⟩, ?_, ?_, ?_, ?_, ?_, ?_, ?_, ?_, ?_⟩
  · rw [hlocal.targetPeer, htarget]
  · rw [hlocal.negotiationId, hname]
  · rw [hlocal.connectionEpoch]
    exact List.mem_append_left _ hopened
  · rw [hlocal.localDescriptionAnnounced, hlocal.connectionEpoch, countP_announces_quiet hquiet]
    exact h.announced
  · rw [hlocal.localDescriptionAnnounced, hlocal.connectionEpoch, countP_announces_quiet hquiet]
    exact h.unannounced
  · rw [hlocal.connectionEpoch]
    exact hdescribed
  · rw [hlocal.connectionEpoch]
    exact hundescribed
  · rw [hlocal.localDescriptionAnnounced, hlocal.connectionEpoch]
    exact fun hannounced => List.mem_append_left _ (h.localDescribed hannounced)
  · rw [hlocal.connectionEpoch]
    exact hstages
  · rw [hlocal.localDescriptionAnnounced, hlocal.connectionEpoch, hlocal.pendingLocalCandidates, gatheredIn_quiet hquiet]
    exact h.waiting
  · rw [hlocal.localDescriptionAnnounced, hlocal.pendingLocalCandidates]
    exact h.emptied
  · rw [hlocal.pendingLocalCandidates]
    exact h.localCandidates

/-- The connection is as it was, and so are the flags that are read. -/
theorem Live.same {peer peer' : RtcPeer} {connection : ConnectionId} {tasks : List SignalTask}
    (h : Live peer connection tasks record) (hlocal : SameLocal peer peer')
    (hset : peer'.remoteDescriptionSet = peer.remoteDescriptionSet)
    (hpending : peer'.remoteDescriptionPending = peer.remoteDescriptionPending)
    (hquiet : ∀ h ∈ grown, h.quiet peer.connectionEpoch)
    (hremote : grown.countP (describesRemote peer.connectionEpoch) = 0) : Live peer' connection tasks (record ++ grown) := by
  have hall := h
  rw [← List.append_nil tasks, ← List.append_nil tasks] at hall ⊢
  refine hall.advance hlocal hquiet ?_ ?_ ?_
  · rw [hset]
    exact fun hdescribed => (h.described hdescribed).imp fun _ hin => List.mem_append_left _ hin
  · rw [hset]
    intro hunset hnone
    rw [List.append_nil, List.append_nil] at hnone
    rw [List.countP_append, hremote, Nat.add_zero]
    exact h.undescribed hunset hnone
  · intro task hin hepoch
    rw [List.append_nil, List.append_nil] at hin
    have hstage := h.stages task hin hepoch
    unfold StageLive at hstage ⊢
    rw [hset, hpending, hlocal.localDescriptionAnnounced]
    exact hstage

/-- A candidate waits for the description, or is dropped. -/
theorem Live.gather {peer : RtcPeer} {connection : ConnectionId} {tasks : List SignalTask} {candidate : Signal}
    {queue : List Signal} {notices : List PeerNotice} (h : Live peer connection tasks record)
    (hannounced : peer.localDescriptionAnnounced = false)
    (hqueue : queue = (record.filterMap (gatheredIn peer.connectionEpoch) ++ [candidate]).take NEGOTIATION_SIGNAL_LIMIT)
    (hcandidates : ∀ candidate ∈ queue, describes candidate = false) :
    Live { peer with pendingLocalCandidates := queue, notices } connection tasks
      (record ++ [.gathered peer.connectionEpoch candidate]) := by
  obtain ⟨target, negotiationId, htarget, hname, hopened⟩ := h.opened
  have hcount : (record ++ [Happening.gathered peer.connectionEpoch candidate]).countP (announces peer.connectionEpoch) =
      record.countP (announces peer.connectionEpoch) := by simp [announces]
  refine ⟨⟨target, negotiationId, htarget, hname, List.mem_append_left _ hopened⟩, fun hyes => ?_, fun hno => ?_, fun hset => ?_,
    fun hunset hnone => ?_, fun hyes => List.mem_append_left _ (h.localDescribed hyes), h.stages, fun _ => ?_, fun hyes => ?_,
    hcandidates⟩
  · exact hcount.trans (h.announced hyes)
  · exact hcount.trans (h.unannounced hno)
  · exact (h.described hset).imp fun _ hin => List.mem_append_left _ hin
  · have hsame : (record ++ [Happening.gathered peer.connectionEpoch candidate]).countP (describesRemote peer.connectionEpoch) =
        record.countP (describesRemote peer.connectionEpoch) := by simp [describesRemote]
    exact hsame.trans (h.undescribed hunset hnone)
  · have hmore : gatheredIn peer.connectionEpoch (.gathered peer.connectionEpoch candidate) = some candidate := if_pos rfl
    rw [List.filterMap_append, List.filterMap_cons_some hmore]
    exact hqueue
  · cases hannounced.symm.trans hyes

/-- A candidate is sent at once. -/
theorem Live.send {peer : RtcPeer} {connection : ConnectionId} {tasks : List SignalTask} {candidate : Signal}
    {target negotiationId : String} (h : Live peer connection tasks record)
    (hannounced : peer.localDescriptionAnnounced = true) (hcandidate : describes candidate = false) :
    Live (peer.notify (.outboundSignal target negotiationId candidate)) connection tasks
      (record ++ [.gathered peer.connectionEpoch candidate, .sent peer.connectionEpoch target negotiationId candidate]) := by
  obtain ⟨target', negotiationId', htarget, hname, hopened⟩ := h.opened
  have hcount : (record ++ [Happening.gathered peer.connectionEpoch candidate,
      Happening.sent peer.connectionEpoch target negotiationId candidate]).countP (announces peer.connectionEpoch) =
      record.countP (announces peer.connectionEpoch) := by simp [announces, hcandidate]
  refine ⟨⟨target', negotiationId', htarget, hname, List.mem_append_left _ hopened⟩, fun hyes => ?_, fun hno => ?_, fun hset => ?_,
    fun hunset hnone => ?_, fun hyes => List.mem_append_left _ (h.localDescribed hyes), h.stages, fun hno => ?_, h.emptied,
    h.localCandidates⟩
  · exact hcount.trans (h.announced hyes)
  · exact hcount.trans (h.unannounced hno)
  · exact (h.described hset).imp fun _ hin => List.mem_append_left _ hin
  · have hsame : (record ++ [Happening.gathered peer.connectionEpoch candidate,
        Happening.sent peer.connectionEpoch target negotiationId candidate]).countP (describesRemote peer.connectionEpoch) =
        record.countP (describesRemote peer.connectionEpoch) := by simp [describesRemote]
    exact hsame.trans (h.undescribed hunset hnone)
  · cases hannounced.symm.trans hno

end Advance

/-- The ledger goes on with what has happened to the candidates. -/
theorem Ledger.grow {epoch connections : Nat} {queue : List (String × String × Signal)} {tasks : List SignalTask}
    {record grown : List Happening} (h : Ledger epoch connections queue tasks record) (hclosed : ∀ h ∈ grown, Closed epoch h)
    (hremote : ∀ e, grown.countP (describesRemote e) = 0) (hannounces : ∀ e, grown.countP (announces e) = 0)
    (hfounded : Founded Grounds (record ++ grown))
    (horder : ∀ e, InOrder (List.take NEGOTIATION_SIGNAL_LIMIT) e (record ++ grown)) :
    Ledger epoch connections queue tasks (record ++ grown) := by
  have hall := h
  rw [← List.append_nil tasks, ← List.append_nil tasks] at hall ⊢
  refine hall.advance (Nat.le_refl _) (Nat.le_refl _) (fun entry hin => .inl hin) (by simp) hclosed ?_ (by simp) ?_ hfounded
    horder
  · intro e
    rw [hremote e]
    exact Nat.zero_le _
  · intro e
    rw [hannounces e]
    exact Nat.zero_le _

/-! ## The peer goes on -/

namespace RtcPeer

variable {peer : RtcPeer} {epoch : Nat} {negotiationId : String}

theorem connectionEpochIsCurrent_iff :
    peer.connectionEpochIsCurrent epoch = true ↔
      peer.connectionEpoch = epoch ∧ ∃ connection, peer.peerConnection = some connection := by
  rw [connectionEpochIsCurrent, Bool.and_eq_true, beq_iff_eq, Option.isSome_iff_exists]

theorem negotiationIsCurrent_iff :
    peer.negotiationIsCurrent epoch negotiationId = true ↔ peer.connectionEpoch = epoch ∧
      peer.negotiationId = some negotiationId ∧ ∃ connection, peer.peerConnection = some connection := by
  rw [negotiationIsCurrent, Bool.and_eq_true, Bool.and_eq_true, beq_iff_eq, beq_iff_eq, Option.isSome_iff_exists, and_assoc]

end RtcPeer

namespace Signalling

open RtcPeer

variable {s : Signalling}

/-- What is known of a task whose connection the peer still has. -/
theorem Sound.current (hs : s.Sound) {task : SignalTask} (hin : task ∈ s.tasks)
    (hcurrent : s.peer.connectionEpochIsCurrent task.negotiation.epoch = true) :
    s.peer.peerConnection = some task.negotiation.connection ∧ s.peer.connectionEpoch = task.negotiation.epoch ∧
      s.peer.negotiationId = some task.negotiation.negotiationId ∧ ∃ target, s.peer.targetPeer = some target ∧
        StageFounded s.record task.negotiation target task.granted task.stage := by
  obtain ⟨hepoch, connection, hconnection⟩ := connectionEpochIsCurrent_iff.mp hcurrent
  obtain ⟨target, hopened, hstage⟩ := hs.ledger.started task hin
  obtain ⟨target', negotiationId, htarget, hname, hopened'⟩ := (hs.live connection hconnection).opened
  rw [hepoch] at hopened'
  obtain ⟨rfl, rfl, rfl⟩ := hs.ledger.oneTarget _ _ _ _ _ _ _ hopened hopened'
  exact ⟨hconnection, hepoch, hname, target, htarget, hstage⟩

/-- A task is one of the tasks, between the others. -/
theorem split_tasks {n : Nat} {task : SignalTask} (h : s.tasks[n]? = some task) :
    s.tasks = s.tasks.take n ++ [task] ++ s.tasks.drop (n + 1) := by
  obtain ⟨hlt, rfl⟩ := List.getElem?_eq_some_iff.mp h
  rw [List.append_assoc, List.singleton_append, List.getElem_cons_drop, List.take_append_drop]

/-- Who is among the tasks when one was replaced. -/
theorem mem_replaced {n : Nat} {new : List SignalTask} {task : SignalTask}
    (h : task ∈ s.tasks.take n ++ new ++ s.tasks.drop (n + 1)) : task ∈ new ∨ task ∈ s.tasks := by
  rw [List.mem_append, List.mem_append] at h
  rcases h with (h | h) | h
  · exact .inr (List.mem_of_mem_take h)
  · exact .inl h
  · exact .inr (List.mem_of_mem_drop h)

/-- The flags of the connection, when some tasks take the place of another, and nothing is said about candidates. -/
theorem Sound.live_advance (hs : s.Sound) {before after new : List SignalTask} {task : SignalTask} {peer : RtcPeer}
    {grown : List Happening} (htasks : s.tasks = before ++ [task] ++ after)
    (hconnection : peer.peerConnection = s.peer.peerConnection) (hlocal : SameLocal s.peer peer)
    (hquiet : ∀ h ∈ grown, h.quiet s.peer.connectionEpoch)
    (hdescribed : ∀ connection, s.peer.peerConnection = some connection → peer.remoteDescriptionSet = true →
      ∃ description, .remoteDescribed s.peer.connectionEpoch connection description ∈ s.record ++ grown)
    (hundescribed : s.peer.peerConnection.isSome = true → peer.remoteDescriptionSet = false →
      (before ++ new ++ after).countP (·.describing s.peer.connectionEpoch) = 0 →
      (s.record ++ grown).countP (describesRemote s.peer.connectionEpoch) = 0)
    (hstages : s.peer.peerConnection.isSome = true → ∀ task ∈ before ++ new ++ after,
      task.negotiation.epoch = s.peer.connectionEpoch → StageLive peer task.stage) :
    ∀ connection, peer.peerConnection = some connection →
      Live peer connection (before ++ new ++ after) (s.record ++ grown) := by
  intro connection hsome
  rw [hconnection] at hsome
  have hlive := hs.live connection hsome
  rw [htasks] at hlive
  have hthere : s.peer.peerConnection.isSome = true := by rw [hsome]; rfl
  exact hlive.advance hlocal hquiet (hdescribed connection hsome) (hundescribed hthere) (hstages hthere)

end Signalling

end P2PTransmission.Rtc
