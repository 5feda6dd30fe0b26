import P2PTransmission.Rtc.SignalInvariant

/-!
# What the tasks of signalling keep

The browser answers a task, and the task goes on: with another question, with the description of its connection, or not at all.
-/

set_option autoImplicit false

namespace P2PTransmission.Rtc

open Wire (Signal)
open Happening (announces describesRemote gatheredIn candidateSent Grounds)

namespace Signalling

open RtcPeer

variable {s : Signalling}

/-! ## What the browser does -/

theorem done_closed (negotiation : Negotiation) (stage : SignalStage) {epoch : Nat} (h : negotiation.epoch ≤ epoch) :
    ∀ happening ∈ done negotiation stage, Closed epoch happening := by
  cases stage <;> simp [done, Closed, Happening.epoch?, h]

theorem done_owner (negotiation : Negotiation) (stage : SignalStage) :
    ∀ happening ∈ done negotiation stage,
      happening.epoch? = some negotiation.epoch ∧ happening.connection? = some negotiation.connection := by
  cases stage <;> simp [done, Happening.epoch?, Happening.connection?]

theorem done_quiet (negotiation : Negotiation) (stage : SignalStage) (epoch : Nat) :
    ∀ happening ∈ done negotiation stage, happening.quiet epoch := by
  cases stage <;> simp [done, Happening.quiet]

theorem done_grounds {record : List Happening} {task : SignalTask} (h : TaskFounded record task) :
    ∀ happening ∈ done task.negotiation task.stage, ∀ before, Grounds (record ++ before) happening := by
  obtain ⟨negotiation, stage, promise⟩ := task
  obtain ⟨target, hopened, hstage⟩ := h
  intro happening hin before
  have hopened' := List.mem_append_left before hopened
  cases stage with
  | creatingOffer toPeer => cases hin
  | creatingAnswer fromPeer => cases hin
  | settingOffer toPeer =>
    cases List.mem_singleton.mp hin
    exact ⟨target, _, hopened'⟩
  | settingAnswer fromPeer =>
    cases List.mem_singleton.mp hin
    exact ⟨target, _, hopened'⟩
  | settingRemoteOffer fromPeer sdp =>
    cases List.mem_singleton.mp hin
    exact ⟨target, _, hopened', List.mem_append_left _ hstage.2.1⟩
  | settingRemoteAnswer sdp =>
    cases List.mem_singleton.mp hin
    exact ⟨target, _, hopened', List.mem_append_left _ hstage.1⟩
  | addingPending candidate rest answering =>
    cases List.mem_singleton.mp hin
    exact ⟨target, _, hopened', List.mem_append_left _ (hstage.2.1 candidate List.mem_cons_self),
      hstage.1.imp fun _ hin => List.mem_append_left _ hin⟩
  | addingCandidate candidate =>
    cases List.mem_singleton.mp hin
    exact ⟨target, _, hopened', List.mem_append_left _ hstage.2, hstage.1.imp fun _ hin => List.mem_append_left _ hin⟩

/-- The browser has answered, and done what it was asked for if it says so. -/
theorem founded_settled {record : List Happening} {task : SignalTask} (h : TaskFounded record task)
    (result : Except BrowserPlatformError Unit) :
    TaskFounded (record ++ doneBy task.negotiation task.stage result) { task with promise := .settled result } := by
  obtain ⟨negotiation, stage, promise⟩ := task
  obtain ⟨target, hopened, hstage⟩ := h
  refine ⟨target, List.mem_append_left _ hopened, ?_⟩
  have hdone : SignalTask.granted ⟨negotiation, stage, .settled result⟩ → result = .ok () :=
    fun hgranted => BrowserPromise.settled.inj hgranted
  have hmore : StageFounded (record ++ doneBy negotiation stage result) negotiation target
      (SignalTask.granted ⟨negotiation, stage, promise⟩) stage := hstage.mono
  cases stage with
  | creatingOffer toPeer => exact hmore
  | creatingAnswer fromPeer => exact hmore
  | addingPending candidate rest answering => exact hmore
  | addingCandidate candidate => exact hmore
  | settingOffer toPeer => exact ⟨hmore.1, fun hgranted => by rw [hdone hgranted]; simp [doneBy, done]⟩
  | settingRemoteOffer fromPeer sdp =>
    exact ⟨hmore.1, hmore.2.1, fun hgranted => by rw [hdone hgranted]; simp [doneBy, done]⟩
  | settingAnswer fromPeer =>
    exact ⟨hmore.1, hmore.2.1, fun hgranted => by rw [hdone hgranted]; simp [doneBy, done]⟩
  | settingRemoteAnswer sdp => exact ⟨hmore.1, fun hgranted => by rw [hdone hgranted]; simp [doneBy, done]⟩

theorem doneBy_subset (negotiation : Negotiation) (stage : SignalStage) (result : Except BrowserPlatformError Unit) :
    doneBy negotiation stage result ⊆ done negotiation stage := by
  cases result with
  | ok done => exact List.Subset.refl _
  | error error => exact List.nil_subset _

theorem undescribed_le (tasks : List SignalTask) (epoch : Nat) :
    tasks.countP (·.undescribed epoch) ≤ tasks.countP (·.describing epoch) :=
  List.countP_mono_left fun task _ h => (Bool.and_eq_true _ _ ▸ h : _ ∧ _).1

/-- A description that the browser takes was still to be taken. -/
theorem doneBy_describesRemote {task : SignalTask} (hpending : task.promise = .pending)
    (result : Except BrowserPlatformError Unit) (epoch : Nat) :
    (doneBy task.negotiation task.stage result).countP (describesRemote epoch) +
        [({ task with promise := .settled result } : SignalTask)].countP (·.undescribed epoch) ≤
      [task].countP (·.undescribed epoch) := by
  obtain ⟨negotiation, stage, promise⟩ := task
  cases hpending
  cases result with
  | error error => cases stage <;> simp [doneBy, SignalTask.undescribed, SignalTask.describing]
  | ok granted =>
    cases stage <;>
      simp [doneBy, done, describesRemote, SignalTask.undescribed, SignalTask.describing, List.countP_cons]

theorem Sound.settle (hs : s.Sound) {n : Nat} {result : Except BrowserPlatformError Unit} {s' : Signalling}
    (h : s.settle n result = some s') : s'.Sound := by
  unfold Signalling.settle at h
  split at h
  · cases h
  rename_i task htask
  split at h
  · rename_i hpending
    cases h
    have htasks := split_tasks htask
    have hin : task ∈ s.tasks := List.mem_of_getElem? htask
    have hfounded := hs.ledger.started task hin
    have hsub := doneBy_subset task.negotiation task.stage result
    have hepoch : task.negotiation.epoch ≤ s.peer.connectionEpoch := by
      obtain ⟨target, hopened, -⟩ := hfounded
      exact hs.ledger.within _ hopened _ rfl
    have hrecord : s.record ++ doneBy task.negotiation task.stage result ++ said s.peer s.peer =
        s.record ++ doneBy task.negotiation task.stage result := by
      rw [(silent_refl s.peer).said, List.append_nil]
    have hledger := hs.ledger
    rw [htasks] at hledger
    constructor
    · change Ledger _ _ _ (s.tasks.take n ++ _ ++ s.tasks.drop (n + 1))
        (s.record ++ doneBy task.negotiation task.stage result ++ said s.peer s.peer)
      rw [hrecord]
      refine hledger.advance (Nat.le_refl _) (Nat.le_refl _) (fun entry hin => .inl hin) ?_ ?_
        (doneBy_describesRemote hpending result) ?_ ?_ ?_ ?_
      · intro other hother
        rw [List.mem_singleton.mp hother]
        exact founded_settled hfounded result
      · exact fun happening hin => done_closed _ _ hepoch happening (hsub hin)
      · exact fun e => Nat.le_refl _
      · intro e
        rw [List.countP_eq_zero.mpr fun happening hin => by
          rw [quiet_announces (done_quiet _ _ e happening (hsub hin))]
          exact Bool.false_ne_true, Nat.zero_add]
        exact Nat.le_refl _
      · exact hs.ledger.founded.append fun happening hin => done_grounds hfounded happening (hsub hin)
      · exact fun e => (hs.ledger.inOrder e).quiet fun happening hin => done_quiet _ _ e happening (hsub hin)
    · change ∀ connection, s.peer.peerConnection = some connection → Live s.peer connection
        (s.tasks.take n ++ [{ task with promise := .settled result }] ++ s.tasks.drop (n + 1))
        (s.record ++ doneBy task.negotiation task.stage result ++ said s.peer s.peer)
      rw [hrecord]
      refine hs.live_advance htasks rfl ⟨rfl, rfl, rfl, rfl, rfl⟩ (fun happening hin => done_quiet _ _ _ happening (hsub hin))
        ?_ ?_ ?_
      · intro connection hconnection hset
        exact ((hs.live connection hconnection).described hset).imp fun _ hin => List.mem_append_left _ hin
      · intro hthere hset hnone
        obtain ⟨connection, hconnection⟩ := Option.isSome_iff_exists.mp hthere
        have hsame : s.tasks.countP (·.describing s.peer.connectionEpoch) = 0 := by
          rw [htasks]
          simp only [List.countP_append] at hnone ⊢
          exact hnone
        have hrecorded := (hs.live connection hconnection).undescribed hset hsame
        have hless := doneBy_describesRemote hpending result s.peer.connectionEpoch
        have hnot := undescribed_le [task] s.peer.connectionEpoch
        rw [htasks] at hsame
        simp only [List.countP_append] at hsame ⊢
        omega
      · intro hthere other hother hsame
        obtain ⟨connection, hconnection⟩ := Option.isSome_iff_exists.mp hthere
        rcases mem_replaced hother with hother | hother
        · rw [List.mem_singleton.mp hother] at hsame ⊢
          exact (hs.live connection hconnection).stages task hin hsame
        · exact (hs.live connection hconnection).stages other hother hsame
  · cases h
  · cases h

/-! ## What the tasks do -/

/-- A task is replaced, or ends, and nothing is sent. -/
theorem Sound.replaced (hs : s.Sound) {n : Nat} {task : SignalTask} {new : List SignalTask} {peer : RtcPeer}
    (htask : s.tasks[n]? = some task) (hconnection : peer.peerConnection = s.peer.peerConnection)
    (hlocal : SameLocal s.peer peer) (hqueue : peer.pendingRemoteCandidates ⊆ s.peer.pendingRemoteCandidates)
    (hsilent : Silent s.peer peer) (hnew : ∀ task ∈ new, TaskFounded s.record task)
    (hremote : ∀ e, new.countP (·.undescribed e) ≤ [task].countP (·.undescribed e))
    (hdescriber : ∀ e, new.countP (·.describing e) ≤ [task].countP (·.describing e))
    (hdescription : ∀ e, new.countP (·.announcing e) ≤ [task].countP (·.announcing e))
    (hdescribed : ∀ connection, s.peer.peerConnection = some connection → peer.remoteDescriptionSet = true →
      ∃ description, .remoteDescribed s.peer.connectionEpoch connection description ∈ s.record)
    (hundescribed : s.peer.peerConnection.isSome = true → peer.remoteDescriptionSet = false →
      (s.tasks.take n ++ new ++ s.tasks.drop (n + 1)).countP (·.describing s.peer.connectionEpoch) = 0 →
      s.record.countP (describesRemote s.peer.connectionEpoch) = 0)
    (hstages : s.peer.peerConnection.isSome = true → ∀ task ∈ s.tasks.take n ++ new ++ s.tasks.drop (n + 1),
      task.negotiation.epoch = s.peer.connectionEpoch → StageLive peer task.stage) :
    ((s.moved peer).setTasks n new).Sound := by
  have htasks := split_tasks htask
  have hledger := hs.ledger
  rw [htasks] at hledger
  have hrecord : s.record ++ [] ++ said s.peer peer = s.record ++ [] := by rw [hsilent.said, List.append_nil]
  constructor
  · change Ledger peer.connectionEpoch _ _ (s.tasks.take n ++ new ++ s.tasks.drop (n + 1)) (s.record ++ [] ++ said s.peer peer)
    rw [hrecord]
    refine hledger.advance ?_ (Nat.le_refl _) (fun entry hin => .inl (hqueue hin)) ?_ (by simp) ?_ hdescriber ?_ ?_ ?_
    · rw [hlocal.connectionEpoch]
    · exact fun other hother => (hnew other hother).mono
    · simpa using hremote
    · simpa using hdescription
    · rw [List.append_nil]
      exact hs.ledger.founded
    · rw [List.append_nil]
      exact hs.ledger.inOrder
  · change ∀ connection, peer.peerConnection = some connection →
      Live peer connection (s.tasks.take n ++ new ++ s.tasks.drop (n + 1)) (s.record ++ [] ++ said s.peer peer)
    rw [hrecord]
    refine hs.live_advance htasks hconnection hlocal (by simp) ?_ ?_ hstages
    · rw [List.append_nil]
      exact hdescribed
    · rw [List.append_nil]
      exact hundescribed

theorem moved_self (peer : RtcPeer) (h : peer = s.peer) : s.moved peer = s := by
  subst h
  unfold moved
  rw [(silent_refl s.peer).said, List.append_nil, List.append_nil]

/-- The describers that are left, if the task that is replaced was none. -/
theorem describing_of_other {n : Nat} {task : SignalTask} {new : List SignalTask} (htask : s.tasks[n]? = some task) {e : Nat}
    (hother : task.describing e = false)
    (hnone : (s.tasks.take n ++ new ++ s.tasks.drop (n + 1)).countP (·.describing e) = 0) :
    s.tasks.countP (·.describing e) = 0 := by
  rw [split_tasks htask]
  simp only [List.countP_append, List.countP_singleton, hother] at hnone ⊢
  simp only [Bool.false_eq_true, if_false]
  omega

/-- A task ends while its connection is not that of the peer, or without having anything to do with descriptions. -/
theorem Sound.ended (hs : s.Sound) {n : Nat} {task : SignalTask} (htask : s.tasks[n]? = some task)
    (hother : s.peer.connectionEpochIsCurrent task.negotiation.epoch = true → ∀ e, task.describing e = false) :
    (s.setTasks n []).Sound := by
  rw [← moved_self s.peer rfl]
  refine hs.replaced htask rfl ⟨rfl, rfl, rfl, rfl, rfl⟩ (List.Subset.refl _) (silent_of_same rfl) (by simp) (by simp) (by simp)
    (by simp) ?_ ?_ ?_
  · exact fun connection hconnection hset => (hs.live connection hconnection).described hset
  · intro hthere hset hnone
    obtain ⟨connection, hconnection⟩ := Option.isSome_iff_exists.mp hthere
    refine (hs.live connection hconnection).undescribed hset (describing_of_other htask ?_ hnone)
    by_cases hepoch : s.peer.connectionEpoch = task.negotiation.epoch
    · exact hother (connectionEpochIsCurrent_iff.mpr ⟨hepoch, connection, hconnection⟩) _
    · have hne : task.negotiation.epoch ≠ s.peer.connectionEpoch := fun h => hepoch h.symm
      simp [SignalTask.describing, hne]
  · intro hthere other hin hepoch
    obtain ⟨connection, hconnection⟩ := Option.isSome_iff_exists.mp hthere
    rcases mem_replaced hin with hin | hin
    · cases hin
    · exact (hs.live connection hconnection).stages other hin hepoch

/-- A task asks the browser for the next thing, which has nothing to do with the description of the other side unless the
task has. -/
theorem Sound.goesOn (hs : s.Sound) {n : Nat} {task : SignalTask} {stage : SignalStage} (htask : s.tasks[n]? = some task)
    (hnew : TaskFounded s.record { task with stage, promise := .pending })
    (hdescribing : ∀ e, ({ task with stage, promise := .pending } : SignalTask).describing e = task.describing e)
    (hundescribed : ∀ e, ({ task with stage, promise := .pending } : SignalTask).undescribed e = true →
      task.undescribed e = true)
    (hannouncing : ∀ e, ({ task with stage, promise := .pending } : SignalTask).announcing e = true → task.announcing e = true)
    (hstage : s.peer.connectionEpochIsCurrent task.negotiation.epoch = true → StageLive s.peer stage) :
    (s.setTasks n [{ task with stage, promise := .pending }]).Sound := by
  rw [← moved_self s.peer rfl]
  refine hs.replaced htask rfl ⟨rfl, rfl, rfl, rfl, rfl⟩ (List.Subset.refl _) (silent_of_same rfl) ?_ ?_ ?_ ?_ ?_ ?_ ?_
  · intro other hin
    rw [List.mem_singleton.mp hin]
    exact hnew
  · intro e
    simp only [List.countP_singleton]
    split
    · rename_i hless
      rw [hundescribed e hless, if_pos rfl]
    · exact Nat.zero_le _
  · intro e
    simp only [List.countP_singleton, hdescribing e]
    exact Nat.le_refl _
  · intro e
    simp only [List.countP_singleton]
    split
    · rename_i hless
      rw [hannouncing e hless, if_pos rfl]
    · exact Nat.zero_le _
  · exact fun connection hconnection hset => (hs.live connection hconnection).described hset
  · intro hthere hset hnone
    obtain ⟨connection, hconnection⟩ := Option.isSome_iff_exists.mp hthere
    refine (hs.live connection hconnection).undescribed hset ?_
    rw [split_tasks htask]
    simp only [List.countP_append, List.countP_singleton, hdescribing] at hnone ⊢
    exact hnone
  · intro hthere other hin hepoch
    obtain ⟨connection, hconnection⟩ := Option.isSome_iff_exists.mp hthere
    rcases mem_replaced hin with hin | hin
    · rw [List.mem_singleton.mp hin] at hepoch ⊢
      exact hstage (connectionEpochIsCurrent_iff.mpr ⟨hepoch.symm, connection, hconnection⟩)
    · exact (hs.live connection hconnection).stages other hin hepoch

/-- No other task waits for the description of the other side. -/
theorem Sound.oneDescriber (hs : s.Sound) {n : Nat} {task other : SignalTask} (htask : s.tasks[n]? = some task)
    {e : Nat} (hdescribing : task.describing e = true) (hin : other ∈ s.tasks.take n ++ [] ++ s.tasks.drop (n + 1)) :
    other.describing e = false := by
  by_contra hother
  rw [Bool.not_eq_false] at hother
  have hone := hs.ledger.oneDescriber e
  rw [split_tasks htask] at hone
  have hmore : 0 < (s.tasks.take n ++ [] ++ s.tasks.drop (n + 1)).countP (fun waiting : SignalTask => waiting.describing e) :=
    List.countP_pos_iff.mpr ⟨other, hin, hother⟩
  simp only [List.countP_append, List.countP_singleton, List.countP_nil, hdescribing, if_true] at hone hmore
  omega

/-- What the failure of a task does to the peer. -/
structure Failed (before after : RtcPeer) : Prop where
  peerConnection : after.peerConnection = before.peerConnection
  sameLocal : SameLocal before after
  remoteDescriptionSet : after.remoteDescriptionSet = before.remoteDescriptionSet
  pendingRemoteCandidates : after.pendingRemoteCandidates = before.pendingRemoteCandidates
  silent : Silent before after

theorem taskFailed_failed (peer : RtcPeer) (negotiation : Negotiation) (stage : SignalStage) (error : BrowserPlatformError) :
    Failed peer (peer.taskFailed negotiation stage error) := by
  unfold taskFailed
  split
  · split
    · unfold finishNegotiating
      split <;> exact ⟨rfl, ⟨rfl, rfl, rfl, rfl, rfl⟩, rfl, rfl, _, rfl, by simp [saidBy]⟩
    · unfold clearRemoteDescriptionPending
      split <;> exact ⟨rfl, ⟨rfl, rfl, rfl, rfl, rfl⟩, rfl, rfl, _, rfl, by simp [saidBy]⟩
  · exact ⟨rfl, ⟨rfl, rfl, rfl, rfl, rfl⟩, rfl, rfl, silent_of_same rfl⟩

/-- Only a task of the connection clears the flag of an answer that is being taken. -/
theorem taskFailed_pending (peer : RtcPeer) (negotiation : Negotiation) (stage : SignalStage) (error : BrowserPlatformError) :
    (peer.taskFailed negotiation stage error).remoteDescriptionPending = peer.remoteDescriptionPending ∨
      (peer.connectionEpochIsCurrent negotiation.epoch = true ∧ makesOffer stage = false) := by
  unfold taskFailed
  split
  · rename_i hcurrent
    obtain ⟨hepoch, -, hconnection⟩ := negotiationIsCurrent_iff.mp hcurrent
    cases hmakes : makesOffer stage with
    | true =>
      refine .inl ?_
      rw [if_pos rfl]
      unfold finishNegotiating
      split <;> rfl
    | false => exact .inr ⟨connectionEpochIsCurrent_iff.mpr ⟨hepoch, hconnection⟩, rfl⟩
  · exact .inl rfl

/-- A task fails before the connection has the description that the task is there for. -/
theorem Sound.failed (hs : s.Sound) {n : Nat} {task : SignalTask} (htask : s.tasks[n]? = some task)
    (hungranted : ∀ e, task.describing e = true → task.undescribed e = true) (error : BrowserPlatformError) :
    ((s.moved (s.peer.taskFailed task.negotiation task.stage error)).setTasks n []).Sound := by
  have hfailed := taskFailed_failed s.peer task.negotiation task.stage error
  have hin : task ∈ s.tasks := List.mem_of_getElem? htask
  refine hs.replaced htask hfailed.peerConnection hfailed.sameLocal ?_ hfailed.silent (by simp) (by simp) (by simp) (by simp)
    ?_ ?_ ?_
  · rw [hfailed.pendingRemoteCandidates]
    exact List.Subset.refl _
  · intro connection hconnection hset
    rw [hfailed.remoteDescriptionSet] at hset
    exact (hs.live connection hconnection).described hset
  · intro hthere hset hnone
    obtain ⟨connection, hconnection⟩ := Option.isSome_iff_exists.mp hthere
    rw [hfailed.remoteDescriptionSet] at hset
    cases hdescribing : task.describing s.peer.connectionEpoch with
    | false => exact (hs.live connection hconnection).undescribed hset (describing_of_other htask hdescribing hnone)
    | true =>
      -- the only task that could have had the connection described has not
      have hone := hs.ledger.oneRemote s.peer.connectionEpoch
      rw [split_tasks htask] at hone
      simp only [List.countP_append, List.countP_singleton, hungranted _ hdescribing, if_true] at hone
      omega
  · intro hthere other hother hepoch
    obtain ⟨connection, hconnection⟩ := Option.isSome_iff_exists.mp hthere
    have hlive := hs.live connection hconnection
    have hold := hlive.stages other (by rcases mem_replaced hother with h | h; exact absurd h (by simp); exact h) hepoch
    have hset := hfailed.remoteDescriptionSet
    cases hstage : other.stage with
    | settingRemoteAnswer sdp =>
      rw [hstage] at hold
      rcases taskFailed_pending s.peer task.negotiation task.stage error with hpending | ⟨hcurrent, hmakes⟩
      · refine ⟨?_, ?_, ?_⟩
        · rw [hfailed.sameLocal.localDescriptionAnnounced]
          exact hold.1
        · rw [hpending]
          exact hold.2.1
        · rw [hset]
          exact hold.2.2
      · obtain ⟨hsame, -⟩ := connectionEpochIsCurrent_iff.mp hcurrent
        have hanswers : other.describing s.peer.connectionEpoch = true := by
          simp [SignalTask.describing, hstage, hepoch]
        have hmine := hlive.stages task hin hsame.symm
        cases htaskStage : task.stage with
        | creatingOffer toPeer => rw [htaskStage] at hmakes; cases hmakes
        | settingOffer toPeer => rw [htaskStage] at hmakes; cases hmakes
        | settingRemoteOffer fromPeer sdp =>
          have hdescribing : task.describing s.peer.connectionEpoch = true := by
            simp [SignalTask.describing, htaskStage, hsame]
          rw [hs.oneDescriber htask hdescribing hother] at hanswers
          cases hanswers
        | settingRemoteAnswer sdp =>
          have hdescribing : task.describing s.peer.connectionEpoch = true := by
            simp [SignalTask.describing, htaskStage, hsame]
          rw [hs.oneDescriber htask hdescribing hother] at hanswers
          cases hanswers
        | creatingAnswer fromPeer => rw [htaskStage] at hmine; exact absurd (hmine.symm.trans hold.2.2) (by simp)
        | settingAnswer fromPeer => rw [htaskStage] at hmine; exact absurd (hmine.symm.trans hold.2.2) (by simp)
        | addingPending candidate rest answering =>
          rw [htaskStage] at hmine
          exact absurd (hmine.symm.trans hold.2.2) (by simp)
        | addingCandidate candidate => rw [htaskStage] at hmine; exact absurd (hmine.symm.trans hold.2.2) (by simp)
    | creatingOffer toPeer => trivial
    | settingOffer toPeer => trivial
    | settingRemoteOffer fromPeer sdp => rw [hstage] at hold; exact hset.trans hold
    | creatingAnswer fromPeer => rw [hstage] at hold; exact hset.trans hold
    | settingAnswer fromPeer => rw [hstage] at hold; exact hset.trans hold
    | addingPending candidate rest answering => rw [hstage] at hold; exact hset.trans hold
    | addingCandidate candidate => rw [hstage] at hold; exact hset.trans hold

/-- Where the connection is described by the other side, every task that is not there for this is in its place. -/
theorem stageLive_of_set {peer : RtcPeer} (hset : peer.remoteDescriptionSet = true) {task : SignalTask}
    (hother : task.describing task.negotiation.epoch = false) : StageLive peer task.stage := by
  cases hstage : task.stage with
  | creatingOffer toPeer => trivial
  | settingOffer toPeer => trivial
  | settingRemoteOffer fromPeer sdp => simp [SignalTask.describing, hstage] at hother
  | settingRemoteAnswer sdp => simp [SignalTask.describing, hstage] at hother
  | creatingAnswer fromPeer => exact hset
  | settingAnswer fromPeer => exact hset
  | addingPending candidate rest answering => exact hset
  | addingCandidate candidate => exact hset

/-- The browser has taken the description of the other side. -/
theorem Sound.marked (hs : s.Sound) {n : Nat} {task : SignalTask} {new : List SignalTask} {peer : RtcPeer}
    (htask : s.tasks[n]? = some task) (hcurrent : s.peer.connectionEpochIsCurrent task.negotiation.epoch = true)
    (hdescribing : task.describing task.negotiation.epoch = true)
    (hdone : ∃ description, .remoteDescribed task.negotiation.epoch task.negotiation.connection description ∈ s.record)
    (hconnection : peer.peerConnection = s.peer.peerConnection) (hlocal : SameLocal s.peer peer)
    (hset : peer.remoteDescriptionSet = true) (hqueue : peer.pendingRemoteCandidates ⊆ s.peer.pendingRemoteCandidates)
    (hsilent : Silent s.peer peer) (hnew : ∀ task ∈ new, TaskFounded s.record task)
    (hother : ∀ task ∈ new, ∀ e, task.describing e = false)
    (hdescription : ∀ e, new.countP (·.announcing e) ≤ [task].countP (·.announcing e)) :
    ((s.moved peer).setTasks n new).Sound := by
  have hin : task ∈ s.tasks := List.mem_of_getElem? htask
  obtain ⟨hsome, hepoch, -⟩ := hs.current hin hcurrent
  have hnone : ∀ e, new.countP (·.describing e) = 0 := fun e =>
    List.countP_eq_zero.mpr fun other hother' => by simp [hother other hother' e]
  refine hs.replaced htask hconnection hlocal hqueue hsilent hnew ?_ ?_ hdescription ?_ ?_ ?_
  · intro e
    have hless := undescribed_le new e
    rw [hnone e] at hless
    omega
  · intro e
    rw [hnone e]
    exact Nat.zero_le _
  · intro connection hconnection' _
    rw [hsome] at hconnection'
    cases hconnection'
    rw [hepoch]
    exact hdone
  · intro _ hunset
    rw [hset] at hunset
    cases hunset
  · intro _ other hin' hsame
    refine stageLive_of_set hset ?_
    rw [List.mem_append, List.mem_append] at hin'
    rcases hin' with (hin' | hin') | hin'
    · rw [hsame, hepoch]
      exact hs.oneDescriber htask hdescribing (by simp [hin'])
    · exact hother other hin' _
    · rw [hsame, hepoch]
      exact hs.oneDescriber htask hdescribing (by simp [hin'])

/-! ## Candidates that have waited -/

/-- What comes of the candidates that have waited: one of them is added, the task goes on without them, or it fails. -/
theorem applyCandidates_cases (peer : RtcPeer) (negotiation : Negotiation)
    (readable : Signal → Except BrowserPlatformError Unit) (answering : Option String) (candidates : List Signal) :
    (∃ candidate rest, candidate :: rest ⊆ candidates ∧
        peer.applyCandidates negotiation readable answering candidates = .waits (.addingPending candidate rest answering)) ∨
      peer.applyCandidates negotiation readable answering candidates = afterCandidates answering ∨
      ∃ error, peer.applyCandidates negotiation readable answering candidates = .failed error := by
  induction candidates with
  | nil => exact .inr (.inl rfl)
  | cons first rest ih =>
    cases first with
    | iceCandidate candidate sdpMid sdpMLineIndex =>
      unfold applyCandidates
      split
      · exact .inr (.inr ⟨_, rfl⟩)
      · split
        · exact .inl ⟨_, _, List.Subset.refl _, rfl⟩
        · exact .inr (.inl rfl)
    | offer sdp =>
      unfold applyCandidates
      split
      · rcases ih with ⟨candidate, rest', hsub, happly⟩ | ih
        · exact .inl ⟨candidate, rest', List.Subset.trans hsub (List.subset_cons_self _ _), happly⟩
        · exact .inr ih
      · exact .inr (.inl rfl)
    | answer sdp =>
      unfold applyCandidates
      split
      · rcases ih with ⟨candidate, rest', hsub, happly⟩ | ih
        · exact .inl ⟨candidate, rest', List.Subset.trans hsub (List.subset_cons_self _ _), happly⟩
        · exact .inr ih
      · exact .inr (.inl rfl)

/-- A task goes on with candidates that were received, and afterwards with its answer. -/
structure Follows (record : List Happening) (negotiation : Negotiation) (target : String) (answering : Option String)
    (candidates : List Signal) : Prop where
  opened : .opened negotiation.epoch negotiation.connection target negotiation.negotiationId ∈ record
  described : ∃ description, .remoteDescribed negotiation.epoch negotiation.connection description ∈ record
  received : ∀ candidate ∈ candidates, .received target negotiation.negotiationId candidate ∈ record
  answers : ∀ fromPeer ∈ answering, fromPeer = target ∧
    ∃ sdp, .remoteDescribed negotiation.epoch negotiation.connection (.offer sdp) ∈ record

theorem Follows.adding {record : List Happening} {negotiation : Negotiation} {target : String} {answering : Option String}
    {candidates rest : List Signal} {candidate : Signal} (h : Follows record negotiation target answering candidates)
    (hsub : candidate :: rest ⊆ candidates) :
    TaskFounded record ⟨negotiation, .addingPending candidate rest answering, .pending⟩ :=
  ⟨target, h.opened, h.described, fun waiting hin => h.received waiting (hsub hin), h.answers⟩

theorem Follows.creating {record : List Happening} {negotiation : Negotiation} {target fromPeer : String}
    {candidates : List Signal} (h : Follows record negotiation target (some fromPeer) candidates) :
    TaskFounded record ⟨negotiation, .creatingAnswer fromPeer, .pending⟩ :=
  ⟨target, h.opened, h.answers fromPeer rfl⟩

/-- The peer after the description of the other side was set. -/
def markedPeer (peer : RtcPeer) : RtcPeer :=
  { peer with remoteDescriptionPending := false, remoteDescriptionSet := true, pendingRemoteCandidates := [] }

theorem takePendingCandidates_current {peer : RtcPeer} {epoch : Nat} {negotiationId : String}
    (h : peer.negotiationIsCurrent epoch negotiationId = true) :
    peer.takePendingCandidates epoch negotiationId =
      (peer.waitingCandidates negotiationId, { peer with pendingRemoteCandidates := [] }) := if_pos h

/-- After the description of the other side, the candidates that have waited for it. -/
theorem Sound.remoteDescribed (hs : s.Sound) {n : Nat} {task : SignalTask} {target : String} {answering : Option String}
    {readable : Signal → Except BrowserPlatformError Unit} (htask : s.tasks[n]? = some task)
    (hcurrent : s.peer.connectionEpochIsCurrent task.negotiation.epoch = true)
    (hdescribing : task.describing task.negotiation.epoch = true) (htarget : s.peer.targetPeer = some target)
    (hfollows : Follows s.record task.negotiation target answering [])
    (hannouncing : answering.isSome = true → task.announcing task.negotiation.epoch = true) {progress : Progressed}
    {peer : RtcPeer} (h : s.peer.remoteDescribed task.negotiation readable answering = (progress, peer)) :
    (s.progressed n task peer progress).Sound := by
  obtain ⟨hsome, hepoch, hname, -⟩ := hs.current (List.mem_of_getElem? htask) hcurrent
  have hthere : s.peer.negotiationIsCurrent task.negotiation.epoch task.negotiation.negotiationId = true :=
    negotiationIsCurrent_iff.mpr ⟨hepoch, hname, _, hsome⟩
  have hmarked : s.peer.remoteDescribed task.negotiation readable answering =
      ((markedPeer s.peer).applyCandidates task.negotiation readable answering (s.peer.waitingCandidates task.negotiation.negotiationId),
        markedPeer s.peer) := by
    unfold RtcPeer.remoteDescribed markRemoteDescriptionSet
    rw [if_pos hcurrent]
    have hstill : ({ s.peer with remoteDescriptionPending := false, remoteDescriptionSet := true } : RtcPeer).negotiationIsCurrent
        task.negotiation.epoch task.negotiation.negotiationId = true := hthere
    dsimp only
    rw [takePendingCandidates_current hstill]
    rfl
  rw [hmarked] at h
  cases h
  -- the candidates that are kept came from the other side of this negotiation
  have hreceived : Follows s.record task.negotiation target answering (s.peer.waitingCandidates task.negotiation.negotiationId) := by
    refine ⟨hfollows.opened, hfollows.described, fun candidate hin => ?_, hfollows.answers⟩
    obtain ⟨entry, hentry, rfl⟩ := List.mem_map.mp hin
    obtain ⟨hqueued, hmine⟩ := List.mem_filter.mp hentry
    rw [Bool.and_eq_true, beq_iff_eq, beq_iff_eq, htarget] at hmine
    have hheard := hs.ledger.queued entry hqueued
    rwa [← Option.some.inj hmine.1, hmine.2] at hheard
  have hmark : ∀ {new : List SignalTask} {peer : RtcPeer}, peer.peerConnection = (markedPeer s.peer).peerConnection →
      SameLocal (markedPeer s.peer) peer → peer.remoteDescriptionSet = true → peer.pendingRemoteCandidates = [] →
      Silent (markedPeer s.peer) peer → (∀ task ∈ new, TaskFounded s.record task) →
      (∀ task ∈ new, ∀ e, task.describing e = false) →
      (∀ e, new.countP (·.announcing e) ≤ [task].countP (·.announcing e)) → ((s.moved peer).setTasks n new).Sound := by
    intro new peer hconnection hlocal hset hqueue hsilent hnew hother hdescription
    refine hs.marked htask hcurrent hdescribing hreceived.described hconnection
      ⟨hlocal.connectionEpoch, hlocal.targetPeer, hlocal.negotiationId, hlocal.localDescriptionAnnounced,
        hlocal.pendingLocalCandidates⟩ hset ?_ ?_ hnew hother hdescription
    · rw [hqueue]
      exact List.nil_subset _
    · exact Silent.trans (silent_of_same rfl) hsilent
  have hcount : ∀ (stage : SignalStage), (∀ e, (⟨task.negotiation, stage, .pending⟩ : SignalTask).announcing e = true →
      answering.isSome = true ∧ task.negotiation.epoch = e) →
      ∀ e, [(⟨task.negotiation, stage, .pending⟩ : SignalTask)].countP (·.announcing e) ≤ [task].countP (·.announcing e) := by
    intro stage hstage e
    simp only [List.countP_singleton]
    split
    · rename_i hless
      obtain ⟨hsome, rfl⟩ := hstage e hless
      rw [hannouncing hsome, if_pos rfl]
    · exact Nat.zero_le _
  rcases applyCandidates_cases (markedPeer s.peer) task.negotiation readable answering (s.peer.waitingCandidates task.negotiation.negotiationId) with
    ⟨candidate, rest, hsub, happly⟩ | happly | ⟨error, happly⟩
  · rw [happly]
    refine hmark rfl ⟨rfl, rfl, rfl, rfl, rfl⟩ rfl rfl (silent_of_same rfl) ?_ ?_ (hcount _ ?_)
    · intro other hin
      rw [List.mem_singleton.mp hin]
      exact hreceived.adding hsub
    · intro other hin e
      rw [List.mem_singleton.mp hin]
      simp [SignalTask.describing]
    · intro e hless
      cases answering with
      | none => simp [SignalTask.announcing] at hless
      | some fromPeer => exact ⟨rfl, by simpa [SignalTask.announcing] using hless⟩
  · rw [happly]
    cases answering with
    | none => exact hmark rfl ⟨rfl, rfl, rfl, rfl, rfl⟩ rfl rfl (silent_of_same rfl) (by simp) (by simp) (by simp)
    | some fromPeer =>
      refine hmark rfl ⟨rfl, rfl, rfl, rfl, rfl⟩ rfl rfl (silent_of_same rfl) ?_ ?_ (hcount _ ?_)
      · intro other hin
        rw [List.mem_singleton.mp hin]
        exact hreceived.creating
      · intro other hin e
        rw [List.mem_singleton.mp hin]
        simp [SignalTask.describing]
      · exact fun e hless => ⟨rfl, by simpa [SignalTask.announcing] using hless⟩
  · rw [happly]
    have hfailed := taskFailed_failed (markedPeer s.peer) task.negotiation task.stage error
    exact hmark hfailed.peerConnection hfailed.sameLocal hfailed.remoteDescriptionSet hfailed.pendingRemoteCandidates
      hfailed.silent (by simp) (by simp) (by simp)

/-! ## The description -/

theorem emitCandidates_current {epoch : Nat} {negotiationId toPeerId : String} {peer : RtcPeer} (candidates : List Signal)
    (h : peer.negotiationIsCurrent epoch negotiationId = true) :
    emitCandidates epoch negotiationId toPeerId peer candidates =
      { peer with notices := peer.notices ++ candidates.map (.outboundSignal toPeerId negotiationId ·) } := by
  induction candidates generalizing peer with
  | nil => simp [emitCandidates]
  | cons candidate rest ih =>
    have hnext : (peer.notify (.outboundSignal toPeerId negotiationId candidate)).negotiationIsCurrent epoch negotiationId =
        true := h
    unfold emitCandidates
    rw [if_pos h, ih hnext]
    simp [notify]

/-- The peer after its description was sent. -/
def announcedPeer (peer : RtcPeer) (negotiationId toPeerId : String) (signal : Signal) : RtcPeer :=
  { peer with
    localDescriptionAnnounced := true
    pendingLocalCandidates := []
    notices := peer.notices ++ (signal :: peer.pendingLocalCandidates).map (.outboundSignal toPeerId negotiationId ·) }

theorem announceLocalDescription_current {epoch : Nat} {negotiationId toPeerId : String} {peer : RtcPeer} {signal : Signal}
    (h : peer.negotiationIsCurrent epoch negotiationId = true) :
    peer.announceLocalDescription epoch negotiationId toPeerId signal =
      announcedPeer peer negotiationId toPeerId signal := by
  unfold announceLocalDescription announcedPeer
  rw [if_pos h]
  have hnext : (({ peer with localDescriptionAnnounced := true, pendingLocalCandidates := [] } : RtcPeer).notify
      (.outboundSignal toPeerId negotiationId signal)).negotiationIsCurrent epoch negotiationId = true := h
  rw [emitCandidates_current _ hnext]
  simp [notify]

theorem said_announced (peer : RtcPeer) (negotiationId toPeerId : String) (signal : Signal) :
    said peer (announcedPeer peer negotiationId toPeerId signal) =
      .sent peer.connectionEpoch toPeerId negotiationId signal ::
        peer.pendingLocalCandidates.map (.sent peer.connectionEpoch toPeerId negotiationId ·) := by
  rw [said_of_notices ((signal :: peer.pendingLocalCandidates).map (.outboundSignal toPeerId negotiationId ·)) rfl]
  simp [saidBy, List.filterMap_map, Function.comp_def, announcedPeer]

/-- A task ends with the description of its connection. -/
theorem Sound.announce (hs : s.Sound) {n : Nat} {task : SignalTask} {target : String} (signal : Signal)
    (htask : s.tasks[n]? = some task) (hcurrent : s.peer.connectionEpochIsCurrent task.negotiation.epoch = true)
    (htarget : s.peer.targetPeer = some target)
    (hopened : .opened task.negotiation.epoch task.negotiation.connection target task.negotiation.negotiationId ∈ s.record)
    (hannouncing : task.announcing task.negotiation.epoch = true) (hdescribing : ∀ e, task.describing e = false)
    (hsignal : describes signal = true)
    (hgrounds : ∀ before, Grounds (s.record ++ before)
      (.sent task.negotiation.epoch target task.negotiation.negotiationId signal))
    (hlocal : .localDescribed task.negotiation.epoch task.negotiation.connection ∈ s.record) {peer : RtcPeer}
    (hpeer : ∃ negotiating, peer = announcedPeer { s.peer with negotiating } task.negotiation.negotiationId target signal) :
    ((s.moved peer).setTasks n []).Sound := by
  obtain ⟨negotiating, rfl⟩ := hpeer
  obtain ⟨hsome, hepoch, hname, -⟩ := hs.current (List.mem_of_getElem? htask) hcurrent
  have htasks := split_tasks htask
  have hledger := hs.ledger
  have hlive := hs.live _ hsome
  rw [htasks] at hledger hlive
  -- this task is the one that announces the connection, so nobody has done so before
  have hnone : s.record.countP (announces task.negotiation.epoch) = 0 := by
    have hone := hledger.oneDescription task.negotiation.epoch
    simp only [List.countP_append, List.countP_singleton, hannouncing, if_true] at hone
    omega
  have hunannounced : s.peer.localDescriptionAnnounced = false := by
    cases hannounced : s.peer.localDescriptionAnnounced with
    | false => rfl
    | true =>
      have hone := hlive.announced hannounced
      rw [hepoch, hnone] at hone
      cases hone
  have hkept := hlive.waiting hunannounced
  rw [hepoch] at hkept
  have hsaid : said s.peer (announcedPeer { s.peer with negotiating } task.negotiation.negotiationId target signal) =
      .sent task.negotiation.epoch target task.negotiation.negotiationId signal ::
        s.peer.pendingLocalCandidates.map (.sent task.negotiation.epoch target task.negotiation.negotiationId ·) := by
    rw [← hepoch]
    exact said_announced { s.peer with negotiating } _ _ _
  generalize hgrown : Happening.sent task.negotiation.epoch target task.negotiation.negotiationId signal ::
    s.peer.pendingLocalCandidates.map (Happening.sent task.negotiation.epoch target task.negotiation.negotiationId ·) = grown
    at hsaid
  have hmem : ∀ h ∈ grown, ∃ other, h = .sent task.negotiation.epoch target task.negotiation.negotiationId other ∧
      (other = signal ∨ describes other = false) := by
    intro h hin
    rw [← hgrown, List.mem_cons] at hin
    rcases hin with rfl | hin
    · exact ⟨signal, rfl, .inl rfl⟩
    · obtain ⟨candidate, hcandidate, rfl⟩ := List.mem_map.mp hin
      exact ⟨candidate, rfl, .inr (hlive.localCandidates candidate hcandidate)⟩
  have hcount : ∀ e, grown.countP (announces e) = if task.negotiation.epoch = e then 1 else 0 := by
    intro e
    rw [← hgrown, List.countP_cons, List.countP_map]
    rw [List.countP_eq_zero.mpr fun candidate hin => by simp [announces, hlive.localCandidates candidate hin]]
    simp [announces, hsignal]
  have hrecord : s.record ++ [] ++ said s.peer
      (announcedPeer { s.peer with negotiating } task.negotiation.negotiationId target signal) = s.record ++ grown := by
    rw [hsaid, List.append_nil]
  have hremote : ∀ e, grown.countP (describesRemote e) = 0 := fun e =>
    List.countP_eq_zero.mpr fun h hin => by
      obtain ⟨other, rfl, -⟩ := hmem h hin
      simp [describesRemote]
  constructor
  · change Ledger s.peer.connectionEpoch s.connections s.peer.pendingRemoteCandidates
      (s.tasks.take n ++ [] ++ s.tasks.drop (n + 1)) (s.record ++ [] ++ said s.peer _)
    rw [hrecord]
    refine hledger.advance (Nat.le_refl _) (Nat.le_refl _) (fun entry hin => .inl hin) (by simp) ?_ ?_ (by simp) ?_ ?_ ?_
    · intro h hin
      obtain ⟨other, rfl, -⟩ := hmem h hin
      refine ⟨by simp, fun e he => ?_⟩
      cases he
      exact Nat.le_of_eq hepoch.symm
    · intro e
      rw [hremote e]
      exact Nat.zero_le _
    · intro e
      rw [hcount e]
      simp only [List.countP_singleton, List.countP_nil, Nat.add_zero]
      split
      · rename_i hsame
        rw [← hsame, hannouncing, if_pos rfl]
      · exact Nat.zero_le _
    · refine hs.ledger.founded.append fun h hin before => ?_
      obtain ⟨other, rfl, rfl | hother⟩ := hmem h hin
      · exact hgrounds before
      · refine ⟨_, List.mem_append_left _ hopened, ?_⟩
        cases other with
        | offer sdp => cases hother
        | answer sdp => cases hother
        | iceCandidate candidate sdpMid sdpMLineIndex => exact List.mem_append_left _ hlocal
    · intro e
      by_cases hsame : task.negotiation.epoch = e
      · subst hsame
        rw [← hgrown]
        exact (hs.ledger.inOrder _).announce hsignal hlive.localCandidates hnone hkept
      · refine (hs.ledger.inOrder e).quiet fun h hin => ?_
        obtain ⟨other, rfl, -⟩ := hmem h hin
        exact hsame
  · intro connection hconnection
    change s.peer.peerConnection = some connection at hconnection
    rw [hsome] at hconnection
    cases hconnection
    change Live _ _ (s.tasks.take n ++ [] ++ s.tasks.drop (n + 1)) (s.record ++ [] ++ said s.peer _)
    rw [hrecord]
    obtain ⟨target', negotiationId', htarget', hname', hopened'⟩ := hlive.opened
    refine ⟨⟨target', negotiationId', htarget', hname', List.mem_append_left _ hopened'⟩, fun _ => ?_, fun h => ?_,
      fun hset => (hlive.described hset).imp fun _ hin => List.mem_append_left _ hin, fun hset hnone => ?_, fun _ => ?_,
      fun other hother hsame => ?_, fun h => ?_, fun _ => rfl, fun candidate hin => ?_⟩
    · change (s.record ++ grown).countP (announces s.peer.connectionEpoch) = 1
      rw [List.countP_append, hepoch, hnone, hcount, if_pos rfl]
    · cases h
    · change s.peer.remoteDescriptionSet = false at hset
      change (s.tasks.take n ++ [] ++ s.tasks.drop (n + 1)).countP
        (fun waiting : SignalTask => waiting.describing s.peer.connectionEpoch) = 0 at hnone
      change (s.record ++ grown).countP (describesRemote s.peer.connectionEpoch) = 0
      rw [List.countP_append, hremote, Nat.add_zero]
      exact (hs.live _ hsome).undescribed hset (describing_of_other htask (hdescribing _) hnone)
    · change Happening.localDescribed s.peer.connectionEpoch _ ∈ _
      rw [hepoch]
      exact List.mem_append_left _ hlocal
    · have hold := (hs.live _ hsome).stages other (by rcases mem_replaced hother with h | h; exact absurd h (by simp); exact h) hsame
      cases hstage : other.stage with
      | settingRemoteAnswer sdp =>
        rw [hstage] at hold
        exact ⟨rfl, hold.2⟩
      | creatingOffer toPeer => trivial
      | settingOffer toPeer => trivial
      | settingRemoteOffer fromPeer sdp => rw [hstage] at hold; exact hold
      | creatingAnswer fromPeer => rw [hstage] at hold; exact hold
      | settingAnswer fromPeer => rw [hstage] at hold; exact hold
      | addingPending candidate rest answering => rw [hstage] at hold; exact hold
      | addingCandidate candidate => rw [hstage] at hold; exact hold
    · cases h
    · cases hin

/-! ## A task runs -/

/-- A task that runs for the first time asks for what it is there for, unless this is a candidate. -/
theorem beginTask_cases (peer : RtcPeer) (negotiation : Negotiation) (readable : Signal → Except BrowserPlatformError Unit)
    (stage : SignalStage) :
    peer.beginTask negotiation readable stage = .waits stage ∨ ∃ candidate, stage = .addingCandidate candidate ∧
      (peer.beginTask negotiation readable stage = .done ∨
        ∃ error, peer.beginTask negotiation readable stage = .failed error) := by
  cases stage with
  | addingCandidate candidate =>
    cases candidate with
    | iceCandidate candidate sdpMid sdpMLineIndex =>
      rw [beginTask]
      split
      · exact .inr ⟨_, rfl, .inr ⟨_, rfl⟩⟩
      · split
        · exact .inl rfl
        · exact .inr ⟨_, rfl, .inl rfl⟩
    | offer sdp => exact .inr ⟨_, rfl, .inl rfl⟩
    | answer sdp => exact .inr ⟨_, rfl, .inl rfl⟩
  | _ => exact .inl rfl

theorem Sound.begun (hs : s.Sound) {n : Nat} {task : SignalTask} {readable : Signal → Except BrowserPlatformError Unit}
    (htask : s.tasks[n]? = some task) (hunasked : task.promise = .unasked) :
    (s.progressed n task s.peer (s.peer.beginTask task.negotiation readable task.stage)).Sound := by
  have hin : task ∈ s.tasks := List.mem_of_getElem? htask
  rcases beginTask_cases s.peer task.negotiation readable task.stage with hwaits | ⟨candidate, hstage, hends⟩
  · rw [hwaits]
    change ((s.moved s.peer).setTasks n [{ task with stage := task.stage, promise := .pending }]).Sound
    rw [moved_self s.peer rfl]
    refine hs.goesOn htask ?_ (fun e => rfl) (fun e hless => ?_) (fun e => id) fun hcurrent => ?_
    · obtain ⟨target, hopened, hstage⟩ := hs.ledger.started task hin
      refine ⟨target, hopened, hstage.imp fun hgranted => ?_⟩
      cases hgranted
    · rw [SignalTask.undescribed, hunasked]
      exact hless
    · obtain ⟨hepoch, connection, hconnection⟩ := connectionEpochIsCurrent_iff.mp hcurrent
      exact (hs.live connection hconnection).stages task hin hepoch.symm
  · have hnot : ∀ e, task.describing e = false := fun e => by simp [SignalTask.describing, hstage]
    rcases hends with hdone | ⟨error, hfailed⟩
    · rw [hdone]
      change ((s.moved s.peer).setTasks n []).Sound
      rw [moved_self s.peer rfl]
      exact hs.ended htask fun _ => hnot
    · rw [hfailed]
      refine hs.failed htask (fun e hdescribing => ?_) error
      rw [hnot e] at hdescribing
      cases hdescribing

/-- The answer of the browser, as far as it concerns the connection of the peer. -/
theorem continueTask_gone {peer : RtcPeer} {negotiation : Negotiation} (readable : Signal → Except BrowserPlatformError Unit)
    (localSdp : Except BrowserPlatformError String) (result : Except BrowserPlatformError Unit) (stage : SignalStage)
    (h : peer.connectionEpochIsCurrent negotiation.epoch = false) :
    peer.continueTask negotiation readable localSdp result stage = (abandoned stage, peer) := by
  unfold continueTask currentPromiseResult
  rw [h]
  rfl

theorem continueTask_refused {peer : RtcPeer} {negotiation : Negotiation}
    (readable : Signal → Except BrowserPlatformError Unit) (localSdp : Except BrowserPlatformError String)
    (error : BrowserPlatformError) (stage : SignalStage) (h : peer.connectionEpochIsCurrent negotiation.epoch = true) :
    peer.continueTask negotiation readable localSdp (.error error) stage = (.failed error, peer) := by
  unfold continueTask currentPromiseResult
  rw [h]
  rfl

theorem continueTask_granted {peer : RtcPeer} {negotiation : Negotiation}
    (readable : Signal → Except BrowserPlatformError Unit) (localSdp : Except BrowserPlatformError String)
    (stage : SignalStage) (h : peer.connectionEpochIsCurrent negotiation.epoch = true) :
    peer.continueTask negotiation readable localSdp (.ok ()) stage = peer.fulfilled negotiation readable localSdp stage := by
  unfold continueTask currentPromiseResult
  rw [h]
  rfl

/-- A task whose connection is gone. -/
theorem Sound.abandoned (hs : s.Sound) {n : Nat} {task : SignalTask} (htask : s.tasks[n]? = some task)
    (hgone : s.peer.connectionEpochIsCurrent task.negotiation.epoch = false) :
    (s.progressed n task s.peer (RtcPeer.abandoned task.stage)).Sound := by
  have hends : (s.progressed n task s.peer .done).Sound := by
    change ((s.moved s.peer).setTasks n []).Sound
    rw [moved_self s.peer rfl]
    refine hs.ended htask fun hcurrent => ?_
    rw [hgone] at hcurrent
    cases hcurrent
  cases hstage : task.stage with
  | addingPending candidate rest answering =>
    cases answering with
    | none => exact hends
    | some fromPeer =>
      change ((s.moved s.peer).setTasks n [{ task with stage := .creatingAnswer fromPeer, promise := .pending }]).Sound
      rw [moved_self s.peer rfl]
      refine hs.goesOn htask ?_ (fun e => by simp [SignalTask.describing, hstage]) (fun e hless => ?_) (fun e hless => ?_)
        fun hcurrent => ?_
      · obtain ⟨target, hopened, hfounded⟩ := hs.ledger.started task (List.mem_of_getElem? htask)
        rw [hstage] at hfounded
        exact ⟨target, hopened, hfounded.2.2 fromPeer rfl⟩
      · simp [SignalTask.undescribed, SignalTask.describing] at hless
      · simpa [SignalTask.announcing, hstage] using hless
      · rw [hgone] at hcurrent
        cases hcurrent
  | _ => exact hends

/-- A task whose connection is there goes on with what the browser has done. -/
theorem Sound.fulfilled (hs : s.Sound) {n : Nat} {task : SignalTask} {readable : Signal → Except BrowserPlatformError Unit}
    {localSdp : Except BrowserPlatformError String} {progress : Progressed} {peer : RtcPeer}
    (htask : s.tasks[n]? = some task) (hcurrent : s.peer.connectionEpochIsCurrent task.negotiation.epoch = true)
    (hgranted : task.granted)
    (h : s.peer.fulfilled task.negotiation readable localSdp task.stage = (progress, peer)) :
    (s.progressed n task peer progress).Sound := by
  have hin : task ∈ s.tasks := List.mem_of_getElem? htask
  obtain ⟨hsome, hepoch, hname, target, htarget, hfounded⟩ := hs.current hin hcurrent
  obtain ⟨target', hopened, hfounded'⟩ := hs.ledger.started task hin
  have hthere : s.peer.negotiationIsCurrent task.negotiation.epoch task.negotiation.negotiationId = true :=
    negotiationIsCurrent_iff.mpr ⟨hepoch, hname, _, hsome⟩
  have hstages := (hs.live _ hsome).stages task hin hepoch.symm
  have hsame : target' = target := by
    obtain ⟨target'', negotiationId, htarget'', hname'', hopened''⟩ := (hs.live _ hsome).opened
    rw [hepoch] at hopened''
    rw [(hs.ledger.oneTarget _ _ _ _ _ _ _ hopened hopened'').2.1]
    rw [htarget] at htarget''
    exact (Option.some.inj htarget'').symm
  subst hsame
  have hfails : (∀ e, task.describing e = false) → ∀ error, (s.progressed n task s.peer (.failed error)).Sound := by
    intro hnot error
    refine hs.failed htask (fun e hdescribing => ?_) error
    rw [hnot e] at hdescribing
    cases hdescribing
  have hgoes : ∀ stage : SignalStage, (∀ e, task.describing e = false) →
      TaskFounded s.record { task with stage, promise := .pending } →
      (∀ e, ({ task with stage, promise := .pending } : SignalTask).describing e = false) →
      (∀ e, ({ task with stage, promise := .pending } : SignalTask).announcing e = true → task.announcing e = true) →
      StageLive s.peer stage → (s.progressed n task s.peer (.waits stage)).Sound := by
    intro stage hnot hnew hother hannouncing hlive
    change ((s.moved s.peer).setTasks n [{ task with stage, promise := .pending }]).Sound
    rw [moved_self s.peer rfl]
    refine hs.goesOn htask hnew (fun e => by rw [hnot e, hother e]) (fun e hless => ?_) hannouncing fun _ => hlive
    rw [SignalTask.undescribed, hother e] at hless
    cases hless
  have hends : (∀ e, task.describing e = false) → (s.progressed n task s.peer .done).Sound := by
    intro hnot
    change ((s.moved s.peer).setTasks n []).Sound
    rw [moved_self s.peer rfl]
    exact hs.ended htask fun _ => hnot
  cases hstage : task.stage with
  | creatingOffer toPeer =>
    rw [hstage] at h hfounded hstages
    cases h
    exact hgoes _ (fun e => by simp [SignalTask.describing, hstage]) ⟨target', hopened, hfounded, fun hgranted => by cases hgranted⟩
      (fun e => by simp [SignalTask.describing]) (fun e hless => by simpa [SignalTask.announcing, hstage] using hless) trivial
  | settingOffer toPeer =>
    have hnot : ∀ e, task.describing e = false := fun e => by simp [SignalTask.describing, hstage]
    rw [hstage] at h hfounded
    dsimp only [RtcPeer.fulfilled] at h
    split at h
    · cases h
      exact hfails hnot _
    · rename_i sdp
      cases h
      refine hs.announce (.offer sdp) htask hcurrent htarget hopened (by simp [SignalTask.announcing, hstage]) hnot rfl ?_
        (hfounded.2 hgranted) ⟨false, ?_⟩
      · exact fun before => ⟨_, List.mem_append_left _ hopened, List.mem_append_left _ (hfounded.2 hgranted)⟩
      · have hnegotiating : s.peer.finishNegotiating task.negotiation.epoch = { s.peer with negotiating := false } :=
          if_pos hcurrent
        have hstill : ({ s.peer with negotiating := false } : RtcPeer).negotiationIsCurrent task.negotiation.epoch
            task.negotiation.negotiationId = true := hthere
        rw [hnegotiating, announceLocalDescription_current hstill, hfounded.1]
  | settingRemoteOffer fromPeer sdp =>
    rw [hstage] at h hfounded
    rw [RtcPeer.fulfilled] at h
    have hdone := hfounded.2.2 hgranted
    refine hs.remoteDescribed htask hcurrent (by simp [SignalTask.describing, hstage]) htarget
      ⟨hopened, ⟨_, hdone⟩, by simp, ?_⟩ (fun _ => by simp [SignalTask.announcing, hstage]) h
    intro other hother
    cases hother
    exact ⟨hfounded.1, _, hdone⟩
  | creatingAnswer fromPeer =>
    rw [hstage] at h hfounded hstages
    cases h
    exact hgoes _ (fun e => by simp [SignalTask.describing, hstage])
      ⟨target', hopened, hfounded.1, hfounded.2, fun hgranted => by cases hgranted⟩
      (fun e => by simp [SignalTask.describing]) (fun e hless => by simpa [SignalTask.announcing, hstage] using hless) hstages
  | settingAnswer fromPeer =>
    have hnot : ∀ e, task.describing e = false := fun e => by simp [SignalTask.describing, hstage]
    rw [hstage] at h hfounded
    dsimp only [RtcPeer.fulfilled] at h
    split at h
    · cases h
      exact hfails hnot _
    · rename_i sdp
      cases h
      have hdone := hfounded.2.2 hgranted
      refine hs.announce (.answer sdp) htask hcurrent htarget hopened (by simp [SignalTask.announcing, hstage]) hnot rfl ?_ hdone
        ⟨s.peer.negotiating, ?_⟩
      · exact fun before => ⟨_, List.mem_append_left _ hopened, List.mem_append_left _ hdone,
          hfounded.2.1.imp fun _ hin => List.mem_append_left _ hin⟩
      · rw [announceLocalDescription_current hthere, hfounded.1]
  | settingRemoteAnswer sdp =>
    rw [hstage] at h hfounded
    rw [RtcPeer.fulfilled] at h
    exact hs.remoteDescribed htask hcurrent (by simp [SignalTask.describing, hstage]) htarget
      ⟨hopened, ⟨_, hfounded.2 hgranted⟩, by simp, by simp⟩ (fun hanswers => by cases hanswers) h
  | addingPending candidate rest answering =>
    have hnot : ∀ e, task.describing e = false := fun e => by simp [SignalTask.describing, hstage]
    rw [hstage] at h hfounded hstages
    rw [RtcPeer.fulfilled, if_pos hthere] at h
    cases h
    have hfollows : Follows s.record task.negotiation target' answering rest :=
      ⟨hopened, hfounded.1, fun waiting hin => hfounded.2.1 waiting (List.mem_cons_of_mem _ hin), hfounded.2.2⟩
    rcases applyCandidates_cases s.peer task.negotiation readable answering rest with
      ⟨next, others, hsub, happly⟩ | happly | ⟨error, happly⟩
    · rw [happly]
      refine hgoes _ hnot (hfollows.adding hsub) (fun e => by simp [SignalTask.describing]) (fun e hless => ?_) hstages
      cases answering with
      | none => simp [SignalTask.announcing] at hless
      | some fromPeer => simpa [SignalTask.announcing, hstage] using hless
    · rw [happly]
      cases answering with
      | none => exact hends hnot
      | some fromPeer =>
        exact hgoes _ hnot hfollows.creating (fun e => by simp [SignalTask.describing])
          (fun e hless => by simpa [SignalTask.announcing, hstage] using hless) hstages
    · rw [happly]
      exact hfails hnot _
  | addingCandidate candidate =>
    rw [hstage] at h
    cases h
    exact hends fun e => by simp [SignalTask.describing, hstage]

theorem Sound.poll (hs : s.Sound) {n : Nat} {readable : Signal → Except BrowserPlatformError Unit}
    {localSdp : Except BrowserPlatformError String} {s' : Signalling} (h : s.poll n readable localSdp = some s') :
    s'.Sound := by
  unfold Signalling.poll at h
  split at h
  · cases h
  rename_i task htask
  split at h
  · rename_i hunasked
    cases h
    exact hs.begun htask hunasked
  · cases h
  · rename_i result hsettled
    generalize hcontinued : s.peer.continueTask task.negotiation readable localSdp result task.stage = continued at h
    obtain ⟨progress, peer⟩ := continued
    cases h
    cases hcurrent : s.peer.connectionEpochIsCurrent task.negotiation.epoch with
    | false =>
      rw [continueTask_gone readable localSdp result task.stage hcurrent] at hcontinued
      cases hcontinued
      exact hs.abandoned htask hcurrent
    | true =>
      cases result with
      | error error =>
        rw [continueTask_refused readable localSdp error task.stage hcurrent] at hcontinued
        cases hcontinued
        refine hs.failed htask (fun e hdescribing => ?_) error
        rw [SignalTask.undescribed, hdescribing, hsettled]
        rfl
      | ok granted =>
        rw [continueTask_granted readable localSdp task.stage hcurrent] at hcontinued
        exact hs.fulfilled htask hcurrent hsettled hcontinued

end Signalling

end P2PTransmission.Rtc
