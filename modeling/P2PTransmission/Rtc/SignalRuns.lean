import P2PTransmission.Rtc.SignalTaskSteps

/-!
# Runs of signalling

Whatever the order in which the application, the other side and the browser act, the record of a peer is orderly
(`signalling_orderly`), but for the candidates that come after the sixty-fourth while the description is not ready. A task
that was started for an earlier connection changes nothing about the one that the peer has.
-/

set_option autoImplicit false

namespace P2PTransmission.Rtc

open Wire (Signal)
open Happening (announces describesRemote gatheredIn candidateSent Grounds)

namespace Signalling

open RtcPeer

variable {s : Signalling}

/-! ## What the calls do -/

theorem moved_moved (s : Signalling) (peer : RtcPeer) (happened happened' : List Happening) :
    (s.moved s.peer happened).moved peer happened' = s.moved peer (happened ++ happened') := by
  unfold moved
  rw [(silent_refl s.peer).said]
  simp only [List.append_nil, List.append_assoc]

theorem Sound.connected (hs : s.Sound) : s.connected.Sound := by
  refine ⟨?_, hs.live⟩
  have hledger := hs.ledger
  exact { hledger with
    built := fun epoch connection target negotiationId hin =>
      Nat.lt_succ_of_lt (hledger.built epoch connection target negotiationId hin) }

/-- The tasks stay, another is started perhaps, and something happens that has nothing to do with candidates. -/
theorem Sound.grown (hs : s.Sound) (peer : RtcPeer) (grown : List Happening) (new : List SignalTask)
    (hepoch : s.peer.connectionEpoch ≤ peer.connectionEpoch)
    (hqueue : ∀ entry ∈ peer.pendingRemoteCandidates,
      entry ∈ s.peer.pendingRemoteCandidates ∨ .received entry.1 entry.2.1 entry.2.2 ∈ s.record ++ grown)
    (hsilent : Silent s.peer peer) (hnew : ∀ task ∈ new, TaskFounded (s.record ++ grown) task)
    (hheard : ∀ h ∈ grown, ∃ fromPeer negotiationId signal, h = .received fromPeer negotiationId signal)
    (hremote : ∀ e, new.countP (·.undescribed e) = 0) (hdescriber : ∀ e, new.countP (·.describing e) = 0)
    (hdescription : ∀ e, new.countP (·.announcing e) = 0)
    (hlive : ∀ connection, peer.peerConnection = some connection →
      Live peer connection (s.tasks ++ new) (s.record ++ grown)) :
    ({ s.moved peer grown with tasks := s.tasks ++ new } : Signalling).Sound := by
  have hrecord : s.record ++ grown ++ said s.peer peer = s.record ++ grown := by rw [hsilent.said, List.append_nil]
  have hcount : ∀ p : Happening → Bool, (∀ fromPeer negotiationId signal, p (.received fromPeer negotiationId signal) = false) →
      grown.countP p = 0 := by
    intro p hp
    refine List.countP_eq_zero.mpr fun h hin => ?_
    obtain ⟨fromPeer, negotiationId, signal, rfl⟩ := hheard h hin
    simp [hp]
  have hledger := hs.ledger
  rw [← List.append_nil (s.tasks), ← List.append_nil (s.tasks)] at hledger
  constructor
  · change Ledger peer.connectionEpoch s.connections peer.pendingRemoteCandidates (s.tasks ++ new)
      (s.record ++ grown ++ said s.peer peer)
    rw [hrecord, ← List.append_nil (s.tasks ++ new)]
    refine hledger.advance hepoch (Nat.le_refl _) hqueue hnew ?_ ?_ ?_ ?_ ?_ ?_
    · intro h hin
      obtain ⟨fromPeer, negotiationId, signal, rfl⟩ := hheard h hin
      simp [Closed, Happening.epoch?]
    · intro e
      rw [hcount _ fun _ _ _ => rfl, hremote e]
      exact Nat.zero_le _
    · intro e
      rw [hdescriber e]
      exact Nat.zero_le _
    · intro e
      rw [hcount _ fun _ _ _ => rfl, hdescription e]
      exact Nat.zero_le _
    · refine hs.ledger.founded.append fun h hin _ => ?_
      obtain ⟨fromPeer, negotiationId, signal, rfl⟩ := hheard h hin
      trivial
    · refine fun e => (hs.ledger.inOrder e).quiet fun h hin => ?_
      obtain ⟨fromPeer, negotiationId, signal, rfl⟩ := hheard h hin
      trivial
  · intro connection hconnection
    change Live peer connection (s.tasks ++ new) (s.record ++ grown ++ said s.peer peer)
    rw [hrecord]
    exact hlive connection hconnection

theorem Sound.heard (hs : s.Sound) (fromPeer negotiationId : String) (signal : Signal) :
    (s.moved s.peer [.received fromPeer negotiationId signal]).Sound := by
  have hgrown := hs.grown s.peer [.received fromPeer negotiationId signal] [] (Nat.le_refl _)
    (fun entry hin => .inl hin) (silent_of_same rfl) (by simp) (by simp) (by simp) (by simp) (by simp) fun connection hconnection => by
      rw [List.append_nil]
      exact (hs.live connection hconnection).same ⟨rfl, rfl, rfl, rfl, rfl⟩ rfl rfl (by simp [Happening.quiet])
        (by simp [describesRemote])
  rw [List.append_nil] at hgrown
  exact hgrown

/-- The connection is gone. -/
theorem Sound.gone (hs : s.Sound) {peer : RtcPeer} (hgone : Gone s.peer peer) : (s.moved peer).Sound := by
  have hgrown := hs.grown peer [] [] hgone.connectionEpoch
    (fun entry hin => .inl (hgone.pendingRemoteCandidates hin)) hgone.silent (by simp) (by simp) (by simp) (by simp) (by simp)
    fun connection hconnection => by
      rw [hgone.peerConnection] at hconnection
      cases hconnection
  rw [List.append_nil] at hgrown
  exact hgrown

/-- The negotiation goes on as it was. -/
theorem Sound.aside (hs : s.Sound) {peer : RtcPeer} (hsame : SameNegotiation s.peer peer) : (s.moved peer).Sound := by
  have hgrown := hs.grown peer [] [] (Nat.le_of_eq hsame.connectionEpoch.symm)
    (fun entry hin => .inl (by rwa [hsame.pendingRemoteCandidates] at hin)) hsame.silent (by simp) (by simp) (by simp) (by simp)
    (by simp) fun connection hconnection => by
      rw [List.append_nil]
      rw [hsame.peerConnection] at hconnection
      exact (hs.live connection hconnection).same
        ⟨hsame.connectionEpoch, hsame.targetPeer, hsame.negotiationId, hsame.localDescriptionAnnounced,
          hsame.pendingLocalCandidates⟩ hsame.remoteDescriptionSet hsame.remoteDescriptionPending (by simp) (by simp)
  rw [List.append_nil] at hgrown
  exact hgrown

theorem describing_epoch (e : Nat) (task : SignalTask) (h : task.describing e = true) : task.negotiation.epoch = e := by
  rw [SignalTask.describing, Bool.and_eq_true, beq_iff_eq] at h
  exact h.1

theorem undescribed_epoch (e : Nat) (task : SignalTask) (h : task.undescribed e = true) : task.negotiation.epoch = e := by
  rw [SignalTask.undescribed, Bool.and_eq_true] at h
  exact describing_epoch e task h.1

theorem announcing_epoch (e : Nat) (task : SignalTask) (h : task.announcing e = true) : task.negotiation.epoch = e := by
  rw [SignalTask.announcing, Bool.and_eq_true, beq_iff_eq] at h
  exact h.1

theorem describesRemote_epoch (e : Nat) (happening : Happening) (h : describesRemote e happening = true) :
    happening.epoch? = some e := by
  cases happening with
  | remoteDescribed epoch connection description =>
    rw [describesRemote, beq_iff_eq] at h
    rw [h]
    rfl
  | _ => cases h

theorem announces_epoch (e : Nat) (happening : Happening) (h : announces e happening = true) :
    happening.epoch? = some e := by
  cases happening with
  | sent epoch toPeerId negotiationId signal =>
    rw [announces, Bool.and_eq_true, beq_iff_eq] at h
    rw [h.1]
    rfl
  | _ => cases h

/-- Another connection is opened, and a task started for it. -/
theorem Sound.opens (hs : s.Sound) {peer : RtcPeer} {target negotiationId : String} {stage : SignalStage}
    (hopens : Opens s.peer peer target negotiationId s.connections)
    (hstage : stage = .creatingOffer target ∨
      ∃ sdp, stage = .settingRemoteOffer target sdp ∧ .received target negotiationId (.offer sdp) ∈ s.record) :
    (((s.moved peer [.opened peer.connectionEpoch s.connections target negotiationId]).spawn
      ⟨⟨s.connections, peer.connectionEpoch, negotiationId⟩, stage, .unasked⟩).connected).Sound := by
  have hledger := hs.ledger
  have hlater : ∀ {e connection target negotiationId}, .opened e connection target negotiationId ∈ s.record →
      e < peer.connectionEpoch :=
    fun hin => Nat.lt_of_le_of_lt (hledger.within _ hin _ rfl) hopens.connectionEpoch
  have hrecord : s.record ++ [.opened peer.connectionEpoch s.connections target negotiationId] ++ said s.peer peer =
      s.record ++ [.opened peer.connectionEpoch s.connections target negotiationId] := by
    rw [hopens.silent.said, List.append_nil]
  have hnoRecord := hledger.fresh_record hopens.connectionEpoch
  have hnoTask := hledger.fresh_tasks hopens.connectionEpoch
  generalize htask : (⟨⟨s.connections, peer.connectionEpoch, negotiationId⟩, stage, .unasked⟩ : SignalTask) = task
  have hfounded : TaskFounded (s.record ++ [.opened peer.connectionEpoch s.connections target negotiationId]) task := by
    rw [← htask]
    refine ⟨target, by simp, ?_⟩
    rcases hstage with rfl | ⟨sdp, rfl, hheard⟩
    · rfl
    · exact ⟨rfl, List.mem_append_left _ hheard, fun hgranted => by cases hgranted⟩
  have hepoch : task.negotiation.epoch = peer.connectionEpoch := by rw [← htask]
  have hnone : ∀ p : Happening → Bool, (∀ h, p h = true → h.epoch? = some peer.connectionEpoch) → s.record.countP p = 0 :=
    fun p hp => List.countP_eq_zero.mpr fun h hin htrue => hnoRecord h hin (hp h htrue)
  have hnobody : ∀ p : SignalTask → Bool, (∀ t, p t = true → t.negotiation.epoch = peer.connectionEpoch) →
      s.tasks.countP p = 0 :=
    fun p hp => List.countP_eq_zero.mpr fun t hin htrue => hnoTask t hin (hp t htrue)
  -- a count of the connection starts with the new task, and the others do not change
  have hcount : ∀ (p : Nat → Happening → Bool) (q : Nat → SignalTask → Bool), (∀ e h, p e h = true → h.epoch? = some e) →
      (∀ e t, q e t = true → t.negotiation.epoch = e) → (∀ e, s.record.countP (p e) + s.tasks.countP (q e) ≤ 1) →
      (∀ e, p e (Happening.opened peer.connectionEpoch s.connections target negotiationId) = false) →
      ∀ e, (s.record ++ [Happening.opened peer.connectionEpoch s.connections target negotiationId]).countP (p e) +
        (s.tasks ++ [task]).countP (q e) ≤ 1 := by
    intro p q hp hq hone hopened e
    have hnew : List.countP (p e) [Happening.opened peer.connectionEpoch s.connections target negotiationId] = 0 := by
      rw [List.countP_singleton, hopened]
      rfl
    rw [List.countP_append, List.countP_append, hnew]
    have hold := hone e
    cases htrue : q e task with
    | true =>
      have hsame := hq e task htrue
      rw [hepoch] at hsame
      subst hsame
      rw [hnone _ (hp _), hnobody _ (hq _)]
      simp [htrue]
    | false =>
      have hzero : List.countP (q e) [task] = 0 := by simp [htrue]
      omega
  constructor
  · change Ledger peer.connectionEpoch (s.connections + 1) peer.pendingRemoteCandidates (s.tasks ++ [_])
      (s.record ++ [.opened peer.connectionEpoch s.connections target negotiationId] ++ said s.peer peer)
    rw [hrecord]
    refine ⟨fun h hin e he => ?_, fun e c t n hin => ?_, fun e c c' t t' n n' hin hin' => ?_, fun e e' c t t' n n' hin hin' => ?_,
      fun other hin => ?_, fun entry hin => ?_, hcount _ _ describesRemote_epoch undescribed_epoch hledger.oneRemote fun e => rfl, fun e => ?_,
      hcount _ _ announces_epoch announcing_epoch hledger.oneDescription fun e => rfl, ?_, fun e => ?_⟩
    · rcases List.mem_append.mp hin with hin | hin
      · exact (hledger.within h hin e he).trans (Nat.le_of_lt hopens.connectionEpoch)
      · rw [List.mem_singleton.mp hin] at he
        cases he
        exact Nat.le_refl _
    · rcases List.mem_append.mp hin with hin | hin
      · exact Nat.lt_succ_of_lt (hledger.built e c t n hin)
      · cases List.mem_singleton.mp hin
        exact Nat.lt_succ_self _
    · rcases List.mem_append.mp hin with hin | hin <;> rcases List.mem_append.mp hin' with hin' | hin'
      · exact hledger.oneTarget e c c' t t' n n' hin hin'
      · cases List.mem_singleton.mp hin'
        exact absurd (hlater hin) (Nat.lt_irrefl _)
      · cases List.mem_singleton.mp hin
        exact absurd (hlater hin') (Nat.lt_irrefl _)
      · cases List.mem_singleton.mp hin
        cases List.mem_singleton.mp hin'
        exact ⟨rfl, rfl, rfl⟩
    · rcases List.mem_append.mp hin with hin | hin <;> rcases List.mem_append.mp hin' with hin' | hin'
      · exact hledger.oneEpoch e e' c t t' n n' hin hin'
      · cases List.mem_singleton.mp hin'
        exact absurd (hledger.built _ _ _ _ hin) (Nat.lt_irrefl _)
      · cases List.mem_singleton.mp hin
        exact absurd (hledger.built _ _ _ _ hin') (Nat.lt_irrefl _)
      · cases List.mem_singleton.mp hin
        cases List.mem_singleton.mp hin'
        rfl
    · rcases List.mem_append.mp hin with hin | hin
      · exact (hledger.started other hin).mono
      · rw [List.mem_singleton.mp hin]
        exact hfounded
    · exact List.mem_append_left _ (hledger.queued entry (hopens.pendingRemoteCandidates hin))
    · have hone := hledger.oneDescriber e
      rw [List.countP_append]
      cases htrue : task.describing e with
      | true =>
        have hsame := describing_epoch e task htrue
        rw [hepoch] at hsame
        subst hsame
        rw [hnobody _ (describing_epoch _)]
        simp [htrue]
      | false =>
        have hzero : List.countP (·.describing e) [task] = 0 := by simp [htrue]
        omega
    · refine hledger.founded.snoc fun e c t n hin => ⟨hlater hin, ?_⟩
      exact Nat.ne_of_lt (hledger.built e c t n hin)
    · exact (hledger.inOrder e).quiet_snoc trivial
  · intro connection hconnection
    change peer.peerConnection = some connection at hconnection
    rw [hopens.peerConnection] at hconnection
    cases hconnection
    change Live peer _ (s.tasks ++ [_])
      (s.record ++ [.opened peer.connectionEpoch s.connections target negotiationId] ++ said s.peer peer)
    rw [hrecord]
    refine ⟨⟨target, negotiationId, hopens.targetPeer, hopens.negotiationId, by simp⟩, fun h => ?_, fun _ => ?_, fun h => ?_,
      fun _ _ => ?_, fun h => ?_, fun other hin hsame => ?_, fun _ => ?_, fun h => ?_, fun candidate hin => ?_⟩
    · rw [hopens.localDescriptionAnnounced] at h
      cases h
    · rw [List.countP_append, hnone _ (announces_epoch _)]
      rfl
    · rw [hopens.remoteDescriptionSet] at h
      cases h
    · rw [List.countP_append, hnone _ (describesRemote_epoch _)]
      rfl
    · rw [hopens.localDescriptionAnnounced] at h
      cases h
    · rcases List.mem_append.mp hin with hin | hin
      · exact absurd hsame (hnoTask other hin)
      · rw [List.mem_singleton.mp hin, ← htask]
        rcases hstage with rfl | ⟨sdp, rfl, -⟩
        · trivial
        · exact hopens.remoteDescriptionSet
    · have hgathered : s.record.filterMap (gatheredIn peer.connectionEpoch) = [] := by
        refine List.filterMap_eq_nil_iff.mpr fun h hin => ?_
        cases h with
        | gathered e candidate => exact if_neg fun hsame => hnoRecord _ hin (by rw [hsame]; rfl)
        | _ => rfl
      rw [List.filterMap_append, hgathered, hopens.pendingLocalCandidates]
      rfl
    · exact hopens.pendingLocalCandidates
    · rw [hopens.pendingLocalCandidates] at hin
      cases hin

/-- An answer is taken: this is the only task that describes the connection now. -/
theorem Sound.answered (hs : s.Sound) {fromPeer negotiationId sdp : String} {connection : ConnectionId}
    (htarget : s.peer.targetPeer = some fromPeer) (hname : s.peer.negotiationId = some negotiationId)
    (hconnection : s.peer.peerConnection = some connection) (hannounced : s.peer.localDescriptionAnnounced = true)
    (hpending : s.peer.remoteDescriptionPending = false) (hset : s.peer.remoteDescriptionSet = false)
    (hheard : .received fromPeer negotiationId (.answer sdp) ∈ s.record) :
    ((s.moved { s.peer with remoteDescriptionPending := true }).spawn
      ⟨⟨connection, s.peer.connectionEpoch, negotiationId⟩, .settingRemoteAnswer sdp, .unasked⟩).Sound := by
  have hledger := hs.ledger
  have hlive := hs.live connection hconnection
  have hopened : .opened s.peer.connectionEpoch connection fromPeer negotiationId ∈ s.record := by
    obtain ⟨target, name, htarget', hname', hopened⟩ := hlive.opened
    rw [htarget] at htarget'
    rw [hname] at hname'
    cases htarget'
    cases hname'
    exact hopened
  -- an offer that is being taken is not announced yet, and an answer that is being taken is flagged
  have hnobody : s.tasks.countP (·.describing s.peer.connectionEpoch) = 0 := by
    refine List.countP_eq_zero.mpr fun task hin hdescribing => ?_
    have hepoch := describing_epoch _ task hdescribing
    have hstage := hlive.stages task hin hepoch
    cases htask : task.stage with
    | settingRemoteOffer offering sdp =>
      have hone := hledger.oneDescription s.peer.connectionEpoch
      have hmore : 0 < s.tasks.countP (·.announcing s.peer.connectionEpoch) :=
        List.countP_pos_iff.mpr ⟨task, hin, by simp [SignalTask.announcing, htask, hepoch]⟩
      rw [hlive.announced hannounced] at hone
      omega
    | settingRemoteAnswer sdp =>
      rw [htask] at hstage
      rw [hstage.2.1] at hpending
      cases hpending
    | _ => simp [SignalTask.describing, htask] at hdescribing
  have hunheard := hlive.undescribed hset hnobody
  have hrecord : s.record ++ [] ++ said s.peer { s.peer with remoteDescriptionPending := true } = s.record := by
    have hsilent : Silent s.peer { s.peer with remoteDescriptionPending := true } := silent_of_same rfl
    rw [hsilent.said, List.append_nil, List.append_nil]
  generalize htask : (⟨⟨connection, s.peer.connectionEpoch, negotiationId⟩, .settingRemoteAnswer sdp, .unasked⟩ : SignalTask) =
    task
  have hepoch : task.negotiation.epoch = s.peer.connectionEpoch := by rw [← htask]
  have hsilent : ∀ e, task.announcing e = false := fun e => by
    rw [← htask]
    simp [SignalTask.announcing]
  constructor
  · change Ledger s.peer.connectionEpoch s.connections s.peer.pendingRemoteCandidates (s.tasks ++ [task])
      (s.record ++ [] ++ said s.peer _)
    rw [hrecord]
    refine { hledger with started := fun other hin => ?_, oneRemote := fun e => ?_, oneDescriber := fun e => ?_,
                          oneDescription := fun e => ?_ }
    · rcases List.mem_append.mp hin with hin | hin
      · exact hledger.started other hin
      · rw [List.mem_singleton.mp hin, ← htask]
        exact ⟨fromPeer, hopened, hheard, fun hgranted => by cases hgranted⟩
    · have hone := hledger.oneRemote e
      rw [List.countP_append]
      cases htrue : task.undescribed e with
      | true =>
        have hsame := undescribed_epoch e task htrue
        rw [hepoch] at hsame
        subst hsame
        have hless := undescribed_le s.tasks s.peer.connectionEpoch
        have hlast : List.countP (·.undescribed s.peer.connectionEpoch) [task] = 1 := by simp [htrue]
        omega
      | false =>
        have hzero : List.countP (·.undescribed e) [task] = 0 := by simp [htrue]
        omega
    · have hone := hledger.oneDescriber e
      rw [List.countP_append]
      cases htrue : task.describing e with
      | true =>
        have hsame := describing_epoch e task htrue
        rw [hepoch] at hsame
        subst hsame
        rw [hnobody]
        simp [htrue]
      | false =>
        have hzero : List.countP (·.describing e) [task] = 0 := by simp [htrue]
        omega
    · have hone := hledger.oneDescription e
      have hzero : List.countP (·.announcing e) [task] = 0 := by simp [hsilent]
      rw [List.countP_append]
      omega
  · intro current hcurrent
    change s.peer.peerConnection = some current at hcurrent
    rw [hconnection] at hcurrent
    cases hcurrent
    change Live _ _ (s.tasks ++ [task]) (s.record ++ [] ++ said s.peer _)
    rw [hrecord]
    refine { hlive with undescribed := fun _ hnone => ?_, stages := fun other hin hsame => ?_ }
    · exact hunheard
    · rcases List.mem_append.mp hin with hin | hin
      · have hstage := hlive.stages other hin hsame
        cases hother : other.stage with
        | settingRemoteAnswer sdp =>
          rw [hother] at hstage
          exact ⟨hstage.1, rfl, hstage.2.2⟩
        | _ =>
          rw [hother] at hstage
          exact hstage
      · rw [List.mem_singleton.mp hin, ← htask]
        exact ⟨hannounced, rfl, hset⟩

/-- A candidate of the other side waits. -/
theorem Sound.queued (hs : s.Sound) {fromPeer negotiationId : String} {signal : Signal}
    (hheard : .received fromPeer negotiationId signal ∈ s.record) :
    (s.moved { s.peer with
      pendingRemoteCandidates := s.peer.pendingRemoteCandidates ++ [(fromPeer, negotiationId, signal)] }).Sound := by
  have hgrown := hs.grown { s.peer with
      pendingRemoteCandidates := s.peer.pendingRemoteCandidates ++ [(fromPeer, negotiationId, signal)] } [] [] (Nat.le_refl _)
    (fun entry hin => by
      rcases List.mem_append.mp hin with hin | hin
      · exact .inl hin
      · rw [List.mem_singleton.mp hin, List.append_nil]
        exact .inr hheard) (silent_of_same rfl) (by simp) (by simp) (by simp) (by simp) (by simp)
    fun connection hconnection => by
      rw [List.append_nil]
      exact (hs.live connection hconnection).same ⟨rfl, rfl, rfl, rfl, rfl⟩ rfl rfl (by simp) (by simp)
  rw [List.append_nil] at hgrown
  exact hgrown

/-- A candidate of the other side is to be added. -/
theorem Sound.added (hs : s.Sound) {fromPeer negotiationId : String} {signal : Signal} {connection : ConnectionId}
    (hforeign : s.peer.foreign fromPeer negotiationId = false) (hconnection : s.peer.peerConnection = some connection)
    (hset : s.peer.remoteDescriptionSet = true) (hheard : .received fromPeer negotiationId signal ∈ s.record) :
    ((s.moved s.peer).spawn
      ⟨⟨connection, s.peer.connectionEpoch, negotiationId⟩, .addingCandidate signal, .unasked⟩).Sound := by
  have hlive := hs.live connection hconnection
  have hopened : .opened s.peer.connectionEpoch connection fromPeer negotiationId ∈ s.record := by
    obtain ⟨target, name, htarget, hname, hopened⟩ := hlive.opened
    unfold foreign at hforeign
    rw [htarget, hname, Option.any_some, Option.any_some, Bool.or_eq_false_iff, bne_eq_false_iff_eq, bne_eq_false_iff_eq]
      at hforeign
    rwa [hforeign.1, hforeign.2] at hopened
  refine hs.grown s.peer [] _ (Nat.le_refl _) (fun entry hin => .inl hin) (silent_refl s.peer) ?_ (by simp)
    (by simp [SignalTask.undescribed, SignalTask.describing]) (by simp [SignalTask.describing])
    (by simp [SignalTask.announcing]) ?_
  · intro task hin
    rw [List.mem_singleton.mp hin, List.append_nil]
    exact ⟨fromPeer, hopened, hlive.described hset, hheard⟩
  · intro current hcurrent
    rw [hconnection] at hcurrent
    cases hcurrent
    rw [List.append_nil]
    refine { hlive with undescribed := fun hunset _ => ?_, stages := fun other hin hsame => ?_ }
    · rw [hset] at hunset
      cases hunset
    · rcases List.mem_append.mp hin with hin | hin
      · exact hlive.stages other hin hsame
      · rw [List.mem_singleton.mp hin]
        exact hset

theorem nextConnection_ok {built : Except String Unit} {connection : ConnectionId}
    (h : s.nextConnection built = .ok connection) : connection = s.connections := by
  cases built with
  | error message => cases h
  | ok done => exact (Except.ok.inj h).symm

theorem Sound.acceptSignal (hs : s.Sound) (fromPeer negotiationId : String) (signal : Signal) (nowMs : Nat)
    (built : Except String Unit) : (s.acceptSignal fromPeer negotiationId signal nowMs built).Sound := by
  unfold Signalling.acceptSignal
  generalize haccepted : s.peer.acceptSignal fromPeer negotiationId signal nowMs (s.nextConnection built) = accepted
  obtain ⟨answer, peer⟩ := accepted
  have hheard := hs.heard fromPeer negotiationId signal
  have hin : .received fromPeer negotiationId signal ∈ (s.moved s.peer [.received fromPeer negotiationId signal]).record := by
    simp [moved]
  have hcases := acceptSignal_accepted haccepted
  dsimp only
  generalize startedTask answer = started at hcases
  cases hcases with
  | unchanged => exact hheard.connected
  | gone hgone =>
    have hdone := (hheard.gone hgone).connected
    rw [moved_moved] at hdone
    exact hdone
  | opened hbuilt hopens =>
    obtain rfl := nextConnection_ok hbuilt
    have hdone := hheard.opens hopens (.inr ⟨_, rfl, hin⟩)
    rw [moved_moved] at hdone
    exact hdone
  | answered htarget hname hconnection hannounced hpending hset =>
    have hdone := (hheard.answered htarget hname hconnection hannounced hpending hset hin).connected
    rw [moved_moved] at hdone
    exact hdone
  | queued =>
    have hdone := (hheard.queued hin).connected
    rw [moved_moved] at hdone
    exact hdone
  | added hforeign hconnection hset =>
    have hdone := (hheard.added hforeign hconnection hset hin).connected
    rw [moved_moved] at hdone
    exact hdone

theorem Sound.startOffer (hs : s.Sound) (targetPeer : String) (drawn : Except String String) (nowMs : Nat)
    (built : Except String Unit) (channel : ChannelId) : (s.startOffer targetPeer drawn nowMs built channel).Sound := by
  unfold Signalling.startOffer
  generalize hoffered : s.peer.startOffer targetPeer drawn nowMs (s.nextConnection built) channel = offered
  obtain ⟨answer, peer⟩ := offered
  have hcases := startOffer_offered hoffered
  dsimp only
  generalize startedTask answer = started at hcases
  cases hcases with
  | unchanged =>
    have hdone := hs.connected
    rw [← moved_self s.peer rfl] at hdone
    exact hdone
  | gone hgone => exact (hs.gone hgone).connected
  | opened hbuilt hopens =>
    obtain rfl := nextConnection_ok hbuilt
    exact hs.opens hopens (.inl rfl)

/-! ## Candidates of this side -/

/-- What `on_ice` does with a candidate while its connection is there. -/
inductive Gathered (peer : RtcPeer) (candidate : Signal) : RtcPeer → List Happening → Prop
  | sent {target negotiationId : String} :
      peer.localDescriptionAnnounced = true → peer.targetPeer = some target → peer.negotiationId = some negotiationId →
      Gathered peer candidate (peer.notify (.outboundSignal target negotiationId candidate))
        [.sent peer.connectionEpoch target negotiationId candidate]
  | kept :
      peer.localDescriptionAnnounced = false → peer.pendingLocalCandidates.length < NEGOTIATION_SIGNAL_LIMIT →
      Gathered peer candidate { peer with pendingLocalCandidates := peer.pendingLocalCandidates ++ [candidate] } []
  | dropped {message : String} :
      peer.localDescriptionAnnounced = false → NEGOTIATION_SIGNAL_LIMIT ≤ peer.pendingLocalCandidates.length →
      Gathered peer candidate (peer.negotiationFailed message) []

theorem onIceCandidate_gathered {peer : RtcPeer} {epoch : Nat} {negotiationId target : String} (candidate : LocalCandidate)
    (hcurrent : peer.negotiationIsCurrent epoch negotiationId = true) (htarget : peer.targetPeer = some target) :
    Gathered peer candidate.signal (peer.onIceCandidate epoch negotiationId (some candidate))
      (said peer (peer.onIceCandidate epoch negotiationId (some candidate))) := by
  obtain ⟨rfl, hname, -⟩ := negotiationIsCurrent_iff.mp hcurrent
  unfold onIceCandidate queueOrEmitLocalCandidate
  rw [if_pos hcurrent]
  dsimp only
  rw [if_pos hcurrent, htarget]
  dsimp only
  split
  · rename_i hannounced
    rw [said_of_notices [.outboundSignal target negotiationId candidate.signal] rfl]
    exact .sent hannounced htarget hname
  rename_i hannounced
  rw [Bool.not_eq_true] at hannounced
  split
  · rename_i hroom
    have hsilent : Silent peer
        { peer with pendingLocalCandidates := peer.pendingLocalCandidates ++ [candidate.signal] } := silent_of_same rfl
    rw [hsilent.said]
    exact .kept hannounced hroom
  · rename_i hfull
    rw [said_of_notices [.negotiationFailed "too many queued local ICE candidates"] rfl]
    exact .dropped hannounced (Nat.le_of_not_lt hfull)

theorem Sound.gathered (hs : s.Sound) {candidate : LocalCandidate} {connection : ConnectionId} {peer : RtcPeer}
    {grown : List Happening} (hconnection : s.peer.peerConnection = some connection)
    (h : Gathered s.peer candidate.signal peer grown) (hsaid : said s.peer peer = grown) :
    (s.moved peer [.gathered s.peer.connectionEpoch candidate.signal]).Sound := by
  have hlive := hs.live connection hconnection
  have hcandidate : describes candidate.signal = false := rfl
  obtain ⟨target, negotiationId, htarget, hname, hopened⟩ := hlive.opened
  have hgathered : ∀ before, Grounds (s.record ++ before) (.gathered s.peer.connectionEpoch candidate.signal) :=
    fun before => ⟨connection, target, negotiationId, List.mem_append_left _ hopened⟩
  have hsub : ∀ {entry : Happening}, entry ∈ s.record →
      entry ∈ s.record ++ [.gathered s.peer.connectionEpoch candidate.signal] := fun hin => List.mem_append_left _ hin
  have hquiet : ∀ {e : Nat}, s.peer.connectionEpoch ≠ e →
      ∀ h ∈ [Happening.gathered s.peer.connectionEpoch candidate.signal], h.quiet e := by
    intro e hne h hin
    rw [List.mem_singleton.mp hin]
    exact hne
  -- before the description nothing is sent
  have hwaits : s.peer.localDescriptionAnnounced = false →
      Ledger s.peer.connectionEpoch s.connections s.peer.pendingRemoteCandidates s.tasks
        (s.record ++ [.gathered s.peer.connectionEpoch candidate.signal]) := by
    intro hannounced
    refine hs.ledger.grow ?_ (by simp [describesRemote]) (by simp [announces]) ?_ fun e => ?_
    · intro h hin
      rw [List.mem_singleton.mp hin]
      exact ⟨by simp, fun e he => by cases he; exact Nat.le_refl _⟩
    · refine hs.ledger.founded.append fun h hin before => ?_
      rw [List.mem_singleton.mp hin]
      exact hgathered before
    · by_cases hsame : s.peer.connectionEpoch = e
      · subst hsame
        exact (hs.ledger.inOrder _).gather (hlive.unannounced hannounced)
      · exact (hs.ledger.inOrder e).quiet (hquiet hsame)
  have hwaiting : ∀ (queue : List Signal) (notices : List PeerNotice), s.peer.localDescriptionAnnounced = false →
      queue = (s.record.filterMap (gatheredIn s.peer.connectionEpoch) ++ [candidate.signal]).take NEGOTIATION_SIGNAL_LIMIT →
      (∀ candidate ∈ queue, describes candidate = false) →
      said s.peer { s.peer with pendingLocalCandidates := queue, notices } = [] →
      (s.moved { s.peer with pendingLocalCandidates := queue, notices }
        [.gathered s.peer.connectionEpoch candidate.signal]).Sound := by
    intro queue notices hannounced hqueue hcandidates hsilent
    have hrecord : (s.moved { s.peer with pendingLocalCandidates := queue, notices }
        [.gathered s.peer.connectionEpoch candidate.signal]).record =
          s.record ++ [.gathered s.peer.connectionEpoch candidate.signal] := by
      unfold moved
      rw [hsilent, List.append_nil]
    constructor
    · rw [hrecord]
      exact hwaits hannounced
    · intro current hcurrent
      rw [hrecord]
      exact (hs.live current hcurrent).gather hannounced hqueue hcandidates
  have hkept := hlive.waiting
  cases h with
  | sent hannounced htarget' hname' =>
    have hsame : target = _ ∧ negotiationId = _ := ⟨Option.some.inj (htarget.symm.trans htarget'),
      Option.some.inj (hname.symm.trans hname')⟩
    obtain ⟨rfl, rfl⟩ := hsame
    have hrecord : (s.moved (s.peer.notify (.outboundSignal target negotiationId candidate.signal))
        [.gathered s.peer.connectionEpoch candidate.signal]).record = s.record ++
          [.gathered s.peer.connectionEpoch candidate.signal,
            .sent s.peer.connectionEpoch target negotiationId candidate.signal] := by
      unfold moved
      rw [hsaid, List.append_assoc]
      rfl
    constructor
    · rw [hrecord]
      refine hs.ledger.grow ?_ (by simp [describesRemote]) (by simp [announces, hcandidate]) ?_ fun e => ?_
      · intro h hin
        simp only [List.mem_cons, List.not_mem_nil, or_false] at hin
        rcases hin with rfl | rfl
        · exact ⟨by simp, fun e he => by cases he; exact Nat.le_refl _⟩
        · exact ⟨by simp, fun e he => by cases he; exact Nat.le_refl _⟩
      · refine hs.ledger.founded.append fun h hin before => ?_
        simp only [List.mem_cons, List.not_mem_nil, or_false] at hin
        rcases hin with rfl | rfl
        · exact hgathered before
        · exact ⟨connection, List.mem_append_left _ hopened, List.mem_append_left _ (hlive.localDescribed hannounced)⟩
      · by_cases hsame : s.peer.connectionEpoch = e
        · subst hsame
          refine (hs.ledger.inOrder _).send hcandidate ?_
          rw [hlive.announced hannounced]
          exact Nat.one_ne_zero
        · refine (hs.ledger.inOrder e).quiet fun h hin => ?_
          simp only [List.mem_cons, List.not_mem_nil, or_false] at hin
          rcases hin with rfl | rfl
          · exact hsame
          · exact hsame
    · intro current hcurrent
      rw [hrecord]
      exact (hs.live current hcurrent).send hannounced hcandidate
  | kept hannounced hroom =>
    refine hwaiting (s.peer.pendingLocalCandidates ++ [candidate.signal]) s.peer.notices hannounced ?_ ?_ hsaid
    · have hshort : (s.record.filterMap (gatheredIn s.peer.connectionEpoch)).length < NEGOTIATION_SIGNAL_LIMIT := by
        rw [hkept hannounced, List.length_take] at hroom
        omega
      rw [hkept hannounced, List.take_of_length_le (Nat.le_of_lt hshort), List.take_of_length_le]
      rw [List.length_append]
      exact hshort
    · intro other hin
      rcases List.mem_append.mp hin with hin | hin
      · exact hlive.localCandidates other hin
      · rw [List.mem_singleton.mp hin]
        exact hcandidate
  | dropped hannounced hfull =>
    refine hwaiting s.peer.pendingLocalCandidates _ hannounced ?_ hlive.localCandidates hsaid
    have hlong : NEGOTIATION_SIGNAL_LIMIT ≤ (s.record.filterMap (gatheredIn s.peer.connectionEpoch)).length := by
      rw [hkept hannounced, List.length_take] at hfull
      omega
    rw [List.take_append_of_le_length hlong]
    exact hkept hannounced

theorem Sound.iceCandidate (hs : s.Sound) (epoch : Nat) (negotiationId : String) (candidate : Option LocalCandidate) :
    (s.iceCandidate epoch negotiationId candidate).Sound := by
  unfold Signalling.iceCandidate
  cases hcurrent : s.peer.negotiationIsCurrent epoch negotiationId with
  | false =>
    have hsame : s.peer.onIceCandidate epoch negotiationId candidate = s.peer := by
      unfold onIceCandidate
      rw [hcurrent]
      rfl
    rw [hsame, if_neg Bool.false_ne_true, moved_self s.peer rfl]
    exact hs
  | true =>
    rw [if_pos rfl]
    cases candidate with
    | none =>
      have hsame : s.peer.onIceCandidate epoch negotiationId none = s.peer := by
        unfold onIceCandidate
        rw [hcurrent]
        rfl
      rw [hsame]
      change (s.moved s.peer).Sound
      rw [moved_self s.peer rfl]
      exact hs
    | some candidate =>
      obtain ⟨rfl, -, connection, hconnection⟩ := negotiationIsCurrent_iff.mp hcurrent
      obtain ⟨target, name, htarget, -⟩ := (hs.live connection hconnection).opened
      exact hs.gathered hconnection (onIceCandidate_gathered candidate hcurrent htarget) rfl

/-! ## Runs -/

theorem Sound.step (hs : s.Sound) {input : SignalInput} {s' : Signalling} (h : s.Next input s') : s'.Sound := by
  unfold Next Signalling.step at h
  cases input with
  | startOffer targetPeer drawn nowMs built channel =>
    cases h
    exact hs.startOffer targetPeer drawn nowMs built channel
  | acceptSignal fromPeer negotiationId signal nowMs built =>
    cases h
    exact hs.acceptSignal fromPeer negotiationId signal nowMs built
  | prepareReconnect =>
    cases h
    exact hs.gone s.peer.prepareReconnect_gone
  | reset =>
    cases h
    exact hs.gone s.peer.reset_gone
  | replaceConfig validUntilMs =>
    cases h
    exact hs.aside ⟨rfl, rfl, rfl, rfl, rfl, rfl, rfl, rfl, rfl, silent_of_same rfl⟩
  | iceCandidate epoch negotiationId candidate =>
    cases h
    exact hs.iceCandidate epoch negotiationId candidate
  | poll n readable localSdp => exact hs.poll h
  | settle n result => exact hs.settle h
  | elsewhere peer =>
    dsimp only at h
    split at h
    · rename_i hsame
      cases h
      exact hs.aside ⟨rfl, hsame.1, hsame.2, rfl, rfl, rfl, rfl, rfl, rfl, silent_of_same rfl⟩
    · cases h

theorem Fresh.sound (h : s.Fresh) : s.Sound := by
  refine ⟨?_, fun connection hconnection => ?_⟩
  · rw [h.tasks, h.record, h.pendingRemoteCandidates]
    exact ⟨by simp, by simp, by simp, by simp, by simp, by simp, by simp, by simp, by simp, .nil, fun e => .nil⟩
  · rw [h.peerConnection] at hconnection
    cases hconnection

end Signalling

/-- The epoch of the connection for which a task was started, or a callback of the browser installed. -/
def SignalInput.origin (s : Signalling) : SignalInput → Option Nat
  | .poll n _ _ | .settle n _ => s.tasks[n]?.map (·.negotiation.epoch)
  | .iceCandidate epoch _ _ => some epoch
  | _ => none

namespace Signalling

open RtcPeer

variable {s : Signalling}

/-- The peer is left alone, and what happens does not happen to the connection that it has. -/
structure Confined (epoch : Nat) (before after : Signalling) : Prop where
  peer : after.peer = before.peer
  record : ∃ grown, after.record = before.record ++ grown ∧ ∀ h ∈ grown, h.epoch? = some epoch ∧
    ∀ connection, before.peer.peerConnection = some connection → h.connection? ≠ some connection

/-- Nothing has happened but to the tasks. -/
theorem confined_of_same {epoch : Nat} {s' : Signalling} (hpeer : s'.peer = s.peer) (hrecord : s'.record = s.record) :
    Confined epoch s s' := ⟨hpeer, [], by rw [hrecord, List.append_nil], by simp⟩

/-- A task of another connection does nothing to the peer, however far it comes. -/
theorem progressed_confined {n : Nat} {task : SignalTask}
    (hgone : s.peer.connectionEpochIsCurrent task.negotiation.epoch = false) (progress : Progressed) :
    Confined task.negotiation.epoch s (s.progressed n task s.peer progress) := by
  have hself : (s.moved s.peer).record = s.record := congrArg Signalling.record (moved_self s.peer rfl)
  cases progress with
  | waits stage =>
    refine confined_of_same rfl ?_
    exact hself
  | done =>
    refine confined_of_same rfl ?_
    exact hself
  | failed error =>
    have hfailed : s.peer.taskFailed task.negotiation task.stage error = s.peer := by
      refine if_neg fun hcurrent => ?_
      obtain ⟨hepoch, -, hconnection⟩ := negotiationIsCurrent_iff.mp hcurrent
      rw [connectionEpochIsCurrent_iff.mpr ⟨hepoch, hconnection⟩] at hgone
      cases hgone
    unfold progressed
    dsimp only
    rw [hfailed]
    refine confined_of_same rfl ?_
    exact hself

theorem Sound.confined (hs : s.Sound) {input : SignalInput} {epoch : Nat} {s' : Signalling}
    (horigin : input.origin s = some epoch) (hold : epoch ≠ s.peer.connectionEpoch) (h : s.Next input s') :
    Confined epoch s s' := by
  have hgone : s.peer.connectionEpochIsCurrent epoch = false := by
    rw [Bool.eq_false_iff]
    exact fun hcurrent => hold (connectionEpochIsCurrent_iff.mp hcurrent).1.symm
  unfold Next Signalling.step at h
  cases input with
  | iceCandidate origin negotiationId candidate =>
    cases horigin
    cases h
    have hno : s.peer.negotiationIsCurrent epoch negotiationId = false := by
      rw [Bool.eq_false_iff]
      exact fun hcurrent => hold (negotiationIsCurrent_iff.mp hcurrent).1.symm
    have hsame : s.peer.onIceCandidate epoch negotiationId candidate = s.peer := by
      unfold onIceCandidate
      rw [hno]
      rfl
    unfold Signalling.iceCandidate
    rw [hsame, hno, if_neg Bool.false_ne_true, moved_self s.peer rfl]
    exact confined_of_same rfl rfl
  | poll n readable localSdp =>
    dsimp only at h
    unfold Signalling.poll at h
    split at h
    · cases h
    rename_i task htask
    have hepoch : task.negotiation.epoch = epoch := by
      rw [SignalInput.origin, htask] at horigin
      exact Option.some.inj horigin
    rw [← hepoch] at hgone ⊢
    split at h
    · cases h
      exact progressed_confined hgone _
    · cases h
    · rename_i result hsettled
      rw [continueTask_gone readable localSdp result task.stage hgone] at h
      cases h
      exact progressed_confined hgone _
  | settle n result =>
    dsimp only at h
    unfold Signalling.settle at h
    split at h
    · cases h
    rename_i task htask
    have hepoch : task.negotiation.epoch = epoch := by
      rw [SignalInput.origin, htask] at horigin
      exact Option.some.inj horigin
    split at h
    · cases h
      refine ⟨rfl, doneBy task.negotiation task.stage result, ?_, fun happening hin => ?_⟩
      · change s.record ++ _ ++ said s.peer s.peer = _
        rw [(silent_refl s.peer).said, List.append_nil]
      · obtain ⟨target, hopened, -⟩ := hs.ledger.started task (List.mem_of_getElem? htask)
        have hdone := doneBy_subset _ _ _ hin
        have hown := done_owner _ _ happening hdone
        refine ⟨by rw [hown.1, hepoch], fun connection hconnection hsame => ?_⟩
        rw [hown.2] at hsame
        cases hsame
        obtain ⟨target', negotiationId', -, -, hopened'⟩ := (hs.live _ hconnection).opened
        exact hold (hepoch.symm.trans (hs.ledger.oneEpoch _ _ _ _ _ _ _ hopened hopened'))
    · cases h
    · cases h
  | startOffer targetPeer drawn nowMs built channel => cases horigin
  | acceptSignal fromPeer negotiationId signal nowMs built => cases horigin
  | prepareReconnect => cases horigin
  | reset => cases horigin
  | replaceConfig validUntilMs => cases horigin
  | elsewhere peer => cases horigin

/-- A peer keeps to the order of signalling, with what it keeps of the candidates that come before the description. -/
structure Disciplined (kept : List Signal → List Signal) (s : Signalling) : Prop where
  orderly : Orderly kept s.record
  confined : ∀ input epoch s', input.origin s = some epoch → epoch ≠ s.peer.connectionEpoch → s.Next input s' →
    Confined epoch s s'

def overflowStart : Signalling := { peer := { validUntilMs := 1000 } }

/-- An offer is made, and the browser gathers another candidate than those that may wait before the offer is sent. -/
def overflowInputs : List SignalInput :=
  [.startOffer "b" (.ok "n") 0 (.ok ()) 0, .poll 0 (fun _ => .ok ()) (.ok ""), .settle 0 (.ok ()),
    .poll 0 (fun _ => .ok ()) (.ok ""), .settle 0 (.ok ())] ++
  List.replicate (NEGOTIATION_SIGNAL_LIMIT + 1) (.iceCandidate 1 "n" (some ⟨"c", none, none⟩)) ++
  [.poll 0 (fun _ => .ok ()) (.ok "s")]

def overflowEnd : Option Signalling := Run.follow Signalling.step overflowStart overflowInputs

theorem overflowStart_fresh : overflowStart.Fresh := ⟨rfl, rfl, rfl, rfl⟩

theorem overflow_counts :
    overflowEnd.map (fun s => ((s.record.filterMap (candidateSent 1)).length, (s.record.filterMap (gatheredIn 1)).length,
      s.record.countP (announces 1))) = some (64, 65, 1) := by
  decide +kernel

end Signalling

end P2PTransmission.Rtc
