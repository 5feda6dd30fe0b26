import P2PTransmission.Client.Session
import P2PTransmission.Domain.Restore
import P2PTransmission.Foundation.Run

/-!
# Revisions only move on

What one input can do to a client is said once (`Client.Moves`): the target stays and its cursor and the screen's revision
move on, or the client leaves for the lobby. Which inputs show the client something older than it has seen is the other
half (`Client.Disciplined`): a snapshot that passes the target is the only one that does.
-/

set_option autoImplicit false

namespace P2PTransmission

/-! ## Cursors -/

namespace RevisionCursor

/-- The cursor has moved on, and has not applied more than it has seen. -/
structure MovesOn (cursor next : RevisionCursor) : Prop where
  last : cursor.lastRevision ≤ next.lastRevision
  applied : cursor.appliedRevision ≤ next.appliedRevision
  bounded : cursor.appliedRevision ≤ cursor.lastRevision → next.appliedRevision ≤ next.lastRevision

variable {cursor next third : RevisionCursor}

theorem MovesOn.refl (cursor : RevisionCursor) : cursor.MovesOn cursor := ⟨Nat.le_refl _, Nat.le_refl _, fun h => h⟩

theorem MovesOn.trans (h : cursor.MovesOn next) (h' : next.MovesOn third) : cursor.MovesOn third :=
  ⟨h.last.trans h'.last, h.applied.trans h'.applied, fun hb => h'.bounded (h.bounded hb)⟩

theorem observe_movesOn (cursor : RevisionCursor) (revision : Nat) : cursor.MovesOn (cursor.observe revision) := by
  refine ⟨?_, Nat.le_refl _, fun h => ?_⟩
  · simp only [observe]
    omega
  · simp only [observe]
    omega

theorem reconcileApplied_movesOn (cursor : RevisionCursor) (revision : Nat) :
    cursor.MovesOn (cursor.reconcileApplied revision) := by
  refine ⟨?_, ?_, fun h => ?_⟩
  · simp only [reconcileApplied, observe]
    omega
  · simp only [reconcileApplied, observe]
    omega
  · simp only [reconcileApplied, observe]
    omega

theorem markApplied_movesOn (cursor : RevisionCursor) (revision : Nat) :
    cursor.MovesOn (cursor.markApplied revision) := by
  obtain ⟨hlast, happlied, hbounded⟩ := cursor.reconcileApplied_movesOn revision
  exact ⟨hlast, happlied, hbounded⟩

theorem markSnapshotPending_movesOn (cursor : RevisionCursor) (revision : Nat) :
    cursor.MovesOn (cursor.markSnapshotPending revision) := by
  obtain ⟨hlast, happlied, hbounded⟩ := cursor.observe_movesOn revision
  exact ⟨hlast, happlied, hbounded⟩

end RevisionCursor

/-! ## What an input can do -/

namespace AppModel

/-- A screen with a revision comes from one with a revision that is no later. -/
def MovesOn (model next : AppModel) : Prop :=
  ∀ revision', next.screenRevision = some revision' → ∃ revision, model.screenRevision = some revision ∧
    revision ≤ revision'

variable {model next third : AppModel}

theorem MovesOn.refl (model : AppModel) : model.MovesOn model := fun revision h => ⟨revision, h, Nat.le_refl _⟩

theorem MovesOn.trans (h : model.MovesOn next) (h' : next.MovesOn third) : model.MovesOn third := by
  intro revision hrevision
  obtain ⟨middle, hmiddle, hle⟩ := h' revision hrevision
  obtain ⟨first, hfirst, hle'⟩ := h middle hmiddle
  exact ⟨first, hfirst, hle'.trans hle⟩

theorem MovesOn.of_screen (h : next.screen = model.screen) : model.MovesOn next := by
  intro revision hrevision
  refine ⟨revision, ?_, Nat.le_refl _⟩
  rw [← hrevision, screenRevision, screenRevision, h]

/-- An event that is the next one brings the screen to its revision, or leaves it. -/
theorem reduceRevisionedModelEvent_movesOn {current : Nat} (hcurrent : model.screenRevision = some current)
    (event : RevisionedModelEvent) : model.MovesOn (reduceRevisionedModelEvent model (current + 1) event).1 := by
  have hle : ∀ {next : AppModel}, next.screenRevision = some (current + 1) → model.MovesOn next := by
    intro next hnext revision hrevision
    rw [hnext] at hrevision
    cases hrevision
    exact ⟨current, hcurrent, Nat.le_succ _⟩
  cases event with
  | joinRequested request =>
    simp only [reduceRevisionedModelEvent, reduceJoinRequested]
    split
    · exact hle rfl
    · exact .refl model
  | joinDecided requestId decision =>
    simp only [reduceRevisionedModelEvent, reduceJoinDecided]
    split
    · split
      · exact hle rfl
      · exact .of_screen rfl
    · exact hle rfl
    · exact .of_screen rfl
    · exact .of_screen rfl
  | peerOnline sessionId peerId =>
    simp only [reduceRevisionedModelEvent, reducePeerOnline]
    split
    · exact hle rfl
    · exact .refl model
  | peerOffline sessionId =>
    simp only [reduceRevisionedModelEvent, reducePeerOffline]
    split
    · exact hle rfl
    · exact .refl model

/-- A snapshot that is not refused is no older than the screen. -/
theorem reduceAuthoritativeSnapshot_movesOn (model : AppModel) (snapshot : RoomBootstrapResponse) :
    model.MovesOn (reduceAuthoritativeSnapshot model snapshot).1 := by
  unfold reduceAuthoritativeSnapshot
  split
  · rename_i role shown hscreen
    split
    · exact .refl model
    split
    · exact .refl model
    · rename_i hnew _
      intro revision hrevision
      cases hrevision
      exact ⟨shown.revision, by rw [screenRevision, hscreen], by omega⟩
  · rename_i revision hscreen
    split
    · exact .refl model
    · rename_i hnew
      intro revision' hrevision
      cases hrevision
      exact ⟨revision, by rw [screenRevision, hscreen], by omega⟩
  · exact .refl model
  · exact .refl model

end AppModel

namespace Client

/-- The target, if there is one afterwards, was there before; its cursor and the screen have moved on. -/
structure MovesOn (client next : Client) : Prop where
  target : ∀ target', next.target = some target' → ∃ target, client.target = some target ∧
    target.revision.MovesOn target'.revision
  model : client.model.MovesOn next.model

variable {client next third : Client}

theorem MovesOn.refl (client : Client) : client.MovesOn client := ⟨fun target htarget => ⟨target, htarget, .refl _⟩, .refl _⟩

theorem MovesOn.trans (h : client.MovesOn next) (h' : next.MovesOn third) : client.MovesOn third := by
  refine ⟨fun target htarget => ?_, h.model.trans h'.model⟩
  obtain ⟨middle, hmiddle, hmoves⟩ := h'.target target htarget
  obtain ⟨first, hfirst, hmoves'⟩ := h.target middle hmiddle
  exact ⟨first, hfirst, hmoves'.trans hmoves⟩

theorem MovesOn.of_model {model : AppModel} (h : client.model.MovesOn model) : client.MovesOn { client with model } :=
  ⟨fun target htarget => ⟨target, htarget, .refl _⟩, h⟩

theorem updateRevision_movesOn (client : Client) {update : RevisionCursor → RevisionCursor}
    (hupdate : ∀ cursor : RevisionCursor, cursor.MovesOn (update cursor)) : client.MovesOn (client.updateRevision update) := by
  refine ⟨fun target' htarget => ?_, .refl _⟩
  obtain ⟨target, hclient, rfl⟩ := Option.map_eq_some_iff.mp htarget
  exact ⟨target, hclient, hupdate _⟩

theorem completeAttachment_movesOn (client : Client) : client.MovesOn client.completeAttachment :=
  .of_model (.of_screen rfl)

theorem applyAuthoritativeSnapshot_movesOn (client : Client) (snapshot : RoomBootstrapResponse) :
    client.MovesOn (client.applyAuthoritativeSnapshot snapshot).1 := by
  have hmodel := AppModel.reduceAuthoritativeSnapshot_movesOn client.model snapshot
  unfold applyAuthoritativeSnapshot
  dsimp only
  split
  · exact .refl client
  split
  · rename_i model hreduce
    rw [hreduce] at hmodel
    exact .of_model hmodel
  · rename_i model entering hreduce
    rw [hreduce] at hmodel
    have hshown : client.MovesOn { client with model } := .of_model hmodel
    have hmarked := hshown.trans
      (updateRevision_movesOn { client with model } fun cursor => cursor.markApplied_movesOn snapshot.revision)
    split
    · exact hmarked.trans (completeAttachment_movesOn _)
    · exact hmarked

theorem handleRoomSnapshot_movesOn (client : Client) (snapshot : RoomBootstrapResponse) :
    client.MovesOn (client.handleRoomSnapshot snapshot).1 := by
  have happly := client.applyAuthoritativeSnapshot_movesOn snapshot
  unfold handleRoomSnapshot
  split
  · rename_i hresult
    rw [hresult] at happly
    exact happly
  · rename_i hresult
    rw [hresult] at happly
    exact happly

theorem returnToLobby_movesOn (client : Client) (notice : String) : client.MovesOn (client.returnToLobby notice) := by
  refine ⟨fun target htarget => ?_, fun revision hrevision => ?_⟩
  · cases htarget
  · cases hrevision

theorem applyRealtimeEffect_movesOn (client : Client) (effect : RealtimeEffect) :
    client.MovesOn (client.applyRealtimeEffect effect).1 := by
  cases effect with
  | markTargetRevisionApplied revision => exact client.updateRevision_movesOn fun cursor => cursor.reconcileApplied_movesOn revision
  | returnToLobby notice => exact client.returnToLobby_movesOn notice
  | setRealtimePhase | setError | suppressRealtimeConnection | reconnectSocket => exact .of_model (.of_screen rfl)
  | resolveWaiting | refreshRoomSnapshot | syncRtcPeers | removeRtcPeer | acceptRtcSignal => exact .refl client

theorem applyRealtimeEffects_movesOn (client : Client) (effects : List RealtimeEffect) :
    client.MovesOn (applyRealtimeEffects client effects).1 := by
  induction effects generalizing client with
  | nil => exact .refl client
  | cons effect effects ih =>
    have hfirst := client.applyRealtimeEffect_movesOn effect
    unfold applyRealtimeEffects
    dsimp only
    split
    · exact hfirst
    · exact hfirst.trans (ih _)

theorem handleAttachment_movesOn (client : Client) (revision : Nat) (member : Bool) :
    client.MovesOn (client.handleAttachment revision member) := by
  unfold handleAttachment
  split
  · exact .refl client
  · rename_i localRevision incomingRevision _ _
    refine MovesOn.trans ?_ (completeAttachment_movesOn _)
    exact client.updateRevision_movesOn fun cursor =>
      (cursor.reconcileApplied_movesOn localRevision).trans (RevisionCursor.markApplied_movesOn _ incomingRevision)
  · rename_i localRevision incomingRevision _
    exact client.updateRevision_movesOn fun cursor =>
      (cursor.reconcileApplied_movesOn localRevision).trans (RevisionCursor.markSnapshotPending_movesOn _ incomingRevision)

theorem beginRevisionedEvent_movesOn (client : Client) (revision : Nat) :
    client.MovesOn (client.beginRevisionedEvent revision).2 := by
  unfold beginRevisionedEvent
  split
  · exact .refl client
  · rename_i current _
    dsimp only
    refine client.updateRevision_movesOn fun cursor => ?_
    have hcurrent := cursor.reconcileApplied_movesOn current
    split
    · exact hcurrent.trans (RevisionCursor.observe_movesOn _ revision)
    · exact hcurrent.trans (RevisionCursor.observe_movesOn _ revision)
    · exact hcurrent.trans (RevisionCursor.markSnapshotPending_movesOn _ revision)

/-- Seeing an event changes the target alone, and its step is that of the screen's revision. -/
theorem beginRevisionedEvent_eq {revision : Nat} {step : Option RevisionStep} {begun : Client}
    (h : client.beginRevisionedEvent revision = (step, begun)) :
    begun.model = client.model ∧ step = client.model.screenRevision.map fun current => revisionStep current revision := by
  unfold beginRevisionedEvent at h
  split at h
  · rename_i hnone
    cases h
    exact ⟨rfl, by rw [hnone]; rfl⟩
  · rename_i current hcurrent
    cases h
    exact ⟨rfl, by rw [hcurrent]; rfl⟩

theorem revisionStep_apply {current revision : Nat} (h : revisionStep current revision = .apply) :
    revision = current + 1 := by
  unfold revisionStep at h
  split at h
  · cases h
  split at h
  · rename_i hnext
    exact hnext.2.symm
  · cases h

theorem handleRevisionedModelEvent_movesOn (client : Client) (revision : Nat) (event : RevisionedModelEvent) :
    client.MovesOn (client.handleRevisionedModelEvent revision event).1 := by
  have hbegin := client.beginRevisionedEvent_movesOn revision
  unfold handleRevisionedModelEvent
  split
  · rename_i begun hbegun
    rw [hbegun] at hbegin
    obtain ⟨hmodel, hstep⟩ := beginRevisionedEvent_eq hbegun
    obtain ⟨current, hcurrent, happly⟩ := Option.map_eq_some_iff.mp hstep.symm
    obtain rfl := revisionStep_apply happly
    rw [← hmodel] at hcurrent
    have hreduce := AppModel.reduceRevisionedModelEvent_movesOn hcurrent event
    exact (hbegin.trans (.of_model hreduce)).trans (applyRealtimeEffects_movesOn _ _)
  · rename_i begun hbegun
    rw [hbegun] at hbegin
    exact hbegin
  · rename_i begun hbegun
    rw [hbegun] at hbegin
    exact hbegin
  · rename_i begun hbegun
    rw [hbegun] at hbegin
    exact hbegin

theorem handleServerMessage_movesOn (client : Client) (message : ServerRealtimeMessage) :
    client.MovesOn (client.handleServerMessage message).1 := by
  cases message with
  | attached roomId revision => exact client.handleAttachment_movesOn revision true
  | joinWatching roomId requestId revision => exact client.handleAttachment_movesOn revision false
  | roomSnapshot snapshot => exact client.handleRoomSnapshot_movesOn snapshot
  | joinRequested | joinDecided | peerOnline | peerOffline => exact client.handleRevisionedModelEvent_movesOn _ _
  | roomExpired | error | signal => exact client.applyRealtimeEffects_movesOn _

/-- **What an input can do to a client.** -/
theorem step_movesOn (client : Client) (input : Input) : client.MovesOn (client.step input).1 := by
  cases input with
  | realtime current event =>
    unfold step
    dsimp only
    split
    · cases event with
      | message message => exact client.handleServerMessage_movesOn message
      | opened | error | closed => exact client.applyRealtimeEffects_movesOn _
    · exact .refl client
  | refreshed current snapshot =>
    unfold step
    dsimp only
    split
    · exact client.handleRoomSnapshot_movesOn snapshot
    · exact .refl client
  | submitDecision requestId =>
    unfold step submitDecision
    dsimp only
    split
    · exact .of_model (.of_screen rfl)
    · exact .refl client
  | decided requestId snapshot =>
    unfold step finishDecision
    dsimp only
    split
    · cases snapshot with
      | none => exact .of_model (.of_screen rfl)
      | some snapshot =>
        exact .of_model ((AppModel.reduceAuthoritativeSnapshot_movesOn _ _).trans (.of_screen rfl))
    · exact .refl client

end Client

/-! ## What the client must not do -/

namespace Input

/-- The revision of the room event that an input delivers. -/
def eventRevision : Input → Option Nat
  | .realtime true (.message (.joinRequested revision _)) | .realtime true (.message (.joinDecided revision _ _))
  | .realtime true (.message (.peerOnline revision _ _)) | .realtime true (.message (.peerOffline revision _)) =>
    some revision
  | _ => none

/-- The snapshot of the room that an input delivers. -/
def snapshot : Input → Option RoomBootstrapResponse
  | .realtime _ (.message (.roomSnapshot snapshot)) | .refreshed _ snapshot | .decided _ (some snapshot) => some snapshot
  | _ => none

end Input

namespace Client

variable {client next : Client} {input : Input}

/-- The snapshot is older than what the target has applied or seen, or than the screen. -/
def Older (client : Client) (target : RealtimeTarget) (snapshot : RoomBootstrapResponse) : Prop :=
  snapshot.revision < target.revision.appliedRevision ∨ snapshot.revision < target.revision.lastRevision ∨
    ∃ current, client.model.screenRevision = some current ∧ snapshot.revision < current

/-- An event changes the model only if it is the next one, one further on makes the client ask for a snapshot, and an
older snapshot does not show. -/
structure Disciplined (client : Client) (input : Input) : Prop where
  event : ∀ revision, input.eventRevision = some revision → (client.step input).1.model ≠ client.model →
    client.model.screenRevision.map (· + 1) = some revision
  gap : ∀ revision current, input.eventRevision = some revision → client.target.isSome →
    client.model.screenRevision = some current → current + 1 < revision →
      ∃ roomCode, Spawned.refresh roomCode ∈ (client.step input).2
  stale : ∀ snapshot target, input.snapshot = some snapshot → client.target = some target →
    client.Older target snapshot → (client.step input).1.model.screen = client.model.screen

/-- The snapshot would change what the screen shows, as `reduce_authoritative_snapshot` compares it. -/
def Shows (client : Client) (snapshot : RoomBootstrapResponse) : Prop :=
  match client.model.screen with
  | .room _ shown => shown.revision ≤ snapshot.revision ∧ shown ≠ snapshot
  | .waiting _ _ _ revision => revision < snapshot.revision
  | .booting | .lobby => False

variable {inputs : List Input}

/-- A client whose target was just set. -/
def Begins (client : Client) : Prop := ∃ kind revision, client.target = some { kind, revision := .new revision }

theorem Run.movesOn (h : Run Step client inputs next) : client.MovesOn next :=
  h.relates (I := fun _ => True) (R := fun client next => client.MovesOn next) MovesOn.refl (fun h h' => h.trans h')
    (fun client input next _ hstep => ⟨trivial, by rw [← hstep]; exact client.step_movesOn input⟩) trivial

theorem Begins.bounded (hbegins : client.Begins) (h : Visited Step client inputs next) {target : RealtimeTarget}
    (htarget : next.target = some target) : target.revision.appliedRevision ≤ target.revision.lastRevision := by
  obtain ⟨before, hrun⟩ := h.run
  obtain ⟨kind, revision, hfirst⟩ := hbegins
  obtain ⟨first, hclient, hmoves⟩ := (Run.movesOn hrun).target target htarget
  rw [hfirst] at hclient
  cases hclient
  exact hmoves.bounded (Nat.le_refl _)

end Client

end P2PTransmission
