import P2PTransmission.Rtc.Signaling

/-!
# The tasks of a negotiation

`start_offer` and `accept_signal` start tasks: one makes an offer, one answers an offer, one takes an answer, one adds a
candidate. A task asks the browser for something and waits; when the browser has answered, the task looks whether its
connection is still the one of the peer, and goes on or ends. Between any two steps of a task anything else may happen.

`Signalling` is a peer with the tasks that are under way and a record of what has happened, which no function reads.
-/

set_option autoImplicit false

namespace P2PTransmission.Rtc

open Wire (Signal)

/-- A candidate that the browser has gathered. -/
structure LocalCandidate where
  candidate : String
  sdpMid : Option String
  sdpMLineIndex : Option Nat
  deriving DecidableEq, Repr

def LocalCandidate.signal (candidate : LocalCandidate) : Signal :=
  .iceCandidate candidate.candidate candidate.sdpMid candidate.sdpMLineIndex

/-- The connection that a task was started for. -/
structure Negotiation where
  connection : ConnectionId
  epoch : Nat
  negotiationId : String
  deriving DecidableEq, Repr

/-- What a task has asked the browser for, or will when it runs for the first time. -/
inductive SignalStage
  | creatingOffer (targetPeer : String)
  | settingOffer (targetPeer : String)
  | settingRemoteOffer (fromPeer sdp : String)
  | creatingAnswer (fromPeer : String)
  | settingAnswer (fromPeer : String)
  | settingRemoteAnswer (sdp : String)
  /-- One of the candidates that waited for the description; afterwards the rest, and the answer if one is due. -/
  | addingPending (candidate : Signal) (rest : List Signal) (answering : Option String)
  | addingCandidate (candidate : Signal)
  deriving DecidableEq, Repr

inductive BrowserPromise
  | unasked
  | pending
  | settled (result : Except BrowserPlatformError Unit)

structure SignalTask where
  negotiation : Negotiation
  stage : SignalStage
  promise : BrowserPromise := .unasked

/-- How far a task comes. -/
inductive Progressed
  | waits (stage : SignalStage)
  | done
  | failed (error : BrowserPlatformError)

def OfferTask.started (task : OfferTask) : SignalTask :=
  { negotiation := ⟨task.peerConnection, task.connectionEpoch, task.negotiationId⟩
    stage := .creatingOffer task.targetPeer }

def PendingSignalTask.started : PendingSignalTask → SignalTask
  | offer connection epoch negotiationId fromPeer sdp =>
    { negotiation := ⟨connection, epoch, negotiationId⟩, stage := .settingRemoteOffer fromPeer sdp }
  | answer connection epoch negotiationId sdp =>
    { negotiation := ⟨connection, epoch, negotiationId⟩, stage := .settingRemoteAnswer sdp }
  | iceCandidate connection epoch negotiationId signal =>
    { negotiation := ⟨connection, epoch, negotiationId⟩, stage := .addingCandidate signal }

namespace RtcPeer

variable (peer : RtcPeer)

/-! ## Is it still the same connection -/

def connectionEpochIsCurrent (epoch : Nat) : Bool := peer.connectionEpoch == epoch && peer.peerConnection.isSome

def negotiationIsCurrent (epoch : Nat) (negotiationId : String) : Bool :=
  peer.connectionEpoch == epoch && peer.negotiationId == some negotiationId && peer.peerConnection.isSome

def currentPromiseResult (epoch : Nat) (result : Except BrowserPlatformError Unit) :
    Except BrowserPlatformError (Option Unit) :=
  if peer.connectionEpochIsCurrent epoch then result.map some else .ok none

def finishNegotiating (epoch : Nat) : RtcPeer :=
  if peer.connectionEpochIsCurrent epoch then { peer with negotiating := false } else peer

def markRemoteDescriptionSet (epoch : Nat) : Bool × RtcPeer :=
  if peer.connectionEpochIsCurrent epoch then
    (true, { peer with remoteDescriptionPending := false, remoteDescriptionSet := true })
  else (false, peer)

def clearRemoteDescriptionPending (epoch : Nat) (negotiationId : String) : RtcPeer :=
  if peer.negotiationIsCurrent epoch negotiationId then { peer with remoteDescriptionPending := false } else peer

/-! ## What the other side is told -/

def negotiationFailed (message : String) : RtcPeer := peer.notify (.negotiationFailed message)

def queueOrEmitLocalCandidate (epoch : Nat) (negotiationId : String) (signal : Signal) : RtcPeer :=
  if peer.negotiationIsCurrent epoch negotiationId then
    match peer.targetPeer with
    | none => peer
    | some targetPeer =>
      if peer.localDescriptionAnnounced then peer.notify (.outboundSignal targetPeer negotiationId signal)
      else if peer.pendingLocalCandidates.length < NEGOTIATION_SIGNAL_LIMIT then
        { peer with pendingLocalCandidates := peer.pendingLocalCandidates ++ [signal] }
      else peer.negotiationFailed "too many queued local ICE candidates"
  else peer

/-- What the browser calls when it has gathered a candidate, or has gathered all. -/
def onIceCandidate (epoch : Nat) (negotiationId : String) (candidate : Option LocalCandidate) : RtcPeer :=
  if peer.negotiationIsCurrent epoch negotiationId then
    match candidate with
    | none => peer
    | some candidate => peer.queueOrEmitLocalCandidate epoch negotiationId candidate.signal
  else peer

def emitCandidates (epoch : Nat) (negotiationId toPeerId : String) (peer : RtcPeer) : List Signal → RtcPeer
  | [] => peer
  | signal :: candidates =>
    if peer.negotiationIsCurrent epoch negotiationId then
      emitCandidates epoch negotiationId toPeerId (peer.notify (.outboundSignal toPeerId negotiationId signal)) candidates
    else peer

def announceLocalDescription (epoch : Nat) (negotiationId toPeerId : String) (signal : Signal) : RtcPeer :=
  if peer.negotiationIsCurrent epoch negotiationId then
    emitCandidates epoch negotiationId toPeerId
      (({ peer with localDescriptionAnnounced := true, pendingLocalCandidates := [] } : RtcPeer).notify
        (.outboundSignal toPeerId negotiationId signal))
      peer.pendingLocalCandidates
  else peer

/-! ## Candidates of the other side -/

/-- The candidates of this negotiation that have waited for the description. -/
def waitingCandidates (negotiationId : String) : List Signal :=
  (peer.pendingRemoteCandidates.filter fun entry =>
    peer.targetPeer == some entry.1 && entry.2.1 == negotiationId).map (·.2.2)

/-- They are taken, if the connection is still there. -/
def takePendingCandidates (epoch : Nat) (negotiationId : String) : List Signal × RtcPeer :=
  if peer.negotiationIsCurrent epoch negotiationId then
    (peer.waitingCandidates negotiationId, { peer with pendingRemoteCandidates := [] })
  else ([], peer)

/-- What a task does when the candidates are added. -/
def afterCandidates : Option String → Progressed
  | some fromPeer => .waits (.creatingAnswer fromPeer)
  | none => .done

/-- The browser is asked to add the first of the candidates, unless it cannot read it. -/
def applyCandidates (negotiation : Negotiation) (readable : Signal → Except BrowserPlatformError Unit)
    (answering : Option String) : List Signal → Progressed
  | [] => afterCandidates answering
  | .iceCandidate candidate sdpMid sdpMLineIndex :: rest =>
    match readable (.iceCandidate candidate sdpMid sdpMLineIndex) with
    | .error error => .failed error
    | .ok () =>
      if peer.negotiationIsCurrent negotiation.epoch negotiation.negotiationId then
        .waits (.addingPending (.iceCandidate candidate sdpMid sdpMLineIndex) rest answering)
      else afterCandidates answering
  | .offer _ :: rest | .answer _ :: rest =>
    if peer.negotiationIsCurrent negotiation.epoch negotiation.negotiationId then
      applyCandidates negotiation readable answering rest
    else afterCandidates answering

/-- `apply_pending_candidates`, after the description of the other side was set. -/
def remoteDescribed (negotiation : Negotiation) (readable : Signal → Except BrowserPlatformError Unit)
    (answering : Option String) : Progressed × RtcPeer :=
  match peer.markRemoteDescriptionSet negotiation.epoch with
  | (false, peer) => (.done, peer)
  | (true, peer) =>
    let (candidates, peer) := peer.takePendingCandidates negotiation.epoch negotiation.negotiationId
    (peer.applyCandidates negotiation readable answering candidates, peer)

/-! ## The tasks -/

/-- A task runs for the first time: it asks the browser, except for a candidate that is not wanted any more. -/
def beginTask (negotiation : Negotiation) (readable : Signal → Except BrowserPlatformError Unit) :
    SignalStage → Progressed
  | .addingCandidate (.iceCandidate candidate sdpMid sdpMLineIndex) =>
    match readable (.iceCandidate candidate sdpMid sdpMLineIndex) with
    | .error error => .failed error
    | .ok () =>
      if peer.negotiationIsCurrent negotiation.epoch negotiation.negotiationId then
        .waits (.addingCandidate (.iceCandidate candidate sdpMid sdpMLineIndex))
      else .done
  | .addingCandidate _ => .done
  | stage => .waits stage

/-- The browser has done what a task asked for. `localSdp` is the description that the connection has now. -/
def fulfilled (negotiation : Negotiation) (readable : Signal → Except BrowserPlatformError Unit)
    (localSdp : Except BrowserPlatformError String) : SignalStage → Progressed × RtcPeer
  | .creatingOffer targetPeer => (.waits (.settingOffer targetPeer), peer)
  | .settingOffer targetPeer =>
    match localSdp with
    | .error error => (.failed error, peer)
    | .ok sdp =>
      (.done, (peer.finishNegotiating negotiation.epoch).announceLocalDescription negotiation.epoch
        negotiation.negotiationId targetPeer (.offer sdp))
  | .settingRemoteOffer fromPeer _ => peer.remoteDescribed negotiation readable (some fromPeer)
  | .creatingAnswer fromPeer => (.waits (.settingAnswer fromPeer), peer)
  | .settingAnswer fromPeer =>
    match localSdp with
    | .error error => (.failed error, peer)
    | .ok sdp =>
      (.done, peer.announceLocalDescription negotiation.epoch negotiation.negotiationId fromPeer (.answer sdp))
  | .settingRemoteAnswer _ => peer.remoteDescribed negotiation readable none
  | .addingPending _ rest answering =>
    if peer.negotiationIsCurrent negotiation.epoch negotiation.negotiationId then
      (peer.applyCandidates negotiation readable answering rest, peer)
    else (afterCandidates answering, peer)
  | .addingCandidate _ => (.done, peer)

/-- The connection is gone. A task that adds candidates stops with these, and asks for its answer all the same. -/
def abandoned : SignalStage → Progressed
  | .addingPending _ _ answering => afterCandidates answering
  | _ => .done

/-- A task goes on with what the browser has answered. -/
def continueTask (negotiation : Negotiation) (readable : Signal → Except BrowserPlatformError Unit)
    (localSdp : Except BrowserPlatformError String) (result : Except BrowserPlatformError Unit) (stage : SignalStage) :
    Progressed × RtcPeer :=
  match peer.currentPromiseResult negotiation.epoch result with
  | .error error => (.failed error, peer)
  | .ok none => (abandoned stage, peer)
  | .ok (some ()) => peer.fulfilled negotiation readable localSdp stage

/-- The task belongs to `start_offer`. -/
def makesOffer : SignalStage → Bool
  | .creatingOffer _ | .settingOffer _ => true
  | _ => false

/-- What `start_offer` and `accept_signal` do about a task that has failed. -/
def taskFailed (negotiation : Negotiation) (stage : SignalStage) (error : BrowserPlatformError) : RtcPeer :=
  if peer.negotiationIsCurrent negotiation.epoch negotiation.negotiationId then
    (if makesOffer stage then peer.finishNegotiating negotiation.epoch
      else peer.clearRemoteDescriptionPending negotiation.epoch negotiation.negotiationId).negotiationFailed error.text
  else peer

end RtcPeer

/-! ## A peer and its tasks -/

/-- What has happened, with the epoch of the connection. -/
inductive Happening
  | opened (epoch : Nat) (connection : ConnectionId) (targetPeer negotiationId : String)
  | received (fromPeer negotiationId : String) (signal : Signal)
  | gathered (epoch : Nat) (candidate : Signal)
  | sent (epoch : Nat) (toPeerId negotiationId : String) (signal : Signal)
  | localDescribed (epoch : Nat) (connection : ConnectionId)
  | remoteDescribed (epoch : Nat) (connection : ConnectionId) (description : Signal)
  | candidateAdded (epoch : Nat) (connection : ConnectionId) (candidate : Signal)
  deriving DecidableEq, Repr

structure Signalling where
  peer : RtcPeer
  tasks : List SignalTask := []
  /-- How many connections the browser has made. -/
  connections : Nat := 0
  record : List Happening := []

inductive SignalInput
  | startOffer (targetPeer : String) (drawn : Except String String) (nowMs : Nat) (built : Except String Unit)
      (channel : ChannelId)
  | acceptSignal (fromPeer negotiationId : String) (signal : Signal) (nowMs : Nat) (built : Except String Unit)
  | prepareReconnect
  | reset
  | replaceConfig (validUntilMs : Nat)
  | iceCandidate (epoch : Nat) (negotiationId : String) (candidate : Option LocalCandidate)
  /-- The task goes on, as far as it can. -/
  | poll (n : Nat) (readable : Signal → Except BrowserPlatformError Unit) (localSdp : Except BrowserPlatformError String)
  /-- The browser is done with what the task asked for. -/
  | settle (n : Nat) (result : Except BrowserPlatformError Unit)
  /-- Whatever happens to the transfers. -/
  | elsewhere (peer : Peer)

namespace Signalling

variable (s : Signalling)

def saidBy (epoch : Nat) : PeerNotice → Option Happening
  | .outboundSignal toPeerId negotiationId signal => some (.sent epoch toPeerId negotiationId signal)
  | .negotiationFailed _ | .textTransferCancelled _ => none

/-- The signals that were sent from `before` to `after`. -/
def said (before after : RtcPeer) : List Happening :=
  (after.notices.drop before.notices.length).filterMap (saidBy after.connectionEpoch)

/-- The peer goes on, with what this adds to the record. -/
def moved (peer : RtcPeer) (happened : List Happening := []) : Signalling :=
  { s with peer, record := s.record ++ happened ++ said s.peer peer }

/-- The task is replaced. -/
def setTasks (n : Nat) (tasks : List SignalTask) : Signalling :=
  { s with tasks := s.tasks.take n ++ tasks ++ s.tasks.drop (n + 1) }

def spawn (task : SignalTask) : Signalling := { s with tasks := s.tasks ++ [task] }

/-- The browser makes another connection. -/
def connected : Signalling := { s with connections := s.connections + 1 }

/-- The connection of the browser is the next one. -/
def nextConnection (built : Except String Unit) : Except String ConnectionId := built.map fun _ => s.connections

/-- The task that a call has started. -/
def startedTask {A B : Type} : Except SignalingError (A × Option B) → Option B
  | .ok (_, task) => task
  | .error _ => none

def startOffer (targetPeer : String) (drawn : Except String String) (nowMs : Nat) (built : Except String Unit)
    (channel : ChannelId) : Signalling :=
  let (answer, peer) := s.peer.startOffer targetPeer drawn nowMs (s.nextConnection built) channel
  match startedTask answer with
  | none => (s.moved peer).connected
  | some task =>
    ((s.moved peer [.opened task.connectionEpoch task.peerConnection task.targetPeer task.negotiationId]).spawn
      task.started).connected

/-- The connection that a task has been started for. -/
def openedFor : PendingSignalTask → List Happening
  | .offer connection epoch negotiationId fromPeer _ => [.opened epoch connection fromPeer negotiationId]
  | _ => []

def acceptSignal (fromPeer negotiationId : String) (signal : Signal) (nowMs : Nat) (built : Except String Unit) :
    Signalling :=
  let (answer, peer) := s.peer.acceptSignal fromPeer negotiationId signal nowMs (s.nextConnection built)
  match startedTask answer with
  | none => (s.moved peer [.received fromPeer negotiationId signal]).connected
  | some task =>
    ((s.moved peer (.received fromPeer negotiationId signal :: openedFor task)).spawn task.started).connected

def iceCandidate (epoch : Nat) (negotiationId : String) (candidate : Option LocalCandidate) : Signalling :=
  s.moved (s.peer.onIceCandidate epoch negotiationId candidate)
    (if s.peer.negotiationIsCurrent epoch negotiationId then candidate.toList.map (.gathered epoch ·.signal) else [])

/-- How far the task has come, and what this makes of the peer. -/
def progressed (n : Nat) (task : SignalTask) (peer : RtcPeer) : Progressed → Signalling
  | .waits stage => (s.moved peer).setTasks n [{ task with stage, promise := .pending }]
  | .done => (s.moved peer).setTasks n []
  | .failed error => (s.moved (peer.taskFailed task.negotiation task.stage error)).setTasks n []

def poll (n : Nat) (readable : Signal → Except BrowserPlatformError Unit) (localSdp : Except BrowserPlatformError String) :
    Option Signalling :=
  match s.tasks[n]? with
  | none => none
  | some task =>
    match task.promise with
    | .unasked => some (s.progressed n task s.peer (s.peer.beginTask task.negotiation readable task.stage))
    | .pending => none
    | .settled result =>
      let (progress, peer) := s.peer.continueTask task.negotiation readable localSdp result task.stage
      some (s.progressed n task peer progress)

/-- What the browser has done for a task. -/
def done (negotiation : Negotiation) : SignalStage → List Happening
  | .settingOffer _ | .settingAnswer _ => [.localDescribed negotiation.epoch negotiation.connection]
  | .settingRemoteOffer _ sdp => [.remoteDescribed negotiation.epoch negotiation.connection (.offer sdp)]
  | .settingRemoteAnswer sdp => [.remoteDescribed negotiation.epoch negotiation.connection (.answer sdp)]
  | .addingPending candidate _ _ | .addingCandidate candidate =>
    [.candidateAdded negotiation.epoch negotiation.connection candidate]
  | .creatingOffer _ | .creatingAnswer _ => []

def doneBy (negotiation : Negotiation) (stage : SignalStage) : Except BrowserPlatformError Unit → List Happening
  | .ok () => done negotiation stage
  | .error _ => []

def settle (n : Nat) (result : Except BrowserPlatformError Unit) : Option Signalling :=
  match s.tasks[n]? with
  | none => none
  | some task =>
    match task.promise with
    | .pending =>
      some ((s.moved s.peer (doneBy task.negotiation task.stage result)).setTasks n [{ task with promise := .settled result }])
    | .unasked | .settled _ => none

def step (input : SignalInput) : Option Signalling :=
  match input with
  | .startOffer targetPeer drawn nowMs built channel => some (s.startOffer targetPeer drawn nowMs built channel)
  | .acceptSignal fromPeer negotiationId signal nowMs built => some (s.acceptSignal fromPeer negotiationId signal nowMs built)
  | .prepareReconnect => some (s.moved s.peer.prepareReconnect)
  | .reset => some (s.moved s.peer.reset)
  | .replaceConfig validUntilMs => some (s.moved { s.peer with validUntilMs })
  | .iceCandidate epoch negotiationId candidate => some (s.iceCandidate epoch negotiationId candidate)
  | .poll n readable localSdp => s.poll n readable localSdp
  | .settle n result => s.settle n result
  | .elsewhere peer =>
    if peer.connectionEpoch = s.peer.connectionEpoch ∧ peer.targetPeer = s.peer.targetPeer then
      some (s.moved { s.peer with toPeer := peer })
    else none

/-- One step of the peer. -/
def Next (s : Signalling) (input : SignalInput) (s' : Signalling) : Prop := s.step input = some s'

/-- A peer that has just been made. -/
structure Fresh (s : Signalling) : Prop where
  peerConnection : s.peer.peerConnection = none
  pendingRemoteCandidates : s.peer.pendingRemoteCandidates = []
  tasks : s.tasks = []
  record : s.record = []

end Signalling

end P2PTransmission.Rtc
