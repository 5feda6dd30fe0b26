import P2PTransmission.Rtc.Repeats
import P2PTransmission.Rtc.Starts

/-!
# The sender over a run

What the steps of a sending peer keep, over every run that offers no other transfer: one task for each generation, started
on what was heard since the connection was last lost, and bound to a channel of its own generation.
-/

set_option autoImplicit false

namespace P2PTransmission.Rtc

namespace Peer

section Runs

variable [Blake3]

/-- The state after the inputs. -/
def after (start : Peer) (inputs : List Input) : Peer := inputs.foldl Peer.step start

/-- An input of that kind has come since the connection was last lost. -/
def Heard (what : Peer → Input → Prop) (start : Peer) (inputs : List Input) : Prop :=
  ∃ before input later, inputs = before ++ input :: later ∧ what (start.after before) input ∧
    ∀ other ∈ later, other.losesConnection = false

/-- No other transfer is offered, and the generation can be raised. -/
def Permits (peer : Peer) (input : Input) : Prop := input.installsNothing = true ∧ peer.Unsaturated

section Run

variable {transferId : String} {start peer next : Peer} {inputs : List Input} {input : Input}

theorem run_eq_after (hrun : Run (guarded Next Permits) start inputs peer) : peer = start.after inputs := by
  induction hrun with
  | nil => rfl
  | cons hstep _ ih =>
    rw [ih, ← hstep.1]
    rfl

/-! ## What was heard -/

theorem Heard.snoc {what : Peer → Input → Prop} (h : Heard what start inputs) (hkeeps : input.losesConnection = false) :
    Heard what start (inputs ++ [input]) := by
  obtain ⟨before, heard, later, rfl, hwhat, hlater⟩ := h
  refine ⟨before, heard, later ++ [input], by simp, hwhat, fun other hmem => ?_⟩
  rcases List.mem_append.mp hmem with hmem | hmem
  · exact hlater other hmem
  · rw [List.mem_singleton.mp hmem]
    exact hkeeps

theorem Heard.now {what : Peer → Input → Prop} (h : what (start.after inputs) input) :
    Heard what start (inputs ++ [input]) := ⟨inputs, input, [], rfl, h, by simp⟩

/-- What the sender knows of the receiver was heard since the connection was last lost. -/
def Knows (transferId : String) (start : Peer) (inputs : List Input) (peer : Peer) : Prop :=
  ∀ outgoing, peer.outgoing = some outgoing → outgoing.isStreamed = true →
    (outgoing.accepted = true → Heard (fun _ => Input.accepts transferId) start inputs) ∧
      (outgoing.streamReady.isSome = true → Heard (Readies transferId) start inputs)

/-- The last step of a run. -/
theorem Knows.step (hrun : Run (guarded Next Permits) start inputs peer) (hsolo : peer.Solo transferId)
    (hinput : input.installsNothing = true) (h : Knows transferId start inputs peer) :
    Knows transferId start (inputs ++ [input]) (peer.step input) := by
  intro now hnow hstreamed
  cases hloses : input.losesConnection with
  | true =>
    obtain ⟨haccepted, hready⟩ := forgotten_of_loss hloses hnow hstreamed
    rw [haccepted, hready]
    exact ⟨fun hyes => (by cases hyes), fun hyes => (by cases hyes)⟩
  | false =>
    obtain ⟨outgoing, hout, hmode, haccepted, hready⟩ := (step_tells hsolo hinput).heard now hnow
    have hbefore := h outgoing hout (by rw [← OutgoingState.isStreamed_congr hmode, hstreamed])
    have hpeer := run_eq_after hrun
    constructor
    · intro hyes
      rcases haccepted hyes with hold | hnew
      · exact (hbefore.1 hold).snoc hloses
      · exact .now hnew
    · intro hyes
      rcases hready hyes with hold | hnew
      · exact (hbefore.2 hold).snoc hloses
      · refine .now ?_
        rw [← hpeer]
        exact hnew

/-- The channel was that of the connection while the generation was the current one. -/
def WasChannel (start : Peer) (inputs : List Input) (generation : Nat) (c : ChannelId) : Prop :=
  ∃ before later, inputs = before ++ later ∧ (start.after before).Takes generation c

theorem WasChannel.snoc {generation : Nat} {c : ChannelId} (h : WasChannel start inputs generation c) (input : Input) :
    WasChannel start (inputs ++ [input]) generation c := by
  obtain ⟨before, later, rfl, htakes⟩ := h
  exact ⟨before, later ++ [input], by rw [List.append_assoc], htakes⟩

end Run

end Runs

end Peer

/-! ## A receiver that pauses first -/

namespace PausedFirst

local instance noDigests : Blake3 := ⟨fun _ => ""⟩

def file (name : String) : BrowserFile :=
  { inner := { name, mime := none, content := [0], lastModifiedMs := 0 }, sourceHandle := none }

def ids : DrawnIds := { transferBytes := .replicate 16 0, fileBytes := [.replicate 16 1, .replicate 16 2] }

def transferId : String := formatBinaryId "transfer" ids.transferBytes

/-- Two files are offered. -/
def sender : Peer :=
  Peer.after {} [.connect "receiver", .installChannel 0, .channelOpened, .offerFiles [file "first", file "second"] ids]

def paused : Input := .receive (.frame (.control (.streamPaused transferId .destinationQuotaExceeded))) .created

def ready : Input :=
  .receive (.frame (.control (.streamReady transferId MAX_CHUNK_BYTES MAX_STREAM_ACK_WINDOW_BYTES
    (ids.fileBytes.map fun bytes =>
      { fileId := formatBinaryId "file" bytes, committedBytes := 0, lastSegmentBlake3 := none })))) .created

end PausedFirst

end P2PTransmission.Rtc
