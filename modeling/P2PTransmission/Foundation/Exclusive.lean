import Mathlib.Logic.Function.Basic
import P2PTransmission.Foundation.Run

/-!
# Transactions under one lock

Any number of callers run transactions on a shared state. A transaction takes the lock when it begins, works on the
state it saw then, and releases the lock when it commits, rolls back or is aborted; callers may also be refused before
they begin. `serial` is the guarantee: whatever the order of the steps, the committed state went through the bodies of
the transactions one after another, in the order in which they returned.
-/

set_option autoImplicit false

namespace P2PTransmission

namespace Exclusive

variable {σ ι κ ρ : Type} [DecidableEq ι]

structure State (σ ι κ : Type) where
  committed : σ
  waiting : ι → Option κ
  /-- The transaction that holds the lock, with the state in which it began. -/
  running : Option (ι × κ × σ)

inductive Event (ι κ ρ : Type) where
  | invoke (caller : ι) (call : κ)
  | begin (caller : ι)
  | finish (caller : ι) (call : κ) (result : ρ)
  | abort (caller : ι) (call : κ) (result : ρ)
  | refuse (caller : ι) (call : κ) (result : ρ)

variable (body : κ → σ → ρ × σ) (refused : ρ → Prop)

inductive Step : State σ ι κ → Event ι κ ρ → State σ ι κ → Prop
  | invoke {s : State σ ι κ} {i : ι} {c : κ} :
      s.waiting i = none → Step s (.invoke i c) { s with waiting := Function.update s.waiting i (some c) }
  | begin {s : State σ ι κ} {i : ι} {c : κ} : s.waiting i = some c → s.running = none →
      Step s (.begin i)
        { s with waiting := Function.update s.waiting i none, running := some (i, c, s.committed) }
  | finish {s : State σ ι κ} {i : ι} {c : κ} {seen : σ} : s.running = some (i, c, seen) →
      Step s (.finish i c (body c seen).1) { s with committed := (body c seen).2, running := none }
  | abort {s : State σ ι κ} {i : ι} {c : κ} {seen : σ} {r : ρ} : s.running = some (i, c, seen) → refused r →
      Step s (.abort i c r) { s with running := none }
  | refuse {s : State σ ι κ} {i : ι} {c : κ} {r : ρ} : s.waiting i = some c → refused r →
      Step s (.refuse i c r) { s with waiting := Function.update s.waiting i none }

/-- The calls that have returned, with their results. -/
def returned : List (Event ι κ ρ) → List (κ × ρ)
  | [] => []
  | .finish _ c r :: es | .abort _ c r :: es | .refuse _ c r :: es => (c, r) :: returned es
  | .invoke _ _ :: es | .begin _ :: es => returned es

/-- One call on the state, alone: it runs its body, or it is refused and leaves the state. -/
inductive Serial : σ → κ × ρ → σ → Prop
  | ran {s : σ} {c : κ} : Serial s (c, (body c s).1) (body c s).2
  | refused {s : σ} {c : κ} {r : ρ} : refused r → Serial s (c, r) s

variable {body refused} {s t : State σ ι κ} {es : List (Event ι κ ρ)}

/-- The transaction that runs works on the committed state. -/
def Fresh (s : State σ ι κ) : Prop := ∀ i c seen, s.running = some (i, c, seen) → seen = s.committed

theorem Step.fresh {e : Event ι κ ρ} (h : Step body refused s e t) (hs : Fresh s) : Fresh t := by
  cases h with
  | invoke => exact hs
  | begin =>
    intro i c seen hrunning
    cases hrunning
    rfl
  | finish | abort =>
    intro i c seen hrunning
    cases hrunning
  | refuse => exact hs

/-- **Serialisability.** -/
theorem serial (hrun : Run (Step body refused) s es t) (hs : Fresh s) :
    Run (Serial body refused) s.committed (returned es) t.committed := by
  induction hrun with
  | nil s => exact .nil _
  | @cons s u t e es hstep _ ih =>
    have ih := ih (hstep.fresh hs)
    cases hstep with
    | invoke => exact ih
    | begin => exact ih
    | @finish i c seen hrunning =>
      have hseen : seen = s.committed := hs _ _ _ hrunning
      subst hseen
      exact .cons .ran ih
    | abort _ hrefused => exact .cons (.refused hrefused) ih
    | refuse _ hrefused => exact .cons (.refused hrefused) ih

end Exclusive

end P2PTransmission
