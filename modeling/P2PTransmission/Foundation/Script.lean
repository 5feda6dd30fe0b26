import Mathlib.Init

/-!
# Scripts

A program that gives commands to a world which it does not control: each command is replied to and changes the state, in a
way that the world chooses. An error ends the program unless it is caught, and the program may stop before any command: a run
whose choices come to an end has crashed there.

`Holds` is the weakest precondition: of an invariant at every command, so that it holds wherever the program crashes, and of
what is known when it returns or gives up. It follows the constructors of the script, and the rules for sequences and for
caught errors (`holds_bind`, `holds_tryCatch`) make a proof about a function a proof about its body.
-/

set_option autoImplicit false

namespace P2PTransmission

inductive Script (Command : Type) (Reply : Command → Type) (E A : Type) where
  | pure (value : A)
  | raise (error : E)
  | give (command : Command) (next : Reply command → Script Command Reply E A)

/-- How a run of a script ends. -/
inductive Ending (E A : Type) where
  | returned (value : A)
  | raised (error : E)
  | crashed
  deriving DecidableEq, Repr

namespace Script

variable {Command : Type} {Reply : Command → Type} {E A B σ Choice : Type}

/-- A single command, and its reply. -/
def ask (command : Command) : Script Command Reply E (Reply command) := .give command .pure

def bind (script : Script Command Reply E A) (f : A → Script Command Reply E B) : Script Command Reply E B :=
  match script with
  | .pure value => f value
  | .raise error => .raise error
  | .give command next => .give command fun reply => bind (next reply) f

def tryCatch (script : Script Command Reply E A) (handle : E → Script Command Reply E A) : Script Command Reply E A :=
  match script with
  | .pure value => .pure value
  | .raise error => handle error
  | .give command next => .give command fun reply => tryCatch (next reply) handle

instance : Monad (Script Command Reply E) where
  pure := .pure
  bind := bind

instance : MonadExcept E (Script Command Reply E) where
  throw := .raise
  tryCatch := tryCatch

/-- A run under the choices of the world. -/
def run (perform : (command : Command) → Choice → σ → Reply command × σ) :
    Script Command Reply E A → List Choice → σ → Ending E A × σ
  | .pure value, _, state => (.returned value, state)
  | .raise error, _, state => (.raised error, state)
  | .give _ _, [], state => (.crashed, state)
  | .give command next, choice :: choices, state =>
    run perform (next (perform command choice state).1) choices (perform command choice state).2

/-! ## Weakest preconditions -/

section Holds

variable (perform : (command : Command) → Choice → σ → Reply command × σ) (inv : σ → Prop)

/-- From the state, `inv` holds before every command of a run, `returns` when the script returns and `raises` when it raises an
error. -/
def Holds : Script Command Reply E A → (A → σ → Prop) → (E → σ → Prop) → σ → Prop
  | .pure value, returns, _, state => returns value state
  | .raise error, _, raises, state => raises error state
  | .give command next, returns, raises, state =>
    inv state ∧ ∀ choice, Holds (next (perform command choice state).1) returns raises (perform command choice state).2

variable {perform inv} {script : Script Command Reply E A} {returns returns' : A → σ → Prop} {raises raises' : E → σ → Prop}
  {state : σ}

theorem Holds.mono (h : Holds perform inv script returns raises state)
    (hreturns : ∀ value s, returns value s → returns' value s) (hraises : ∀ error s, raises error s → raises' error s) :
    Holds perform inv script returns' raises' state := by
  induction script generalizing state with
  | pure value => exact hreturns value state h
  | raise error => exact hraises error state h
  | give command next ih => exact ⟨h.1, fun choice => ih _ (h.2 choice)⟩

theorem holds_pure {value : A} (h : returns value state) :
    Holds perform inv (pure value : Script Command Reply E A) returns raises state := h

theorem holds_throw {error : E} (h : raises error state) :
    Holds perform inv (throw error : Script Command Reply E A) returns raises state := h

theorem holds_ask {command : Command} {returns : Reply command → σ → Prop} (hinv : inv state)
    (h : ∀ choice, returns (perform command choice state).1 (perform command choice state).2) :
    Holds perform inv (ask command : Script Command Reply E _) returns raises state :=
  ⟨hinv, h⟩

/-- The rule for sequences. -/
theorem holds_bind {f : A → Script Command Reply E B} {returns : B → σ → Prop}
    (h : Holds perform inv script (fun value s => Holds perform inv (f value) returns raises s) raises state) :
    Holds perform inv (script >>= f) returns raises state := by
  show Holds perform inv (bind script f) returns raises state
  induction script generalizing state with
  | pure value => exact h
  | raise error => exact h
  | give command next ih => exact ⟨h.1, fun choice => ih _ (h.2 choice)⟩

/-- The rule for caught errors. -/
theorem holds_tryCatch {handle : E → Script Command Reply E A}
    (h : Holds perform inv script returns (fun error s => Holds perform inv (handle error) returns raises s) state) :
    Holds perform inv (MonadExcept.tryCatch script handle) returns raises state := by
  show Holds perform inv (tryCatch script handle) returns raises state
  induction script generalizing state with
  | pure value => exact h
  | raise error => exact h
  | give command next ih => exact ⟨h.1, fun choice => ih _ (h.2 choice)⟩

theorem holds_ite {c : Prop} [Decidable c] {first second : Script Command Reply E A}
    (hfirst : c → Holds perform inv first returns raises state)
    (hsecond : ¬c → Holds perform inv second returns raises state) :
    Holds perform inv (if c then first else second) returns raises state := by
  by_cases hc : c
  · rw [if_pos hc]
    exact hfirst hc
  · rw [if_neg hc]
    exact hsecond hc

/-! ## Scripts of harmless commands -/

/-- Every command that the script may give has the property. -/
def Only (allowed : Command → Prop) : Script Command Reply E A → Prop
  | .pure _ => True
  | .raise _ => True
  | .give command next => allowed command ∧ ∀ reply, Only allowed (next reply)

theorem Only.bind {allowed : Command → Prop} {f : A → Script Command Reply E B} (h : Only allowed script)
    (hf : ∀ value, Only allowed (f value)) : Only allowed (script >>= f) := by
  show Only allowed (Script.bind script f)
  induction script with
  | pure value => exact hf value
  | raise error => trivial
  | give command next ih => exact ⟨h.1, fun reply => ih reply (h.2 reply)⟩

theorem Only.ite {allowed : Command → Prop} {c : Prop} [Decidable c] {first second : Script Command Reply E A}
    (hfirst : Only allowed first) (hsecond : Only allowed second) : Only allowed (if c then first else second) := by
  by_cases hc : c
  · rwa [if_pos hc]
  · rwa [if_neg hc]

theorem Only.mono {allowed allowed' : Command → Prop} (h : Only allowed script)
    (hmono : ∀ command, allowed command → allowed' command) : Only allowed' script := by
  induction script with
  | pure value => trivial
  | raise error => trivial
  | give command next ih => exact ⟨hmono _ h.1, fun reply => ih reply (h.2 reply)⟩

/-- **Frame rule.** What the commands keep, a script of them keeps. -/
theorem Only.holds {allowed : Command → Prop} {keeps : σ → Prop} (h : Only allowed script)
    (hkeeps : ∀ command choice s, allowed command → keeps s → keeps (perform command choice s).2)
    (hinv : ∀ s, keeps s → inv s) (hstate : keeps state) :
    Holds perform inv script (fun _ => keeps) (fun _ => keeps) state := by
  induction script generalizing state with
  | pure value => exact hstate
  | raise error => exact hstate
  | give command next ih =>
    exact ⟨hinv state hstate, fun choice => ih _ (h.2 _) (hkeeps command choice state h.1 hstate)⟩

/-! ## Runs -/

/-- What holds of the end of a run. -/
def EndsIn (returns : A → σ → Prop) (raises : E → σ → Prop) (inv : σ → Prop) : Ending E A × σ → Prop
  | (.returned value, s) => returns value s
  | (.raised error, s) => raises error s
  | (.crashed, s) => inv s

/-- **Runs.** A precondition holds of every run. -/
theorem Holds.run (h : Holds perform inv script returns raises state) (choices : List Choice) :
    EndsIn returns raises inv (Script.run perform script choices state) := by
  induction script generalizing state choices with
  | pure value => exact h
  | raise error => exact h
  | give command next ih =>
    cases choices with
    | nil => exact h.1
    | cons choice choices => exact ih _ (h.2 choice) choices

end Holds

end Script

end P2PTransmission
