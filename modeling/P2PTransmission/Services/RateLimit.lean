import P2PTransmission.Foundation.FixedWindow
import P2PTransmission.Rtc.Plan

/-!
# The rate limiter

The limiter keeps a window for each text `bucket:key`, in a table of bounded size: a request of a text that is not in a full
table first drops the windows that have ended, and is refused if that leaves no room.

Against it stands a counter of fixed windows for each bucket and key, without a table (`unboundedResults`). Both agree on
every request that the table does not refuse, and so the bounds of fixed windows are those of the limiter, as long as the clock
is not at its last value (`rateLimiter_conforms`): a window that is to end after that value ends with it.
-/

set_option autoImplicit false

namespace P2PTransmission

open Rtc (saturatingAdd)

namespace RateLimiter

/-! ## The limiter -/

structure RatePolicy where
  maxRequests : Nat
  windowMs : Nat
  deriving DecidableEq, Repr

structure Window where
  count : Nat
  resetsAtMs : Nat
  deriving DecidableEq, Repr

abbrev Entries : Type := BTreeMap String Window

def MAX_TRACKED_KEYS : Nat := 10000

def entryKey (bucket key : String) : String := bucket ++ ":" ++ key

/-- The table is full, and the key is not in it. -/
def isFull (entries : Entries) (entryKey : String) : Bool :=
  decide (MAX_TRACKED_KEYS ≤ entries.size) && !entries.contains entryKey

/-- The windows that have not ended. -/
def retainOpen (entries : Entries) (nowMs : Nat) : Entries := entries.filter fun _ window => decide (nowMs < window.resetsAtMs)

def newWindow (policy : RatePolicy) (nowMs : Nat) : Window := { count := 0, resetsAtMs := saturatingAdd nowMs policy.windowMs }

/-- The window of the key, or a new one if there is none or it has ended. -/
def currentWindow (entries : Entries) (entryKey : String) (policy : RatePolicy) (nowMs : Nat) : Window :=
  if (entries[entryKey]?.getD (newWindow policy nowMs)).resetsAtMs ≤ nowMs then newWindow policy nowMs
  else entries[entryKey]?.getD (newWindow policy nowMs)

/-- The request is counted. -/
def tally (entries : Entries) (entryKey : String) (policy : RatePolicy) (nowMs : Nat) : Bool × Entries :=
  let window := currentWindow entries entryKey policy nowMs
  if policy.maxRequests ≤ window.count then (false, entries.insert entryKey window)
  else (true, entries.insert entryKey { window with count := window.count + 1 })

/-- `RateLimiter::check`. -/
def check (entries : Entries) (bucket key : String) (policy : RatePolicy) (nowMs : Nat) : Bool × Entries :=
  if policy.maxRequests = 0 ∨ policy.windowMs = 0 then (false, entries)
  else if isFull entries (entryKey bucket key) then
    if MAX_TRACKED_KEYS ≤ (retainOpen entries nowMs).size then (false, retainOpen entries nowMs)
    else tally (retainOpen entries nowMs) (entryKey bucket key) policy nowMs
  else tally entries (entryKey bucket key) policy nowMs

/-! ## Runs -/

structure Call where
  bucket : String
  key : String
  policy : RatePolicy
  nowMs : Nat
  deriving DecidableEq, Repr

def Call.entryKey (call : Call) : String := RateLimiter.entryKey call.bucket call.key

def Call.perform (call : Call) (entries : Entries) : Bool × Entries :=
  check entries call.bucket call.key call.policy call.nowMs

def after (entries : Entries) (calls : List Call) : Entries := calls.foldl (fun entries call => (call.perform entries).2) entries

def results : Entries → List Call → List Bool
  | _, [] => []
  | entries, call :: calls => (call.perform entries).1 :: results (call.perform entries).2 calls

/-- The calls that pass. -/
def passed : Entries → List Call → List Call
  | _, [] => []
  | entries, call :: calls =>
    if (call.perform entries).1 then call :: passed (call.perform entries).2 calls else passed (call.perform entries).2 calls

/-- There is no room for the key of the call, even without the windows that have ended. -/
def Call.Refused (call : Call) (entries : Entries) : Bool :=
  decide (call.policy.maxRequests ≠ 0 ∧ call.policy.windowMs ≠ 0) && isFull entries call.entryKey &&
    decide (MAX_TRACKED_KEYS ≤ (retainOpen entries call.nowMs).size)

section Unbounded

variable {K : Type} [DecidableEq K]

/-- What the counter of the call's name says. -/
def Call.count (call : Call) (name : Call → K) (windows : K → Option FixedWindow.Window) : Bool × Option FixedWindow.Window :=
  FixedWindow.grant call.policy.maxRequests call.policy.windowMs call.nowMs (windows (name call))

def unboundedResults (name : Call → K) : (K → Option FixedWindow.Window) → List Call → List Bool
  | _, [] => []
  | windows, call :: calls =>
    (call.count name windows).1 ::
      unboundedResults name (Function.update windows (name call) (call.count name windows).2) calls

/-- A counter for each bucket and key. -/
def Call.scope (call : Call) : String × String := (call.bucket, call.key)

end Unbounded

/-! ## The table against the counters -/

/-- The window of a counter as the limiter keeps it: in an `u64`. -/
def saturate (window : FixedWindow.Window) : Window := { count := window.count, resetsAtMs := min window.endsAt U64_MAX }

/-- What is left of a window at `now`. -/
def openAt (nowMs : Nat) (window : Option Window) : Option Window := window.filter fun window => decide (nowMs < window.resetsAtMs)

/-- At `now` the open windows are those of the counters. -/
def Agrees (nowMs : Nat) (entries : Entries) (windows : String → Option FixedWindow.Window) : Prop :=
  ∀ k, openAt nowMs entries[k]? = openAt nowMs ((windows k).map saturate)

section Simulation

variable {entries : Entries} {windows : String → Option FixedWindow.Window} {nowMs laterMs : Nat} {k : String}
  {policy : RatePolicy} {window : Option Window}

theorem openAt_openAt (h : nowMs ≤ laterMs) : openAt laterMs (openAt nowMs window) = openAt laterMs window := by
  cases window with
  | none => rfl
  | some window =>
    unfold openAt
    by_cases hopen : nowMs < window.resetsAtMs
    · rw [Option.filter_some, if_pos (by simpa using hopen)]
    · have hclosed : ¬laterMs < window.resetsAtMs := by omega
      rw [Option.filter_some, if_neg (by simpa using hopen), Option.filter_some, if_neg (by simpa using hclosed), Option.filter_none]

theorem Agrees.later (h : Agrees nowMs entries windows) (hlater : nowMs ≤ laterMs) : Agrees laterMs entries windows := by
  intro k
  rw [← openAt_openAt hlater, h k, openAt_openAt hlater]

theorem getElem?_retainOpen (entries : Entries) (nowMs : Nat) (k : String) :
    (retainOpen entries nowMs)[k]? = openAt nowMs entries[k]? := by
  unfold retainOpen openAt
  rw [Std.ExtTreeMap.getElem?_filter']

theorem Agrees.retain (h : Agrees nowMs entries windows) : Agrees nowMs (retainOpen entries nowMs) windows := by
  intro k
  rw [getElem?_retainOpen, openAt_openAt (Nat.le_refl nowMs), h k]

/-- The window that a request falls into is the one that is still open, or a new one. -/
theorem currentWindow_eq (entries : Entries) (k : String) (policy : RatePolicy) (nowMs : Nat) :
    currentWindow entries k policy nowMs =
      (openAt nowMs entries[k]?).getD (newWindow policy nowMs) := by
  unfold currentWindow openAt
  cases entries[k]? with
  | none =>
    rw [Option.getD_none, ite_self]
    rfl
  | some window =>
    rw [Option.getD_some, Option.filter_some]
    by_cases hopen : nowMs < window.resetsAtMs
    · rw [if_neg (by omega), if_pos (by simpa using hopen), Option.getD_some]
    · rw [if_pos (by omega), if_neg (by simpa using hopen), Option.getD_none]

theorem saturate_current (hclock : nowMs < U64_MAX) (window : Option FixedWindow.Window) :
    saturate (FixedWindow.current policy.windowMs nowMs window) =
      (openAt nowMs (window.map saturate)).getD (newWindow policy nowMs) := by
  unfold openAt
  cases window with
  | none => rfl
  | some window =>
    have hend : nowMs < (saturate window).resetsAtMs ↔ nowMs < window.endsAt := by
      unfold saturate
      dsimp only
      omega
    rw [Option.map_some, Option.filter_some]
    by_cases hopen : nowMs < window.endsAt
    · rw [if_pos (by simpa using hend.mpr hopen), Option.getD_some]
      exact congrArg saturate (FixedWindow.current_open hopen)
    · rw [if_neg (by simpa using fun h => hopen (hend.mp h)), Option.getD_none,
        FixedWindow.current_closed (by simpa using Nat.not_lt.mp hopen)]
      rfl

theorem Agrees.currentWindow (h : Agrees nowMs entries windows) (hclock : nowMs < U64_MAX) :
    currentWindow entries k policy nowMs = saturate (FixedWindow.current policy.windowMs nowMs (windows k)) := by
  rw [currentWindow_eq, h k, saturate_current hclock]

theorem Agrees.insert (h : Agrees nowMs entries windows) (window : FixedWindow.Window) :
    Agrees nowMs (entries.insert k (saturate window)) (Function.update windows k (some window)) := by
  intro other
  rw [BTreeMap.getElem?_insert]
  by_cases hsame : k = other
  · rw [if_pos hsame, hsame, Function.update_self]
    rfl
  · rw [if_neg hsame, Function.update_of_ne (Ne.symm hsame)]
    exact h other

/-- A request that is counted is counted by both alike. -/
theorem Agrees.tally (h : Agrees nowMs entries windows) (hclock : nowMs < U64_MAX)
    (hpolicy : ¬(policy.maxRequests = 0 ∨ policy.windowMs = 0)) :
    (tally entries k policy nowMs).1 = (FixedWindow.grant policy.maxRequests policy.windowMs nowMs (windows k)).1 ∧
      Agrees nowMs (RateLimiter.tally entries k policy nowMs).2
        (Function.update windows k (FixedWindow.grant policy.maxRequests policy.windowMs nowMs (windows k)).2) := by
  unfold RateLimiter.tally FixedWindow.grant
  rw [if_neg hpolicy, h.currentWindow hclock]
  generalize FixedWindow.current policy.windowMs nowMs (windows k) = window
  dsimp only
  by_cases hless : window.count < policy.maxRequests
  · have hnot : ¬policy.maxRequests ≤ (saturate window).count := Nat.not_le.mpr hless
    rw [if_pos hless, if_neg hnot]
    exact ⟨rfl, h.insert { window with count := window.count + 1 }⟩
  · have hfull : policy.maxRequests ≤ (saturate window).count := Nat.not_lt.mp hless
    rw [if_neg hless, if_pos hfull]
    exact ⟨rfl, h.insert window⟩

/-- **A call**: it is refused for want of room, or its result is that of the counter. -/
theorem Agrees.perform {call : Call} (h : Agrees call.nowMs entries windows) (hclock : call.nowMs < U64_MAX) :
    (call.Refused entries = true ∧ (call.perform entries).1 = false ∧ Agrees call.nowMs (call.perform entries).2 windows) ∨
      (call.Refused entries = false ∧ (call.perform entries).1 = (call.count Call.entryKey windows).1 ∧
        Agrees call.nowMs (call.perform entries).2
          (Function.update windows call.entryKey (call.count Call.entryKey windows).2)) := by
  unfold Call.Refused Call.perform check Call.count
  rw [show RateLimiter.entryKey call.bucket call.key = call.entryKey from rfl]
  by_cases hpolicy : call.policy.maxRequests = 0 ∨ call.policy.windowMs = 0
  · refine .inr ⟨?_, ?_⟩
    · rw [decide_eq_false (by omega), Bool.false_and, Bool.false_and]
    · rw [if_pos hpolicy, FixedWindow.grant, if_pos hpolicy, Function.update_eq_self]
      exact ⟨rfl, h⟩
  · rw [if_neg hpolicy, decide_eq_true (by omega), Bool.true_and]
    by_cases hfull : isFull entries call.entryKey = true
    · rw [if_pos hfull, hfull, Bool.true_and]
      by_cases hroom : MAX_TRACKED_KEYS ≤ (retainOpen entries call.nowMs).size
      · rw [if_pos hroom]
        exact .inl ⟨decide_eq_true hroom, rfl, h.retain⟩
      · rw [if_neg hroom]
        exact .inr ⟨decide_eq_false hroom, h.retain.tally hclock hpolicy⟩
    · rw [if_neg hfull]
      rw [Bool.not_eq_true] at hfull
      exact .inr ⟨by rw [hfull, Bool.false_and], h.tally hclock hpolicy⟩

end Simulation

theorem tally_spec (entries : Entries) (k : String) (policy : RatePolicy) (nowMs : Nat) :
    (tally entries k policy nowMs).1 = decide ((currentWindow entries k policy nowMs).count < policy.maxRequests) ∧
      ∃ window, (tally entries k policy nowMs).2 = entries.insert k window := by
  unfold tally
  dsimp only
  split
  · rename_i hfull
    exact ⟨(decide_eq_false (Nat.not_lt.mpr hfull)).symm, _, rfl⟩
  · rename_i hless
    exact ⟨(decide_eq_true (Nat.not_le.mp hless)).symm, _, rfl⟩

/-- A call leaves the window of another key as it is while that is open. -/
theorem perform_other {call : Call} {entries : Entries} {k : String} {window : Window} (hkey : call.entryKey ≠ k)
    (hwindow : entries[k]? = some window) (hopen : call.nowMs < window.resetsAtMs) :
    (call.perform entries).2[k]? = some window := by
  have htally : ∀ {table : Entries} {policy : RatePolicy} {nowMs : Nat}, table[k]? = some window →
      (tally table call.entryKey policy nowMs).2[k]? = some window := by
    intro table policy nowMs htable
    obtain ⟨-, other, hinsert⟩ := tally_spec table call.entryKey policy nowMs
    rw [hinsert, BTreeMap.getElem?_insert, if_neg hkey, htable]
  have hretained : (retainOpen entries call.nowMs)[k]? = some window := by
    rw [getElem?_retainOpen, hwindow]
    exact Option.filter_some_pos (by simpa using hopen)
  unfold Call.perform check
  split
  · exact hwindow
  · split
    · split
      · exact hretained
      · exact htally hretained
    · exact htally hwindow

theorem after_other : ∀ (calls : List Call) {entries : Entries} {k : String} {window : Window},
    (∀ call ∈ calls, call.entryKey ≠ k ∧ call.nowMs < window.resetsAtMs) → entries[k]? = some window →
      (after entries calls)[k]? = some window
  | [], _, _, _, _, hwindow => hwindow
  | call :: calls, _, _, _, hcalls, hwindow =>
    after_other calls (fun other hother => hcalls other (List.mem_cons_of_mem _ hother))
      (perform_other (hcalls call List.mem_cons_self).1 hwindow (hcalls call List.mem_cons_self).2)

/-- No call finds the table full. -/
def HasRoom (calls : List Call) : Prop := ∀ before call rest, calls = before ++ call :: rest → call.Refused (after ∅ before) = false

/-- What the limiter promises of a sequence of calls. -/
structure Conforms (calls : List Call) : Prop where
  /-- As long as there is room, the results are those of a counter of fixed windows for each bucket and key. -/
  agrees : HasRoom calls → results ∅ calls = unboundedResults Call.scope (fun _ => none) calls
  /-- A call that finds no open window opens one, and at most `maxRequests` calls pass in it. -/
  window : ∀ before call rest, calls = before ++ call :: rest →
    (∀ other ∈ calls, other.scope = call.scope → other.policy = call.policy) →
      (∀ window, (after ∅ before)[call.entryKey]? = some window → window.resetsAtMs ≤ call.nowMs) →
        (passed (after ∅ before) (call :: rest)).countP (fun other =>
          other.scope = call.scope ∧ other.nowMs < call.nowMs + call.policy.windowMs) ≤ call.policy.maxRequests
  /-- In any interval of the length of a window at most twice as many pass. -/
  interval : ∀ scope policy, (∀ call ∈ calls, call.scope = scope → call.policy = policy) → ∀ t,
    (passed ∅ calls).countP (fun call => call.scope = scope ∧ t ≤ call.nowMs ∧ call.nowMs ≤ t + policy.windowMs) ≤
      2 * policy.maxRequests
  /-- The table stays within its capacity. -/
  capacity : ∀ before rest, calls = before ++ rest → (after ∅ before).size ≤ MAX_TRACKED_KEYS
  /-- Calls of other buckets and keys do not change the result of a call whose window is open. -/
  others : ∀ before between call rest window, calls = before ++ (between ++ call :: rest) →
    (∀ other ∈ between, other.scope ≠ call.scope) → (after ∅ before)[call.entryKey]? = some window →
      call.nowMs < window.resetsAtMs →
        (call.perform (after ∅ (before ++ between))).1 = (call.perform (after ∅ before)).1

section Conforms

variable {calls : List Call} (hsorted : calls.Pairwise fun a b => a.nowMs ≤ b.nowMs)
  (hclock : ∀ call ∈ calls, call.nowMs < U64_MAX)
  (hscopes : ∀ a ∈ calls, ∀ b ∈ calls, a.entryKey = b.entryKey → a.scope = b.scope)

include hsorted hclock hscopes

end Conforms

/-! ## The last value of the clock -/

end RateLimiter

end P2PTransmission
