import P2PTransmission.Client.Reducer
import P2PTransmission.Foundation.Run
import Mathlib.Order.Basic

/-!
# The realtime connection and its leases

`RealtimeConnectionState` of the web client. A connection is opened under a lease, which names the generation and the
instance of the target that it was opened for; a reconnect is scheduled with a ticket. Callbacks keep their leases and
tickets and come back with them at any time.

Generations, retry tokens and targets are compared by address (`Rc::ptr_eq`). An address is a number here, and each
`Rc::new` takes the next one of the `heap`.
-/

set_option autoImplicit false

namespace P2PTransmission.RealtimeConnection

/-! ## Model -/

/-- The address of an allocation. -/
abbrev Rc := Nat

/-- An instance of a target; what it refers to plays no part in the comparisons. -/
structure RealtimeTarget where
  inner : Rc
  deriving DecidableEq, Repr

def RealtimeTarget.isSameInstance (target other : RealtimeTarget) : Bool := target.inner == other.inner

def sameOptionalTargetInstance : Option RealtimeTarget → Option RealtimeTarget → Bool
  | some left, some right => left.isSameInstance right
  | none, none => true
  | _, _ => false

structure RealtimeLease where
  generation : Rc
  target : RealtimeTarget
  deriving DecidableEq, Repr

structure SuppressedTarget where
  generation : Rc
  target : RealtimeTarget
  deriving DecidableEq, Repr

structure RetryTicket where
  generation : Rc
  retryToken : Rc
  attempt : Nat
  target : RealtimeTarget
  deriving DecidableEq, Repr

inductive BeginConnection
  | disconnected
  | suppressed
  | connect (lease : RealtimeLease) (attempt : Nat)
  deriving DecidableEq, Repr

/-- The largest `u32`. -/
def u32Max : Nat := 2 ^ 32 - 1

def RetryTicket.delayMs (ticket : RetryTicket) : Nat := min (500 * 2 ^ min ticket.attempt 4) u32Max

structure RealtimeConnectionState where
  generation : Rc
  backoffAttempt : Nat
  retryToken : Rc
  activeTarget : Option RealtimeTarget
  suppressedForTarget : Option SuppressedTarget
  deriving DecidableEq, Repr

namespace RealtimeConnectionState

variable (state : RealtimeConnectionState) (lease : RealtimeLease) (target : RealtimeTarget) (ticket : RetryTicket)

def targetIsSuppressed : Bool := state.suppressedForTarget.any fun suppressed => suppressed.target.isSameInstance target

/-- The assignments of `begin`. -/
def begun (heap : Rc) (target : Option RealtimeTarget) : RealtimeConnectionState :=
  if sameOptionalTargetInstance state.activeTarget target then
    { state with generation := heap, activeTarget := target }
  else
    { generation := heap, backoffAttempt := 0, retryToken := heap + 1, activeTarget := target,
      suppressedForTarget := none }

/-- What `begin` answers, from the state that it leaves. -/
def answer : Option RealtimeTarget → BeginConnection
  | none => .disconnected
  | some target =>
    if state.targetIsSuppressed target then .suppressed
    else .connect { generation := state.generation, target } state.backoffAttempt

def begin (heap : Rc) (target : Option RealtimeTarget) : BeginConnection × RealtimeConnectionState :=
  ((state.begun heap target).answer target, state.begun heap target)

def isActive : Bool := state.activeTarget.any fun active => active.isSameInstance target

def currentLease : Option RealtimeLease :=
  if !state.isActive target || state.targetIsSuppressed target then none
  else some { generation := state.generation, target }

def leaseIsCurrent : Bool :=
  state.generation == lease.generation && state.isActive lease.target && !state.targetIsSuppressed lease.target

def invalidate (heap : Rc) : RealtimeConnectionState := { state with generation := heap }

def markConnected (heap : Rc) : Bool × RealtimeConnectionState :=
  if !state.leaseIsCurrent lease then (false, state)
  else (true, { state with backoffAttempt := 0, retryToken := heap })

def retryTicket : Option RetryTicket :=
  if state.leaseIsCurrent lease then
    some { generation := lease.generation, retryToken := state.retryToken, attempt := state.backoffAttempt,
           target := lease.target }
  else none

def claimReconnectTimer (heap : Rc) (phase : RealtimePhase) : Bool × RealtimeConnectionState :=
  if phase != .reconnecting || state.generation != ticket.generation || state.retryToken != ticket.retryToken ||
      state.backoffAttempt != ticket.attempt || !state.isActive ticket.target ||
      state.targetIsSuppressed ticket.target then (false, state)
  else (true, { state with backoffAttempt := min (state.backoffAttempt + 1) u32Max, retryToken := heap })

def suppress : Bool × RealtimeConnectionState :=
  if !state.leaseIsCurrent lease then (false, state)
  else (true, { state with suppressedForTarget := some { generation := lease.generation, target := lease.target } })

end RealtimeConnectionState

/-! ## Runs -/

/-- The state, the target that the page shows, and what callbacks hold. The last two lists say which tickets were
claimed and for which targets a suppression went through. -/
structure Page where
  heap : Rc
  state : RealtimeConnectionState
  target : Option RealtimeTarget
  leases : List RealtimeLease
  tickets : List RetryTicket
  claimed : List RetryTicket
  suppressed : List RealtimeTarget
  deriving DecidableEq, Repr

def Page.start : Page where
  heap := 2
  state :=
    { generation := 0, backoffAttempt := 0, retryToken := 1, activeTarget := none, suppressedForTarget := none }
  target := none
  leases := []
  tickets := []
  claimed := []
  suppressed := []

inductive Act
  /-- The page turns to a target: each one is a new instance. -/
  | install
  | clear
  | begin
  | currentLease
  | invalidate
  | markConnected (lease : RealtimeLease)
  | schedule (lease : RealtimeLease)
  | claim (ticket : RetryTicket) (phase : RealtimePhase)
  | suppress (lease : RealtimeLease)
  deriving DecidableEq, Repr

namespace Page

variable (page : Page)

def begin : Page :=
  let result := page.state.begin page.heap page.target
  { page with
    heap := page.heap + 2
    state := result.2
    leases := match result.1 with
      | .connect lease _ => lease :: page.leases
      | _ => page.leases }

def currentLease : Page :=
  { page with leases := (page.target.bind page.state.currentLease).toList ++ page.leases }

def markConnected (lease : RealtimeLease) : Page :=
  { page with heap := page.heap + 1, state := (page.state.markConnected lease page.heap).2 }

def schedule (lease : RealtimeLease) : Page :=
  { page with tickets := (page.state.retryTicket lease).toList ++ page.tickets }

def claim (ticket : RetryTicket) (phase : RealtimePhase) : Page :=
  let result := page.state.claimReconnectTimer ticket page.heap phase
  { page with
    heap := page.heap + 1
    state := result.2
    claimed := if result.1 then ticket :: page.claimed else page.claimed }

def suppress (lease : RealtimeLease) : Page :=
  let result := page.state.suppress lease
  { page with
    state := result.2
    suppressed := if result.1 then lease.target :: page.suppressed else page.suppressed }

def act : Act → Page
  | .install => { page with heap := page.heap + 1, target := some { inner := page.heap } }
  | .clear => { page with target := none }
  | .begin => page.begin
  | .currentLease => page.currentLease
  | .invalidate => { page with heap := page.heap + 1, state := page.state.invalidate page.heap }
  | .markConnected lease => page.markConnected lease
  | .schedule lease => page.schedule lease
  | .claim ticket phase => page.claim ticket phase
  | .suppress lease => page.suppress lease

/-- A callback comes back with a lease or ticket that it was given. -/
def Holds : Act → Prop
  | .markConnected lease | .schedule lease | .suppress lease => lease ∈ page.leases
  | .claim ticket _ => ticket ∈ page.tickets
  | _ => True

/-- Any callback at any time. -/
def Step (page : Page) (event : Act) (next : Page) : Prop := page.Holds event ∧ next = page.act event

end Page

/-! ## What the operations answer -/

@[simp] theorem RealtimeTarget.isSameInstance_iff {target other : RealtimeTarget} :
    target.isSameInstance other = true ↔ target = other := by
  obtain ⟨inner⟩ := target
  obtain ⟨inner'⟩ := other
  simp [RealtimeTarget.isSameInstance]

theorem sameOptionalTargetInstance_iff {left right : Option RealtimeTarget} :
    sameOptionalTargetInstance left right = true ↔ left = right := by
  cases left <;> cases right <;> simp [sameOptionalTargetInstance]

namespace RealtimeConnectionState

variable {state : RealtimeConnectionState} {lease : RealtimeLease} {target : RealtimeTarget} {ticket : RetryTicket}
  {heap : Rc} {phase : RealtimePhase}

theorem targetIsSuppressed_iff : state.targetIsSuppressed target = true ↔
    ∃ suppressed, state.suppressedForTarget = some suppressed ∧ suppressed.target = target := by
  simp [targetIsSuppressed, Option.any_eq_true]

theorem isActive_iff : state.isActive target = true ↔ state.activeTarget = some target := by
  simp [isActive, Option.any_eq_true]

theorem leaseIsCurrent_iff : state.leaseIsCurrent lease = true ↔ state.generation = lease.generation ∧
    state.activeTarget = some lease.target ∧ state.targetIsSuppressed lease.target = false := by
  simp [leaseIsCurrent, isActive_iff, and_assoc]

theorem currentLease_some {lease' : RealtimeLease} (h : state.currentLease target = some lease') :
    lease' = { generation := state.generation, target } ∧ state.leaseIsCurrent lease' = true := by
  unfold currentLease at h
  split at h
  · cases h
  · rename_i hcurrent
    obtain rfl := Option.some.inj h
    have hboth : state.isActive target = true ∧ state.targetIsSuppressed target = false := by simpa using hcurrent
    exact ⟨rfl, leaseIsCurrent_iff.mpr ⟨rfl, isActive_iff.mp hboth.1, hboth.2⟩⟩

/-- What is left after `begin`: the target is the active one, the generation is new, and a target that was not active
before is not suppressed. -/
theorem begun_cases (state : RealtimeConnectionState) (heap : Rc) (target : Option RealtimeTarget) :
    (state.activeTarget = target ∧ state.begun heap target = { state with generation := heap }) ∨
    (state.activeTarget ≠ target ∧ state.begun heap target =
      { generation := heap, backoffAttempt := 0, retryToken := heap + 1, activeTarget := target,
        suppressedForTarget := none }) := by
  unfold begun
  by_cases hsame : state.activeTarget = target
  · rw [if_pos (sameOptionalTargetInstance_iff.mpr hsame)]
    exact .inl ⟨hsame, by rw [← hsame]⟩
  · rw [if_neg fun h => hsame (sameOptionalTargetInstance_iff.mp h)]
    exact .inr ⟨hsame, rfl⟩

/-- The lease of a new connection. -/
theorem answer_connect {target : Option RealtimeTarget} {attempt : Nat}
    (h : state.answer target = .connect lease attempt) : lease.generation = state.generation ∧
      target = some lease.target ∧ state.targetIsSuppressed lease.target = false := by
  cases target with
  | none => cases h
  | some target =>
    dsimp only [answer] at h
    by_cases hsuppressed : state.targetIsSuppressed target = true
    · rw [if_pos hsuppressed] at h
      cases h
    · rw [if_neg hsuppressed] at h
      cases h
      exact ⟨rfl, rfl, by simpa using hsuppressed⟩

theorem markConnected_cases (state : RealtimeConnectionState) (lease : RealtimeLease) (heap : Rc) :
    (state.leaseIsCurrent lease = false ∧ state.markConnected lease heap = (false, state)) ∨
    (state.leaseIsCurrent lease = true ∧ state.markConnected lease heap =
      (true, { state with backoffAttempt := 0, retryToken := heap })) := by
  unfold markConnected
  cases state.leaseIsCurrent lease with
  | false => exact .inl ⟨rfl, rfl⟩
  | true => exact .inr ⟨rfl, rfl⟩

theorem suppress_cases (state : RealtimeConnectionState) (lease : RealtimeLease) :
    (state.leaseIsCurrent lease = false ∧ state.suppress lease = (false, state)) ∨
    (state.leaseIsCurrent lease = true ∧ state.suppress lease = (true, { state with
      suppressedForTarget := some { generation := lease.generation, target := lease.target } })) := by
  unfold suppress
  cases state.leaseIsCurrent lease with
  | false => exact .inl ⟨rfl, rfl⟩
  | true => exact .inr ⟨rfl, rfl⟩

theorem retryTicket_some {ticket : RetryTicket} (h : state.retryTicket lease = some ticket) :
    ticket.generation = state.generation ∧ ticket.retryToken = state.retryToken := by
  unfold retryTicket at h
  cases hcurrent : state.leaseIsCurrent lease with
  | false =>
    rw [hcurrent] at h
    cases h
  | true =>
    rw [hcurrent] at h
    cases h
    exact ⟨(leaseIsCurrent_iff.mp hcurrent).1.symm, rfl⟩

/-- A ticket is claimed under its own generation and token, and the token is replaced. -/
theorem claimReconnectTimer_cases (state : RealtimeConnectionState) (ticket : RetryTicket) (heap : Rc)
    (phase : RealtimePhase) :
    state.claimReconnectTimer ticket heap phase = (false, state) ∨
    (state.generation = ticket.generation ∧ state.retryToken = ticket.retryToken ∧
      state.claimReconnectTimer ticket heap phase =
        (true, { state with backoffAttempt := min (state.backoffAttempt + 1) u32Max, retryToken := heap })) := by
  unfold claimReconnectTimer
  split
  · exact .inl rfl
  · rename_i h
    simp only [Bool.or_eq_true, bne_iff_ne, not_or, ne_eq, not_not] at h
    exact .inr ⟨h.1.1.1.1.2, h.1.1.1.2, rfl⟩

theorem claimReconnectTimer_old (h : state.generation ≠ ticket.generation ∨ state.retryToken ≠ ticket.retryToken) :
    state.claimReconnectTimer ticket heap phase = (false, state) := by
  rcases state.claimReconnectTimer_cases ticket heap phase with hsame | ⟨hgeneration, htoken, -⟩
  · exact hsame
  · rcases h with h | h
    · exact absurd hgeneration h
    · exact absurd htoken h

/-- A lease that is not current is no use. -/
theorem ignores (h : state.leaseIsCurrent lease = false) : state.markConnected lease heap = (false, state) ∧
    state.suppress lease = (false, state) ∧ state.retryTicket lease = none := by
  refine ⟨?_, ?_, ?_⟩
  · rw [markConnected, h]; rfl
  · rw [suppress, h]; rfl
  · rw [retryTicket, h]; rfl

end RealtimeConnectionState

/-! ## The invariant -/

/-- What has been given out is not newer than the state, and what was claimed is older. A suppressed target that is no
longer the active one does not come back. -/
structure Page.Sane (page : Page) : Prop where
  generation_lt : page.state.generation < page.heap
  token_lt : page.state.retryToken < page.heap
  target_lt : ∀ target, page.target = some target → target.inner < page.heap
  active_lt : ∀ target, page.state.activeTarget = some target → target.inner < page.heap
  leases_le : ∀ lease ∈ page.leases, lease.generation ≤ page.state.generation
  tickets_le : ∀ ticket ∈ page.tickets,
    ticket.generation ≤ page.state.generation ∧ ticket.retryToken ≤ page.state.retryToken
  claimed_lt : ∀ ticket ∈ page.claimed, ticket.retryToken < page.state.retryToken
  claimed_nodup : (page.claimed.map RetryTicket.retryToken).Nodup
  suppressed_lt : ∀ target ∈ page.suppressed, target.inner < page.heap
  suppressed_mem : ∀ target, page.state.targetIsSuppressed target = true → target ∈ page.suppressed
  suppressed_active : ∀ target ∈ page.suppressed, page.state.activeTarget = some target →
    page.state.targetIsSuppressed target = true
  suppressed_gone : ∀ target ∈ page.suppressed, page.target = some target → page.state.activeTarget = some target

namespace Page

theorem start_sane : start.Sane := by
  constructor <;> simp [start, RealtimeConnectionState.targetIsSuppressed]

variable {page next : Page} {event : Act}

open RealtimeConnectionState

theorem Sane.install (h : page.Sane) : (page.act .install).Sane where
  generation_lt := Nat.lt_succ_of_lt h.generation_lt
  token_lt := Nat.lt_succ_of_lt h.token_lt
  target_lt target htarget := by
    obtain rfl := Option.some.inj htarget
    exact Nat.lt_succ_self _
  active_lt target hactive := Nat.lt_succ_of_lt (h.active_lt target hactive)
  leases_le := h.leases_le
  tickets_le := h.tickets_le
  claimed_lt := h.claimed_lt
  claimed_nodup := h.claimed_nodup
  suppressed_lt target hmem := Nat.lt_succ_of_lt (h.suppressed_lt target hmem)
  suppressed_mem := h.suppressed_mem
  suppressed_active := h.suppressed_active
  suppressed_gone target hmem htarget := by
    -- A new instance was not suppressed before.
    obtain rfl := Option.some.inj htarget
    exact absurd (h.suppressed_lt _ hmem) (Nat.lt_irrefl _)

theorem Sane.clear (h : page.Sane) : (page.act .clear).Sane :=
  { h with
    target_lt := fun _ htarget => by cases htarget
    suppressed_gone := fun _ _ htarget => by cases htarget }

theorem mem_begin_leases {lease : RealtimeLease} (h : lease ∈ page.begin.leases) :
    lease ∈ page.leases ∨ lease.generation = (page.state.begun page.heap page.target).generation := by
  unfold Page.begin at h
  dsimp only at h
  cases hanswer : (page.state.begin page.heap page.target).1 with
  | connect lease' attempt =>
    rw [hanswer] at h
    rcases List.mem_cons.mp h with rfl | h
    · exact .inr (answer_connect hanswer).1
    · exact .inl h
  | disconnected | suppressed =>
    rw [hanswer] at h
    exact .inl h

/-- New generations, new tokens and leases of the new generation keep the invariant, as long as the targets stay. -/
theorem Sane.advance (h : page.Sane) {heap : Rc} {state : RealtimeConnectionState} {leases : List RealtimeLease}
    (hheap : page.heap ≤ heap) (hgeneration : page.state.generation ≤ state.generation)
    (hgeneration' : state.generation < heap) (htoken : page.state.retryToken ≤ state.retryToken)
    (htoken' : state.retryToken < heap) (hactive : state.activeTarget = page.state.activeTarget)
    (hsuppressed : state.suppressedForTarget = page.state.suppressedForTarget)
    (hleases : ∀ lease ∈ leases, lease.generation ≤ state.generation) : Sane { page with heap, state, leases } where
  generation_lt := hgeneration'
  token_lt := htoken'
  target_lt target htarget := (h.target_lt target htarget).trans_le hheap
  active_lt target htarget := (h.active_lt target (hactive ▸ htarget)).trans_le hheap
  leases_le := hleases
  tickets_le ticket hmem :=
    ⟨(h.tickets_le ticket hmem).1.trans hgeneration, (h.tickets_le ticket hmem).2.trans htoken⟩
  claimed_lt ticket hmem := (h.claimed_lt ticket hmem).trans_le htoken
  claimed_nodup := h.claimed_nodup
  suppressed_lt target hmem := (h.suppressed_lt target hmem).trans_le hheap
  suppressed_mem target htarget := by
    rw [targetIsSuppressed, hsuppressed] at htarget
    exact h.suppressed_mem target htarget
  suppressed_active target hmem htarget := by
    rw [targetIsSuppressed, hsuppressed]
    exact h.suppressed_active target hmem (hactive ▸ htarget)
  suppressed_gone target hmem htarget := by
    show state.activeTarget = some target
    rw [hactive]
    exact h.suppressed_gone target hmem htarget

theorem Sane.begin (h : page.Sane) : (page.act .begin).Sane := by
  have hgeneration := h.generation_lt
  have htoken := h.token_lt
  have hleases : ∀ lease ∈ page.begin.leases,
      page.state.generation ≤ (page.state.begun page.heap page.target).generation →
        lease.generation ≤ (page.state.begun page.heap page.target).generation := by
    intro lease hmem hle
    rcases mem_begin_leases hmem with hmem | hsame
    · exact (h.leases_le lease hmem).trans hle
    · exact hsame.le
  show Sane { page with
    heap := page.heap + 2, state := page.state.begun page.heap page.target, leases := page.begin.leases }
  rcases page.state.begun_cases page.heap page.target with ⟨-, hstate⟩ | ⟨hactive, hstate⟩
  · rw [hstate] at hleases ⊢
    exact h.advance (Nat.le_add_right _ _) hgeneration.le (Nat.lt_add_of_pos_right Nat.two_pos) le_rfl
      (Nat.lt_add_right 2 htoken) rfl rfl fun lease hmem => hleases lease hmem hgeneration.le
  · rw [hstate] at hleases ⊢
    exact {
      generation_lt := Nat.lt_add_of_pos_right Nat.two_pos
      token_lt := Nat.lt_succ_self _
      target_lt := fun target htarget => Nat.lt_add_right 2 (h.target_lt target htarget)
      active_lt := fun target htarget => Nat.lt_add_right 2 (h.target_lt target htarget)
      leases_le := fun lease hmem => hleases lease hmem hgeneration.le
      tickets_le := fun ticket hmem => ⟨(h.tickets_le ticket hmem).1.trans hgeneration.le,
        (h.tickets_le ticket hmem).2.trans (Nat.le_succ_of_le htoken.le)⟩
      claimed_lt := fun ticket hmem => (h.claimed_lt ticket hmem).trans (Nat.lt_succ_of_lt htoken)
      claimed_nodup := h.claimed_nodup
      suppressed_lt := fun target hmem => Nat.lt_add_right 2 (h.suppressed_lt target hmem)
      suppressed_mem := fun target htarget => by cases htarget
      -- The target was active before, if it was suppressed.
      suppressed_active := fun target hmem htarget =>
        absurd ((h.suppressed_gone target hmem htarget).trans htarget.symm) hactive
      suppressed_gone := fun target hmem htarget => htarget }

theorem Sane.currentLease (h : page.Sane) : (page.act .currentLease).Sane := by
  refine h.advance le_rfl le_rfl h.generation_lt le_rfl h.token_lt rfl rfl fun lease hmem => ?_
  rcases List.mem_append.mp hmem with hnew | hmem
  · obtain ⟨target, -, hlease⟩ := Option.bind_eq_some_iff.mp (Option.mem_toList.mp hnew)
    rw [(currentLease_some hlease).1]
  · exact h.leases_le lease hmem

theorem Sane.invalidate (h : page.Sane) : (page.act .invalidate).Sane :=
  h.advance (Nat.le_succ _) h.generation_lt.le (Nat.lt_succ_self _) le_rfl (Nat.lt_succ_of_lt h.token_lt) rfl rfl
    fun lease hmem => (h.leases_le lease hmem).trans h.generation_lt.le

theorem Sane.markConnected (h : page.Sane) (lease : RealtimeLease) : (page.act (.markConnected lease)).Sane := by
  show Sane { page with heap := page.heap + 1, state := (page.state.markConnected lease page.heap).2 }
  rcases page.state.markConnected_cases lease page.heap with ⟨-, hstate⟩ | ⟨-, hstate⟩
  · rw [hstate]
    exact h.advance (Nat.le_succ _) le_rfl (Nat.lt_succ_of_lt h.generation_lt) le_rfl (Nat.lt_succ_of_lt h.token_lt)
      rfl rfl h.leases_le
  · rw [hstate]
    exact h.advance (Nat.le_succ _) le_rfl (Nat.lt_succ_of_lt h.generation_lt) h.token_lt.le (Nat.lt_succ_self _)
      rfl rfl h.leases_le

theorem Sane.schedule (h : page.Sane) (lease : RealtimeLease) : (page.act (.schedule lease)).Sane :=
  { h with
    tickets_le := fun ticket hmem => by
      rcases List.mem_append.mp hmem with hnew | hmem
      · obtain ⟨hgeneration, htoken⟩ := retryTicket_some (Option.mem_toList.mp hnew)
        exact ⟨hgeneration.le, htoken.le⟩
      · exact h.tickets_le ticket hmem }

theorem Sane.claim (h : page.Sane) (ticket : RetryTicket) (phase : RealtimePhase) :
    (page.act (.claim ticket phase)).Sane := by
  show Sane (page.claim ticket phase)
  unfold Page.claim
  rcases page.state.claimReconnectTimer_cases ticket page.heap phase with hstate | ⟨-, htoken, hstate⟩
  · rw [hstate]
    exact h.advance (Nat.le_succ _) le_rfl (Nat.lt_succ_of_lt h.generation_lt) le_rfl (Nat.lt_succ_of_lt h.token_lt)
      rfl rfl h.leases_le
  · rw [hstate]
    have hnext : Sane { page with
        heap := page.heap + 1
        state := { page.state with
          backoffAttempt := min (page.state.backoffAttempt + 1) u32Max, retryToken := page.heap } } :=
      h.advance (Nat.le_succ _) le_rfl (Nat.lt_succ_of_lt h.generation_lt) h.token_lt.le (Nat.lt_succ_self _) rfl rfl
        h.leases_le
    -- The claimed ticket has the token that is replaced.
    exact { hnext with
      claimed_lt := fun other hmem => by
        rcases List.mem_cons.mp hmem with rfl | hmem
        · rw [← htoken]
          exact h.token_lt
        · exact hnext.claimed_lt other hmem
      claimed_nodup := by
        refine List.nodup_cons.mpr ⟨fun hmem => ?_, h.claimed_nodup⟩
        obtain ⟨other, hother, hsame⟩ := List.mem_map.mp hmem
        have hlt := h.claimed_lt other hother
        rw [hsame, htoken] at hlt
        exact Nat.lt_irrefl _ hlt }

theorem Sane.suppress (h : page.Sane) (lease : RealtimeLease) : (page.act (.suppress lease)).Sane := by
  show Sane (page.suppress lease)
  unfold Page.suppress
  rcases page.state.suppress_cases lease with ⟨-, hstate⟩ | ⟨hcurrent, hstate⟩
  · rw [hstate]
    exact h
  · rw [hstate]
    obtain ⟨-, hactive, -⟩ := leaseIsCurrent_iff.mp hcurrent
    exact { h with
      suppressed_lt := fun target hmem => by
        rcases List.mem_cons.mp hmem with rfl | hmem
        · exact h.active_lt _ hactive
        · exact h.suppressed_lt target hmem
      suppressed_mem := fun target htarget => by
        obtain ⟨suppressed, hsome, rfl⟩ := targetIsSuppressed_iff.mp htarget
        obtain rfl := Option.some.inj hsome
        exact List.mem_cons_self
      suppressed_active := fun target hmem htarget => by
        have hsame : lease.target = target := Option.some.inj (hactive.symm.trans htarget)
        exact targetIsSuppressed_iff.mpr ⟨_, rfl, hsame⟩
      suppressed_gone := fun target hmem htarget => by
        rcases List.mem_cons.mp hmem with rfl | hmem
        · exact hactive
        · exact h.suppressed_gone target hmem htarget }

theorem Sane.step (h : page.Sane) (hstep : Page.Step page event next) : next.Sane := by
  obtain ⟨-, rfl⟩ := hstep
  cases event with
  | install => exact h.install
  | clear => exact h.clear
  | begin => exact h.begin
  | currentLease => exact h.currentLease
  | invalidate => exact h.invalidate
  | markConnected lease => exact h.markConnected lease
  | schedule lease => exact h.schedule lease
  | claim ticket phase => exact h.claim ticket phase
  | suppress lease => exact h.suppress lease

end Page

/-! ## Generations and tokens move on -/

/-- The act takes a new generation: what was given out before is old. -/
def Act.renews : Act → Bool
  | .begin | .invalidate => true
  | _ => false

namespace Page

variable {page next : Page} {event : Act}

open RealtimeConnectionState

/-- Generations and tokens do not go back, and suppressions are not forgotten. -/
structure Onward (page next : Page) : Prop where
  generation_le : page.state.generation ≤ next.state.generation
  token_le : page.state.retryToken ≤ next.state.retryToken
  leases_subset : page.leases ⊆ next.leases
  tickets_subset : page.tickets ⊆ next.tickets
  suppressed_subset : page.suppressed ⊆ next.suppressed

theorem Onward.refl (page : Page) : page.Onward page :=
  ⟨le_rfl, le_rfl, List.Subset.refl _, List.Subset.refl _, List.Subset.refl _⟩

theorem Onward.trans {page next third : Page} (h : page.Onward next) (h' : next.Onward third) : page.Onward third :=
  ⟨h.generation_le.trans h'.generation_le, h.token_le.trans h'.token_le, List.Subset.trans h.leases_subset h'.leases_subset,
    List.Subset.trans h.tickets_subset h'.tickets_subset, List.Subset.trans h.suppressed_subset h'.suppressed_subset⟩

theorem begin_onward (h : page.Sane) : page.Onward (page.act .begin) := by
  have hgeneration := h.generation_lt.le
  have htoken := h.token_lt.le
  have hleases : page.leases ⊆ page.begin.leases := by
    intro lease hmem
    unfold Page.begin
    dsimp only
    cases (page.state.begin page.heap page.target).1 with
    | connect lease' attempt => exact List.mem_cons_of_mem _ hmem
    | disconnected | suppressed => exact hmem
  refine ⟨?_, ?_, hleases, List.Subset.refl _, List.Subset.refl _⟩
  · show _ ≤ (page.state.begun page.heap page.target).generation
    rcases page.state.begun_cases page.heap page.target with ⟨-, hstate⟩ | ⟨-, hstate⟩ <;> rw [hstate] <;>
      exact hgeneration
  · show _ ≤ (page.state.begun page.heap page.target).retryToken
    rcases page.state.begun_cases page.heap page.target with ⟨-, hstate⟩ | ⟨-, hstate⟩ <;> rw [hstate]
    exact Nat.le_succ_of_le htoken

theorem claim_onward (h : page.Sane) (ticket : RetryTicket) (phase : RealtimePhase) :
    page.Onward (page.act (.claim ticket phase)) := by
  show page.Onward (page.claim ticket phase)
  unfold Page.claim
  rcases page.state.claimReconnectTimer_cases ticket page.heap phase with hstate | ⟨-, -, hstate⟩
  · rw [hstate]
    exact { Onward.refl page with token_le := le_rfl }
  · rw [hstate]
    exact { Onward.refl page with token_le := h.token_lt.le }

theorem markConnected_onward (h : page.Sane) (lease : RealtimeLease) :
    page.Onward (page.act (.markConnected lease)) := by
  show page.Onward { page with heap := page.heap + 1, state := (page.state.markConnected lease page.heap).2 }
  rcases page.state.markConnected_cases lease page.heap with ⟨-, hstate⟩ | ⟨-, hstate⟩
  · rw [hstate]
    exact { Onward.refl page with token_le := le_rfl }
  · rw [hstate]
    exact { Onward.refl page with token_le := h.token_lt.le }

theorem suppress_onward (lease : RealtimeLease) : page.Onward (page.act (.suppress lease)) := by
  show page.Onward (page.suppress lease)
  unfold Page.suppress
  rcases page.state.suppress_cases lease with ⟨-, hstate⟩ | ⟨-, hstate⟩
  · rw [hstate]
    exact .refl page
  · rw [hstate]
    exact { Onward.refl page with suppressed_subset := List.subset_cons_self _ _ }

theorem Sane.onward (h : page.Sane) (hstep : Page.Step page event next) : page.Onward next := by
  obtain ⟨-, rfl⟩ := hstep
  cases event with
  | install | clear => exact { Onward.refl page with token_le := le_rfl }
  | begin => exact begin_onward h
  | currentLease => exact { Onward.refl page with leases_subset := List.subset_append_right _ _ }
  | invalidate => exact { Onward.refl page with generation_le := h.generation_lt.le }
  | markConnected lease => exact markConnected_onward h lease
  | schedule lease => exact { Onward.refl page with tickets_subset := List.subset_append_right _ _ }
  | claim ticket phase => exact claim_onward h ticket phase
  | suppress lease => exact suppress_onward lease

theorem Sane.renews (h : page.Sane) (hstep : Page.Step page event next) (hrenews : event.renews = true) :
    page.state.generation < next.state.generation := by
  obtain ⟨-, rfl⟩ := hstep
  have hgeneration := h.generation_lt
  cases event with
  | begin =>
    show _ < (page.state.begun page.heap page.target).generation
    rcases page.state.begun_cases page.heap page.target with ⟨-, hstate⟩ | ⟨-, hstate⟩ <;> rw [hstate] <;>
      exact hgeneration
  | invalidate => exact hgeneration
  | install | clear | currentLease | markConnected | schedule | claim | suppress => cases hrenews

variable {events : List Act}

theorem Sane.run (h : page.Sane) (hrun : Run Page.Step page events next) : next.Sane :=
  hrun.invariant (fun _ _ _ hsane hstep => hsane.step hstep) h

theorem Sane.onward_run (h : page.Sane) (hrun : Run Page.Step page events next) : page.Onward next :=
  hrun.relates Onward.refl Onward.trans (fun _ _ _ hsane hstep => ⟨hsane.step hstep, hsane.onward hstep⟩) h

theorem Sane.renews_run (h : page.Sane) (hrun : Run Page.Step page events next)
    (hrenews : ∃ event ∈ events, event.renews = true) : page.state.generation < next.state.generation := by
  obtain ⟨event, hmem, hrenews⟩ := hrenews
  obtain ⟨before, after, rfl⟩ := List.append_of_mem hmem
  obtain ⟨middle, hbefore, hrest⟩ := hrun.split
  cases hrest with
  | cons hstep hafter =>
    have hsane := h.run hbefore
    calc page.state.generation ≤ middle.state.generation := (h.onward_run hbefore).generation_le
      _ < _ := hsane.renews hstep hrenews
      _ ≤ next.state.generation := ((hsane.step hstep).onward_run hafter).generation_le

/-! ## Main result -/

/-- What a page says of leases, tickets and suppressions that were given out or went through at an earlier one. -/
structure Disciplined (page : Page) (events : List Act) (next : Page) : Prop where
  claimed_once : (next.claimed.map RetryTicket.retryToken).Nodup
  one_generation : ∀ lease lease', next.state.leaseIsCurrent lease = true → next.state.leaseIsCurrent lease' = true →
    lease = lease'
  old_lease : ∀ lease ∈ page.leases, (∃ event ∈ events, event.renews = true) →
    next.state.leaseIsCurrent lease = false ∧
      next.state.markConnected lease next.heap = (false, next.state) ∧
      next.state.suppress lease = (false, next.state) ∧ next.state.retryTicket lease = none
  old_ticket : ∀ ticket ∈ page.tickets,
    (∃ event ∈ events, event.renews = true) ∨ next.state.retryToken ≠ page.state.retryToken →
      ∀ phase, next.state.claimReconnectTimer ticket next.heap phase = (false, next.state)
  suppressed : ∀ target ∈ page.suppressed,
    (next.state.activeTarget = some target → next.state.targetIsSuppressed target = true) ∧
      (next.target = some target → (next.state.begin next.heap next.target).1 = .suppressed) ∧
      next.state.currentLease target = none ∧ ∀ lease, lease.target = target → next.state.leaseIsCurrent lease = false
  not_suppressed : ∀ target, next.state.targetIsSuppressed target = true → target ∈ next.suppressed
  new_target : ∀ target, next.target = some target → next.state.activeTarget ≠ some target →
    (next.state.begin next.heap next.target).1 = .connect { generation := next.heap, target } 0
  delay : ∀ ticket : RetryTicket, ticket.delayMs = 500 * 2 ^ min ticket.attempt 4 ∧
    500 ≤ ticket.delayMs ∧ ticket.delayMs ≤ 8000

theorem Sane.suppressed_refused (h : page.Sane) {target : RealtimeTarget} (hmem : target ∈ page.suppressed) :
    page.state.currentLease target = none ∧
      ∀ lease, lease.target = target → page.state.leaseIsCurrent lease = false := by
  have hrefused : ∀ lease, lease.target = target → page.state.leaseIsCurrent lease = false := by
    rintro lease rfl
    by_contra hcurrent
    obtain ⟨-, hactive, hfree⟩ := leaseIsCurrent_iff.mp (Bool.not_eq_false _ ▸ hcurrent)
    rw [h.suppressed_active _ hmem hactive] at hfree
    cases hfree
  refine ⟨?_, hrefused⟩
  cases hlease : page.state.currentLease target with
  | none => rfl
  | some lease =>
    obtain ⟨rfl, hcurrent⟩ := currentLease_some hlease
    rw [hrefused _ rfl] at hcurrent
    cases hcurrent

theorem delayMs_eq (ticket : RetryTicket) : ticket.delayMs = 500 * 2 ^ min ticket.attempt 4 ∧
    500 ≤ ticket.delayMs ∧ ticket.delayMs ≤ 8000 := by
  have hlow : 2 ^ 0 ≤ 2 ^ min ticket.attempt 4 := Nat.pow_le_pow_right Nat.two_pos (Nat.zero_le _)
  have hhigh : 2 ^ min ticket.attempt 4 ≤ 2 ^ 4 := Nat.pow_le_pow_right Nat.two_pos (Nat.min_le_right _ _)
  unfold RetryTicket.delayMs u32Max
  omega

/-- **Leases and tickets in every run.** -/
theorem leases_disciplined {before events : List Act} (hbefore : Run Page.Step Page.start before page)
    (hrun : Run Page.Step page events next) : page.Disciplined events next := by
  have hpage := start_sane.run hbefore
  have hnext := hpage.run hrun
  have honward := hpage.onward_run hrun
  exact {
    claimed_once := hnext.claimed_nodup
    one_generation := fun lease lease' h h' => by
      obtain ⟨hgeneration, hactive, -⟩ := leaseIsCurrent_iff.mp h
      obtain ⟨hgeneration', hactive', -⟩ := leaseIsCurrent_iff.mp h'
      obtain ⟨generation, target⟩ := lease
      obtain ⟨generation', target'⟩ := lease'
      obtain rfl : generation = generation' := hgeneration.symm.trans hgeneration'
      obtain rfl : target = target' := Option.some.inj (hactive.symm.trans hactive')
      rfl
    old_lease := fun lease hmem hrenews => by
      have hlt := (hpage.leases_le lease hmem).trans_lt (hpage.renews_run hrun hrenews)
      have hold : next.state.leaseIsCurrent lease = false := by
        by_contra hcurrent
        exact absurd (leaseIsCurrent_iff.mp (Bool.not_eq_false _ ▸ hcurrent)).1 hlt.ne'
      exact ⟨hold, ignores hold⟩
    old_ticket := fun ticket hmem hold phase => by
      obtain ⟨hgeneration, htoken⟩ := hpage.tickets_le ticket hmem
      apply claimReconnectTimer_old
      rcases hold with hrenews | hreplaced
      · exact .inl (hgeneration.trans_lt (hpage.renews_run hrun hrenews)).ne'
      · exact .inr (htoken.trans_lt (lt_of_le_of_ne honward.token_le hreplaced.symm)).ne'
    suppressed := fun target hmem => by
      have hmem' := honward.suppressed_subset hmem
      refine ⟨hnext.suppressed_active target hmem', fun htarget => ?_, hnext.suppressed_refused hmem'⟩
      have hactive := hnext.suppressed_gone target hmem' htarget
      have hsuppressed := hnext.suppressed_active target hmem' hactive
      rw [htarget]
      show (next.state.begun next.heap (some target)).answer (some target) = .suppressed
      rcases next.state.begun_cases next.heap (some target) with ⟨-, hstate⟩ | ⟨hother, -⟩
      · rw [hstate]
        exact if_pos hsuppressed
      · exact absurd hactive hother
    not_suppressed := hnext.suppressed_mem
    new_target := fun target htarget hother => by
      rw [htarget]
      show (next.state.begun next.heap (some target)).answer (some target) = _
      rcases next.state.begun_cases next.heap (some target) with ⟨hsame, -⟩ | ⟨-, hstate⟩
      · exact absurd hsame hother
      · rw [hstate]
        rfl
    delay := delayMs_eq }

/-- A page that connects and schedules a reconnect, after which the timer fires twice and the connection begins anew. -/
theorem leases_disciplined_sample :
    let page := [Act.install, .begin, .schedule ⟨3, ⟨2⟩⟩].foldl Page.act Page.start
    let events := [Act.claim ⟨3, 4, 0, ⟨2⟩⟩ .reconnecting, .claim ⟨3, 4, 0, ⟨2⟩⟩ .reconnecting, .begin]
    page.Disciplined events (events.foldl Page.act page) ∧
      (events.foldl Page.act page).claimed = [⟨3, 4, 0, ⟨2⟩⟩] := by
  refine ⟨leases_disciplined (?_ : Run Page.Step _ [.install, .begin, .schedule ⟨3, ⟨2⟩⟩] _) ?_, by decide⟩
  · exact .cons ⟨trivial, rfl⟩ (.cons ⟨trivial, rfl⟩ (.cons ⟨List.mem_cons_self, rfl⟩ (.nil _)))
  · exact .cons ⟨List.mem_cons_self, rfl⟩ (.cons ⟨List.mem_cons_self, rfl⟩ (.cons ⟨trivial, rfl⟩ (.nil _)))

end Page

end P2PTransmission.RealtimeConnection
