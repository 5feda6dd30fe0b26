import Mathlib.Algebra.Ring.Nat
import Mathlib.Data.Nat.ModEq
import Mathlib.Logic.Function.Basic

/-!
# Tokens of pending work

A board has a slot for each of its keys, and a slot at most one pending piece of work. When work is put into a slot, a token is
issued that names the instance of the slot and the work by their generations; a claim with the token takes the work out if both
generations are still those of the slot. The generations of the instances are given out by one counter for all keys, and both
kinds wrap around at a modulus.

A history is the list of what has happened, the newest event first. A claim is always about the last work that was put into the
slot, with nothing between (`Run.claimed_last`). That it is about the work for which its own token was issued holds as long as
no generation has come round since (`Run.claimed_fresh`).
-/

set_option autoImplicit false

namespace P2PTransmission.WorkTokens

variable {Key Work : Type}

structure Token where
  instanceGeneration : Nat
  workGeneration : Nat
  deriving DecidableEq, Repr

structure Slot (Work : Type) where
  instanceGeneration : Nat
  workGeneration : Nat
  pending : Option Work
  deriving DecidableEq, Repr

def Slot.token (slot : Slot Work) : Token := ⟨slot.instanceGeneration, slot.workGeneration⟩

structure Board (Key Work : Type) where
  generation : Nat
  slots : Key → Option (Slot Work)

inductive Event (Key Work : Type)
  | created (key : Key)
  | removed (key : Key)
  | issued (key : Key) (token : Token) (work : Work)
  | invalidated (key : Key)
  | claimed (key : Key) (token : Token) (work : Work)
  deriving DecidableEq, Repr

namespace Event

def isCreated : Event Key Work → Bool
  | .created _ => true
  | .removed _ | .issued .. | .invalidated _ | .claimed .. => false

variable [DecidableEq Key]

/-- The generation of the work in the slot goes on. -/
def bumps (key : Key) : Event Key Work → Bool
  | .issued other _ _ | .invalidated other => other = key
  | .created _ | .removed _ | .claimed .. => false

/-- After this, no token that was issued for the slot before can be claimed. -/
def supersedes (key : Key) : Event Key Work → Bool
  | .created other | .removed other | .issued other _ _ | .invalidated other | .claimed other _ _ => other = key

end Event

variable [DecidableEq Key]

/-- What the events do to the board. -/
inductive Step (modulus : Nat) (board : Board Key Work) : Event Key Work → Board Key Work → Prop
  | created (key : Key) :
      Step modulus board (.created key)
        { generation := (board.generation + 1) % modulus
          slots := Function.update board.slots key (some ⟨(board.generation + 1) % modulus, 0, none⟩) }
  | removed (key : Key) :
      Step modulus board (.removed key) { board with slots := Function.update board.slots key none }
  | issued {key : Key} {slot : Slot Work} (work : Work) (h : board.slots key = some slot) :
      Step modulus board (.issued key ⟨slot.instanceGeneration, (slot.workGeneration + 1) % modulus⟩ work)
        { board with
          slots := Function.update board.slots key
            (some { slot with workGeneration := (slot.workGeneration + 1) % modulus, pending := some work }) }
  | invalidated {key : Key} {slot : Slot Work} (h : board.slots key = some slot) :
      Step modulus board (.invalidated key)
        { board with
          slots := Function.update board.slots key
            (some { slot with workGeneration := (slot.workGeneration + 1) % modulus, pending := none }) }
  | claimed {key : Key} {slot : Slot Work} {work : Work} (h : board.slots key = some slot)
      (hpending : slot.pending = some work) :
      Step modulus board (.claimed key slot.token work)
        { board with slots := Function.update board.slots key (some { slot with pending := none }) }

inductive Run (modulus : Nat) : List (Event Key Work) → Board Key Work → Prop
  | nil : Run modulus [] ⟨0, fun _ => none⟩
  | step {history : List (Event Key Work)} {board after : Board Key Work} {event : Event Key Work}
      (run : Run modulus history board) (h : Step modulus board event after) : Run modulus (event :: history) after

/-- Events one after another, the oldest first. -/
inductive Steps (modulus : Nat) : Board Key Work → List (Event Key Work) → Board Key Work → Prop
  | nil (board : Board Key Work) : Steps modulus board [] board
  | cons {board middle after : Board Key Work} {event : Event Key Work} {events : List (Event Key Work)}
      (h : Step modulus board event middle) (rest : Steps modulus middle events after) :
      Steps modulus board (event :: events) after

theorem Run.steps {modulus : Nat} {history events : List (Event Key Work)} {board after : Board Key Work}
    (run : Run modulus history board) (h : Steps modulus board events after) :
    Run modulus (events.reverse ++ history) after := by
  induction h generalizing history with
  | nil board => exact run
  | cons hstep rest ih =>
    rw [List.reverse_cons, List.append_assoc]
    exact ih (run.step hstep)

/-! ## Counting -/

def creations (history : List (Event Key Work)) : Nat := history.countP Event.isCreated

def bumps (key : Key) (history : List (Event Key Work)) : Nat := history.countP (Event.bumps key)

/-- The instance of a slot, as the number of creations with its own, and how often its work was changed. -/
def serial (key : Key) : List (Event Key Work) → Option (Nat × Nat)
  | [] => none
  | .created other :: history => if other = key then some (creations history + 1, 0) else serial key history
  | .removed other :: history => if other = key then none else serial key history
  | .issued other _ _ :: history | .invalidated other :: history =>
    if other = key then (serial key history).map fun found => (found.1, found.2 + 1) else serial key history
  | .claimed .. :: history => serial key history

theorem creations_append (first second : List (Event Key Work)) :
    creations (first ++ second) = creations first + creations second := List.countP_append

theorem bumps_append (key : Key) (first second : List (Event Key Work)) :
    bumps key (first ++ second) = bumps key first + bumps key second := List.countP_append

theorem creations_cons (event : Event Key Work) (history : List (Event Key Work)) :
    creations (event :: history) = creations history + if event.isCreated then 1 else 0 := List.countP_cons

theorem bumps_cons (key : Key) (event : Event Key Work) (history : List (Event Key Work)) :
    bumps key (event :: history) = bumps key history + if event.bumps key then 1 else 0 := List.countP_cons

omit [DecidableEq Key] in
theorem number_mod_eq {modulus low high : Nat} (hlow : low < high) (h : low % modulus = high % modulus) :
    modulus ≤ high - low :=
  Nat.le_of_dvd (by omega) ((Nat.modEq_iff_dvd' hlow.le).mp h)

/-- A change of the work in some slot. -/
theorem serial_change {key other : Key} {history : List (Event Key Work)} {number changes : Nat}
    (h : (if other = key then (serial key history).map fun found => (found.1, found.2 + 1) else serial key history) =
      some (number, changes)) :
    ∃ before, serial key history = some (number, before) ∧ changes = before + if other = key then 1 else 0 := by
  split at h
  · rename_i hother
    obtain ⟨⟨number', before⟩, hbefore, hfound⟩ := Option.map_eq_some_iff.mp h
    cases hfound
    exact ⟨before, hbefore, by rw [if_pos hother]⟩
  · rename_i hother
    exact ⟨changes, h, by rw [if_neg hother, Nat.add_zero]⟩

/-- The instance was created in the recent events, or it is that of the older ones. -/
theorem serial_append {key : Key} {older : List (Event Key Work)} {number changes : Nat} :
    ∀ {recent : List (Event Key Work)}, serial key (recent ++ older) = some (number, changes) →
      (creations older < number ∧ number ≤ creations (recent ++ older)) ∨
        ∃ before, serial key older = some (number, before) ∧ changes = before + bumps key recent
  | [], h => .inr ⟨changes, h, rfl⟩
  | .created other :: recent, h => by
    rw [List.cons_append, serial] at h
    split at h
    · cases h
      refine .inl ⟨?_, ?_⟩
      · rw [creations_append]
        omega
      · rw [List.cons_append, creations_cons]
        exact le_rfl
    · rcases serial_append h with ⟨hlow, hhigh⟩ | ⟨before, hbefore, hchanges⟩
      · refine .inl ⟨hlow, hhigh.trans ?_⟩
        rw [List.cons_append, creations_cons]
        omega
      · refine .inr ⟨before, hbefore, ?_⟩
        rw [hchanges, bumps_cons]
        rfl
  | .removed other :: recent, h => by
    rw [List.cons_append, serial] at h
    split at h
    · cases h
    · rcases serial_append h with hrecent | ⟨before, hbefore, hchanges⟩
      · exact .inl hrecent
      · exact .inr ⟨before, hbefore, hchanges⟩
  | .claimed .. :: recent, h => by
    rw [List.cons_append, serial] at h
    rcases serial_append h with hrecent | ⟨before, hbefore, hchanges⟩
    · exact .inl hrecent
    · exact .inr ⟨before, hbefore, hchanges⟩
  | .issued other token work :: recent, h => by
    obtain ⟨middle, hmiddle, hchanges⟩ := serial_change h
    rcases serial_append hmiddle with hrecent | ⟨before, hbefore, hmiddle⟩
    · exact .inl hrecent
    · refine .inr ⟨before, hbefore, ?_⟩
      simp only [hchanges, hmiddle, bumps_cons, Event.bumps, decide_eq_true_eq, Nat.add_assoc]
  | .invalidated other :: recent, h => by
    obtain ⟨middle, hmiddle, hchanges⟩ := serial_change h
    rcases serial_append hmiddle with hrecent | ⟨before, hbefore, hmiddle⟩
    · exact .inl hrecent
    · refine .inr ⟨before, hbefore, ?_⟩
      simp only [hchanges, hmiddle, bumps_cons, Event.bumps, decide_eq_true_eq, Nat.add_assoc]

/-- An instance is one of those that were created. -/
theorem serial_le {key : Key} {history : List (Event Key Work)} {number changes : Nat}
    (h : serial key history = some (number, changes)) : number ≤ creations history := by
  rw [← List.append_nil history] at h ⊢
  rcases serial_append h with ⟨-, hhigh⟩ | ⟨before, hbefore, -⟩
  · exact hhigh
  · cases hbefore

/-! ## What a run knows of its board -/

/-- The last event of a slot put this work into it. -/
def LastIssued (key : Key) (token : Token) (work : Work) (history : List (Event Key Work)) : Prop :=
  ∃ recent older, history = recent ++ .issued key token work :: older ∧ ∀ event ∈ recent, event.supersedes key = false

/-- The generations of a slot are its counts, and its work is the last that was issued. -/
structure Explains (modulus : Nat) (history : List (Event Key Work)) (key : Key) (slot : Slot Work) : Prop where
  counts : ∃ number changes, serial key history = some (number, changes) ∧ slot.instanceGeneration = number % modulus ∧
    slot.workGeneration = changes % modulus
  issued : ∀ work, slot.pending = some work → LastIssued key slot.token work history

structure Known (modulus : Nat) (history : List (Event Key Work)) (board : Board Key Work) : Prop where
  generation : board.generation = creations history % modulus
  slots : ∀ key slot, board.slots key = some slot → Explains modulus history key slot

theorem LastIssued.cons {key : Key} {token : Token} {work : Work} {history : List (Event Key Work)}
    (h : LastIssued key token work history) {event : Event Key Work} (hevent : event.supersedes key = false) :
    LastIssued key token work (event :: history) := by
  obtain ⟨recent, older, rfl, hrecent⟩ := h
  exact ⟨event :: recent, older, rfl, List.forall_mem_cons.mpr ⟨hevent, hrecent⟩⟩

/-- An event of another slot. -/
theorem Explains.cons {modulus : Nat} {history : List (Event Key Work)} {key : Key} {slot : Slot Work}
    (h : Explains modulus history key slot) {event : Event Key Work} (hevent : event.supersedes key = false) :
    Explains modulus (event :: history) key slot where
  counts := by
    obtain ⟨number, changes, hserial, hcounts⟩ := h.counts
    refine ⟨number, changes, ?_, hcounts⟩
    cases event <;> simp_all [serial, Event.supersedes]
  issued work hwork := (h.issued work hwork).cons hevent

variable {modulus : Nat} {history : List (Event Key Work)} {board after : Board Key Work} {event : Event Key Work}

/-- What is known of the other slots, and of the one that the event is about. -/
theorem Known.slots_update (h : Known modulus history board) {key : Key} (hevent : ∀ other, other ≠ key →
    event.supersedes other = false) {changed : Option (Slot Work)}
    (hchanged : ∀ slot, changed = some slot → Explains modulus (event :: history) key slot) :
    ∀ other slot, Function.update board.slots key changed other = some slot →
      Explains modulus (event :: history) other slot := by
  intro other slot hslot
  by_cases hother : other = key
  · subst hother
    rw [Function.update_self] at hslot
    exact hchanged slot hslot
  · rw [Function.update_of_ne hother] at hslot
    exact (h.slots other slot hslot).cons (hevent other hother)

theorem Known.step (h : Known modulus history board) (hstep : Step modulus board event after) :
    Known modulus (event :: history) after := by
  cases hstep with
  | created key =>
    have hgeneration : (board.generation + 1) % modulus = (creations history + 1) % modulus := by
      rw [h.generation, Nat.mod_add_mod]
    refine ⟨hgeneration.trans (by rw [creations_cons]; rfl), h.slots_update (fun other hother => by simpa [Event.supersedes] using hother.symm) ?_⟩
    intro slot hslot
    cases hslot
    refine ⟨⟨creations history + 1, 0, by simp [serial], hgeneration, (Nat.zero_mod modulus).symm⟩, fun work hwork => ?_⟩
    cases hwork
  | removed key =>
    refine ⟨h.generation, h.slots_update (fun other hother => by simpa [Event.supersedes] using hother.symm) ?_⟩
    intro slot hslot
    cases hslot
  | issued work hslot =>
    rename_i key slot
    refine ⟨h.generation, h.slots_update (fun other hother => by simpa [Event.supersedes] using hother.symm) ?_⟩
    intro changed hchanged
    cases hchanged
    obtain ⟨number, changes, hserial, hinstance, hwork⟩ := (h.slots key slot hslot).counts
    refine ⟨⟨number, changes + 1, by simp [serial, hserial], hinstance, ?_⟩, fun work' hwork' => ?_⟩
    · show (slot.workGeneration + 1) % modulus = _
      rw [hwork, Nat.mod_add_mod]
    · cases hwork'
      exact ⟨[], history, rfl, fun _ hmem => by cases hmem⟩
  | invalidated hslot =>
    rename_i key slot
    refine ⟨h.generation, h.slots_update (fun other hother => by simpa [Event.supersedes] using hother.symm) ?_⟩
    intro changed hchanged
    cases hchanged
    obtain ⟨number, changes, hserial, hinstance, hwork⟩ := (h.slots key slot hslot).counts
    refine ⟨⟨number, changes + 1, by simp [serial, hserial], hinstance, ?_⟩, fun work' hwork' => by cases hwork'⟩
    show (slot.workGeneration + 1) % modulus = _
    rw [hwork, Nat.mod_add_mod]
  | claimed hslot hpending =>
    rename_i key slot work
    refine ⟨h.generation, h.slots_update (fun other hother => by simpa [Event.supersedes] using hother.symm) ?_⟩
    intro changed hchanged
    cases hchanged
    obtain ⟨number, changes, hserial, hcounts⟩ := (h.slots key slot hslot).counts
    exact ⟨⟨number, changes, hserial, hcounts⟩, fun work' hwork' => by cases hwork'⟩

theorem Run.known (run : Run modulus history board) : Known modulus history board := by
  induction run with
  | nil => exact ⟨(Nat.zero_mod modulus).symm, fun _ _ hslot => by cases hslot⟩
  | step run hstep ih => exact ih.step hstep

/-- What happened before. -/
theorem Run.before {recent : List (Event Key Work)} (run : Run modulus (recent ++ history) board) :
    ∃ before, Run modulus history before := by
  induction recent generalizing board with
  | nil => exact ⟨board, run⟩
  | cons event recent ih =>
    cases run with
    | step run hstep => exact ih run

/-! ## Claims -/

/-- A slot that has an instance was created. -/
theorem created_of_serial {key : Key} {number changes : Nat} : ∀ {history : List (Event Key Work)},
    serial key history = some (number, changes) → ∃ since origin, history = since ++ .created key :: origin
  | .created other :: history, h => by
    rw [serial] at h
    split at h
    · rename_i hother
      exact ⟨[], history, by rw [hother]; rfl⟩
    · obtain ⟨since, origin, rfl⟩ := created_of_serial h
      exact ⟨.created other :: since, origin, rfl⟩
  | .removed other :: history, h => by
    rw [serial] at h
    split at h
    · cases h
    · obtain ⟨since, origin, rfl⟩ := created_of_serial h
      exact ⟨.removed other :: since, origin, rfl⟩
  | .issued other token work :: history, h => by
    obtain ⟨before, hbefore, -⟩ := serial_change h
    obtain ⟨since, origin, rfl⟩ := created_of_serial hbefore
    exact ⟨.issued other token work :: since, origin, rfl⟩
  | .invalidated other :: history, h => by
    obtain ⟨before, hbefore, -⟩ := serial_change h
    obtain ⟨since, origin, rfl⟩ := created_of_serial hbefore
    exact ⟨.invalidated other :: since, origin, rfl⟩
  | .claimed other token work :: history, h => by
    rw [serial] at h
    obtain ⟨since, origin, rfl⟩ := created_of_serial h
    exact ⟨.claimed other token work :: since, origin, rfl⟩

/-- **The last work.** A claim is about the work that was put into the slot last, and nothing has happened to the slot since. -/
theorem Run.claimed_last {key : Key} {token : Token} {work : Work}
    (run : Run modulus (.claimed key token work :: history) board) : LastIssued key token work history := by
  cases run with
  | step run hstep =>
    cases hstep with
    | claimed hslot hpending => exact (run.known.slots _ _ hslot).issued _ hpending

/-- The token of a piece of work is made of the counts at the time. -/
theorem Run.issued_token {key : Key} {token : Token} {work : Work}
    (run : Run modulus (.issued key token work :: history) board) : ∃ number changes,
      serial key history = some (number, changes) ∧ token = ⟨number % modulus, (changes + 1) % modulus⟩ := by
  cases run with
  | step run hstep =>
    cases hstep with
    | issued _ hslot =>
      obtain ⟨number, changes, hserial, hinstance, hwork⟩ := (run.known.slots _ _ hslot).counts
      refine ⟨number, changes, hserial, ?_⟩
      rw [hinstance, hwork, Nat.mod_add_mod]

/-- The slot of a claim was created, and the work put into it after that. -/
theorem Run.claimed_issued {key : Key} {token : Token} {work : Work}
    (run : Run modulus (.claimed key token work :: history) board) :
    ∃ between since origin, history = between ++ .issued key token work :: (since ++ .created key :: origin) := by
  obtain ⟨between, older, rfl, -⟩ := run.claimed_last
  cases run with
  | step run _ =>
    obtain ⟨before, hbefore⟩ := run.before
    obtain ⟨number, changes, hserial, -⟩ := hbefore.issued_token
    obtain ⟨since, origin, rfl⟩ := created_of_serial hserial
    exact ⟨between, since, origin, rfl⟩

/-- Two pieces of work with the same token: the generations have come round since the slot was created, or since the first. -/
theorem Run.issued_twice {key : Key} {token : Token} {work work' : Work} {between since origin : List (Event Key Work)}
    (run : Run modulus (.issued key token work' :: (between ++ .issued key token work :: (since ++ .created key :: origin)))
      board) : modulus ≤ creations (between ++ since) ∨ modulus ≤ bumps key between + 1 := by
  obtain ⟨number', changes', hserial', htoken'⟩ := run.issued_token
  obtain ⟨number, changes, hserial, htoken⟩ : ∃ number changes,
      serial key (since ++ .created key :: origin) = some (number, changes) ∧
        token = ⟨number % modulus, (changes + 1) % modulus⟩ := by
    cases run with
    | step run _ => exact run.before.elim fun _ hbefore => hbefore.issued_token
  rw [htoken] at htoken'
  obtain ⟨hnumber, hchanges⟩ := Token.mk.inj htoken'
  rcases serial_append hserial' with ⟨hlow, hhigh⟩ | ⟨before, hbefore, hsame⟩
  · -- the slot was created again between
    have hcreated : creations origin + 1 ≤ number := by
      rcases serial_append hserial with ⟨hlow, -⟩ | ⟨_, hcreated, -⟩
      · rw [creations_cons] at hlow
        simp only [Event.isCreated, if_true] at hlow
        omega
      · simp only [serial, if_true, Option.some.injEq, Prod.mk.injEq] at hcreated
        omega
    have hnumber_le := serial_le hserial
    rw [creations_cons] at hlow
    have hround := number_mod_eq (by omega) hnumber
    simp only [creations_append, creations_cons, Event.isCreated, Bool.false_eq_true, if_false, if_true] at hhigh ⊢
    omega
  · -- its work has changed between
    rw [serial, if_pos rfl, hserial, Option.map_some, Option.some.injEq, Prod.mk.injEq] at hbefore
    have hround := number_mod_eq (by omega) hchanges
    omega

/-- **Fresh claims.** As long as no generation has come round, a claim is about the work for which its token was issued, and
nothing has happened to the slot since. -/
theorem Run.claimed_fresh {key : Key} {token : Token} {work work' : Work} {between since origin : List (Event Key Work)}
    (run : Run modulus (.claimed key token work ::
      (between ++ .issued key token work' :: (since ++ .created key :: origin))) board)
    (hcreations : creations (between ++ since) < modulus) (hbumps : bumps key between < modulus) :
    work = work' ∧ ∀ event ∈ between, event.supersedes key = false := by
  obtain ⟨recent, older, hhistory, hrecent⟩ := run.claimed_last
  rcases List.append_eq_append_iff.mp hhistory with ⟨more, hmore, hrest⟩ | ⟨more, hmore, hrest⟩
  · cases more with
    | nil =>
      rw [List.append_nil] at hmore
      cases hrest
      exact ⟨rfl, hmore ▸ hrecent⟩
    | cons event more =>
      have hevent := hrecent event (hmore ▸ List.mem_append_right _ List.mem_cons_self)
      obtain ⟨rfl, -⟩ := List.cons.inj hrest
      simp [Event.supersedes] at hevent
  · cases more with
    | nil =>
      rw [List.append_nil] at hmore
      cases hrest
      exact ⟨rfl, hmore ▸ hrecent⟩
    | cons event more =>
      -- work with the same token was put into the slot between
      obtain ⟨rfl, rfl⟩ := List.cons.inj hrest
      have htwice : ∃ before, Run modulus (.issued key token work ::
          (more ++ .issued key token work' :: (since ++ .created key :: origin))) before := by
        cases run with
        | step run _ =>
          rw [hmore, List.append_assoc] at run
          exact run.before
      obtain ⟨before, htwice⟩ := htwice
      rcases htwice.issued_twice with hround | hround
      · rw [hmore] at hcreations
        simp only [creations_append, creations_cons] at hcreations hround
        omega
      · rw [hmore] at hbumps
        simp only [bumps_append, bumps_cons, Event.bumps, decide_true, if_true] at hbumps
        omega

end P2PTransmission.WorkTokens
