import P2PTransmission.Foundation.Exclusive
import P2PTransmission.Storage.RoundTrip

/-!
# Concurrent commands on one room

Any number of `applyRoomCommand` calls on one room, each a transaction that begins with `BEGIN IMMEDIATE` and so holds
the write lock until it ends. A call can also fail for a reason of its own (the lock is not granted in time, a statement
fails), at any point before its commit; such a failure is `StorageError.database`.

`room_history_iff`: whatever the order of the steps, the committed room is at every moment the fold of `Room.handle` over
the commands that changed it so far, in commit order, exactly if none of them took the request id of another room. The
revisions, the expected revisions and the calls that failed (`Respects`) are as promised in every history.
-/

set_option autoImplicit false

namespace P2PTransmission

open Storage
open Room (ownerOne requestOne)

/-- One call on the room, and what it returned. -/
structure RoomCall where
  expectedRevision : Option Nat
  command : RoomCommand
  now : Nat

abbrev Returned := RoomCall × Except StorageError RoomMutation

/-- The body of the transaction of a call. -/
def RoomCall.body (code : RoomCode) (call : RoomCall) : Database → Except StorageError RoomMutation × Database :=
  applyRoomCommand code call.expectedRevision call.command call.now

/-- What a call returns when SQLite fails it. -/
def databaseFailure (result : Except StorageError RoomMutation) : Prop := result = .error .database

/-- The steps of any number of callers. -/
abbrev RoomStep (code : RoomCode) {ι : Type} [DecidableEq ι] (s : Exclusive.State Database ι RoomCall)
    (event : Exclusive.Event ι RoomCall (Except StorageError RoomMutation)) (t : Exclusive.State Database ι RoomCall) :
    Prop :=
  Exclusive.Step (RoomCall.body code) databaseFailure s event t

/-- One call after another. -/
abbrev RoomSerial (code : RoomCode) (db : Database) (e : Returned) (db' : Database) : Prop :=
  Exclusive.Serial (RoomCall.body code) databaseFailure db e db'

variable {code : RoomCode} {db db' : Database} {room : Room}

/-- The call succeeded and changed the room. -/
def Changed (e : Returned) : Prop := ∃ mutation, e.2 = .ok mutation ∧ mutation.outcome = .CHANGED

/-- The commands of the successful calls that changed the room, in commit order. -/
def changedCommands : List Returned → List RoomCommand
  | [] => []
  | (call, .ok mutation) :: rest =>
    if mutation.outcome.changed then call.command :: changedCommands rest else changedCommands rest
  | (_, .error _) :: rest => changedCommands rest

/-- The committed revision of the room. -/
def committedRevision (db : Database) (code : RoomCode) : Option Int :=
  (db.selectRoom code.value).map fun e => e.2.revision

/-- What is promised of one call that was committed in `db` and left `db'`. -/
structure Respects (code : RoomCode) (db : Database) (e : Returned) (db' : Database) : Prop where
  /-- A call that changes the room moves the committed revision by one. -/
  changed : Changed e → ∃ revision : Int, committedRevision db code = some revision ∧
    committedRevision db' code = some (revision + 1)
  /-- Every other call leaves it. -/
  unchanged : ¬ Changed e → committedRevision db' code = committedRevision db code
  /-- A call succeeds only at the revision that it expects. -/
  expected : ∀ mutation revision, e.2 = .ok mutation → e.1.expectedRevision = some revision →
    committedRevision db code = some (revision : Int)
  /-- A call that fails leaves every row as it was. -/
  failed : ∀ error, e.2 = .error error → db' = db

/-- A command that changes the room takes no request id of another room. -/
def OwnIds (code : RoomCode) (db : Database) (e : Returned) : Prop := Changed e → NoForeign db code e.1.command

theorem committedRevision_of_load (h : loadRoomOn db code = .ok (some room)) :
    committedRevision db code = some (room.revision : Int) := by
  obtain ⟨⟨row, hselect, hholds⟩, -⟩ := loadRoomAt_some.mp h
  unfold committedRevision
  rw [hselect, Option.map_some, hholds.revision]

/-- The revision that a command leaves, whatever row it wrote over. -/
theorem Mutated.committedRevision {loaded : Room} {command : RoomCommand} {now : Nat} (hs' : Sound db')
    (h : Mutated db code loaded command room now db') :
    P2PTransmission.committedRevision db' code = some ((loaded.revision : Int) + 1) := by
  obtain ⟨row, hselect, hholds⟩ := h.storesRow hs'
  have hrevision : room.revision = loaded.revision + 1 := by
    obtain ⟨effected, -, rfl⟩ := Room.handle_changed h.handle
    rfl
  unfold P2PTransmission.committedRevision
  rw [hselect, Option.map_some, hholds.revision, hrevision]
  rfl

/-! ## One call -/

theorem serial_sound {e : Returned} (h : RoomSerial code db e db') (hs : Sound db) : Sound db' := by
  cases h with
  | ran => exact applyRoomCommand_sound hs _
  | refused => exact hs

/-- What a call did, from what it returned. -/
theorem serial_cases {e : Returned} (h : RoomSerial code db e db') :
    (∃ error, e.2 = .error error ∧ db' = db) ∨
      ∃ mutation, e.2 = .ok mutation ∧
        applyRoomCommand code e.1.expectedRevision e.1.command e.1.now db = (.ok mutation, db') := by
  cases h with
  | @ran call =>
    cases hr : RoomCall.body code call db with
    | mk result after =>
      cases result with
      | error error => exact .inl ⟨error, rfl, transaction_error hr⟩
      | ok mutation => exact .inr ⟨mutation, rfl, hr⟩
  | refused hrefused => exact .inl ⟨_, hrefused, rfl⟩

/-- What a call leaves is determined by what it returned. -/
theorem serial_unique {e : Returned} {db₁ db₂ : Database} (h₁ : RoomSerial code db e db₁)
    (h₂ : RoomSerial code db e db₂) : db₁ = db₂ := by
  rcases serial_cases h₁ with ⟨error, he, rfl⟩ | ⟨mutation, he, hcall⟩
  · rcases serial_cases h₂ with ⟨_, -, rfl⟩ | ⟨mutation, he', -⟩
    · rfl
    · rw [he] at he'
      cases he'
  · rcases serial_cases h₂ with ⟨error, he', -⟩ | ⟨mutation', -, hcall'⟩
    · rw [he] at he'
      cases he'
    · rw [hcall] at hcall'
      exact congrArg Prod.snd hcall'

theorem serial_respects {e : Returned} (h : RoomSerial code db e db') (hs : Sound db) : Respects code db e db' := by
  have hs' := serial_sound h hs
  rcases serial_cases h with ⟨error, he, rfl⟩ | ⟨mutation, he, hcall⟩
  · refine ⟨?_, fun _ => rfl, ?_, fun _ _ => rfl⟩
    · rintro ⟨mutation, hok, -⟩
      rw [he] at hok
      cases hok
    · intro mutation revision hok
      rw [he] at hok
      cases hok
  · have hexpected : ∀ mutation' revision, e.2 = .ok mutation' → e.1.expectedRevision = some revision →
        committedRevision db code = some (revision : Int) := by
      intro mutation' revision _ hrevision
      obtain ⟨loaded, hload, hmatch, -⟩ := applyRoomCommand_ok hcall
      rw [hmatch revision hrevision]
      exact committedRevision_of_load hload
    have hfailed : ∀ error, e.2 = .error error → db' = db := by
      intro error herror
      rw [he] at herror
      cases herror
    rcases applyRoomCommand_mutated hcall with ⟨houtcome, rfl, -⟩ | ⟨houtcome, loaded, hm⟩
    · refine ⟨?_, fun _ => rfl, hexpected, hfailed⟩
      rintro ⟨mutation', hok, hchanged⟩
      rw [he] at hok
      cases hok
      rw [houtcome] at hchanged
      cases hchanged
    · refine ⟨fun _ => ⟨loaded.revision, committedRevision_of_load hm.load, hm.committedRevision hs'⟩, ?_, hexpected,
        hfailed⟩
      intro hunchanged
      exact absurd ⟨mutation, he, houtcome⟩ hunchanged

/-- A call keeps the committed room the fold of the commands, exactly if it takes no id of another room. -/
theorem serial_load_iff {e : Returned} (h : RoomSerial code db e db') (hs : Sound db)
    (hload : loadRoomOn db code = .ok (some room)) :
    loadRoomOn db' code = .ok (some (room.handleAll (changedCommands [e]))) ↔ OwnIds code db e := by
  have hs' := serial_sound h hs
  obtain ⟨call, result⟩ := e
  rcases serial_cases h with ⟨error, he, rfl⟩ | ⟨mutation, he, hcall⟩
  · have he : result = .error error := he
    subst he
    refine ⟨?_, fun _ => hload⟩
    rintro - ⟨mutation, hok, -⟩
    cases hok
  · have he : result = .ok mutation := he
    subst he
    rcases applyRoomCommand_mutated hcall with ⟨houtcome, rfl, -⟩ | ⟨houtcome, loaded, hm⟩
    · have hnone : changedCommands [(call, .ok mutation)] = [] := by
        unfold changedCommands
        rw [houtcome]
        rfl
      rw [hnone]
      refine ⟨?_, fun _ => hload⟩
      rintro - ⟨mutation', hok, hchanged⟩
      cases hok
      rw [houtcome] at hchanged
      cases hchanged
    · have hone : changedCommands [(call, .ok mutation)] = [call.command] := by
        unfold changedCommands
        rw [houtcome]
        rfl
      have hloaded : loaded = room := by
        have hsame := hm.load.symm.trans hload
        exact Option.some.inj (Except.ok.inj hsame)
      subst hloaded
      have hroom : loaded.handleAll [call.command] = mutation.room := by
        have hhandle := hm.handle
        exact congrArg Prod.snd hhandle
      rw [hone, hroom, hm.load_iff hs hs']
      exact ⟨fun hforeign _ => hforeign, fun hown => hown ⟨mutation, rfl, houtcome⟩⟩

/-! ## Histories -/

theorem changedCommands_append (es fs : List Returned) :
    changedCommands (es ++ fs) = changedCommands es ++ changedCommands fs := by
  induction es with
  | nil => rfl
  | cons e es ih =>
    obtain ⟨call, result⟩ := e
    cases result with
    | error error => exact ih
    | ok mutation =>
      simp only [List.cons_append, changedCommands, ih]
      split <;> rfl

/-- What is promised of the calls that returned, between `db` and `db'`. -/
structure History (code : RoomCode) (room : Room) (db : Database) (es : List Returned) (db' : Database) : Prop where
  /-- The committed room is the fold of the commands, after every call. -/
  fold : ∀ pre post d, es = pre ++ post → Run (RoomSerial code) db pre d → Run (RoomSerial code) d post db' →
    loadRoomOn d code = .ok (some (room.handleAll (changedCommands pre)))
  call : ∀ pre e post d d', es = pre ++ e :: post → Run (RoomSerial code) db pre d → RoomSerial code d e d' →
    Respects code d e d'

theorem run_sound {es : List Returned} (h : Run (RoomSerial code) db es db') (hs : Sound db) : Sound db' :=
  h.invariant (fun _ _ _ hs hstep => serial_sound hstep hs) hs

/-- Calls that take no id of another room keep the committed room the fold of the commands. -/
theorem fold_of_ownIds {es : List Returned} (h : Run (guarded (RoomSerial code) (OwnIds code)) db es db') (hs : Sound db)
    (hload : loadRoomOn db code = .ok (some room)) :
    loadRoomOn db' code = .ok (some (room.handleAll (changedCommands es))) := by
  induction h generalizing room with
  | nil => exact hload
  | @cons d d₁ d' e es hstep _ ih =>
    obtain ⟨hserial, hown⟩ := hstep
    have hfirst := (serial_load_iff hserial hs hload).mpr hown
    have hrest := ih (serial_sound hserial hs) hfirst
    rw [← Room.handleAll_append, ← changedCommands_append] at hrest
    exact hrest

/-- **Optimistic concurrency.** Whatever the order of the steps, the calls that returned are one serial history, and the
history is the promised one exactly if no call that changed the room took the request id of another room. -/
theorem room_history_iff {ι : Type} [DecidableEq ι] {s t : Exclusive.State Database ι RoomCall}
    {events : List (Exclusive.Event ι RoomCall (Except StorageError RoomMutation))}
    (hrun : Run (RoomStep code) s events t) (hidle : s.running = none) (hreach : Reachable s.committed)
    (hload : loadRoomOn s.committed code = .ok (some room)) :
    Run (RoomSerial code) s.committed (Exclusive.returned events) t.committed ∧
      (History code room s.committed (Exclusive.returned events) t.committed ↔
        Run (guarded (RoomSerial code) (OwnIds code)) s.committed (Exclusive.returned events) t.committed) := by
  have hfresh : Exclusive.Fresh s := fun i c seen h => by
    rw [hidle] at h
    cases h
  have hserial := Exclusive.serial hrun hfresh
  refine ⟨hserial, fun hhistory => ?_, fun hguarded => ⟨?_, ?_⟩⟩
  · refine hserial.to_guarded fun pre e post d d' he hpre hstep hpost => ?_
    have hs := run_sound hpre hreach.sound
    have hbefore := hhistory.fold pre (e :: post) d he hpre (.cons hstep hpost)
    have hafter := hhistory.fold (pre ++ [e]) post d' (by rw [he, List.append_assoc]; rfl) (hpre.snoc hstep) hpost
    rw [changedCommands_append, Room.handleAll_append] at hafter
    exact (serial_load_iff hstep hs hbefore).mp hafter
  · intro pre post d he hpre _
    rw [he] at hguarded
    obtain ⟨u, hu, -⟩ := hguarded.split
    have hunique : ∀ d e d₁ d₂, RoomSerial code d e d₁ → RoomSerial code d e d₂ → d₁ = d₂ :=
      fun _ _ _ _ h₁ h₂ => serial_unique h₁ h₂
    rw [hpre.unique hunique hu.of_guarded]
    exact fold_of_ownIds hu hreach.sound hload
  · intro pre e post d d' _ hpre hstep
    exact serial_respects hstep (run_sound hpre hreach.sound)

/-! ## One caller beside another room -/

/-- No call has been made yet. -/
def idle (db : Database) : Exclusive.State Database Nat RoomCall :=
  { committed := db, waiting := fun _ => none, running := none }

/-- One call, from its `BEGIN` to its end. -/
theorem run_alone (code : RoomCode) (db : Database) (call : RoomCall) :
    ∃ t, Run (RoomStep code) (idle db) [.invoke 0 call, .begin 0, .finish 0 call (call.body code db).1] t ∧
      t.committed = (call.body code db).2 := by
  have hwaiting : Function.update (idle db).waiting 0 (some call) 0 = some call := Function.update_self _ _ _
  exact ⟨_, .cons (.invoke rfl) (.cons (.begin hwaiting rfl) (.single (.finish rfl))), rfl⟩

/-- A guest of the second room asks with an id of the first. -/
def foreignCall : RoomCall :=
  { expectedRevision := none, command := .requestJoin requestOne guestTwo 20 600, now := 20 }

/-- A guest of the second room asks with an id of its own. -/
def ownCall : RoomCall :=
  { expectedRevision := some 1, command := .requestJoin requestTwo guestTwo 20 600, now := 20 }

/-- The second room, as it is stored. -/
theorem twoRooms_load : ∃ room, loadRoomOn twoRooms codeTwo = .ok (some room) := by
  have hload : (loadRoomOn twoRooms codeTwo).toOption.map Option.isSome = some true := by decide +kernel
  cases h : loadRoomOn twoRooms codeTwo with
  | error e => rw [h] at hload; cases hload
  | ok found =>
    cases found with
    | none => rw [h] at hload; cases hload
    | some room => exact ⟨room, rfl⟩

/-- The committed room is not the fold of the one command that changed it. -/
theorem room_history_breaks : ∃ (room : Room) (t : Exclusive.State Database Nat RoomCall)
    (events : List (Exclusive.Event Nat RoomCall (Except StorageError RoomMutation))),
    Reachable twoRooms ∧ loadRoomOn twoRooms codeTwo = .ok (some room) ∧
      Run (RoomStep codeTwo) (idle twoRooms) events t ∧
      ¬ History codeTwo room twoRooms (Exclusive.returned events) t.committed := by
  obtain ⟨room, hload⟩ := twoRooms_load
  obtain ⟨t, hrun, hcommitted⟩ := run_alone codeTwo twoRooms foreignCall
  refine ⟨room, t, _, twoRooms_reachable, hload, hrun, fun hhistory => ?_⟩
  have hserial := Exclusive.serial hrun fun i c seen h => by cases h
  have hfold := hhistory.fold _ [] t.committed (List.append_nil _).symm hserial (.nil _)
  have hone : changedCommands [(foreignCall, (foreignCall.body codeTwo twoRooms).1)] = [foreignCall.command] := by
    decide +kernel
  have hasked : (loadRoomOn twoRooms codeTwo).toOption.map (fun r => r.map fun room =>
      (room.handleAll [foreignCall.command]).joinRequestState requestOne) = some (some (some .pending)) := by
    decide +kernel
  have hstored : (loadRoomOn (foreignCall.body codeTwo twoRooms).2 codeTwo).toOption.map (fun r =>
      r.map fun room => room.joinRequestState requestOne) = some (some none) := by decide +kernel
  have hreturned : loadRoomOn (foreignCall.body codeTwo twoRooms).2 codeTwo =
      .ok (some (room.handleAll [foreignCall.command])) := by
    rw [← hcommitted, ← hone]
    exact hfold
  rw [hload] at hasked
  rw [hreturned] at hstored
  have hpending : (room.handleAll [foreignCall.command]).joinRequestState requestOne = some .pending :=
    Option.some.inj (Option.some.inj hasked)
  have hnone : (room.handleAll [foreignCall.command]).joinRequestState requestOne = none :=
    Option.some.inj (Option.some.inj hstored)
  rw [hnone] at hpending
  cases hpending

/-- A request with an id of its own is the next version of the room. -/
theorem room_history_fresh : ∃ (room : Room) (t : Exclusive.State Database Nat RoomCall)
    (events : List (Exclusive.Event Nat RoomCall (Except StorageError RoomMutation))),
    loadRoomOn twoRooms codeTwo = .ok (some room) ∧ Run (RoomStep codeTwo) (idle twoRooms) events t ∧
      History codeTwo room twoRooms (Exclusive.returned events) t.committed := by
  obtain ⟨room, hload⟩ := twoRooms_load
  obtain ⟨t, hrun, -⟩ := run_alone codeTwo twoRooms ownCall
  refine ⟨room, t, _, hload, hrun, ?_⟩
  have hserial := Exclusive.serial hrun fun i c seen h => by cases h
  refine (room_history_iff hrun rfl twoRooms_reachable hload).2.mpr ?_
  refine hserial.to_guarded fun pre e post d d' he hpre _ _ _ => ?_
  have hsingle : [(ownCall, (ownCall.body codeTwo twoRooms).1)] = pre ++ e :: post := he
  cases pre with
  | cons a pre =>
    have hlength := congrArg List.length hsingle
    simp only [List.length_cons, List.length_nil, List.length_append] at hlength
    omega
  | nil =>
    cases hpre
    cases hsingle
    rintro q s at' expiresAt row hcommand ⟨hrow, -⟩
    cases hcommand
    have hnone : twoRooms.joinRequests["request_2"]? = none := by decide +kernel
    exact absurd (hnone.symm.trans hrow) (by simp)

end P2PTransmission
