import P2PTransmission.Domain.Outsiders
import P2PTransmission.Realtime.Sane

/-!
# What a step does to the stored rooms

A step of the server leaves the stored rooms alone, stores a new one, or commits one command on one of them (`Stores`).
Every invariant of rooms holds of the stored rooms of every reachable world.
-/

set_option autoImplicit false

namespace P2PTransmission

open Storage (RoomMutation)

/-- The step committed this command on this stored room. -/
structure Commits (before after : Server) (room : Room) (command : RoomCommand) (next : Room) : Prop where
  stored : before.rooms[room.code]? = some room
  handled : room.handle command = (.ok .CHANGED, next)
  rooms : after.rooms = before.rooms.insert room.code next
  produced : after.produced = { roomId := next.id, revision := next.revision, command } :: before.produced

inductive Stores (before after : Server) : Prop
  | same : after.rooms = before.rooms → after.produced = before.produced → Stores before after
  | created {id : RoomId} {code : RoomCode} {owner : SessionId} {now expiresAt : Nat} {room : Room}
      {outcome : RoomCommandOutcome} : before.rooms[code]? = none →
      (∀ (other : RoomCode) (stored : Room), before.rooms[other]? = some stored → stored.id ≠ id) →
      Room.create id code owner now expiresAt = .ok (room, outcome) → after.rooms = before.rooms.insert code room →
      after.produced = before.produced → Stores before after
  | committed {room next : Room} {command : RoomCommand} : Commits before after room command next → Stores before after

/-- A stored room stays stored, as it is or with the effect of one command. -/
theorem Stores.next {before after : Server} (h : Stores before after) {code : RoomCode} {room : Room}
    (hroom : before.rooms[code]? = some room) : ∃ next, after.rooms[code]? = some next ∧
      (next = room ∨ ∃ command effected, Room.Effect room command effected ∧
        next = { effected with revision := room.revision + 1 }) := by
  cases h with
  | same hrooms => exact ⟨room, hrooms ▸ hroom, .inl rfl⟩
  | @created _ fresh _ _ _ _ _ hfresh _ _ hrooms =>
    refine ⟨room, ?_, .inl rfl⟩
    rw [hrooms, BTreeMap.getElem?_insert, if_neg]
    · exact hroom
    · rintro rfl
      rw [hfresh] at hroom
      cases hroom
  | @committed changed next command hcommits =>
    rw [hcommits.rooms]
    by_cases hcode : changed.code = code
    · subst hcode
      rw [hcommits.stored] at hroom
      cases hroom
      obtain ⟨effected, heffect, hnext⟩ := Room.handle_changed hcommits.handled
      exact ⟨next, by rw [BTreeMap.getElem?_insert, if_pos rfl], .inr ⟨command, effected, heffect, hnext⟩⟩
    · exact ⟨room, by rw [BTreeMap.getElem?_insert, if_neg hcode, hroom], .inl rfl⟩

namespace Server

variable {server server' : Server} {choice : Choice} {out : List Attachment} {n : Nat}

theorem Applies.stores (hok : RoomsOk server.rooms) {code : RoomCode} {command : RoomCommand} {mutation : RoomMutation}
    (h : Applies server code command mutation server') : Stores server server' := by
  cases h with
  | unchanged => exact .same rfl rfl
  | @changed room next hroom hhandle =>
    have hcode := hok.code code room hroom
    subst hcode
    exact .committed ⟨hroom, hhandle, rfl, rfl⟩

theorem Broadcasts.stores {event : Broadcast} {order : List ConnectionId}
    (h : Broadcasts server event order out server') : Stores server server' := by
  obtain ⟨-, -, rfl⟩ := h
  exact .same rfl rfl

theorem Disconnects.stores {roomId : RoomId} {order : List ConnectionId} {notices : List Outbound}
    (h : Disconnects server roomId order notices out server') : Stores server server' := by
  obtain ⟨-, -, rfl⟩ := h
  exact .same rfl rfl

end Server

/-! ## Rooms move on -/

namespace Server

/-- Every stored room stays stored, at the same or a later revision, and what it has settled stays settled. -/
def MovesOn (before after : Server) : Prop :=
  ∀ (code : RoomCode) (room : Room), before.rooms[code]? = some room →
    ∃ next, after.rooms[code]? = some next ∧ next.id = room.id ∧ room.revision ≤ next.revision ∧ room.Settled next

variable {before after last : Server}

theorem MovesOn.refl (server : Server) : MovesOn server server :=
  fun _ room hroom => ⟨room, hroom, rfl, Nat.le_refl _, .refl room⟩

theorem MovesOn.trans (h : MovesOn before after) (h' : MovesOn after last) : MovesOn before last := by
  intro code room hroom
  obtain ⟨next, hnext, hid, hle, hsettled⟩ := h code room hroom
  obtain ⟨third, hthird, hid', hle', hsettled'⟩ := h' code next hnext
  exact ⟨third, hthird, hid'.trans hid, hle.trans hle', hsettled.trans hsettled'⟩

end Server

theorem Stores.movesOn {before after : Server} (h : Stores before after) : before.MovesOn after := by
  intro code room hroom
  obtain ⟨next, hnext, rfl | ⟨command, effected, heffect, rfl⟩⟩ := h.next hroom
  · exact ⟨_, hnext, rfl, Nat.le_refl _, .refl _⟩
  · have hsettled := heffect.settled
    exact ⟨_, hnext, heffect.same.id, Nat.le_succ _, hsettled.request, hsettled.expired⟩

/-! ## Steps -/

open Server

variable {server server' : Server} {choice : Choice} {out : List Attachment} {n : Nat}

theorem Cleanup.Acts.stores (hok : RoomsOk server.rooms) {cleanup cleanup' : Cleanup}
    (h : Cleanup.Acts cleanup choice server server' cleanup') : Stores server server' := by
  cases h with
  | announced _ hbroadcast => exact hbroadcast.stores
  | seen | failed | unchanged => exact .same rfl rfl
  | detached _ _ hroom hhandle => exact (Applies.changed hroom hhandle).stores hok

theorem Socket.Acts.stores (hok : RoomsOk server.rooms) {socket socket' : Socket}
    (h : Socket.Acts n choice server socket server' out socket') : Stores server server' := by
  cases h with
  | committed _ happlies => exact happlies.stores hok
  | announced _ hbroadcast => exact hbroadcast.stores
  | refused | read | attached | watched | sent | notSent | detached | signalled | replied | unregistered =>
    exact .same rfl rfl

theorem Request.Acts.stores (hok : RoomsOk server.rooms) {request request' : Request}
    (h : Request.Acts choice server request server' out request') : Stores server server' := by
  cases h with
  | joinUnread _ happlies => exact happlies.stores hok
  | joined _ happlies => exact happlies.stores hok
  | decided _ happlies => exact happlies.stores hok
  | left _ happlies => exact happlies.stores hok
  | announced _ hbroadcast => exact hbroadcast.stores
  | leaveAnnounced _ hbroadcast => exact hbroadcast.stores
  | roomDisconnected _ _ hdisconnect => exact hdisconnect.stores
  | answered | joining | sessionDisconnected => exact .same rfl rfl

theorem Maintenance.Acts.stores (hok : RoomsOk server.rooms) {maintenance maintenance' : Maintenance}
    (h : Maintenance.Acts choice server maintenance server' out maintenance') : Stores server server' := by
  cases h with
  | roomExpired happlies => exact happlies.stores hok
  | requestExpired happlies => exact happlies.stores hok
  | roomAnnounced hbroadcast => exact hbroadcast.stores
  | snapshotAnnounced hbroadcast => exact hbroadcast.stores
  | roomDisconnected hdisconnect => exact hdisconnect.stores
  | passed | snapshotRead | sessionsFailed | sessionsExpired => exact .same rfl rfl

theorem Task.Acts.stores (hok : RoomsOk server.rooms) {task task' : Task}
    (h : Task.Acts n choice server task server' task') : Stores server server' := by
  cases h with
  | cleanup _ hacts => exact hacts.stores hok
  | socket _ hacts => exact hacts.stores hok
  | request _ hacts => exact hacts.stores hok
  | maintenance _ hacts => exact hacts.stores hok

namespace World

variable {world world' : World} {label : Label}

/-- **What a step does to the stored rooms.** -/
theorem Step.stores (hsane : world.Sane) (h : Step world label world') : Stores world.server world'.server := by
  cases step_acts h with
  | createRoom hcode hid hcreate => exact .created hcode hid hcreate rfl rfl
  | ran _ hacts => exact hacts.stores hsane.server.rooms
  | createSession | connect | request | maintain | woken | written | restarted => exact .same rfl rfl

theorem run_movesOn {labels : List Label} (h : Run Step world labels world') (hsane : world.Sane) :
    world.server.MovesOn world'.server := by
  refine h.relates (I := Sane) (R := fun w w' => w.server.MovesOn w'.server) (fun w => .refl _) (fun h h' => h.trans h')
    (fun w label w' hsane hstep => ?_) hsane
  exact ⟨hsane.step hstep, (hstep.stores hsane).movesOn⟩

/-! ## Invariants of rooms -/

/-- All stored rooms have a property. -/
def Stored (I : Room → Prop) (rooms : BTreeMap RoomCode Room) : Prop :=
  ∀ (code : RoomCode) (room : Room), rooms[code]? = some room → I room

theorem Stored.insert {I : Room → Prop} {rooms : BTreeMap RoomCode Room} (h : Stored I rooms) {code : RoomCode}
    {room : Room} (hroom : I room) : Stored I (rooms.insert code room) := by
  intro c r hr
  rw [BTreeMap.getElem?_insert] at hr
  split at hr
  · cases hr
    exact hroom
  · exact h c r hr

/-- A property of new rooms that the committed command keeps. -/
theorem Stored.step {I : Room → Prop} {before after : Server} (h : Stored I before.rooms)
    (hstores : Stores before after)
    (hcreate : ∀ {id code owner now expiresAt room outcome},
      Room.create id code owner now expiresAt = .ok (room, outcome) → I room)
    (hcommit : ∀ {room command next}, Commits before after room command next → I room → I next) :
    Stored I after.rooms := by
  cases hstores with
  | same hrooms => exact hrooms ▸ h
  | created _ _ hroom hrooms => exact hrooms ▸ h.insert (hcreate hroom)
  | committed hcommits => exact hcommits.rooms ▸ h.insert (hcommit hcommits (h _ _ hcommits.stored))

/-- The rooms of every world that the labels pass through have standing. -/
theorem visited_sane {queueCapacity joinRequestTtl : Nat} {labels : List Label}
    (h : Visited Step (World.initial queueCapacity joinRequestTtl) labels world) : world.Sane := by
  obtain ⟨pre, hrun⟩ := h.run
  exact Reachable.sane ⟨queueCapacity, joinRequestTtl, pre, hrun⟩

theorem empty_stored (I : Room → Prop) (queueCapacity joinRequestTtl : Nat) :
    Stored I (World.initial queueCapacity joinRequestTtl).server.rooms :=
  fun _ _ h => absurd (h.symm.trans Std.ExtTreeMap.getElem?_empty) nofun

theorem visited_standing {queueCapacity joinRequestTtl : Nat} {labels : List Label}
    (h : Visited Step (World.initial queueCapacity joinRequestTtl) labels world) :
    Stored Room.Standing world.server.rooms := by
  refine Visited.invariant (I := fun world => Stored Room.Standing world.server.rooms) ?_ (empty_stored _ _ _) h
  intro w label w' htaken hstored
  refine hstored.step (htaken.holds.stores (visited_sane htaken.before)) Room.create_standing ?_
  intro room command next hcommits hroom
  have := hroom.handle command
  rwa [hcommits.handled] at this

/-! ## A room to start from -/

def ownerSession : Session := { id := Room.ownerOne, displayName := ⟨"Owner", by decide⟩, expiresAt := 1000, state := .active }

def guestSession : Session :=
  { id := .of "session_guest", displayName := ⟨"Guest", by decide⟩, expiresAt := 1000, state := .active }

def roomId : RoomId := .of "room_start"

def roomCode : RoomCode := .of "ROM234"

/-- The sessions of an owner and a guest, and a room of the owner. -/
def opening : List Label :=
  [.createSession ownerSession, .createSession guestSession,
    .createRoom roomId roomCode ownerSession.id 0 1000]

/-- The next call of a task, at the time `10`. -/
def go (n : Nat) (order : List ConnectionId) : Label := .run n { now := some 10, fault := false, order }

/-- The guest asks to join and the request is announced to the connections in `order`. -/
def guestAsks (order : List ConnectionId) : List Label :=
  [.request 1 guestSession.id 0 (.requestJoin roomCode Room.requestOne none), go 1 [], go 1 [], go 1 order]

end World

end P2PTransmission
